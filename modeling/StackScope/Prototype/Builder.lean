import StackScope.Prototype
import StackScope.Word

/-!
Prototypes assembled step by step. Each step that adds an item answers with the position of the
item. Constants that are already present are not added again. Positions of upvalues are words of
16 bits and positions of constants and children words of 32 bits, so longer lists wrap around.
-/

namespace StackScope

structure PrototypeBuilder where
  source : String
  lineDefined : Nat := 0
  lastLineDefined : Nat := 0
  parameterCount : Nat := 0
  isVariadic : Bool := false
  stackSize : Nat := 0
  instructions : Array Instruction := #[]
  constants : Array Constant := #[]
  lines : Array Nat := #[]
  locals : Array LocalScope := #[]
  upvalueNames : Array (Option String) := #[]
  children : Array Prototype := #[]
deriving Inhabited

namespace PrototypeBuilder

def main (source : String) : PrototypeBuilder := { source }

def function (source : String) (lineDefined lastLineDefined : Nat) : PrototypeBuilder :=
  { source, lineDefined, lastLineDefined }

def withParameters (builder : PrototypeBuilder) (count : Nat) : PrototypeBuilder :=
  { builder with parameterCount := count }

def variadic (builder : PrototypeBuilder) : PrototypeBuilder := { builder with isVariadic := true }

def withStackSize (builder : PrototypeBuilder) (size : Nat) : PrototypeBuilder :=
  { builder with stackSize := size }

def emit (builder : PrototypeBuilder) (instruction : Instruction) (line : Nat) :
    Nat × PrototypeBuilder :=
  (builder.instructions.size,
    { builder with
      instructions := builder.instructions.push instruction
      lines := builder.lines.push line })

def constant (builder : PrototypeBuilder) (value : Constant) : Nat × PrototypeBuilder :=
  match builder.constants.findIdx? fun present => present.equals value with
  | some index => (index % Word.size32, builder)
  | none =>
      (builder.constants.size % Word.size32,
        { builder with constants := builder.constants.push value })

def text (builder : PrototypeBuilder) (value : String) : Nat × PrototypeBuilder :=
  builder.constant (.text value)

def declare (builder : PrototypeBuilder) (name : String) (first last : Nat) :
    PrototypeBuilder :=
  { builder with locals := builder.locals.push ⟨some name, first, last⟩ }

def upvalue (builder : PrototypeBuilder) (name : String) : Nat × PrototypeBuilder :=
  (builder.upvalueNames.size % Word.size16,
    { builder with upvalueNames := builder.upvalueNames.push (some name) })

def child (builder : PrototypeBuilder) (prototype : Prototype) : Nat × PrototypeBuilder :=
  (builder.children.size % Word.size32,
    { builder with children := builder.children.push prototype })

/-- The finished prototype. It has at least two registers and at least one for each declared
local, their number being counted in 16 bits. -/
def build (builder : PrototypeBuilder) : Prototype :=
  Prototype.normalize
    { source := builder.source
      lineDefined := builder.lineDefined
      lastLineDefined := builder.lastLineDefined
      parameterCount := builder.parameterCount
      isVariadic := builder.isVariadic
      stackSize := max (max builder.stackSize (builder.locals.size % Word.size16)) 2
      instructions := builder.instructions.toList
      constants := builder.constants.toList
      lines := builder.lines.toList
      locals := builder.locals.toList
      upvalueNames := builder.upvalueNames.toList
      children := builder.children.toList }

end PrototypeBuilder

end StackScope
