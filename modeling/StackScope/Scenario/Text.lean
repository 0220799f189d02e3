import StackScope.Prototype.Form
import StackScope.Ron.Reader
import StackScope.Scenario

/-!
Scenarios as RON texts. Counts and positions are words of fixed sizes, and a number that does not
fit is refused. Fields that may be missing have the same defaults as in the types themselves.
-/

namespace StackScope

namespace Ron

def word8 : Reader Nat := ofToken (natural 0xff)

def word16 : Reader Nat := ofToken (natural 0xffff)

def word32 : Reader Nat := ofToken (natural 0xffffffff)

def word64 : Reader Nat := ofToken (natural 0xffffffffffffffff)

end Ron

open Ron

def Constant.reader : Reader Constant :=
  variant fun
    | "Nil" => some (bare .nil)
    | "Boolean" => some (payload .boolean (ofToken Ron.boolean))
    | "Number" => some (payload .number (ofToken float))
    | "String" => some (payload .text (ofToken Ron.text))
    | _ => none

def OperandWidth.reader : OperandWidth → Reader Int
  | narrow => Ron.map Int.ofNat word16
  | wide => Ron.map Int.ofNat word32
  | offset => ofToken (integer 32)

abbrev Operands := List (String × Int)

def operandFields (operands : List Operand) : Fields Operands := fun name =>
  (operands.find? fun operand => operand.name == name).map fun operand =>
    field (fun read : Operands => read.lookup name) (fun read value => (name, value) :: read)
      operand.width.reader

def Instruction.reader : Reader Instruction :=
  variant fun name =>
    (Instruction.operandsOf? name).map fun operands =>
      shaped (operandFields operands) [] fun read =>
        Instruction.ofNamed? name fun operand => read.lookup operand

/-! ### Prototypes -/

structure LocalScope.Draft where
  name : Option (Option String) := none
  first : Option Nat := none
  last : Option Nat := none

def LocalScope.Draft.finish (draft : LocalScope.Draft) : Option LocalScope := do
  return ⟨draft.name.join, ← draft.first, ← draft.last⟩

def nameReader : Reader (Option String) := optional (ofToken Ron.text)

def LocalScope.reader : Reader LocalScope :=
  complete LocalScope.Draft.finish <| Ron.record "LocalVar"
    (fun
      | "name" => some <|
          field LocalScope.Draft.name (fun draft value => { draft with name := some value })
            nameReader
      | "start_pc" => some <|
          field LocalScope.Draft.first (fun draft value => { draft with first := some value })
            word64
      | "end_pc" => some <|
          field LocalScope.Draft.last (fun draft value => { draft with last := some value }) word64
      | _ => none)
    {}

structure Prototype.Draft where
  source : Option String := none
  lineDefined : Option Nat := none
  lastLineDefined : Option Nat := none
  parameterCount : Option Nat := none
  isVariadic : Option Bool := none
  stackSize : Option Nat := none
  instructions : Option (List Instruction) := none
  constants : Option (List Constant) := none
  lines : Option (List Nat) := none
  locals : Option (List LocalScope) := none
  upvalueNames : Option (List (Option String)) := none
  children : Option (List Prototype) := none

/-- Only the source has to be there. -/
def Prototype.Draft.finish (draft : Prototype.Draft) : Option Prototype := do
  let source ← draft.source
  return {
    source
    lineDefined := draft.lineDefined.getD 0
    lastLineDefined := draft.lastLineDefined.getD 0
    parameterCount := draft.parameterCount.getD 0
    isVariadic := draft.isVariadic.getD false
    stackSize := draft.stackSize.getD 0
    instructions := draft.instructions.getD []
    constants := draft.constants.getD []
    lines := draft.lines.getD []
    locals := draft.locals.getD []
    upvalueNames := draft.upvalueNames.getD []
    children := draft.children.getD [] }

namespace Prototype

def fields (child : Reader Prototype) : Fields Draft
  | "source" => some <|
      field Draft.source (fun draft value => { draft with source := some value })
        (ofToken Ron.text)
  | "line_defined" => some <|
      field Draft.lineDefined (fun draft value => { draft with lineDefined := some value }) word32
  | "last_line_defined" => some <|
      field Draft.lastLineDefined
        (fun draft value => { draft with lastLineDefined := some value }) word32
  | "num_params" => some <|
      field Draft.parameterCount (fun draft value => { draft with parameterCount := some value })
        word8
  | "is_vararg" => some <|
      field Draft.isVariadic (fun draft value => { draft with isVariadic := some value })
        (ofToken Ron.boolean)
  | "max_stack_size" => some <|
      field Draft.stackSize (fun draft value => { draft with stackSize := some value }) word16
  | "instructions" => some <|
      field Draft.instructions (fun draft value => { draft with instructions := some value })
        (Ron.list Instruction.reader)
  | "constants" => some <|
      field Draft.constants (fun draft value => { draft with constants := some value })
        (Ron.list Constant.reader)
  | "line_info" => some <|
      field Draft.lines (fun draft value => { draft with lines := some value }) (Ron.list word32)
  | "local_vars" => some <|
      field Draft.locals (fun draft value => { draft with locals := some value })
        (Ron.list LocalScope.reader)
  | "upvalue_names" => some <|
      field Draft.upvalueNames (fun draft value => { draft with upvalueNames := some value })
        (Ron.list nameReader)
  | "protos" => some <|
      field Draft.children (fun draft value => { draft with children := some value })
        (Ron.list child)
  | _ => none

def readerWithin : (depth : Nat) → Reader Prototype
  | 0 => fun _ _ => none
  | depth + 1 => complete Draft.finish (Ron.record "Proto" (fields (readerWithin depth)) {})

/-- Children are read deeper than their parents, so the allowed depth is enough. -/
def reader : Reader Prototype := fun settings characters =>
  readerWithin (settings.depth + 1) settings characters

end Prototype

/-! ### Scenarios -/

structure FunctionDefinition.Draft where
  name : Option String := none
  prototype : Option Prototype := none
  upvalues : Option (List Constant) := none
  sharesUpvaluesWith : Option (Option String) := none

def FunctionDefinition.Draft.finish (draft : FunctionDefinition.Draft) :
    Option FunctionDefinition := do
  return {
    name := ← draft.name
    prototype := ← draft.prototype
    upvalues := draft.upvalues.getD []
    sharesUpvaluesWith := draft.sharesUpvaluesWith.join }

def FunctionDefinition.reader : Reader FunctionDefinition :=
  complete FunctionDefinition.Draft.finish <| Ron.record "FunctionDef"
    (fun
      | "name" => some <|
          field FunctionDefinition.Draft.name
            (fun draft value => { draft with name := some value }) (ofToken Ron.text)
      | "proto" => some <|
          field FunctionDefinition.Draft.prototype
            (fun draft value => { draft with prototype := some value }) Prototype.reader
      | "upvalues" => some <|
          field FunctionDefinition.Draft.upvalues
            (fun draft value => { draft with upvalues := some value }) (Ron.list Constant.reader)
      | "shares_upvalues_with" => some <|
          field FunctionDefinition.Draft.sharesUpvaluesWith
            (fun draft value => { draft with sharesUpvaluesWith := some value }) nameReader
      | _ => none)
    {}

structure CallStep.Draft where
  function : Option String := none
  position : Option Nat := none
  registers : Option (List Constant) := none
  tail : Option Bool := none

def CallStep.Draft.finishScript (draft : CallStep.Draft) : Option CallStep := do
  return .script (← draft.function) (← draft.position) (draft.registers.getD [])
    (draft.tail.getD false)

def CallStep.scriptFields : Fields CallStep.Draft
  | "function" => some <|
      field CallStep.Draft.function (fun draft value => { draft with function := some value })
        (ofToken Ron.text)
  | "pc" => some <|
      field CallStep.Draft.position (fun draft value => { draft with position := some value })
        word64
  | "registers" => some <|
      field CallStep.Draft.registers (fun draft value => { draft with registers := some value })
        (Ron.list Constant.reader)
  | "tail" => some <|
      field CallStep.Draft.tail (fun draft value => { draft with tail := some value })
        (ofToken Ron.boolean)
  | _ => none

def CallStep.hostFields : Fields (Option String)
  | "name" => some (field id (fun _ value => some value) (ofToken Ron.text))
  | _ => none

def CallStep.reader : Reader CallStep :=
  variant fun
    | "Lua" => some (shaped CallStep.scriptFields {} CallStep.Draft.finishScript)
    | "Native" => some (shaped CallStep.hostFields none fun name => name.map CallStep.host)
    | _ => none

structure Scenario.Draft where
  functions : Option (List FunctionDefinition) := none
  calls : Option (List CallStep) := none

def Scenario.Draft.finish (draft : Scenario.Draft) : Option Scenario := do
  return ⟨← draft.functions, ← draft.calls⟩

namespace Scenario

def reader : Reader Scenario :=
  complete Draft.finish <| Ron.record "Scenario"
    (fun
      | "functions" => some <|
          field Draft.functions (fun draft value => { draft with functions := some value })
            (Ron.list FunctionDefinition.reader)
      | "calls" => some <|
          field Draft.calls (fun draft value => { draft with calls := some value })
            (Ron.list CallStep.reader)
      | _ => none)
    {}

def parse (text : String) : Except ScenarioFault Scenario :=
  match document reader text with
  | some scenario => .ok scenario
  | none => .error .malformed

end Scenario

end StackScope
