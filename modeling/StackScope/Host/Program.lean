import StackScope.Config
import StackScope.DebugFunction
import StackScope.Fault
import StackScope.Level

/-!
Host programs: what a host function does while it runs. A program is a tree. At each node it asks
the machine for one operation and goes on with the reply; at a leaf it ends with results or with an
error. Programs see the machine through operations only.

A program does not learn the identity of the cells it obtains. It refers to them by the order in
which it obtained them, starting from zero.

An address that exceeds a word stops the machine. What a program goes on to do with that reply is
seen by nobody.
-/

namespace StackScope

inductive Operation where
  | call (function : FunctionId) (arguments : List Value)
  | tailCall (function : FunctionId) (arguments : List Value)
  | callHost (function : FunctionId) (arguments : List Value)
  | returnFromCall
  | unwind
  | setPosition (position : Nat)
  | readRegister (register : Nat)
  | writeRegister (register : Nat) (value : Value)
  /-- Obtains the cell of a register. -/
  | capture (register : Nat)
  | readCell (handle : Nat)
  | writeCell (handle : Nat) (value : Value)
  | sameCell (left right : Nat)
  /-- Makes a closure whose upvalues are cells obtained before. -/
  | makeClosure (prototype : Prototype) (handles : List Nat)
  | getLocal (level : Level) (ordinal : Nat)
  | setLocal (level : Level) (ordinal : Nat) (value : Value)
  | getUpvalue (function : FunctionId) (ordinal : Nat)
  | setUpvalue (function : FunctionId) (ordinal : Nat) (value : Value)
  | depth
  | levelCount
  | lookupLevel (number : Nat)
  | traceback (start : Nat) (message : String)
  | setConfig (config : Config)

def Operation.Reply : Operation → Type
  | call _ _ | tailCall _ _ | returnFromCall | setPosition _ | writeRegister _ _ =>
      Except Fault Unit
  | callHost _ _ => Except Fault (List Value)
  | unwind | writeCell _ _ | setConfig _ => Unit
  | readRegister _ => Except Fault (Option Value)
  | readCell _ => Option Value
  | capture _ => Except Fault Nat
  | sameCell _ _ => Bool
  | makeClosure _ _ => FunctionId
  | getLocal _ _ | getUpvalue _ _ => Option NamedValue
  | setLocal _ _ _ | setUpvalue _ _ _ => Option (Option String)
  | depth | levelCount => Nat
  | lookupLevel _ => Option Level
  | traceback _ _ => String

inductive HostProgram where
  | finish (result : Except Fault (List Value))
  | perform (operation : Operation) (next : operation.Reply → HostProgram)

instance : Inhabited HostProgram := ⟨.finish (.ok [])⟩

/-- What a host function runs: a function of the debug library, or a program chosen by the
arguments. -/
inductive HostBody where
  | debug (function : DebugFunction)
  | program (start : List Value → HostProgram)

instance : Inhabited HostBody := ⟨.program fun _ => default⟩

structure HostFunction where
  name : String
  /-- Introspective functions do not count as levels. -/
  introspective : Bool := false
  body : HostBody
deriving Inhabited

inductive Code where
  | script (prototype : Prototype)
  | host (function : HostFunction)
deriving Inhabited

namespace Code

def isHost : Code → Bool
  | script _ => false
  | host _ => true

def isIntrospective : Code → Bool
  | script _ => false
  | host function => function.introspective

def prototype? : Code → Option Prototype
  | script prototype => some prototype
  | host _ => none

def hostName? : Code → Option String
  | script _ => none
  | host function => some function.name

/-- The debug name of an upvalue, counted from zero. Upvalues of host functions have none. -/
def upvalueName? : Code → Nat → Option String
  | script prototype, index => prototype.upvalueName? index
  | host _, _ => none

theorem isHost_eq_false {code : Code} :
    code.isHost = false ↔ ∃ prototype, code = script prototype := by
  cases code <;> simp [isHost]

end Code

end StackScope
