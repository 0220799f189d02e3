import StackScope.Number

/-!
Prototypes: the compiled, unchanging part of a script function. A prototype holds its code and its
constants, and what the compiler kept for inspection: the line of each instruction, the scopes of
the local variables and the names of the upvalues. Prototypes of nested functions are its children.

Scopes answer the question which locals are live at an instruction. The search stops at the first
scope that starts later, so it is complete once the scopes are ordered by where they start.
-/

namespace StackScope

inductive Constant where
  | nil
  | boolean (value : Bool)
  | number (value : Number)
  | text (value : String)
deriving DecidableEq, Inhabited

namespace Constant

def text? : Constant → Option String
  | text value => some value
  | _ => none

/-- Constants are the same when they denote the same value, numbers being compared as numbers. -/
def equals : Constant → Constant → Bool
  | nil, nil => true
  | boolean left, boolean right => left == right
  | number left, number right => left.equals right
  | text left, text right => left == right
  | _, _ => false

end Constant

/-- Instructions of the register machine. Registers count from the start of a frame's window;
constants, upvalues and children are given by position. -/
inductive Instruction where
  | move (target source : Nat)
  | loadConstant (target constant : Nat)
  | loadNil (target count : Nat)
  | getGlobal (target name : Nat)
  | setGlobal (source name : Nat)
  | getUpvalue (target upvalue : Nat)
  | setUpvalue (source upvalue : Nat)
  /-- The key is a constant. -/
  | getField (target table key : Nat)
  /-- The key is a register. -/
  | getTable (target table key : Nat)
  | setField (table key source : Nat)
  /-- The method goes to the target and the object to the register after it. -/
  | selfCall (target object method : Nat)
  | closure (target child : Nat)
  /-- Results replace the registers from the called one on. -/
  | call (function arguments results : Nat)
  | tailCall (function arguments : Nat)
  | return (first count : Nat)
  | jump (offset : Int)
deriving DecidableEq, Inhabited

namespace Instruction

def writes (instruction : Instruction) (register : Nat) : Bool :=
  match instruction with
  | move target _ | loadConstant target _ | getGlobal target _ | getUpvalue target _
  | getField target _ _ | getTable target _ _ | closure target _ => target == register
  | loadNil target count => decide (target ≤ register) && decide (register < target + count)
  | selfCall target _ _ => register == target || register == target + 1
  | call function _ _ | tailCall function _ => decide (function ≤ register)
  | setGlobal _ _ | setUpvalue _ _ | setField _ _ _ | «return» _ _ | jump _ => false

end Instruction

/-- The scope of one local variable: it is live from `first` up to, and not including, `last`. The
name is absent when it was not kept. -/
structure LocalScope where
  name : Option String
  first : Nat
  last : Nat
deriving DecidableEq, Inhabited

structure Prototype where
  /-- A file after an at sign, a label after an equals sign, or else the source text itself. -/
  source : String
  /-- Zero for a main chunk. -/
  lineDefined : Nat := 0
  lastLineDefined : Nat := 0
  parameterCount : Nat := 0
  isVariadic : Bool := false
  /-- How many registers the code uses. -/
  stackSize : Nat := 0
  instructions : List Instruction := []
  constants : List Constant := []
  /-- The source line of each instruction. -/
  lines : List Nat := []
  locals : List LocalScope := []
  upvalueNames : List (Option String) := []
  children : List Prototype := []
deriving Inhabited

namespace Prototype

def isMain (prototype : Prototype) : Bool := prototype.lineDefined == 0

def lineAt? (prototype : Prototype) (position : Nat) : Option Nat := prototype.lines[position]?

def constantText? (prototype : Prototype) (index : Nat) : Option String :=
  prototype.constants[index]?.bind Constant.text?

def upvalueName? (prototype : Prototype) (index : Nat) : Option String :=
  prototype.upvalueNames[index]?.join

def windowSize (prototype : Prototype) : Nat :=
  max prototype.stackSize prototype.parameterCount

/-- The scopes that hold a position, up to the first scope that starts after it. -/
def liveLocals (prototype : Prototype) (position : Nat) : List LocalScope :=
  (prototype.locals.takeWhile fun scope => decide (scope.first ≤ position)).filter
    fun scope => decide (position < scope.last)

def localAt? (prototype : Prototype) (ordinal position : Nat) : Option LocalScope :=
  match ordinal with
  | 0 => none
  | index + 1 => (prototype.liveLocals position)[index]?

def activeLocals (prototype : Prototype) (position : Nat) : Nat :=
  (prototype.liveLocals position).length

theorem localAt?_isSome (prototype : Prototype) (ordinal position : Nat) :
    (prototype.localAt? ordinal position).isSome ↔
      1 ≤ ordinal ∧ ordinal ≤ prototype.activeLocals position := by
  cases ordinal with
  | zero => simp [localAt?]
  | succ index =>
      rw [Option.isSome_iff_ne_none, ne_eq, localAt?, activeLocals, List.getElem?_eq_none_iff]
      omega

mutual

def everywhere (change : Prototype → Prototype) : Prototype → Prototype
  | mk source lineDefined lastLineDefined parameterCount isVariadic stackSize instructions
      constants lines locals upvalueNames children =>
    change (mk source lineDefined lastLineDefined parameterCount isVariadic stackSize instructions
      constants lines locals upvalueNames (everywhereIn change children))

def everywhereIn (change : Prototype → Prototype) : List Prototype → List Prototype
  | [] => []
  | child :: rest => everywhere change child :: everywhereIn change rest

end

theorem everywhereIn_eq_map (change : Prototype → Prototype) (children : List Prototype) :
    everywhereIn change children = children.map (everywhere change) := by
  induction children with
  | nil => rfl
  | cons child rest ih => rw [everywhereIn, ih, List.map_cons]

theorem everywhere_eq (change : Prototype → Prototype) (prototype : Prototype) :
    everywhere change prototype =
      change { prototype with children := prototype.children.map (everywhere change) } := by
  cases prototype
  rw [everywhere, everywhereIn_eq_map]

/-- Scopes in the order in which they start; scopes that start together keep their order. -/
def sortLocals (prototype : Prototype) : Prototype :=
  { prototype with
    locals := prototype.locals.mergeSort fun left right => decide (left.first ≤ right.first) }

def dropNames (prototype : Prototype) : Prototype :=
  { prototype with
    locals := prototype.locals.map fun scope => { scope with name := none }
    upvalueNames := prototype.upvalueNames.map fun _ => none }

def normalize (prototype : Prototype) : Prototype := prototype.everywhere sortLocals

def strip (prototype : Prototype) : Prototype := prototype.everywhere dropNames

end Prototype

end StackScope
