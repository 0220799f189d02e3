/-!
Levels of the call chain, counted from zero at the innermost one. A level is either a frame that
still exists or the trace of one that a tail call replaced.
-/

namespace StackScope

inductive LevelSlot where
  /-- A frame, by its position counted from the outermost one. -/
  | active (index : Nat)
  | tailCall
deriving DecidableEq, Inhabited

/-- A level as found at some moment. It keeps its meaning until frames are pushed or popped. -/
structure Level where
  number : Nat
  slot : LevelSlot
deriving DecidableEq, Inhabited

namespace Level

def index? (level : Level) : Option Nat :=
  match level.slot with
  | .active index => some index
  | .tailCall => none

def isTailCall (level : Level) : Bool := level.slot == .tailCall

end Level

end StackScope
