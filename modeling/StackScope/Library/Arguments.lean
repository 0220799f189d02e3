import StackScope.Heap.Text

/-!
Checks on the arguments of host functions. Positions count from one. An argument is absent when
fewer were passed; a check that fails names the position but not yet the function.
-/

namespace StackScope

namespace Arguments

def passed? (arguments : List Value) : (position : Nat) → Option Value
  | 0 => none
  | index + 1 => arguments[index]?

def get (arguments : List Value) (position : Nat) : Value :=
  (passed? arguments position).getD .nil

def refuse {α : Type} (position : Nat) (cause : ArgumentFault) : Except Fault α :=
  .error (.argument position none cause)

def refuseCategory {α : Type} (position : Nat) (wanted : Wanted) (got : Option Value) :
    Except Fault α :=
  refuse position (.expected wanted (got.map Value.category))

/-- Any value, nil included, as long as it was passed. -/
def any (arguments : List Value) (position : Nat) : Except Fault Value :=
  match passed? arguments position with
  | some value => .ok value
  | none => refuse position .valueExpected

def integer (arguments : List Value) (position : Nat) : Except Fault Int :=
  match passed? arguments position with
  | some (.number number) =>
      if number.isIntegral then .ok number.toSignedWord else refuse position .notAnInteger
  | other => refuseCategory position .number other

def function (arguments : List Value) (position : Nat) : Except Fault FunctionId :=
  match passed? arguments position with
  | some (.function id) => .ok id
  | other => refuseCategory position .function other

def textOr (default : String) (arguments : List Value) (position : Nat) : Except Fault String :=
  match passed? arguments position with
  | none | some .nil => .ok default
  | some (.text value) => .ok value
  | some (.number number) => .ok number.text
  | other => refuseCategory position .text other

def integerOr (default : Int) (arguments : List Value) (position : Nat) : Except Fault Int :=
  match passed? arguments position with
  | none | some .nil => .ok default
  | some _ => integer arguments position

def tableOrNil (arguments : List Value) (position : Nat) : Except Fault (Option TableId) :=
  match passed? arguments position with
  | none | some .nil => .ok none
  | some (.table id) => .ok (some id)
  | other => refuseCategory position .tableOrNil other

/-- A level or an ordinal given by a script; a negative one never exists. -/
def count? (value : Int) : Option Nat := if 0 ≤ value then some value.toNat else none

end Arguments

end StackScope
