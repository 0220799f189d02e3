import StackScope.Config
import StackScope.Number.Text
import StackScope.Value

/-!
The errors of the machine and of the inspection layer, by cause. Their wording is in the `message`
functions only. What is merely absent, such as a level beyond the last one, is no error.
-/

namespace StackScope

inductive RuntimeFault where
  | tailCallFromHost
  | tailCallWithoutFrame
  | tailCallToHost
  | hostFunctionExpected
  | positionWithoutFrame
  | positionInHost
  | positionOutside (position instructions : Nat)
  | noFrame
  | registerOutside (register : Nat)
  | returnWithoutFrame
  /-- An error that a host function reports in its own words. -/
  | host (text : String)
deriving DecidableEq, Inhabited

def RuntimeFault.message : RuntimeFault → String
  | tailCallFromHost => "tail call from a host frame"
  | tailCallWithoutFrame => "tail call with no active frame"
  | tailCallToHost => "tail call target must be a Lua function"
  | hostFunctionExpected => "call_native expects a host function"
  | positionWithoutFrame => "set_pc with no active frame"
  | positionInHost => "host frames have no program counter"
  | positionOutside position instructions =>
      "pc " ++ decimalText position ++ " outside function of " ++ decimalText instructions ++
        " instructions"
  | noFrame => "no active frame"
  | registerOutside register => "register " ++ decimalText register ++ " outside frame"
  | returnWithoutFrame => "return with no active frame"
  | host text => text

inductive Wanted where
  | number
  | text
  | function
  | functionOrNumber
  | table
  | tableOrNil
deriving DecidableEq, Inhabited

def Wanted.label : Wanted → String
  | number => "number"
  | text => "string"
  | function => "function"
  | functionOrNumber => "function or number"
  | table => "table"
  | tableOrNil => "nil or table"

inductive ArgumentFault where
  | levelOutOfRange
  | valueExpected
  | notAnInteger
  /-- The argument has another category, or was not passed at all. -/
  | expected (wanted : Wanted) (got : Option Category)
  | cannotHoldMetatable (category : Category)
  | cannotHoldEnvironment (category : Category)
  /-- A refusal that a host function gives in its own words. -/
  | host (text : String)
deriving DecidableEq, Inhabited

def ArgumentFault.message : ArgumentFault → String
  | levelOutOfRange => "level out of range"
  | valueExpected => "value expected"
  | notAnInteger => "number has no integer representation"
  | expected wanted got =>
      wanted.label ++ " expected, got " ++ (got.map Category.name).getD "no value"
  | cannotHoldMetatable category => "cannot set a metatable on a " ++ category.name ++ " value"
  | cannotHoldEnvironment category =>
      "cannot set an environment on a " ++ category.name ++ " value"
  | host text => text

inductive TargetFault where
  | notAFunction (category : Category)
  | levelGone (level : Nat)
  /-- A target that a host function refuses in its own words. -/
  | host (text : String)
deriving DecidableEq, Inhabited

def TargetFault.message : TargetFault → String
  | notAFunction category => "function expected, got " ++ category.name
  | levelGone level => "stack level " ++ decimalText level ++ " is no longer active"
  | host text => text

inductive Fault where
  | runtime (cause : RuntimeFault)
  /-- The position counts from one; the function is named once it is known. -/
  | argument (position : Nat) (function : Option String) (cause : ArgumentFault)
  | invalidTarget (cause : TargetFault)
  | invalidOption (option : Char)
  | stackOverflow (limit : Nat)
  | config (cause : ConfigFault)
  /-- No error value: an address that exceeds a word stops the machine. -/
  | addressOverflow
deriving DecidableEq, Inhabited

namespace Fault

def message : Fault → String
  | runtime cause => "runtime error: " ++ cause.message
  | argument position none cause =>
      "bad argument #" ++ decimalText position ++ " (" ++ cause.message ++ ")"
  | argument position (some function) cause =>
      "bad argument #" ++ decimalText position ++ " to '" ++ function ++ "' (" ++
        cause.message ++ ")"
  | invalidTarget cause => "invalid introspection target: " ++ cause.message
  | invalidOption option => "invalid option '" ++ String.ofList [option] ++ "'"
  | stackOverflow limit =>
      "stack overflow (call depth exceeded " ++ decimalText limit ++ ")"
  | config cause => "invalid configuration: " ++ cause.message
  | addressOverflow => "attempt to add with overflow"

def inFunction (name : String) : Fault → Fault
  | argument position none cause => argument position (some name) cause
  | fault => fault

@[simp] theorem inFunction_inFunction (outer inner : String) (fault : Fault) :
    (fault.inFunction inner).inFunction outer = fault.inFunction inner := by
  unfold inFunction
  split <;> rename_i same <;> split at same <;> simp_all

end Fault

/-- Checks come one after the other, and all of them were passed where there is an answer. -/
theorem passed_of_bind {ε α β : Type} {check : Except ε α} {next : α → Except ε β} {answer : β}
    (passed : (check >>= next) = .ok answer) :
    ∃ value, check = .ok value ∧ next value = .ok answer := by
  cases check with
  | error fault => cases passed
  | ok value => exact ⟨value, rfl, passed⟩

end StackScope
