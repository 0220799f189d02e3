import Mathlib.Control.Basic
import StackScope.Library.Debug

/-!
What the functions of the debug library stand for: checks of their arguments, one after the other,
and then one operation of the inspection layer. A function that is run does just that.
-/

namespace StackScope

namespace Context

def scriptLevel? (context : Context) (number : Int) : Option Level :=
  if 0 ≤ number then context.level? number.toNat else none

def requireLevel (context : Context) (number : Int) : Except Fault Level :=
  match context.scriptLevel? number with
  | some level => .ok level
  | none => .error (.argument 1 none .levelOutOfRange)

/-- A table that shows the record of a target; nil where the options or the target give none. -/
def showTarget (context : Context) (options : String) (target : Target) : Outcome (List Value) :=
  match Mask.parse options with
  | .error _ => (.ok [.nil], context)
  | .ok mask =>
      match context.resolve mask target with
      | .error _ => (.ok [.nil], context)
      | .ok record =>
          let made := DebugFunction.recordTable context.heap mask record
          (.ok [.table made.1], { context with heap := made.2 })

/-- What each function of the debug library stands for: its checks in order, and then one operation
on the caller's own context. -/
def direct (context : Context) (arguments : List Value) :
    DebugFunction → Except Fault (Outcome (List Value))
  | .getInfo => do
      let options ← Arguments.textOr Mask.defaultOptions arguments 2
      match Arguments.get arguments 1 with
      | .function function =>
          let marked := if options.toList.head? = some '>' then options else ">" ++ options
          return context.showTarget marked (.value (.function function))
      | .number _ =>
          let number ← Arguments.integer arguments 1
          match context.scriptLevel? number with
          | none => return (.ok [.nil], context)
          | some level => return context.showTarget options (.level level)
      | other => Arguments.refuse 1 (.expected .functionOrNumber (some other.category))
  | .getLocal => do
      let number ← Arguments.integer arguments 1
      let ordinal ← Arguments.integer arguments 2
      let level ← context.requireLevel number
      match (Arguments.count? ordinal).bind (context.getLocal? level) with
      | none => return (.ok [.nil], context)
      | some slot => return (.ok [.ofText? slot.name, slot.value], context)
  | .setLocal => do
      let number ← Arguments.integer arguments 1
      let ordinal ← Arguments.integer arguments 2
      let value ← Arguments.any arguments 3
      let level ← context.requireLevel number
      match Arguments.count? ordinal with
      | none => return (.ok [.nil], context)
      | some ordinal =>
          let (name, later) := context.setLocal level ordinal value
          return (.ok [.ofText? name.join], later)
  | .getUpvalue => do
      let function ← Arguments.function arguments 1
      let ordinal ← Arguments.integer arguments 2
      match (Arguments.count? ordinal).bind (context.heap.getUpvalue? function) with
      | none => return (.ok [.nil], context)
      | some slot => return (.ok [.ofText? slot.name, slot.value], context)
  | .setUpvalue => do
      let function ← Arguments.function arguments 1
      let ordinal ← Arguments.integer arguments 2
      let value ← Arguments.any arguments 3
      match Arguments.count? ordinal with
      | none => return (.ok [.nil], context)
      | some ordinal =>
          let (name, heap) := context.heap.setUpvalue function ordinal value
          return (.ok [.ofText? name.join], { context with heap })
  | .getMetatable => do
      let value ← Arguments.any arguments 1
      return (.ok [context.getMetatable value], context)
  | .setMetatable => do
      let metatable ← Arguments.tableOrNil arguments 2
      let (answer, later) := context.setMetatable (Arguments.get arguments 1) (.ofTable? metatable)
      return (answer.map fun value => [value], later)
  | .getEnvironment => do
      let value ← Arguments.any arguments 1
      return (.ok [context.getEnvironment value], context)
  | .setEnvironment => do
      let value ← Arguments.any arguments 1
      let environment ← Arguments.any arguments 2
      let (answer, later) := context.setEnvironment value environment
      return (answer.map fun _ => [], later)
  | .traceback =>
      match Arguments.get arguments 1 with
      | .nil | .text _ | .number _ => do
          let message ← Arguments.textOr "" arguments 1
          let start ← Arguments.integerOr 0 arguments 2
          return (.ok [.text (context.traceback start.toNat message)], context)
      | other => return (.ok [other], context)

def afterChecks (context : Context) (checked : Except Fault (Outcome (List Value))) :
    Outcome (List Value) :=
  match checked with
  | .error fault => (.error fault, context)
  | .ok outcome => outcome

end Context

namespace DebugFunction

section Direct

variable (context : Context) (arguments : List Value)

theorem scriptLevel?_eq (number : Int) :
    context.scriptLevel? number = (Arguments.count? number).bind context.level? := by
  unfold Context.scriptLevel? Arguments.count?
  by_cases nonnegative : 0 ≤ number
  · rw [if_pos nonnegative, if_pos nonnegative, Option.bind_some]
  · rw [if_neg nonnegative, if_neg nonnegative, Option.bind_none]

theorem checkLevel_eq (number : Int) : checkLevel context number = context.requireLevel number := by
  unfold checkLevel Context.requireLevel
  cases found : (Arguments.count? number).bind context.level? with
  | none => simp only [scriptLevel?_eq, found]
  | some level => simp only [scriptLevel?_eq, found]

theorem afterChecks_reads (read : Except Fault (List Value)) :
    context.afterChecks ((fun values => (.ok values, context)) <$> read) = (read, context) := by
  cases read <;> rfl

theorem describe_direct (options : String) (target : Target) :
    (match describe context options target with
      | .error _ => (.ok [.nil], context)
      | .ok (mask, record) =>
          let (table, heap) := recordTable context.heap mask record
          (.ok [.table table], { context with heap })) =
      context.showTarget (infoOptions options target) target := by
  unfold describe Context.showTarget
  cases Mask.parse (infoOptions options target) with
  | error fault => rfl
  | ok mask =>
      dsimp only [bind, Except.bind]
      cases context.resolve mask target <;> rfl

theorem getInfo_direct :
    runGetInfo arguments context = context.afterChecks (context.direct arguments .getInfo) := by
  simp only [runGetInfo, infoQuery, infoTarget, Context.direct, scriptLevel?_eq]
  cases Arguments.textOr Mask.defaultOptions arguments 2 with
  | error fault => rfl
  | ok options =>
      cases Arguments.get arguments 1 with
      | function id => exact describe_direct context options (.value (.function id))
      | number _ =>
          cases Arguments.integer arguments 1 with
          | error fault => rfl
          | ok number =>
              dsimp only [bind, Except.bind]
              cases (Arguments.count? number).bind context.level? with
              | none => rfl
              | some level => exact describe_direct context options (.level level)
      | _ => rfl

theorem getLocal_direct :
    getLocal.run arguments context = context.afterChecks (context.direct arguments .getLocal) := by
  have reads : context.direct arguments .getLocal =
      (fun values => (.ok values, context)) <$> readLocal arguments context := by
    simp only [Context.direct, readLocal, checkLevel_eq, map_bind, map_pure]
    refine bind_congr fun number => bind_congr fun ordinal => bind_congr fun level => ?_
    cases (Arguments.count? ordinal).bind (context.getLocal? level) <;> rfl
  rw [reads, afterChecks_reads]
  rfl

theorem setLocal_direct :
    runSetLocal arguments context = context.afterChecks (context.direct arguments .setLocal) := by
  simp only [runSetLocal, writeLocalQuery, Context.direct, checkLevel_eq]
  cases Arguments.integer arguments 1 with
  | error fault => rfl
  | ok number =>
      cases Arguments.integer arguments 2 with
      | error fault => rfl
      | ok ordinal =>
          cases Arguments.any arguments 3 with
          | error fault => rfl
          | ok value =>
              dsimp only [bind, Except.bind]
              cases context.requireLevel number with
              | error fault => rfl
              | ok level => cases found : Arguments.count? ordinal <;> rfl

theorem getMetatable_direct :
    getMetatable.run arguments context =
      context.afterChecks (context.direct arguments .getMetatable) := by
  simp only [run, readMetatable, Context.direct]
  cases Arguments.any arguments 1 <;> rfl

theorem getEnvironment_direct :
    getEnvironment.run arguments context =
      context.afterChecks (context.direct arguments .getEnvironment) := by
  simp only [run, readEnvironment, Context.direct]
  cases Arguments.any arguments 1 <;> rfl

theorem getUpvalue_direct :
    getUpvalue.run arguments context =
      context.afterChecks (context.direct arguments .getUpvalue) := by
  have reads : context.direct arguments .getUpvalue =
      (fun values => (.ok values, context)) <$> readUpvalue arguments context := by
    simp only [Context.direct, readUpvalue, map_bind, map_pure]
    refine bind_congr fun function => bind_congr fun ordinal => ?_
    cases (Arguments.count? ordinal).bind (context.heap.getUpvalue? function) <;> rfl
  rw [reads, afterChecks_reads]
  rfl

theorem setUpvalue_direct :
    runSetUpvalue arguments context =
      context.afterChecks (context.direct arguments .setUpvalue) := by
  simp only [runSetUpvalue, writeUpvalueQuery, Context.direct]
  cases Arguments.function arguments 1 with
  | error fault => rfl
  | ok function =>
      cases Arguments.integer arguments 2 with
      | error fault => rfl
      | ok ordinal =>
          cases Arguments.any arguments 3 with
          | error fault => rfl
          | ok value =>
              dsimp only [bind, Except.bind, pure, Except.pure]
              cases Arguments.count? ordinal <;> rfl

theorem setMetatable_direct :
    runSetMetatable arguments context =
      context.afterChecks (context.direct arguments .setMetatable) := by
  simp only [runSetMetatable, Context.direct]
  cases Arguments.tableOrNil arguments 2 with
  | error fault => rfl
  | ok metatable =>
      dsimp only [bind, Except.bind]
      rcases context.setMetatable (Arguments.get arguments 1) (.ofTable? metatable) with
        ⟨fault | value, later⟩ <;> rfl

theorem setEnvironment_direct :
    runSetEnvironment arguments context =
      context.afterChecks (context.direct arguments .setEnvironment) := by
  simp only [runSetEnvironment, writeEnvironmentQuery, Context.direct]
  cases Arguments.any arguments 1 with
  | error fault => rfl
  | ok value =>
      cases Arguments.any arguments 2 with
      | error fault => rfl
      | ok environment =>
          dsimp only [bind, Except.bind, pure, Except.pure]
          rcases context.setEnvironment value environment with ⟨fault | _, later⟩ <;> rfl

theorem getD_count? (value : Int) : (Arguments.count? value).getD 0 = value.toNat := by
  unfold Arguments.count?
  split
  · rfl
  · rename_i negative
    exact (Int.toNat_of_nonpos (by omega)).symm

theorem traceback_direct :
    traceback.run arguments context =
      context.afterChecks (context.direct arguments .traceback) := by
  have reads : context.direct arguments .traceback =
      (fun values => (.ok values, context)) <$> readTraceback arguments context := by
    simp only [Context.direct, readTraceback, getD_count?]
    cases Arguments.get arguments 1 with
    | nil | text | number => simp only [map_bind, map_pure]
    | _ => rfl
  rw [reads, afterChecks_reads]
  rfl

/-- A function of the library makes its checks and then does its operation. -/
theorem run_direct (function : DebugFunction) :
    function.run arguments context =
      context.afterChecks (context.direct arguments function) := by
  cases function with
  | getEnvironment => exact getEnvironment_direct context arguments
  | getInfo => exact getInfo_direct context arguments
  | getLocal => exact getLocal_direct context arguments
  | getMetatable => exact getMetatable_direct context arguments
  | getUpvalue => exact getUpvalue_direct context arguments
  | setEnvironment => exact setEnvironment_direct context arguments
  | setLocal => exact setLocal_direct context arguments
  | setMetatable => exact setMetatable_direct context arguments
  | setUpvalue => exact setUpvalue_direct context arguments
  | traceback => exact traceback_direct context arguments

end Direct

end DebugFunction

end StackScope
