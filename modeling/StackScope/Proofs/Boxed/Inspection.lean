import StackScope.Library.Debug
import StackScope.Proofs.Boxed.HeapAgreement
import StackScope.Proofs.LibraryEffect

/-!
Inspection of contexts that differ in their windows and in their cells alone. Levels, records and
tracebacks are the same, and so is what the functions of the debug library answer. The two functions
that look into registers are left out here.
-/

namespace StackScope

/-- The same activation, wherever its window lies. -/
structure Frame.Resembles (frame other : Frame) : Prop where
  function : frame.function = other.function
  code : frame.code = other.code
  position : frame.position = other.position
  tailCalls : frame.tailCalls = other.tailCalls

/-- The same frames, settings and objects, up to windows and cells. -/
structure Context.Resembles (naming : List CellId) (context other : Context) : Prop where
  frames : List.Forall₂ Frame.Resembles context.frames other.frames
  heap : HeapAgrees naming context.heap other.heap
  thread : context.thread = other.thread
  stringMetatable : context.stringMetatable = other.stringMetatable
  config : context.config = other.config

namespace Frame.Resembles

variable {frame other : Frame}

theorem isHost (same : frame.Resembles other) : frame.isHost = other.isHost :=
  congrArg Code.isHost same.code

theorem isIntrospective (same : frame.Resembles other) :
    frame.isIntrospective = other.isIntrospective :=
  congrArg Code.isIntrospective same.code

theorem prototype? (same : frame.Resembles other) : frame.prototype? = other.prototype? :=
  congrArg Code.prototype? same.code

theorem collapsed (same : frame.Resembles other) : frame.collapsed = other.collapsed := by
  unfold Frame.collapsed
  rw [same.isHost, same.tailCalls]

theorem isMainChunk (same : frame.Resembles other) : frame.isMainChunk = other.isMainChunk := by
  unfold Frame.isMainChunk
  rw [same.prototype?]

theorem currentLine? (same : frame.Resembles other) :
    frame.currentLine? = other.currentLine? := by
  unfold Frame.currentLine?
  rw [same.prototype?, same.position]

end Frame.Resembles

section Levels

variable {frames others : List Frame} (same : List.Forall₂ Frame.Resembles frames others)
include same

theorem isEmpty_of_resembles : frames.isEmpty = others.isEmpty := by
  cases same with
  | nil => rfl
  | cons _ _ => rfl

theorem slotFrom?_of_resembles (hidden : Bool) (skip : Nat) :
    slotFrom? hidden frames skip = slotFrom? hidden others skip := by
  induction same generalizing skip with
  | nil => rfl
  | cons head tail ih =>
      simp only [slotFrom?, isEmpty_of_resembles tail, head.isIntrospective, head.collapsed,
        tail.length_eq, ih]

theorem countFrom_of_resembles (hidden : Bool) :
    countFrom hidden frames = countFrom hidden others := by
  induction same with
  | nil => rfl
  | cons head tail ih =>
      simp only [countFrom, isEmpty_of_resembles tail, head.isIntrospective, head.collapsed, ih]

theorem levelsFrom_of_resembles (hidden : Bool) (first : Nat) :
    levelsFrom hidden frames first = levelsFrom hidden others first := by
  induction same generalizing first with
  | nil => rfl
  | cons head tail ih =>
      simp only [levelsFrom, isEmpty_of_resembles tail, head.isIntrospective, head.collapsed,
        tail.length_eq, ih]

end Levels

namespace Context.Resembles

variable {naming : List CellId} {context other : Context}

theorem frameAt?_cases (same : context.Resembles naming other) (index : Nat) :
    (context.frameAt? index = none ∧ other.frameAt? index = none) ∨
    ∃ frame counterpart, context.frameAt? index = some frame ∧
      other.frameAt? index = some counterpart ∧ frame.Resembles counterpart :=
  getElem?_cases (List.rel_reverse same.frames) index

theorem hidesMain (same : context.Resembles naming other) :
    context.hidesMain = other.hidesMain := by
  have last : context.frames.getLast?.any Frame.isMainChunk =
      other.frames.getLast?.any Frame.isMainChunk := by
    rw [List.getLast?_eq_head?_reverse, List.getLast?_eq_head?_reverse, List.head?_eq_getElem?,
      List.head?_eq_getElem?]
    rcases same.frameAt?_cases 0 with
      ⟨missing, missingToo⟩ | ⟨frame, counterpart, found, foundToo, alike⟩
    · unfold frameAt? at missing missingToo
      rw [missing, missingToo]
    · unfold frameAt? at found foundToo
      rw [found, foundToo]
      exact alike.isMainChunk
  unfold Context.hidesMain
  rw [same.config, last]

theorem level? (same : context.Resembles naming other) (number : Nat) :
    context.level? number = other.level? number := by
  unfold Context.level?
  rw [same.hidesMain, slotFrom?_of_resembles same.frames]

theorem levelCount (same : context.Resembles naming other) :
    context.levelCount = other.levelCount := by
  unfold Context.levelCount
  rw [same.hidesMain, countFrom_of_resembles same.frames]

theorem levels (same : context.Resembles naming other) : context.levels = other.levels := by
  unfold Context.levels
  rw [same.hidesMain, levelsFrom_of_resembles same.frames]

theorem ofFunction (same : context.Resembles naming other) (mask : Mask) (id : FunctionId) :
    Record.ofFunction context.heap mask id = Record.ofFunction other.heap mask id := by
  obtain ⟨code, -, -, upvalues⟩ := same.heap.functions id
  simp only [Record.ofFunction, code, upvalues.length_eq]

theorem callerName? (same : context.Resembles naming other) (index : Nat) :
    context.callerName? index = other.callerName? index := by
  unfold Context.callerName?
  rcases same.frameAt?_cases index with
    ⟨missing, missingToo⟩ | ⟨frame, counterpart, found, foundToo, alike⟩
  · rw [missing, missingToo]
    rfl
  · rw [found, foundToo]
    simp only [bind, Option.bind_some, alike.tailCalls]
    split
    · rfl
    · cases index with
      | zero => rfl
      | succ outer =>
          rcases same.frameAt?_cases outer with
            ⟨missing, missingToo⟩ | ⟨caller, callerToo, atOuter, atOuterToo, alike⟩
          · simp only [missing, missingToo]
          · simp only [atOuter, atOuterToo, Option.bind_some, alike.prototype?, alike.position]

theorem resolve (same : context.Resembles naming other) (mask : Mask) (target : Target) :
    context.resolve mask target = other.resolve mask target := by
  cases target with
  | value value =>
      cases value with
      | function id => exact congrArg Except.ok (same.ofFunction mask id)
      | nil => rfl
      | boolean _ => rfl
      | number _ => rfl
      | text _ => rfl
      | table _ => rfl
      | userdata _ => rfl
      | thread _ => rfl
  | level level =>
      simp only [Context.resolve, resolveLevel]
      split
      · rfl
      · split
        · rfl
        · rename_i index slot
          rcases same.frameAt?_cases index with
            ⟨missing, missingToo⟩ | ⟨frame, counterpart, found, foundToo, alike⟩
          · rw [missing, missingToo]
          · rw [found, foundToo]
            simp only [same.ofFunction, alike.function, alike.currentLine?, same.callerName?]

theorem functionText (same : context.Resembles naming other) (level : Level) (record : Record) :
    context.functionText level record = other.functionText level record := by
  have frame : ((context.levelFrame? level).bind fun frame => frame.code.hostName?) =
      (other.levelFrame? level).bind fun frame => frame.code.hostName? := by
    unfold levelFrame?
    cases level.index? with
    | none => rfl
    | some index =>
        simp only [Option.bind_some]
        rcases same.frameAt?_cases index with
          ⟨missing, missingToo⟩ | ⟨frame, counterpart, found, foundToo, alike⟩
        · rw [missing, missingToo]
        · rw [found, foundToo]
          exact congrArg Code.hostName? alike.code
  unfold Context.functionText
  rw [frame]

theorem tracebackLine (same : context.Resembles naming other) (level : Level) :
    context.tracebackLine level = other.tracebackLine level := by
  unfold Context.tracebackLine
  rw [same.resolve]
  split
  · simp only [describe, placeText, same.config, same.functionText]
  · rfl

theorem traceback (same : context.Resembles naming other) (start : Nat) (message : String) :
    context.traceback start message = other.traceback start message := by
  have line : context.tracebackLine = other.tracebackLine := funext same.tracebackLine
  unfold Context.traceback tracebackLines limitedLines
  rw [same.config, same.levels, line]

/-! ### Metatables and environments -/

theorem getMetatable (same : context.Resembles naming other) (value : Value) :
    context.getMetatable value = other.getMetatable value := by
  unfold Context.getMetatable
  cases value with
  | table id => simp only [metatable?, same.heap.table id]
  | userdata id => simp only [metatable?, same.heap.userdataAt id]
  | function id => simp only [metatable?, (same.heap.functions id).metatable]
  | thread id => simp only [metatable?, same.heap.thread id]
  | text _ => simp only [metatable?, same.stringMetatable]
  | nil => rfl
  | boolean _ => rfl
  | number _ => rfl

theorem globals (same : context.Resembles naming other) : context.globals = other.globals := by
  unfold Context.globals
  rw [same.thread, same.heap.thread]

theorem getEnvironment (same : context.Resembles naming other) (value : Value) :
    context.getEnvironment value = other.getEnvironment value := by
  cases value with
  | function id =>
      simp only [Context.getEnvironment, functionEnvironment, same.globals,
        (same.heap.functions id).environment]
  | userdata id => simp only [Context.getEnvironment, same.globals, same.heap.userdataAt id]
  | thread id => simp only [Context.getEnvironment, same.heap.thread id]
  | table _ => rfl
  | text _ => rfl
  | nil => rfl
  | boolean _ => rfl
  | number _ => rfl

end Context.Resembles

structure SameEffect (naming : List CellId) (context other later laterToo : Context) : Prop where
  left : later = context.withObjects later.heap later.stringMetatable
  right : laterToo = other.withObjects laterToo.heap laterToo.stringMetatable
  heap : HeapAgrees naming later.heap laterToo.heap
  others : KeepsOthers naming other.heap laterToo.heap
  stringMetatable : later.stringMetatable = laterToo.stringMetatable

def SameOutcome {α : Type} (naming : List CellId) (context other : Context)
    (outcome counterpart : Outcome α) : Prop :=
  outcome.1 = counterpart.1 ∧ SameEffect naming context other outcome.2 counterpart.2

theorem SameOutcome.exists {α : Type} {naming : List CellId} {context other : Context}
    {outcome counterpart : Outcome α}
    (same : SameOutcome naming context other outcome counterpart) :
    ∃ result later laterToo, outcome = (result, later) ∧ counterpart = (result, laterToo) ∧
      SameEffect naming context other later laterToo := by
  obtain ⟨answer, effect⟩ := same
  exact ⟨outcome.1, outcome.2, counterpart.2, rfl, Prod.ext answer.symm rfl, effect⟩

namespace Context.Resembles

variable {naming : List CellId} {context other : Context}

theorem unchanged (same : context.Resembles naming other) :
    SameEffect naming context other context other :=
  ⟨rfl, rfl, same.heap, .ofCells rfl, same.stringMetatable⟩

theorem changed (same : context.Resembles naming other) {heap heapToo : Heap}
    (agrees : HeapAgrees naming heap heapToo) (cells : heapToo.cells = other.heap.cells) :
    SameEffect naming context other { context with heap } { other with heap := heapToo } :=
  ⟨rfl, rfl, agrees, .ofCells cells, same.stringMetatable⟩

theorem putMetatable (same : context.Resembles naming other) (value : Value)
    (metatable : Option TableId) :
    SameEffect naming context other (context.putMetatable value metatable)
      (other.putMetatable value metatable) := by
  unfold Context.putMetatable
  cases value with
  | table id =>
      have object : ({ context.heap.table id with metatable } : Table) =
          { other.heap.table id with metatable } := by
        rw [same.heap.table id]
      exact same.changed (same.heap.setTable id object) rfl
  | userdata id =>
      have object : ({ context.heap.userdataAt id with metatable } : UserdataObject) =
          { other.heap.userdataAt id with metatable } := by
        rw [same.heap.userdataAt id]
      exact same.changed (same.heap.setUserdata id object) rfl
  | function id =>
      exact same.changed
        (same.heap.setFunction id { same.heap.functions id with metatable := rfl }) rfl
  | thread id =>
      have object : ({ context.heap.thread id with metatable } : ThreadObject) =
          { other.heap.thread id with metatable } := by
        rw [same.heap.thread id]
      exact same.changed (same.heap.setThread id object) rfl
  | text _ => exact ⟨rfl, rfl, same.heap, .ofCells rfl, rfl⟩
  | nil => exact same.unchanged
  | boolean _ => exact same.unchanged
  | number _ => exact same.unchanged

theorem putEnvironment (same : context.Resembles naming other) (value : Value)
    (environment : TableId) :
    SameEffect naming context other (context.putEnvironment value environment)
      (other.putEnvironment value environment) := by
  unfold Context.putEnvironment
  cases value with
  | function id =>
      exact same.changed
        (same.heap.setFunction id { same.heap.functions id with environment := rfl }) rfl
  | userdata id =>
      have object :
          ({ context.heap.userdataAt id with environment := some environment } : UserdataObject) =
          { other.heap.userdataAt id with environment := some environment } := by
        rw [same.heap.userdataAt id]
      exact same.changed (same.heap.setUserdata id object) rfl
  | thread id =>
      have object : ({ context.heap.thread id with environment } : ThreadObject) =
          { other.heap.thread id with environment } := by
        rw [same.heap.thread id]
      exact same.changed (same.heap.setThread id object) rfl
  | table _ => exact same.unchanged
  | text _ => exact same.unchanged
  | nil => exact same.unchanged
  | boolean _ => exact same.unchanged
  | number _ => exact same.unchanged

theorem setMetatable (same : context.Resembles naming other) (value metatable : Value) :
    SameOutcome naming context other (context.setMetatable value metatable)
      (other.setMetatable value metatable) := by
  unfold Context.setMetatable
  split
  · exact ⟨rfl, same.unchanged⟩
  · split
    · exact ⟨rfl, same.unchanged⟩
    · exact ⟨rfl, same.putMetatable value _⟩

theorem setEnvironment (same : context.Resembles naming other) (value environment : Value) :
    SameOutcome naming context other (context.setEnvironment value environment)
      (other.setEnvironment value environment) := by
  unfold Context.setEnvironment
  split
  · exact ⟨rfl, same.unchanged⟩
  · split
    · exact ⟨rfl, same.unchanged⟩
    · exact ⟨rfl, same.putEnvironment value _⟩

theorem checkLevel (same : context.Resembles naming other) (number : Int) :
    DebugFunction.checkLevel context number = DebugFunction.checkLevel other number := by
  have level : context.level? = other.level? := funext same.level?
  unfold DebugFunction.checkLevel
  rw [level]

theorem recordTable (agrees : HeapAgrees naming context.heap other.heap) (mask : Mask)
    (record : Record) :
    (DebugFunction.recordTable context.heap mask record).1 =
      (DebugFunction.recordTable other.heap mask record).1 ∧
    HeapAgrees naming (DebugFunction.recordTable context.heap mask record).2
      (DebugFunction.recordTable other.heap mask record).2 ∧
    (DebugFunction.recordTable other.heap mask record).2.cells = other.heap.cells := by
  unfold DebugFunction.recordTable
  split
  · obtain ⟨table, later⟩ := agrees.addTable (DebugFunction.recordFields mask record)
    exact ⟨table, later, rfl⟩
  · rename_i lines _
    obtain ⟨active, middle⟩ :=
      agrees.addTable { sequence := lines.map fun line => .number (.ofNat line) }
    dsimp only
    rw [active]
    obtain ⟨table, later⟩ := middle.addTable _
    exact ⟨table, later, rfl⟩

theorem runGetInfo (same : context.Resembles naming other) (arguments : List Value) :
    SameOutcome naming context other (DebugFunction.runGetInfo arguments context)
      (DebugFunction.runGetInfo arguments other) := by
  have level : context.level? = other.level? := funext same.level?
  have query : DebugFunction.infoQuery context arguments =
      DebugFunction.infoQuery other arguments := by
    unfold DebugFunction.infoQuery DebugFunction.infoTarget
    rw [level]
  have description : DebugFunction.describe context = DebugFunction.describe other := by
    funext options target
    unfold DebugFunction.describe
    simp only [same.resolve]
  unfold DebugFunction.runGetInfo
  rw [query, description]
  split
  · exact ⟨rfl, same.unchanged⟩
  · exact ⟨rfl, same.unchanged⟩
  · split
    · exact ⟨rfl, same.unchanged⟩
    · obtain ⟨table, later, cells⟩ := recordTable same.heap _ _
      refine ⟨?_, same.changed later cells⟩
      simp only [table]

theorem runSetUpvalue (same : context.Resembles naming other) (arguments : List Value) :
    SameOutcome naming context other (DebugFunction.runSetUpvalue arguments context)
      (DebugFunction.runSetUpvalue arguments other) := by
  unfold DebugFunction.runSetUpvalue
  split
  · exact ⟨rfl, same.unchanged⟩
  · exact ⟨rfl, same.unchanged⟩
  · rename_i function ordinal value _
    obtain ⟨name, later, others⟩ := same.heap.setUpvalue function ordinal value
    refine ⟨?_, rfl, rfl, later, others, same.stringMetatable⟩
    simp only [name]

theorem runSetMetatable (same : context.Resembles naming other) (arguments : List Value) :
    SameOutcome naming context other (DebugFunction.runSetMetatable arguments context)
      (DebugFunction.runSetMetatable arguments other) := by
  unfold DebugFunction.runSetMetatable
  split
  · exact ⟨rfl, same.unchanged⟩
  · rename_i metatable _
    obtain ⟨result, later, laterToo, made, madeToo, effect⟩ :=
      (same.setMetatable (Arguments.get arguments 1) (.ofTable? metatable)).exists
    rw [made, madeToo]
    cases result with
    | error fault => exact ⟨rfl, effect⟩
    | ok value => exact ⟨rfl, effect⟩

theorem runSetEnvironment (same : context.Resembles naming other) (arguments : List Value) :
    SameOutcome naming context other (DebugFunction.runSetEnvironment arguments context)
      (DebugFunction.runSetEnvironment arguments other) := by
  unfold DebugFunction.runSetEnvironment
  split
  · exact ⟨rfl, same.unchanged⟩
  · rename_i value environment _
    obtain ⟨result, later, laterToo, made, madeToo, effect⟩ :=
      (same.setEnvironment value environment).exists
    rw [made, madeToo]
    cases result with
    | error fault => exact ⟨rfl, effect⟩
    | ok _ => exact ⟨rfl, effect⟩

/-- Functions of the library that do not look into registers. -/
theorem library (same : context.Resembles naming other) {function : DebugFunction}
    (reads : function ≠ .getLocal) (writes : function ≠ .setLocal) (arguments : List Value) :
    SameOutcome naming context other (function.run arguments context)
      (function.run arguments other) := by
  cases function with
  | getLocal => exact absurd rfl reads
  | setLocal => exact absurd rfl writes
  | getInfo => exact same.runGetInfo arguments
  | setUpvalue => exact same.runSetUpvalue arguments
  | setMetatable => exact same.runSetMetatable arguments
  | setEnvironment => exact same.runSetEnvironment arguments
  | getEnvironment =>
      refine ⟨?_, same.unchanged⟩
      simp only [DebugFunction.run, DebugFunction.readEnvironment, same.getEnvironment]
  | getMetatable =>
      refine ⟨?_, same.unchanged⟩
      simp only [DebugFunction.run, DebugFunction.readMetatable, same.getMetatable]
  | getUpvalue =>
      have upvalue : context.heap.getUpvalue? = other.heap.getUpvalue? :=
        funext fun function => funext fun ordinal => same.heap.getUpvalue? function ordinal
      refine ⟨?_, same.unchanged⟩
      simp only [DebugFunction.run, DebugFunction.readUpvalue, upvalue]
  | traceback =>
      refine ⟨?_, same.unchanged⟩
      simp only [DebugFunction.run, DebugFunction.readTraceback, same.traceback]

end Context.Resembles

end StackScope
