import StackScope.Proofs.FrameOnTop
import StackScope.Proofs.HostBalance
import StackScope.Proofs.LibraryOperations
import StackScope.Proofs.LibraryRegistration

/-!
The functions of the debug library see the stack of their caller. While such a function runs, its
own frame lies on top and its arguments lie on the stack, and yet every level, local and name that
it asks for is the one that the caller would find. A call of the function is therefore the same as
its checks and its operation on the caller's context.
-/

namespace StackScope

namespace DebugFunction

variable {context : Context}

theorem contains_of_bind_level? {number : Option Nat} {level : Level}
    (found : number.bind context.level? = some level) : context.Contains level := by
  obtain ⟨number, -, found⟩ := Option.bind_eq_some_iff.mp found
  exact Context.contains_of_level? found

theorem contains_of_checkLevel {number : Int} {level : Level}
    (passed : checkLevel context number = .ok level) : context.Contains level := by
  unfold checkLevel at passed
  split at passed
  · rename_i found
    cases passed
    exact contains_of_bind_level? found
  · cases passed

theorem contains_of_writeLocalQuery {arguments : List Value} {level : Level}
    {ordinal : Option Nat} {value : Value}
    (passed : writeLocalQuery arguments context = .ok (level, ordinal, value)) :
    context.Contains level := by
  obtain ⟨number, -, passed⟩ := passed_of_bind passed
  obtain ⟨count, -, passed⟩ := passed_of_bind passed
  obtain ⟨written, -, passed⟩ := passed_of_bind passed
  obtain ⟨found, checked, passed⟩ := passed_of_bind passed
  cases passed
  exact contains_of_checkLevel checked

theorem contains_of_infoQuery {arguments : List Value} {options : String} {target : Target}
    (passed : infoQuery context arguments = .ok (options, some target)) {level : Level}
    (same : target = .level level) : context.Contains level := by
  obtain ⟨chosen, -, passed⟩ := passed_of_bind passed
  obtain ⟨found, targeted, passed⟩ := passed_of_bind passed
  cases passed
  subst same
  unfold infoTarget at targeted
  split at targeted
  · cases targeted
  · obtain ⟨number, -, targeted⟩ := passed_of_bind targeted
    have mapped := Except.ok.inj targeted
    obtain ⟨other, present, same⟩ := Option.map_eq_some_iff.mp mapped
    cases same
    exact contains_of_bind_level? present
  · cases targeted

section Introspective

variable {frame : Frame} (window : List Value) (introspective : frame.isIntrospective = true)
include introspective

theorem bind_level?_withFrame (number : Option Nat) :
    number.bind (context.withFrame frame window).level? = number.bind context.level? := by
  cases number with
  | none => rfl
  | some number => exact Context.level?_withFrame window introspective number

theorem checkLevel_withFrame (number : Int) :
    checkLevel (context.withFrame frame window) number = checkLevel context number := by
  unfold checkLevel
  rw [bind_level?_withFrame window introspective]

theorem infoQuery_withFrame (arguments : List Value) :
    infoQuery (context.withFrame frame window) arguments = infoQuery context arguments := by
  have targets : infoTarget (context.withFrame frame window) arguments =
      infoTarget context arguments := by
    unfold infoTarget
    cases Arguments.get arguments 1 with
    | number number => simp only [bind_level?_withFrame window introspective]
    | _ => rfl
  unfold infoQuery
  rw [targets]

theorem writeLocalQuery_withFrame (arguments : List Value) :
    writeLocalQuery arguments (context.withFrame frame window) =
      writeLocalQuery arguments context := by
  unfold writeLocalQuery
  simp only [checkLevel_withFrame window introspective]

theorem readLocal_withFrame (intact : context.Intact) (arguments : List Value) :
    readLocal arguments (context.withFrame frame window) = readLocal arguments context := by
  unfold readLocal
  apply bind_congr
  intro number
  apply bind_congr
  intro ordinal
  rw [checkLevel_withFrame window introspective]
  cases checked : checkLevel context number with
  | error fault => rfl
  | ok level =>
      have contains : context.Contains level := contains_of_checkLevel checked
      have same : (context.withFrame frame window).getLocal? level = context.getLocal? level :=
        funext fun count => Context.getLocal?_withFrame frame window intact contains count
      change Except.ok (slotResults (_ : Option NamedValue)) = Except.ok (slotResults _)
      rw [same]

theorem readTraceback_withFrame (arguments : List Value) :
    readTraceback arguments (context.withFrame frame window) =
      readTraceback arguments context := by
  unfold readTraceback
  simp only [Context.traceback_withFrame window introspective]

theorem runGetInfo_withFrame (arguments : List Value) :
    runGetInfo arguments (context.withFrame frame window) =
      ((runGetInfo arguments context).1,
        (runGetInfo arguments context).2.withFrame frame window) := by
  unfold runGetInfo
  rw [infoQuery_withFrame window introspective]
  cases asked : infoQuery context arguments with
  | error fault => rfl
  | ok query =>
      obtain ⟨options, found⟩ := query
      cases found with
      | none => rfl
      | some target =>
          have same : describe (context.withFrame frame window) options target =
              describe context options target := by
            unfold describe
            simp only [Context.resolve_withFrame frame window fun _ => contains_of_infoQuery asked]
          dsimp only
          rw [same]
          cases describe context options target <;> rfl

theorem runSetLocal_withFrame (intact : context.Intact) (arguments : List Value) :
    runSetLocal arguments (context.withFrame frame window) =
      ((runSetLocal arguments context).1,
        (runSetLocal arguments context).2.withFrame frame window) := by
  unfold runSetLocal
  rw [writeLocalQuery_withFrame window introspective]
  cases asked : writeLocalQuery arguments context with
  | error fault => rfl
  | ok query =>
      obtain ⟨level, ordinal, value⟩ := query
      cases ordinal with
      | none => rfl
      | some ordinal =>
          have contains : context.Contains level := contains_of_writeLocalQuery asked
          dsimp only
          rw [Context.setLocal_withFrame frame window intact contains]

omit introspective

theorem runSetUpvalue_withFrame (arguments : List Value) :
    runSetUpvalue arguments (context.withFrame frame window) =
      ((runSetUpvalue arguments context).1,
        (runSetUpvalue arguments context).2.withFrame frame window) := by
  unfold runSetUpvalue
  split <;> rfl

theorem runSetMetatable_withFrame (arguments : List Value) :
    runSetMetatable arguments (context.withFrame frame window) =
      ((runSetMetatable arguments context).1,
        (runSetMetatable arguments context).2.withFrame frame window) := by
  unfold runSetMetatable
  cases Arguments.tableOrNil arguments 2 with
  | error fault => rfl
  | ok metatable =>
      dsimp only
      rw [Context.setMetatable_withFrame]
      cases context.setMetatable (Arguments.get arguments 1) (.ofTable? metatable) with
      | mk answer later => cases answer <;> rfl

theorem runSetEnvironment_withFrame (arguments : List Value) :
    runSetEnvironment arguments (context.withFrame frame window) =
      ((runSetEnvironment arguments context).1,
        (runSetEnvironment arguments context).2.withFrame frame window) := by
  unfold runSetEnvironment
  cases writeEnvironmentQuery arguments with
  | error fault => rfl
  | ok query =>
      obtain ⟨value, environment⟩ := query
      dsimp only
      rw [Context.setEnvironment_withFrame]
      cases context.setEnvironment value environment with
      | mk answer later => cases answer <;> rfl

include introspective

/-- A function of the library does the same below an introspective frame, and leaves that frame
where it is. -/
theorem run_withFrame (intact : context.Intact) (function : DebugFunction)
    (arguments : List Value) :
    function.run arguments (context.withFrame frame window) =
      ((function.run arguments context).1,
        (function.run arguments context).2.withFrame frame window) := by
  cases function with
  | getEnvironment => rfl
  | getInfo => exact runGetInfo_withFrame window introspective arguments
  | getLocal =>
      unfold run
      rw [readLocal_withFrame window introspective intact]
  | getMetatable => rfl
  | getUpvalue => rfl
  | setEnvironment => exact runSetEnvironment_withFrame window arguments
  | setLocal => exact runSetLocal_withFrame window introspective intact arguments
  | setMetatable => exact runSetMetatable_withFrame window arguments
  | setUpvalue => exact runSetUpvalue_withFrame window arguments
  | traceback =>
      unfold run
      rw [readTraceback_withFrame window introspective]

end Introspective

theorem get_setField? (table : Table) (key other : String) (value : Option Value) :
    (setField? table key value).get other =
      if other = key then value.getD (table.get other) else table.get other := by
  cases value with
  | none => simp [setField?]
  | some value => simp [setField?, Table.get_set]

theorem recordFields_name {mask : Mask} (selected : mask.name = true) (record : Record) :
    (recordFields mask record).get "name" = .ofText? record.name := by
  unfold recordFields
  cases mask.source <;> cases mask.currentLine <;> cases record.name <;>
    simp [selected, get_setField?, Table.get_set, Value.ofText?] <;> rfl

theorem recordFields_nameKind {mask : Mask} (selected : mask.name = true) (record : Record) :
    (recordFields mask record).get "namewhat" =
      .text ((record.nameKind.map NameKind.text).getD "") := by
  unfold recordFields
  cases mask.source <;> cases mask.currentLine <;>
    simp [selected, get_setField?, Table.get_set]

theorem recordFields_currentLine {mask : Mask} (selected : mask.currentLine = true)
    (record : Record) :
    (recordFields mask record).get "currentline" = lineValue record.currentLine := by
  unfold recordFields
  simp [selected, get_setField?, Table.get_set]

theorem get_recordTable (heap : Heap) (mask : Mask) (record : Record) {key : String}
    (other : key ≠ "activelines") :
    ((recordTable heap mask record).2.table (recordTable heap mask record).1).get key =
      (recordFields mask record).get key := by
  unfold recordTable
  cases record.activeLines with
  | none =>
      dsimp only
      rw [Heap.table_addTable]
  | some lines =>
      dsimp only
      rw [Heap.table_addTable, Table.get_set, if_neg other]

structure Shows (mask : Mask) (record : Record) (table : Table) : Prop where
  name : mask.name = true → table.get "name" = .ofText? record.name
  nameKind : mask.name = true →
    table.get "namewhat" = .text ((record.nameKind.map NameKind.text).getD "")
  currentLine : mask.currentLine = true →
    table.get "currentline" = lineValue record.currentLine

theorem recordTable_shows (heap : Heap) (mask : Mask) (record : Record) :
    Shows mask record
      ((recordTable heap mask record).2.table (recordTable heap mask record).1) where
  name := by
    intro selected
    rw [get_recordTable heap mask record (by decide), recordFields_name selected]
  nameKind := by
    intro selected
    rw [get_recordTable heap mask record (by decide), recordFields_nameKind selected]
  currentLine := by
    intro selected
    rw [get_recordTable heap mask record (by decide), recordFields_currentLine selected]

/-! ### Queries by scripts -/

theorem integer_of_passed? {arguments : List Value} {position : Nat} {number : Number}
    (passed : Arguments.passed? arguments position = some (.number number))
    (whole : number.isIntegral = true) :
    Arguments.integer arguments position = .ok number.toSignedWord := by
  unfold Arguments.integer
  rw [passed]
  exact if_pos whole

/-- A level below zero counts as zero. -/
theorem run_traceback (message : String) {start : Number} (whole : start.isIntegral = true)
    (context : Context) :
    traceback.run [.text message, .number start] context =
      (.ok [.text (context.traceback start.toSignedWord.toNat message)], context) := by
  have level : Arguments.integerOr 0 [.text message, .number start] 2 =
      .ok start.toSignedWord := by
    change Arguments.integer [.text message, .number start] 2 = _
    exact integer_of_passed? rfl whole
  have shown : readTraceback [.text message, .number start] context =
      .ok [.text (context.traceback ((Arguments.count? start.toSignedWord).getD 0) message)] := by
    change (Arguments.integerOr 0 [.text message, .number start] 2 >>= _) = _
    rw [level]
    rfl
  unfold run
  rw [shown, getD_count?]

theorem run_getInfo_level {number : Number} {rest : List Value} {options : String} {level : Level}
    {mask : Mask} {record : Record} (whole : number.isIntegral = true)
    (chosen : Arguments.textOr Mask.defaultOptions (.number number :: rest) 2 = .ok options)
    (nonnegative : 0 ≤ number.toSignedWord)
    (found : context.level? number.toSignedWord.toNat = some level)
    (parsed : Mask.parse options = .ok mask)
    (resolved : context.resolve mask (.level level) = .ok record) :
    getInfo.run (.number number :: rest) context =
      (.ok [.table (recordTable context.heap mask record).1],
        { context with heap := (recordTable context.heap mask record).2 }) := by
  have counted : Arguments.count? number.toSignedWord = some number.toSignedWord.toNat :=
    if_pos nonnegative
  have integer : Arguments.integer (.number number :: rest) 1 = .ok number.toSignedWord :=
    integer_of_passed? rfl whole
  have targeted : infoTarget context (.number number :: rest) = .ok (some (.level level)) := by
    change (Arguments.integer (.number number :: rest) 1 >>= _) = _
    rw [integer]
    change Except.ok (((Arguments.count? number.toSignedWord).bind context.level?).map _) = _
    rw [counted, Option.bind_some, found]
    rfl
  have asked : infoQuery context (.number number :: rest) = .ok (options, some (.level level)) := by
    unfold infoQuery
    rw [chosen, targeted]
    rfl
  have described : describe context options (.level level) = .ok (mask, record) := by
    change (Mask.parse options >>= _) = _
    rw [parsed]
    change (context.resolve mask (.level level) >>= _) = _
    rw [resolved]
    rfl
  change runGetInfo (.number number :: rest) context = _
  unfold runGetInfo
  rw [asked]
  dsimp only
  rw [described]

/-- The library leaves the stack at the height at which it was. -/
theorem length_stack_run (function : DebugFunction) (arguments : List Value)
    (context : Context) :
    (function.run arguments context).2.stack.length = context.stack.length := by
  rcases function.run_cases arguments context with effect | ⟨level, ordinal, value, written⟩
  · obtain ⟨heap, stringMetatable, -, later⟩ := effect
    rw [later]
    rfl
  · rw [written]
    rcases context.setLocal_cases level ordinal value with missing | ⟨place, -, made⟩
    · rw [missing]
    · rw [made]
      unfold Context.writeSlot
      split
      · rfl
      · exact List.length_set

end DebugFunction

namespace Context

variable {context : Context}

/-- The frame of a host function has the arguments as its window. -/
theorem pushFrame_host {id : FunctionId} {host : HostFunction}
    (code : (context.heap.function id).code = .host host) (arguments : List Value) :
    ∃ frame : Frame, frame.code = .host host ∧ frame.base = context.stack.length ∧
      context.pushFrame id arguments = context.withFrame frame arguments := by
  let stack := context.stack ++ arguments
  let frame : Frame :=
    { function := id, code := .host host, base := context.stack.length, top := stack.length }
  refine ⟨frame, rfl, rfl, ?_⟩
  unfold pushFrame withFrame
  rw [code]
  rfl

theorem callHost_registered (reachable : context.Reachable)
    (room : context.depth < context.config.maxCallDepth) {function : DebugFunction}
    {id : FunctionId} (registered : context.Registered function id) (arguments : List Value) :
    context.callHost id arguments =
      ((function.run arguments context).1.mapError (Fault.inFunction function.name),
        (function.run arguments context).2) := by
  have code : (context.heap.function id).code = .host function.hostFunction := registered
  obtain ⟨frame, own, base, pushed⟩ := pushFrame_host code arguments
  have introspective : frame.isIntrospective = true := by
    unfold Frame.isIntrospective
    rw [own]
    rfl
  change callHostWith (callHostWithin (nestingLimit - 1)) id arguments context = _
  rcases callHostWith_cases (callHostWithin (nestingLimit - 1)) (fun _ _ _ => []) id arguments
    context with ⟨⟨prototype, script⟩, -⟩ | ⟨-, full, -⟩ | ⟨host, found, -, called, -⟩
  · rw [code] at script
    cases script
  · omega
  · rw [code] at found
    cases found
    have ran := DebugFunction.run_withFrame arguments introspective reachable.intact function
      arguments
    rw [called, pushed]
    change ((function.run arguments (context.withFrame frame arguments)).1.mapError _,
      (function.run arguments (context.withFrame frame arguments)).2.popFrame) = _
    rw [ran]
    dsimp only
    rw [popFrame_withFrame]
    · rfl
    · rw [base, DebugFunction.length_stack_run]

end Context

/-- Below the limit on nested calls, a function of the debug library answers what its checks and its
operation answer on the caller's own context, and leaves the context that they leave. So a traceback
starts at the level of the caller, and a record of a level shows the name and the line that the
caller would find. -/
theorem library_transparent {context : Context} (reachable : context.Reachable)
    (room : context.depth < context.config.maxCallDepth) :
    (context.globals.index < context.heap.tables.size →
      ∀ function : DebugFunction, ∃ id,
        context.openDebug.debugFunction? function.name = some id ∧
        ∀ later : Context, context.openDebug.heap.Grows later.heap →
          later.Registered function id) ∧
    (∀ function id, context.Registered function id → ∀ arguments,
      let (answer, later) := context.afterChecks (context.direct arguments function)
      context.callHost id arguments = (answer.mapError (Fault.inFunction function.name), later)) ∧
    (∀ id, context.Registered .traceback id → ∀ message start, start.isIntegral = true →
      context.callHost id [.text message, .number start] =
        (.ok [.text (context.traceback start.toSignedWord.toNat message)], context)) ∧
    ∀ id, context.Registered .getInfo id →
      ∀ number rest options level mask record, number.isIntegral = true →
      Arguments.textOr Mask.defaultOptions (.number number :: rest) 2 = .ok options →
      0 ≤ number.toSignedWord → context.level? number.toSignedWord.toNat = some level →
      Mask.parse options = .ok mask → context.resolve mask (.level level) = .ok record →
      ∃ table later, context.callHost id (.number number :: rest) = (.ok [.table table], later) ∧
        DebugFunction.Shows mask record (later.heap.table table) := by
  refine ⟨Context.openDebug_registers, ?_, ?_, ?_⟩
  · intro function id registered arguments
    rw [← DebugFunction.run_direct]
    exact Context.callHost_registered reachable room registered arguments
  · intro id registered message start whole
    rw [Context.callHost_registered reachable room registered,
      DebugFunction.run_traceback message whole]
    rfl
  · intro id registered number rest options level mask record whole chosen nonnegative found
      parsed resolved
    have made := DebugFunction.run_getInfo_level whole chosen nonnegative found parsed resolved
    rw [Context.callHost_registered reachable room registered, made]
    exact ⟨_, _, rfl, DebugFunction.recordTable_shows context.heap mask record⟩

def visitHeap : Heap :=
  let main : Prototype :=
    { source := "@sample", stackSize := 1, instructions := [.getGlobal 0 0, .call 0 0 0],
      constants := [.text "visit"], lines := [1, 2] }
  let visit : Prototype :=
    { source := "@sample", lineDefined := 3, instructions := [.«return» 0 0], lines := [4] }
  ((Heap.empty.addFunction { code := .script main }).2.addFunction { code := .script visit }).2

/-- The library was opened, and the main chunk has called the function. -/
def visitCaller : Context :=
  let called := ((Context.create visitHeap {}).openDebug.call ⟨0⟩ []).2
  ((called.setPosition 1).2.call ⟨1⟩ []).2

/-- A traceback from level minus three, the name and the line of level zero, and a local of a level
that does not exist. -/
theorem library_transparent_sample :
    visitCaller.Reachable ∧ visitCaller.depth < visitCaller.config.maxCallDepth ∧
    (∃ id, visitCaller.openDebug.debugFunction? "getinfo" = some id) ∧
    visitCaller.callHost ⟨11⟩ [.text "here", .number ⟨0xC008000000000000⟩] =
      (.ok [.text "here\nsample:4: in function 'visit'\nsample:2: in main chunk"],
        visitCaller) ∧
    (∃ table later, visitCaller.callHost ⟨3⟩ [.number ⟨0⟩, .text "nl"] =
        (.ok [.table table], later) ∧
      (later.heap.table table).get "name" = .text "visit" ∧
      (later.heap.table table).get "currentline" = .number (.ofNat 4)) ∧
    visitCaller.callHost ⟨4⟩ [.number ⟨0x401C000000000000⟩, .number ⟨0⟩] =
      (.error (.argument 1 (some "getlocal") .levelOutOfRange), visitCaller) := by
  have reachable : visitCaller.Reachable :=
    .call _ _ (.setPosition 1 (.call _ _ (.openDebug (.create visitHeap {}))))
  have room : visitCaller.depth < visitCaller.config.maxCallDepth := by decide
  obtain ⟨opened, answers, tracebacks, records⟩ := library_transparent reachable room
  refine ⟨reachable, room, ?_, ?_, ?_, ?_⟩
  · obtain ⟨id, found, -⟩ := opened (by decide) .getInfo
    exact ⟨id, found⟩
  · have lowest : (⟨0xC008000000000000⟩ : Number).toSignedWord.toNat = 0 := by decide +kernel
    have lines : visitCaller.traceback 0 "here" =
        "here\nsample:4: in function 'visit'\nsample:2: in main chunk" := by decide +kernel
    rw [tracebacks ⟨11⟩ rfl "here" ⟨0xC008000000000000⟩ (by decide +kernel), lowest, lines]
  · have zero : (⟨0⟩ : Number).toSignedWord = 0 := by decide +kernel
    have innermost : visitCaller.level? (⟨0⟩ : Number).toSignedWord.toNat =
        some ⟨0, .active 1⟩ := by
      rw [zero]
      rfl
    have named : visitCaller.callerName? 1 = some ⟨.global, "visit"⟩ := by decide +kernel
    have resolved : visitCaller.resolve { name := true, currentLine := true }
        (.level ⟨0, .active 1⟩) =
        .ok { name := (visitCaller.callerName? 1).map ValueName.name
              nameKind := (visitCaller.callerName? 1).map ValueName.kind
              currentLine := some 4 } := rfl
    rw [named] at resolved
    obtain ⟨table, later, called, reported⟩ := records ⟨3⟩ rfl ⟨0⟩ [.text "nl"] "nl" _ _ _
      (by decide +kernel) rfl (Int.le_of_eq zero.symm) innermost rfl resolved
    exact ⟨table, later, called, reported.name rfl, reported.currentLine rfl⟩
  · have seven : (⟨0x401C000000000000⟩ : Number).toSignedWord = 7 := by decide +kernel
    have zero : (⟨0⟩ : Number).toSignedWord = 0 := by decide +kernel
    have level : Arguments.integer [.number ⟨0x401C000000000000⟩, .number ⟨0⟩] 1 = .ok 7 := by
      rw [DebugFunction.integer_of_passed? rfl (by decide +kernel), seven]
    have ordinal : Arguments.integer [.number ⟨0x401C000000000000⟩, .number ⟨0⟩] 2 = .ok 0 := by
      rw [DebugFunction.integer_of_passed? rfl (by decide +kernel), zero]
    have refused : visitCaller.direct [.number ⟨0x401C000000000000⟩, .number ⟨0⟩] .getLocal =
        .error (.argument 1 none .levelOutOfRange) := by
      simp only [Context.direct, level, ordinal]
      rfl
    have called := answers .getLocal ⟨4⟩ rfl [.number ⟨0x401C000000000000⟩, .number ⟨0⟩]
    rw [refused] at called
    exact called

end StackScope
