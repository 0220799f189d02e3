import StackScope.Record

/-!
Records under different masks. A target has one full record, and a mask only chooses among its
fields. A record of a frame is that of the frame's function, apart from the line and the name, which
belong to the call.
-/

namespace StackScope

def Instruction.isCall : Instruction → Bool
  | call _ _ _ | tailCall _ _ => true
  | _ => false

/-- A script frame that waits for a call to return. -/
def Frame.AtCall (frame : Frame) : Prop :=
  ∃ prototype instruction, frame.code = .script prototype ∧
    prototype.instructions[frame.position]? = some instruction ∧ instruction.isCall = true

namespace Record

def select (mask : Mask) (record : Record) : Record where
  name := if mask.name then record.name else none
  nameKind := if mask.name then record.nameKind else none
  kind := if mask.source then record.kind else none
  source := if mask.source then record.source else none
  shortSource := if mask.source then record.shortSource else none
  currentLine := if mask.currentLine then record.currentLine else none
  lineDefined := if mask.source then record.lineDefined else none
  lastLineDefined := if mask.source then record.lastLineDefined else none
  upvalueCount := if mask.upvalues then record.upvalueCount else none
  function := if mask.function then record.function else none
  activeLines := if mask.activeLines then record.activeLines else none

def apartFromCall (record : Record) : Record :=
  { record with name := none, nameKind := none, currentLine := none }

theorem describeCode_select (mask : Mask) (code : Code) :
    describeCode mask code = (describeCode .all code).select mask := by
  cases code with
  | script prototype => simp [describeCode, select, Mask.all]
  | host function => simp [describeCode, select, Mask.all]

theorem ofFunction_select (heap : Heap) (mask : Mask) (function : FunctionId) :
    ofFunction heap mask function = (ofFunction heap .all function).select mask := by
  unfold ofFunction
  dsimp only
  rw [describeCode_select mask]
  simp [select, Mask.all]

theorem ofTailCall_select (mask : Mask) : ofTailCall mask = (ofTailCall .all).select mask := by
  simp [ofTailCall, select, Mask.all]

/-- Code that is not being executed has neither a line nor a name. -/
theorem describeCode_call (mask : Mask) (code : Code) :
    (describeCode mask code).currentLine = none ∧ (describeCode mask code).name = none ∧
      (describeCode mask code).nameKind = none := by
  cases code <;> exact ⟨rfl, rfl, rfl⟩

theorem apartFromCall_ofFunction (heap : Heap) (mask : Mask) (function : FunctionId) :
    (ofFunction heap mask function).apartFromCall = ofFunction heap mask function := by
  obtain ⟨line, name, kind⟩ := describeCode_call mask (heap.function function).code
  simp only [apartFromCall, ofFunction, line, name, kind]

end Record

namespace Context

variable {context : Context}

theorem resolveLevel_select (mask : Mask) (level : Level) :
    context.resolveLevel mask level =
      (context.resolveLevel .all level).map (Record.select mask) := by
  unfold resolveLevel
  cases level.slot with
  | tailCall => exact congrArg Except.ok (Record.ofTailCall_select mask)
  | active index =>
      cases present : context.frameAt? index with
      | none => simp only [present, Except.map]
      | some frame =>
          simp only [present, Except.map]
          rw [Record.ofFunction_select context.heap mask]
          by_cases named : mask.name = true <;> simp [Record.select, Mask.all, named]

theorem resolve_value_select (mask : Mask) (value : Value) :
    context.resolve mask (.value value) =
      (context.resolve .all (.value value)).map (Record.select mask) := by
  cases value with
  | function function =>
      exact congrArg Except.ok (Record.ofFunction_select context.heap mask function)
  | _ => rfl

theorem resolve_select {mask : Mask} (plain : mask.fromFunction = false) (target : Target) :
    context.resolve mask target = (context.resolve .all target).map (Record.select mask) := by
  cases target with
  | value value => exact resolve_value_select mask value
  | level level =>
      unfold resolve
      rw [plain]
      exact resolveLevel_select mask level

theorem named_of_resolveLevel {mask : Mask} {level : Level} {record : Record}
    (resolved : context.resolveLevel mask level = .ok record) :
    record.name.isSome = record.nameKind.isSome := by
  unfold resolveLevel at resolved
  split at resolved
  · cases resolved
    rfl
  · split at resolved
    · cases resolved
    · cases resolved
      dsimp only
      rw [Option.isSome_map, Option.isSome_map]

/-- A name and how the function got it are known together. -/
theorem named_of_resolve {mask : Mask} {target : Target} {record : Record}
    (resolved : context.resolve mask target = .ok record) :
    record.name.isSome = record.nameKind.isSome := by
  cases target with
  | value value =>
      cases value with
      | function function =>
          cases resolved
          obtain ⟨-, name, kind⟩ :=
            Record.describeCode_call mask (context.heap.function function).code
          change (Record.describeCode mask _).name.isSome =
            (Record.describeCode mask _).nameKind.isSome
          rw [name, kind]
          rfl
      | _ => cases resolved
  | level level =>
      change (if mask.fromFunction = true then Except.error (Fault.invalidOption '>')
        else context.resolveLevel mask level) = .ok record at resolved
      split at resolved
      · cases resolved
      · exact named_of_resolveLevel resolved

theorem resolve_active {level : Level} {index : Nat} {frame : Frame}
    (active : level.slot = .active index) (present : context.frameAt? index = some frame) :
    context.resolve .all (.level level) =
      .ok { Record.ofFunction context.heap .all frame.function with
        currentLine := frame.currentLine?
        name := (context.callerName? index).map ValueName.name
        nameKind := (context.callerName? index).map ValueName.kind } := by
  change context.resolveLevel .all level = _
  unfold resolveLevel
  rw [active]
  dsimp only
  rw [present]
  rfl

theorem resolve_tailCall {level : Level} (tail : level.slot = .tailCall) :
    context.resolve .all (.level level) = .ok (.ofTailCall .all) := by
  change context.resolveLevel .all level = _
  unfold resolveLevel
  rw [tail]

/-- The frame of the level is gone. -/
theorem resolve_stale {level : Level} {index : Nat} (active : level.slot = .active index)
    (absent : context.frameAt? index = none) :
    context.resolve .all (.level level) = .error (.invalidTarget (.levelGone level.number)) := by
  change context.resolveLevel .all level = _
  unfold resolveLevel
  rw [active]
  dsimp only
  rw [absent]

theorem currentLine?_of_isHost {frame : Frame} (host : frame.isHost = true) :
    frame.currentLine? = none := by
  unfold Frame.isHost at host
  unfold Frame.currentLine? Frame.prototype?
  cases code : frame.code with
  | script prototype =>
      rw [code] at host
      cases host
  | host function => rfl

theorem isCall_of_calleeName? {prototype : Prototype} {position : Nat} {name : ValueName}
    (named : prototype.calleeName? position = some name) :
    ∃ instruction, prototype.instructions[position]? = some instruction ∧
      instruction.isCall = true := by
  unfold Prototype.calleeName? at named
  split at named
  · rename_i present
    exact ⟨_, present, rfl⟩
  · rename_i present
    exact ⟨_, present, rfl⟩
  · cases named

/-- A name is read from a call in the next outer frame. -/
theorem callerName?_cases {index : Nat} {frame : Frame} {name : ValueName}
    (present : context.frameAt? index = some frame)
    (named : context.callerName? index = some name) :
    frame.tailCalls = 0 ∧
      ∃ outer caller, index = outer + 1 ∧ context.frameAt? outer = some caller ∧
        caller.AtCall := by
  unfold callerName? at named
  rw [present] at named
  change (if 0 < frame.tailCalls then none else _) = some name at named
  split at named
  · cases named
  · rename_i plain
    refine ⟨Nat.eq_zero_of_not_pos plain, ?_⟩
    cases index with
    | zero => cases named
    | succ outer =>
        obtain ⟨caller, found, named⟩ := Option.bind_eq_some_iff.mp named
        obtain ⟨prototype, script, named⟩ := Option.bind_eq_some_iff.mp named
        obtain ⟨instruction, stopped, call⟩ := isCall_of_calleeName? named
        refine ⟨outer, caller, rfl, found, prototype, instruction, ?_, stopped, call⟩
        unfold Frame.prototype? at script
        cases code : caller.code with
        | script other =>
            rw [code] at script
            cases script
            rfl
        | host function =>
            rw [code] at script
            cases script

/-- The records of an active frame and of its function. -/
structure FrameRecord (context : Context) (index : Nat) (frame : Frame) (record static : Record) :
    Prop where
  sameFunction : record.apartFromCall = static
  /-- A function by itself has neither a line nor a name. -/
  static : static.currentLine = none ∧ static.name = none ∧ static.nameKind = none
  hostLine : frame.isHost = true → record.currentLine = none
  called : ∀ name, record.name = some name → frame.tailCalls = 0 ∧
    ∃ outer caller, index = outer + 1 ∧ context.frameAt? outer = some caller ∧ caller.AtCall

end Context

/-- A mask selects fields of the full record, and changes neither what they say nor whether there
is a record at all. The full record of a frame is that of its function but for the line and the
name. -/
theorem masks_select (context : Context) :
    (∀ mask : Mask, mask.fromFunction = false → ∀ target,
      context.resolve mask target = (context.resolve .all target).map (Record.select mask)) ∧
    (∀ mask target record, context.resolve mask target = .ok record →
      record.name.isSome = record.nameKind.isSome) ∧
    (∀ level index frame, level.slot = .active index → context.frameAt? index = some frame →
      ∃ record static, context.resolve .all (.level level) = .ok record ∧
        context.resolve .all (.value (.function frame.function)) = .ok static ∧
        context.FrameRecord index frame record static) ∧
    ∀ level, level.slot = .tailCall → ∃ record, context.resolve .all (.level level) = .ok record ∧
      record.currentLine = none ∧ record.name = none ∧ record.nameKind = none := by
  refine ⟨fun mask plain target => Context.resolve_select plain target, ?_, ?_, ?_⟩
  · intro mask target record resolved
    exact Context.named_of_resolve resolved
  · intro level index frame active present
    refine ⟨_, _, Context.resolve_active active present, rfl, ?_, ?_, ?_, ?_⟩
    · exact Record.apartFromCall_ofFunction context.heap .all frame.function
    · exact Record.describeCode_call .all _
    · exact Context.currentLine?_of_isHost
    · intro name named
      obtain ⟨caller, called, -⟩ := Option.map_eq_some_iff.mp named
      exact Context.callerName?_cases present called
  · intro level tail
    exact ⟨.ofTailCall .all, Context.resolve_tailCall tail, rfl, rfl, rfl⟩

def visitContext : Context :=
  let main : Prototype :=
    { source := "@sample", stackSize := 1, instructions := [.getGlobal 0 0, .call 0 0 0],
      constants := [.text "visit"], lines := [1, 2] }
  let visit : Prototype := { source := "@sample", lineDefined := 3, lines := [4, 5, 4] }
  let heap := (Heap.empty.addFunction { code := .script main }).2
  let created := Context.create (heap.addFunction { code := .script visit }).2 {}
  (((created.call ⟨0⟩ []).2.setPosition 1).2.call ⟨1⟩ []).2

/-- Its name alone, and all that is known of it. -/
theorem masks_select_visit :
    ∃ record static frame, visitContext.frameAt? 1 = some frame ∧ frame.function = ⟨1⟩ ∧
      visitContext.resolve .all (.level ⟨0, .active 1⟩) = .ok record ∧
      visitContext.resolve .all (.value (.function ⟨1⟩)) = .ok static ∧
      visitContext.FrameRecord 1 frame record static ∧
      record.name = some "visit" ∧ record.nameKind = some .global ∧ record.activeLines = some [4, 5] ∧
      visitContext.resolve { name := true } (.level ⟨0, .active 1⟩) =
        .ok (record.select { name := true }) := by
  obtain ⟨masks, -, frames, -⟩ := masks_select visitContext
  obtain ⟨record, static, full, alone, laws⟩ := frames ⟨0, .active 1⟩ 1 _ rfl rfl
  have known := Except.ok.inj ((Context.resolve_active rfl rfl).symm.trans full)
  have name : record.name = some "visit" := by
    rw [← known]
    decide +kernel
  have kind : record.nameKind = some .global := by
    rw [← known]
    decide +kernel
  have lines : record.activeLines = some [4, 5] := by
    rw [← known]
    decide +kernel
  refine ⟨record, static, _, rfl, rfl, full, alone, laws, name, kind, lines, ?_⟩
  rw [masks { name := true } rfl, full]
  rfl

end StackScope
