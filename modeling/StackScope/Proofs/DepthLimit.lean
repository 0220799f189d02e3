import StackScope.Proofs.StackIntegrity

/-!
The limit on the depth of calls. In a run that does not change its settings the depth never exceeds
the limit, so a call finds no room exactly at the limit. A tail call takes the place of the current
frame and therefore always finds room: it stays at the same depth and at the same base, however many
tail calls came before it.
-/

namespace StackScope

def Operation.KeepsConfig (operation : Operation) : Prop :=
  match operation with
  | setConfig _ => False
  | _ => True

instance (operation : Operation) : Decidable operation.KeepsConfig :=
  match operation with
  | .setConfig _ => isFalse id
  | .call _ _ | .tailCall _ _ | .callHost _ _ | .returnFromCall | .unwind | .setPosition _
  | .readRegister _ | .writeRegister _ _ | .capture _ | .readCell _ | .writeCell _ _
  | .sameCell _ _ | .makeClosure _ _ | .getLocal _ _ | .setLocal _ _ _ | .getUpvalue _ _
  | .setUpvalue _ _ _ | .depth | .levelCount | .lookupLevel _ | .traceback _ _ => isTrue trivial

namespace Context

structure Limited (config : Config) (context : Context) : Prop where
  intact : context.Intact
  settings : context.config = config
  depth : context.depth ≤ config.maxCallDepth

namespace Limited

variable {config : Config} {context later : Context}

/-- A step that adds no frame. -/
theorem noDeeper (limited : Limited config context) (intact : later.Intact)
    (settings : later.config = context.config)
    (frames : later.frames.length ≤ context.frames.length) : Limited config later where
  intact := intact
  settings := settings.trans limited.settings
  depth := Nat.le_trans frames limited.depth

theorem popFrame (limited : Limited config context) : Limited config context.popFrame := by
  refine limited.noDeeper limited.intact.popFrame (config_popFrame context) ?_
  rw [frames_popFrame, List.length_tail]
  exact Nat.sub_le _ 1

theorem writeSlot (limited : Limited config context) (frame : Frame) (slot : Nat)
    (value : Value) : Limited config (context.writeSlot frame slot value) := by
  refine limited.noDeeper (limited.intact.writeSlot frame slot value)
    (context.config_writeSlot frame slot value) (Nat.le_of_eq ?_)
  rw [frames_writeSlot]

theorem pushFrame (limited : Limited config context)
    (room : context.depth < context.config.maxCallDepth) (function : FunctionId)
    (arguments : List Value) : Limited config (context.pushFrame function arguments) where
  intact := limited.intact.pushFrame function arguments
  settings := limited.settings
  depth := by
    rw [limited.settings] at room
    exact room

theorem effect (limited : Limited config context) {operation : Operation}
    (keeps : operation.KeepsConfig) (effect : operation.Effect context later) :
    Limited config later := by
  have intact := limited.intact.effect effect
  cases effect with
  | unchanged => exact limited
  | pushed room => exact limited.pushFrame room _ _
  | popped | dropped => exact limited.popFrame
  | replaced frames room =>
      rw [replaceFrame_cons frames] at intact ⊢
      exact limited.noDeeper intact rfl (by simp [frames])
  | discarded => exact limited.noDeeper intact rfl (Nat.zero_le _)
  | positioned frames => exact limited.noDeeper intact rfl (by simp [frames])
  | attached frames => exact limited.noDeeper intact rfl (by simp [frames, attachCell])
  | written | assigned => exact limited.writeSlot _ _ _
  | stored | made | shared => exact limited.noDeeper intact rfl (Nat.le_refl _)
  | configured => exact keeps.elim

theorem objects (limited : Limited config context) (objects : context.ObjectsGrow later) :
    Limited config later := by
  have intact := limited.intact.objects objects
  obtain ⟨heap, stringMetatable, -, same⟩ := objects
  rw [same] at intact ⊢
  exact limited.noDeeper intact rfl (Nat.le_refl _)

theorem kept : Kept (fun operation _ => operation.KeepsConfig) (Limited config) where
  objects := fun objects limited => limited.objects objects
  effect := fun keeps effect limited => limited.effect keeps effect

end Limited

/-- What the limit means for the next call and for the next tail call. -/
structure DepthLaws (config : Config) (context : Context) : Prop where
  depth : context.depth ≤ config.maxCallDepth
  overflow : ∀ function arguments limit,
    (context.call function arguments).1 = .error (.stackOverflow limit) ↔
      context.depth = config.maxCallDepth ∧ limit = config.maxCallDepth
  called : ∀ function arguments, context.depth ≠ config.maxCallDepth →
    (context.call function arguments).1 = .ok () ∧
      (context.call function arguments).2.depth = context.depth + 1
  noOverflow : ∀ function arguments limit,
    (context.tailCall function arguments).1 ≠ .error (.stackOverflow limit)
  /-- Only the kinds of the two functions decide whether a tail call is made. -/
  granted : ∀ function arguments, (context.tailCall function arguments).1 = .ok () ↔
    (∃ frame ∈ context.currentFrame?, frame.isHost = false) ∧
      (context.heap.function function).code.isHost = false
  tailCalled : ∀ function arguments, (context.tailCall function arguments).1 = .ok () →
    ∃ frame replacing outer prototype,
      context.frames = frame :: outer ∧
      (context.tailCall function arguments).2.frames = replacing :: outer ∧
      (context.tailCall function arguments).2.depth = context.depth ∧
      replacing.function = function ∧ replacing.base = frame.base ∧
      (context.heap.function function).code = .script prototype ∧
      (context.tailCall function arguments).2.stack.length =
        frame.base + prototype.windowSize

namespace Limited

variable {config : Config} {context : Context}

/-- A tail call is refused for the kinds of its functions, or it is made. The third way, to be
refused for want of room, would need more frames than the limit allows. -/
theorem tailCall_cases (limited : Limited config context) (function : FunctionId)
    (arguments : List Value) :
    ((∀ frame ∈ context.currentFrame?,
        frame.isHost = true ∨ (context.heap.function function).code.isHost = true) ∧
      ∃ cause, context.tailCall function arguments = (.error (.runtime cause), context)) ∨
    ∃ frame outer prototype, context.frames = frame :: outer ∧ frame.isHost = false ∧
      (context.heap.function function).code = .script prototype ∧
      context.tailCall function arguments =
        (.ok (), context.replaceFrame function arguments (Word.nextCount frame.tailCalls)) := by
  rcases context.tailCall_cases function arguments with
    early | ⟨frame, outer, frames, script, target, ⟨full, -⟩ | ⟨-, made⟩⟩
  · exact .inl early
  · have depth := limited.depth
    rw [Context.depth, frames, List.length_cons] at depth
    rw [limited.settings] at full
    omega
  · obtain ⟨prototype, code⟩ := Code.isHost_eq_false.mp target
    exact .inr ⟨frame, outer, prototype, frames, script, code, made⟩

theorem call_overflow_iff (limited : Limited config context) (function : FunctionId)
    (arguments : List Value) (limit : Nat) :
    (context.call function arguments).1 = .error (.stackOverflow limit) ↔
      context.depth = config.maxCallDepth ∧ limit = config.maxCallDepth := by
  have depth := limited.depth
  rw [← limited.settings] at depth ⊢
  rcases context.call_cases function arguments with ⟨full, refused⟩ | ⟨room, made⟩
  · have level : context.depth = context.config.maxCallDepth := Nat.le_antisymm depth full
    simp only [refused, Except.error.injEq, Fault.stackOverflow.injEq, level, true_and]
    exact eq_comm
  · simp only [made, reduceCtorEq, false_iff]
    rintro ⟨level, -⟩
    exact Nat.ne_of_lt room level

theorem call_of_ne (limited : Limited config context)
    (below : context.depth ≠ config.maxCallDepth) (function : FunctionId)
    (arguments : List Value) :
    context.call function arguments = (.ok (), context.pushFrame function arguments) := by
  apply call_of_room
  rw [limited.settings]
  exact Nat.lt_of_le_of_ne limited.depth below

theorem tailCall_ne_overflow (limited : Limited config context) (function : FunctionId)
    (arguments : List Value) (limit : Nat) :
    (context.tailCall function arguments).1 ≠ .error (.stackOverflow limit) := by
  rcases limited.tailCall_cases function arguments with
    ⟨-, cause, refused⟩ | ⟨frame, outer, prototype, -, -, -, made⟩
  · rw [refused]
    exact nofun
  · rw [made]
    exact nofun

theorem tailCall_granted_iff (limited : Limited config context) (function : FunctionId)
    (arguments : List Value) :
    (context.tailCall function arguments).1 = .ok () ↔
      (∃ frame ∈ context.currentFrame?, frame.isHost = false) ∧
        (context.heap.function function).code.isHost = false := by
  rcases limited.tailCall_cases function arguments with
    ⟨early, cause, refused⟩ | ⟨frame, outer, prototype, frames, script, code, made⟩
  · simp only [refused, reduceCtorEq, false_iff]
    rintro ⟨⟨frame, current, script⟩, target⟩
    rcases early frame current with host | host
    · rw [script] at host
      cases host
    · rw [target] at host
      cases host
  · simp only [made, true_iff]
    refine ⟨⟨frame, ?_, script⟩, ?_⟩
    · rw [currentFrame?, frames]
      rfl
    · rw [code]
      rfl

/-- The window of the new frame begins where the window of the replaced one began, and nothing lies
above it. -/
theorem tailCall_placed (limited : Limited config context) {function : FunctionId}
    {arguments : List Value} (made : (context.tailCall function arguments).1 = .ok ()) :
    ∃ frame replacing outer prototype,
      context.frames = frame :: outer ∧
      (context.tailCall function arguments).2.frames = replacing :: outer ∧
      (context.tailCall function arguments).2.depth = context.depth ∧
      replacing.function = function ∧ replacing.base = frame.base ∧
      (context.heap.function function).code = .script prototype ∧
      (context.tailCall function arguments).2.stack.length =
        frame.base + prototype.windowSize := by
  rcases limited.tailCall_cases function arguments with
    ⟨-, cause, refused⟩ | ⟨frame, outer, prototype, frames, -, code, replaced⟩
  · rw [refused] at made
    cases made
  · have below : (context.stack.take frame.base).length = frame.base := by
      have tiled := limited.intact.tiled
      rw [frames] at tiled
      obtain ⟨ordered, top, -⟩ := tiled
      rw [List.length_take]
      omega
    rw [replaced, replaceFrame_cons frames]
    refine ⟨frame, _, outer, prototype, frames, rfl, ?_, rfl, below, code, ?_⟩
    · rw [Context.depth, Context.depth, frames, List.length_cons, List.length_cons]
    · rw [code, List.length_append, below, length_initialWindow_script]

theorem laws (limited : Limited config context) : DepthLaws config context where
  depth := limited.depth
  overflow := limited.call_overflow_iff
  called := by
    intro function arguments below
    rw [limited.call_of_ne below]
    exact ⟨rfl, rfl⟩
  noOverflow := limited.tailCall_ne_overflow
  granted := limited.tailCall_granted_iff
  tailCalled := fun _ _ made => limited.tailCall_placed made

end Limited

end Context

/-- As long as the settings of a new context are kept, the limit holds after any operations, and in
a run whenever an operation is asked for, inside of host functions too, and at the end. A call is
refused exactly at the limit, and a tail call never for want of room. -/
theorem depth_limited (heap : Heap) (config : Config) :
    (∀ context,
      (Context.create heap config).LeadsTo (fun operation _ => operation.KeepsConfig) context →
        context.DepthLaws config) ∧
    ∀ (cells : List CellId) (program : HostProgram),
      Preserved.Allows (fun operation _ => operation.KeepsConfig)
          ((Context.create heap config).programEvents cells program) →
        Preserved.Throughout (Context.DepthLaws config)
          ((Context.create heap config).programEvents cells program)
          ((Context.create heap config).runProgram cells program).2 := by
  have start : (Context.create heap config).Limited config :=
    ⟨.create heap config, rfl, Nat.zero_le _⟩
  refine ⟨fun context leads => (leads.keeps Context.Limited.kept start).laws, ?_⟩
  intro cells program keeps
  have permits : Permits fun operation _ => operation.KeepsConfig :=
    ⟨fun _ => trivial, fun _ => trivial, fun _ _ _ _ => trivial⟩
  obtain ⟨during, after⟩ :=
    (Context.Limited.kept.preserved permits).run start cells program keeps
  exact ⟨fun event member => (during event member).laws, after.laws⟩

/-- A script function calls itself as a tail call, twice, and then a host function at the limit. -/
def tailCallingProgram : HostProgram :=
  .perform (.call ⟨0⟩ []) fun _ =>
    .perform (.tailCall ⟨0⟩ []) fun _ =>
      .perform (.tailCall ⟨0⟩ []) fun _ =>
        .perform (.callHost ⟨1⟩ []) fun _ => .finish (.ok [])

/-- The host function finds no room for the call that it makes, and returns once too often. -/
theorem depth_limited_nested :
    let start := Context.create sampleHeap { maxCallDepth := 2 }
    start.LeadsTo (fun operation _ => operation.KeepsConfig) (start.call ⟨0⟩ []).2 ∧
    Context.DepthLaws { maxCallDepth := 2 } (start.call ⟨0⟩ []).2 ∧
    Preserved.Allows (fun operation _ => operation.KeepsConfig)
      (start.programEvents [] tailCallingProgram) ∧
    (start.programEvents [] tailCallingProgram).map (fun event => event.context.depth) =
      [0, 1, 1, 1, 2, 2, 2] ∧
    (start.runProgram [] tailCallingProgram).2.depth = 0 ∧
    Preserved.Throughout (Context.DepthLaws { maxCallDepth := 2 })
      (start.programEvents [] tailCallingProgram)
      (start.runProgram [] tailCallingProgram).2 := by
  intro start
  have leads : start.LeadsTo (fun operation _ => operation.KeepsConfig) (start.call ⟨0⟩ []).2 :=
    .call .refl trivial
  have keeps : Preserved.Allows (fun operation _ => operation.KeepsConfig)
      (start.programEvents [] tailCallingProgram) := by
    unfold Preserved.Allows
    decide
  obtain ⟨laws, runs⟩ := depth_limited sampleHeap { maxCallDepth := 2 }
  exact ⟨leads, laws _ leads, keeps, by decide, by decide, runs [] tailCallingProgram keeps⟩

end StackScope
