import StackScope.Proofs.Atomicity
import StackScope.Proofs.StackIntegrity

/-!
What a call of a host function does to the frames of its caller. When the body ends, the innermost
frame is removed, whichever it is. The caller has its frames back exactly when the body has left one
frame on top of them. A body that never works below its own frame leaves the caller's frames
untouched, so for such a body only the number of frames counts.
-/

namespace StackScope

/-- What identifies an activation: its function, its window and the tail calls that led to it. -/
def Frame.outline (frame : Frame) : FunctionId × Nat × Nat × Nat :=
  (frame.function, frame.base, frame.top, frame.tailCalls)

namespace Context

theorem frames_setLocal (context : Context) (level : Level) (ordinal : Nat) (value : Value) :
    (context.setLocal level ordinal value).2.frames = context.frames := by
  rcases context.setLocal_cases level ordinal value with missing | ⟨place, -, made⟩
  · rw [missing]
  · rw [made]
    exact frames_writeSlot context place.frame place.slot value

theorem ObjectsGrow.frames {context later : Context} (effect : context.ObjectsGrow later) :
    later.frames = context.frames := by
  obtain ⟨heap, stringMetatable, -, rfl⟩ := effect
  rfl

end Context

theorem DebugFunction.frames_run (function : DebugFunction) (arguments : List Value)
    (context : Context) : (function.run arguments context).2.frames = context.frames := by
  rcases function.run_cases arguments context with effect | ⟨level, ordinal, value, written⟩
  · exact effect.frames
  · rw [written]
    exact context.frames_setLocal level ordinal value

inductive FrameChange (before : List Frame) : List Frame → Prop
  | same : FrameChange before before
  | pushed (frame : Frame) : FrameChange before (frame :: before)
  | popped : FrameChange before before.tail
  | replaced (frame : Frame) : before ≠ [] → FrameChange before (frame :: before.tail)
  | discarded : FrameChange before []

theorem Operation.Effect.frameChange {operation : Operation} {context later : Context}
    (effect : operation.Effect context later) : FrameChange context.frames later.frames := by
  have replaced : ∀ {frame changed : Frame} {outer : List Frame},
      context.frames = frame :: outer → FrameChange context.frames (changed :: outer) := by
    intro frame changed outer frames
    rw [frames]
    exact .replaced changed (List.cons_ne_nil frame outer)
  cases effect with
  | unchanged | stored | made | shared | configured => exact .same
  | pushed => exact .pushed _
  | popped | dropped =>
      rw [Context.frames_popFrame]
      exact .popped
  | replaced frames =>
      rw [Context.replaceFrame_cons frames]
      exact replaced frames
  | discarded => exact .discarded
  | positioned frames | attached frames => exact replaced frames
  | written | assigned =>
      rw [Context.frames_writeSlot]
      exact .same

/-- The frames of a caller are where they were, or the depth shows that some are gone. -/
def Covers (outer : List Frame) (context : Context) : Prop :=
  outer <:+ context.frames ∨ context.depth < outer.length

namespace Covers

variable {outer : List Frame} {context : Context}

theorem suffix_tail (covers : Covers outer context) (above : outer.length < context.depth) :
    outer <:+ context.frames.tail := by
  rcases covers with ⟨inner, split⟩ | below
  · cases inner with
    | nil =>
        rw [List.nil_append] at split
        rw [Context.depth, ← split] at above
        omega
    | cons frame inner =>
        rw [← split]
        exact List.suffix_append inner outer
  · omega

theorem change (covers : Covers outer context) (above : outer.length < context.depth)
    {after : Context} (change : FrameChange context.frames after.frames) :
    Covers outer after := by
  have below := covers.suffix_tail above
  have all : outer <:+ context.frames := below.trans (List.tail_suffix _)
  unfold Covers Context.depth
  generalize after.frames = frames at change
  cases change with
  | same => exact .inl all
  | pushed frame => exact .inl (all.trans (List.suffix_cons _ _))
  | popped => exact .inl below
  | replaced frame _ => exact .inl (below.trans (List.suffix_cons _ _))
  | discarded =>
      cases outer with
      | nil => exact .inl (List.nil_suffix)
      | cons first rest => exact .inr (Nat.succ_pos _)

theorem congr (covers : Covers outer context) {after : Context}
    (same : after.frames = context.frames) : Covers outer after := by
  unfold Covers Context.depth
  rw [same]
  exact covers

/-- The frame that is removed at the end of a host function may be one of the caller's; then the
depth shows it. -/
theorem popFrame (covers : Covers outer context) : Covers outer context.popFrame := by
  unfold Covers Context.depth
  rw [Context.frames_popFrame, List.length_tail]
  rcases Nat.lt_or_ge outer.length context.depth with above | level
  · exact .inl (covers.suffix_tail above)
  · cases outer with
    | nil => exact .inl List.nil_suffix
    | cons first rest =>
        rw [List.length_cons] at level ⊢
        unfold Context.depth at level
        omega

theorem preserved (outer : List Frame) :
    Preserved (fun _ context => outer.length < context.depth) (Covers outer) where
  step := fun other above covers callHost cells =>
    covers.change above (Operation.execute_effect other callHost cells _).frameChange
  enter := fun above covers => covers.change above (Context.call_effect _ _ _).frameChange
  leave := fun covers => covers.popFrame
  library := fun _ _ _ covers => covers.congr (DebugFunction.frames_run _ _ _)

/-- At the depth of the caller, or above it, nothing of the caller is missing. -/
theorem frames_eq (covers : Covers outer context) (level : context.depth = outer.length) :
    context.frames = outer := by
  rcases covers with suffix | below
  · exact (suffix.eq_of_length level.symm).symm
  · omega

end Covers

namespace Context

variable (context : Context) (function : FunctionId) (arguments : List Value)

/-- The context in which the body of a host function ends, if the body runs at all. The function's
own frame has not been removed yet. -/
def bodyEnd? : Option Context :=
  match (context.heap.function function).code with
  | .script _ => none
  | .host host =>
      if context.depth < context.config.maxCallDepth then
        some (host.body.run (callHostWithin (nestingLimit - 1)) arguments
          (context.pushFrame function arguments)).2
      else none

theorem callHost_of_bodyEnd?_eq_none (silent : context.bodyEnd? function arguments = none) :
    (context.callHost function arguments).2 = context := by
  apply callHost_refused
  unfold bodyEnd? at silent
  split at silent
  · rename_i prototype script
    rw [script]
    exact .inl rfl
  · split at silent
    · cases silent
    · exact .inr (by omega)

variable {context function arguments}

theorem callHost_of_bodyEnd?_eq_some {ended : Context}
    (ran : context.bodyEnd? function arguments = some ended) :
    (context.callHost function arguments).2 = ended.popFrame := by
  change (callHostWith (callHostWithin (nestingLimit - 1)) function arguments context).2 = _
  unfold bodyEnd? at ran
  rcases callHostWith_cases (callHostWithin (nestingLimit - 1)) (fun _ _ _ => []) function arguments
    context with ⟨⟨prototype, script⟩, -⟩ | ⟨⟨host, code⟩, full, -⟩ | ⟨host, code, room, called, -⟩
  · simp [script] at ran
  · simp [code, Nat.not_lt.mpr full] at ran
  · simp only [code, room, if_true, Option.some.injEq] at ran
    rw [called, ← ran]

/-- A body that works above the frames of the caller leaves them alone, up to the end of the
call. -/
theorem covers_bodyEnd? {ended : Context} (ran : context.bodyEnd? function arguments = some ended)
    (above : ∀ event ∈ context.hostEvents function arguments,
      context.depth < event.context.depth) :
    Covers context.frames ended := by
  have calls := (Covers.preserved context.frames).callHostWithin (nestingLimit - 1)
  unfold bodyEnd? at ran
  rcases callHostWith_cases (callHostWithin (nestingLimit - 1))
    (hostEventsWithin (nestingLimit - 1)) function arguments context with
    ⟨⟨prototype, script⟩, -⟩ | ⟨⟨host, code⟩, full, -⟩ | ⟨host, code, room, -, events⟩
  · simp [script] at ran
  · simp [code, Nat.not_lt.mpr full] at ran
  · simp only [code, room, if_true, Option.some.injEq] at ran
    change ∀ event ∈ hostEventsWith (callHostWithin (nestingLimit - 1))
      (hostEventsWithin (nestingLimit - 1)) function arguments context, _ at above
    rw [events] at above
    have entered : Covers context.frames (context.pushFrame function arguments) :=
      .inl (List.suffix_cons _ _)
    have library : ∀ debug : DebugFunction, host.body = .debug debug →
        Covers context.frames (debug.run arguments (context.pushFrame function arguments)).2 :=
      fun debug _ => entered.congr (debug.frames_run arguments _)
    rw [← ran]
    exact ((Covers.preserved context.frames).body calls host.body arguments library entered above).2

end Context

/-- A call of a host function that does not run leaves the context alone. One that runs gives the
caller its frames back exactly when its body has left one frame on top of them, or none where the
caller had none either. If the body never works below its own frame, it is enough that the depth is
the same again, and then the caller's frames have not even been touched. -/
theorem callHost_restores_frames (context : Context) (function : FunctionId)
    (arguments : List Value) :
    (context.bodyEnd? function arguments = none →
      (context.callHost function arguments).2 = context) ∧
    ∀ ended, context.bodyEnd? function arguments = some ended →
      ((context.callHost function arguments).2.frames.map Frame.outline =
          context.frames.map Frame.outline ↔
        (∃ own, ended.frames.map Frame.outline = own :: context.frames.map Frame.outline) ∨
          (ended.frames = [] ∧ context.frames = [])) ∧
      ((∀ event ∈ context.hostEvents function arguments,
          context.depth < event.context.depth) →
        ((context.callHost function arguments).2.frames.map Frame.outline =
            context.frames.map Frame.outline ↔ ended.depth - 1 = context.depth) ∧
        (ended.depth - 1 = context.depth →
          (context.callHost function arguments).2.frames = context.frames)) := by
  refine ⟨context.callHost_of_bodyEnd?_eq_none function arguments, ?_⟩
  intro ended ran
  rw [Context.callHost_of_bodyEnd?_eq_some ran, Context.frames_popFrame]
  constructor
  · cases frames : ended.frames with
    | nil => simp [eq_comm]
    | cons own rest => simp
  · intro above
    have popped := (Context.covers_bodyEnd? ran above).popFrame
    have depth : ended.popFrame.depth = ended.depth - 1 := by
      rw [Context.depth, Context.frames_popFrame, List.length_tail]
      rfl
    have restored : ended.depth - 1 = context.depth → ended.frames.tail = context.frames := by
      intro level
      rw [← Context.frames_popFrame]
      exact popped.frames_eq (depth.trans level)
    refine ⟨⟨?_, fun level => by rw [restored level]⟩, restored⟩
    intro same
    have lengths := congrArg List.length same
    rw [List.length_map, List.length_map, List.length_tail] at lengths
    exact lengths

def sampleCaller : Context := ((Context.create sampleHeap {}).call ⟨0⟩ []).2

/-- The host function of the sample calls, captures and returns, and its caller is as before. -/
theorem callHost_restores_frames_sample :
    sampleCaller.depth = 1 ∧ (sampleCaller.hostEvents ⟨1⟩ []).length = 3 ∧
      (sampleCaller.callHost ⟨1⟩ []).2.frames = sampleCaller.frames := by
  have above : ∀ event ∈ sampleCaller.hostEvents ⟨1⟩ [],
      sampleCaller.depth < event.context.depth := by
    decide
  exact ⟨rfl, by decide,
    (((callHost_restores_frames sampleCaller ⟨1⟩ []).2 _ rfl).2 above).2 rfl⟩

/-- A script function, a host function that leaves a frame of it behind, and a host function that
removes one frame. -/
def unbalancedHeap : Heap :=
  let leaver : HostFunction :=
    { name := "leaver"
      body := .program fun _ => .perform (.call ⟨0⟩ []) fun _ => .finish (.ok []) }
  let remover : HostFunction :=
    { name := "remover"
      body := .program fun _ => .perform .returnFromCall fun _ => .finish (.ok []) }
  let heap := (Heap.empty.addFunction { code := .script { source := "@sample" } }).2
  ((heap.addFunction { code := .host leaver }).2.addFunction { code := .host remover }).2

def unbalancedCaller : Context := ((Context.create unbalancedHeap {}).call ⟨0⟩ []).2

/-- Neither function discards all frames, and yet after the first a frame too many is left, the one
of the host function itself, and after the second the caller's frame is gone. -/
theorem callHost_not_balanced :
    unbalancedCaller.Reachable ∧
    (∀ event ∈ unbalancedCaller.hostEvents ⟨1⟩ [] ++ unbalancedCaller.hostEvents ⟨2⟩ [],
      event.operation ≠ .unwind) ∧
    (unbalancedCaller.callHost ⟨1⟩ []).1 = .ok [] ∧
    (unbalancedCaller.callHost ⟨1⟩ []).2.frames.map Frame.outline =
      [(⟨1⟩, 0, 0, 0), (⟨0⟩, 0, 0, 0)] ∧
    (unbalancedCaller.callHost ⟨2⟩ []).1 = .ok [] ∧
    (unbalancedCaller.callHost ⟨2⟩ []).2.frames.map Frame.outline = [] ∧
    unbalancedCaller.frames.map Frame.outline = [(⟨0⟩, 0, 0, 0)] := by
  refine ⟨.call _ _ (.create _ _), ?_, rfl, by decide, rfl, by decide, by decide⟩
  intro event member
  have asked : unbalancedCaller.hostEvents ⟨1⟩ [] ++ unbalancedCaller.hostEvents ⟨2⟩ [] =
      [⟨.call ⟨0⟩ [], _, _, _⟩, ⟨.returnFromCall, _, _, _⟩] := rfl
  rw [asked] at member
  rcases List.mem_cons.mp member with same | member
  · rw [same]
    exact fun impossible => by cases impossible
  · rw [List.mem_singleton.mp member]
    exact fun impossible => by cases impossible

end StackScope
