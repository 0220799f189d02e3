import StackScope.Host.Run
import StackScope.Proofs.Integrity
import StackScope.Proofs.LibraryEffect

/-!
The effects of operations, all in one relation. An operation that is not a call of a host function
leaves the context alone or makes one of a few changes, each under the condition that the operation
checks. What such an operation keeps is shown by going through these changes.
-/

namespace StackScope

/-- What an operation other than a call of a host function can make of a context. -/
inductive Operation.Effect (context : Context) : Operation → Context → Prop
  | unchanged (operation : Operation) : Effect context operation context
  | pushed {function : FunctionId} {arguments : List Value} :
      context.depth < context.config.maxCallDepth →
        Effect context (.call function arguments) (context.pushFrame function arguments)
  | popped : context.frames ≠ [] → Effect context .returnFromCall context.popFrame
  /-- A tail call that is refused after the current frame is gone. -/
  | dropped {function : FunctionId} {arguments : List Value} {frame : Frame}
      {outer : List Frame} :
      context.frames = frame :: outer → context.config.maxCallDepth ≤ outer.length →
        Effect context (.tailCall function arguments) context.popFrame
  | replaced {function : FunctionId} {arguments : List Value} {frame : Frame}
      {outer : List Frame} :
      context.frames = frame :: outer → outer.length < context.config.maxCallDepth →
      (context.heap.function function).code.isHost = false →
        Effect context (.tailCall function arguments)
          (context.replaceFrame function arguments (Word.nextCount frame.tailCalls))
  | discarded : Effect context .unwind context.unwind
  | positioned {position : Nat} {frame : Frame} {outer : List Frame} {prototype : Prototype} :
      context.frames = frame :: outer → frame.code = .script prototype →
      position < prototype.instructions.length →
        Effect context (.setPosition position)
          { context with frames := { frame with position } :: outer }
  | written {register slot : Nat} {value : Value} {frame : Frame} {outer : List Frame} :
      context.frames = frame :: outer → Context.slotOf frame register = .ok (some slot) →
        Effect context (.writeRegister register value) (context.writeSlot frame slot value)
  | attached {register slot : Nat} {frame : Frame} {outer : List Frame} :
      context.frames = frame :: outer → Context.slotOf frame register = .ok (some slot) →
      frame.cellAt? slot = none →
        Effect context (.capture register) (context.attachCell frame outer slot)
  | stored {handle : Nat} {value : Value} (cell : CellId) :
      Effect context (.writeCell handle value)
        { context with heap := context.heap.setCell cell value }
  | made {prototype : Prototype} {handles : List Nat} (object : FunctionObject) :
      Effect context (.makeClosure prototype handles)
        { context with heap := (context.heap.addFunction object).2 }
  | assigned {level : Level} {ordinal : Nat} {value : Value} {place : Context.LocalPlace} :
      context.locate? level ordinal = some place →
        Effect context (.setLocal level ordinal value)
          (context.writeSlot place.frame place.slot value)
  | shared {function : FunctionId} {ordinal : Nat} {value : Value} :
      Effect context (.setUpvalue function ordinal value)
        { context with heap := (context.heap.setUpvalue function ordinal value).2 }
  | configured {config : Config} :
      Effect context (.setConfig config) (context.setConfig config)

namespace Context

variable (context : Context)

theorem call_effect (function : FunctionId) (arguments : List Value) :
    (Operation.call function arguments).Effect context (context.call function arguments).2 := by
  rcases context.call_cases function arguments with ⟨-, refused⟩ | ⟨room, made⟩
  · rw [refused]
    exact .unchanged _
  · rw [made]
    exact .pushed room

theorem tailCall_effect (function : FunctionId) (arguments : List Value) :
    (Operation.tailCall function arguments).Effect context
      (context.tailCall function arguments).2 := by
  rcases context.tailCall_cases function arguments with
    ⟨-, cause, refused⟩ | ⟨frame, outer, frames, -, target, ⟨full, late⟩ | ⟨room, made⟩⟩
  · rw [refused]
    exact .unchanged _
  · rw [late]
    exact .dropped frames full
  · rw [made]
    exact .replaced frames room target

theorem returnFromCall_effect :
    Operation.returnFromCall.Effect context context.returnFromCall.2 := by
  rcases context.returnFromCall_cases with ⟨-, refused⟩ | ⟨present, made⟩
  · rw [refused]
    exact .unchanged _
  · rw [made]
    exact .popped present

theorem setPosition_effect (position : Nat) :
    (Operation.setPosition position).Effect context (context.setPosition position).2 := by
  rcases context.setPosition_cases position with
    ⟨cause, refused⟩ | ⟨frame, outer, prototype, frames, script, within, made⟩
  · rw [refused]
    exact .unchanged _
  · rw [made]
    exact .positioned frames script within

theorem setRegister_effect (register : Nat) (value : Value) :
    (Operation.writeRegister register value).Effect context
      (context.setRegister register value).2 := by
  rcases context.setRegister_cases register value with
    ⟨fault, refused⟩ | ⟨frame, outer, slot, frames, found, made⟩
  · rw [refused]
    exact .unchanged _
  · rw [made]
    exact .written frames found

theorem capture_effect (register : Nat) :
    (Operation.capture register).Effect context (context.capture register).2 := by
  rcases context.capture_cases register with
    ⟨fault, refused⟩ | ⟨frame, outer, slot, frames, found, ⟨cell, -, again⟩ | ⟨absent, made⟩⟩
  · rw [refused]
    exact .unchanged _
  · rw [again]
    exact .unchanged _
  · rw [made]
    exact .attached frames found absent

theorem setLocal_effect (level : Level) (ordinal : Nat) (value : Value) :
    (Operation.setLocal level ordinal value).Effect context
      (context.setLocal level ordinal value).2 := by
  rcases context.setLocal_cases level ordinal value with missing | ⟨place, found, made⟩
  · rw [missing]
    exact .unchanged _
  · rw [made]
    exact .assigned found

end Context

theorem Operation.execute_capture_context (callHost : HostCaller) (cells : List CellId)
    (context : Context) (register : Nat) :
    (Operation.execute callHost cells context (.capture register)).2.2 =
      (context.capture register).2 := by
  rcases context.capture_cases register with
    ⟨fault, refused⟩ | ⟨frame, outer, slot, -, -, ⟨cell, -, again⟩ | ⟨-, made⟩⟩
  · simp only [execute, refused]
  · simp only [execute, again]
  · simp only [execute, made]

theorem Operation.writeCell_effect (callHost : HostCaller) (cells : List CellId)
    (context : Context) (handle : Nat) (value : Value) :
    (Operation.writeCell handle value).Effect context
      (Operation.execute callHost cells context (.writeCell handle value)).2.2 := by
  simp only [execute]
  split
  · exact .unchanged _
  · rename_i cell held
    exact .stored cell

theorem Operation.execute_effect {operation : Operation}
    (other : ∀ function arguments, operation ≠ .callHost function arguments)
    (callHost : HostCaller) (cells : List CellId) (context : Context) :
    operation.Effect context (operation.execute callHost cells context).2.2 := by
  cases operation with
  | call function arguments => exact context.call_effect function arguments
  | tailCall function arguments => exact context.tailCall_effect function arguments
  | callHost function arguments => exact absurd rfl (other function arguments)
  | returnFromCall => exact context.returnFromCall_effect
  | unwind => exact .discarded
  | setPosition position => exact context.setPosition_effect position
  | writeRegister register value => exact context.setRegister_effect register value
  | capture register =>
      rw [execute_capture_context]
      exact context.capture_effect register
  | writeCell handle value => exact writeCell_effect callHost cells context handle value
  | makeClosure prototype handles => exact .made _
  | setLocal level ordinal value => exact context.setLocal_effect level ordinal value
  | setUpvalue function ordinal value => exact .shared
  | setConfig config => exact .configured
  | readRegister _ | readCell _ | sameCell _ _ | getLocal _ _ | getUpvalue _ _ | depth
  | levelCount | lookupLevel _ | traceback _ _ => exact .unchanged _

structure Frame.Continues (earlier frame : Frame) : Prop where
  function : frame.function = earlier.function
  code : frame.code = earlier.code
  base : frame.base = earlier.base
  top : frame.top = earlier.top

theorem Frame.Continues.refl (frame : Frame) : frame.Continues frame := ⟨rfl, rfl, rfl, rfl⟩

structure Frame.Begins (heap : Heap) (function : FunctionId) (arguments : List Value)
    (frame : Frame) : Prop where
  code : frame.code = (heap.function function).code
  top : frame.top = frame.base + (Context.initialWindow frame.code arguments).length
  function : frame.function = function

/-- Each frame was there before, or the operation called its function. -/
theorem Operation.Effect.frame_cases {context later : Context} {operation : Operation}
    (effect : operation.Effect context later) {frame : Frame} (member : frame ∈ later.frames) :
    (∃ earlier ∈ context.frames, earlier.Continues frame) ∨
    ∃ function arguments,
      (operation = .call function arguments ∨ operation = .tailCall function arguments) ∧
        frame.Begins context.heap function arguments := by
  have kept : later.frames ⊆ context.frames →
      ∃ earlier ∈ context.frames, earlier.Continues frame :=
    fun subset => ⟨frame, subset member, .refl frame⟩
  have changed : ∀ {current other : Frame} {outer : List Frame},
      context.frames = current :: outer → later.frames = other :: outer →
      current.Continues other → ∃ earlier ∈ context.frames, earlier.Continues frame := by
    intro current other outer frames replaced continues
    rw [replaced] at member
    rw [frames]
    rcases List.mem_cons.mp member with rfl | outside
    · exact ⟨current, List.mem_cons_self, continues⟩
    · exact ⟨frame, List.mem_cons_of_mem current outside, .refl frame⟩
  cases effect with
  | unchanged | stored | made | shared | configured =>
      exact Or.inl (kept (List.Subset.refl _))
  | @pushed function arguments room =>
      rcases List.mem_cons.mp member with rfl | outside
      · exact Or.inr ⟨function, arguments, Or.inl rfl, rfl, List.length_append, rfl⟩
      · exact Or.inl ⟨frame, outside, .refl frame⟩
  | popped | dropped =>
      refine Or.inl (kept ?_)
      rw [Context.frames_popFrame]
      exact (List.tail_sublist _).subset
  | @replaced function arguments current outer frames room =>
      rw [Context.replaceFrame_cons frames] at member
      rcases List.mem_cons.mp member with rfl | outside
      · exact Or.inr ⟨function, arguments, Or.inr rfl, rfl, List.length_append, rfl⟩
      · exact Or.inl ⟨frame, frames ▸ List.mem_cons_of_mem current outside, .refl frame⟩
  | discarded => cases member
  | positioned frames => exact Or.inl (changed frames rfl ⟨rfl, rfl, rfl, rfl⟩)
  | attached frames => exact Or.inl (changed frames rfl ⟨rfl, rfl, rfl, rfl⟩)
  | written | assigned =>
      refine Or.inl (kept ?_)
      rw [Context.frames_writeSlot]
      exact List.Subset.refl _

theorem Operation.Effect.grows {context later : Context} {operation : Operation}
    (effect : operation.Effect context later) : context.heap.Grows later.heap := by
  cases effect with
  | unchanged | pushed | discarded | positioned | configured => exact .refl _
  | popped | dropped =>
      rw [Context.heap_popFrame]
      exact .refl _
  | replaced frames =>
      rw [Context.replaceFrame_cons frames]
      exact .refl _
  | written | assigned =>
      unfold Context.writeSlot
      split
      · exact .setCell _ _
      · exact .refl _
  | attached => exact .ofFunctions rfl (by simp [Context.attachCell, Heap.addCell])
  | stored cell => exact .setCell cell _
  | made object => exact .addFunction object
  | shared => exact context.heap.setUpvalue_grows _ _ _

namespace Context

variable {context later : Context}

theorem Intact.objects (intact : context.Intact) (effect : context.ObjectsGrow later) :
    later.Intact := by
  obtain ⟨heap, stringMetatable, grows, rfl⟩ := effect
  exact intact.congr rfl rfl grows.cells

theorem Intact.effect (intact : context.Intact) {operation : Operation}
    (effect : operation.Effect context later) : later.Intact := by
  cases effect with
  | unchanged => exact intact
  | pushed => exact intact.pushFrame _ _
  | popped | dropped => exact intact.popFrame
  | replaced _ _ target => exact intact.replaceFrame target
  | discarded => exact .unwind context
  | positioned frames script within => exact intact.moveTo frames script within
  | written | assigned => exact intact.writeSlot _ _ _
  | attached frames found absent => exact intact.attachCell frames (inside_of_slotOf found) absent
  | stored cell => exact intact.objects (.ofHeap (.setCell cell _))
  | made object => exact intact.objects (.ofHeap (.addFunction object))
  | shared => exact intact.objects (.ofHeap (context.heap.setUpvalue_grows _ _ _))
  | configured => exact intact.congr rfl rfl (Nat.le_refl _)

end Context

end StackScope
