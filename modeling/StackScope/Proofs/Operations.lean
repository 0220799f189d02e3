import StackScope.Variable

/-!
What the operations on a context can do. Each of them either refuses, and then it says why and
leaves the context alone, or makes one change to the innermost frame, the stack or the heap. The one
exception is a tail call, which has removed the current frame by the time the new call is refused.

The lemmas here are the only ones that open the operations; everything else is derived from them.
-/

namespace StackScope

theorem Level.index?_eq_some {level : Level} {index : Nat} :
    level.index? = some index ↔ level.slot = .active index := by
  unfold index?
  cases level.slot <;> simp

theorem Code.prototype?_eq_some {code : Code} {prototype : Prototype} :
    code.prototype? = some prototype ↔ code = .script prototype := by
  cases code <;> simp [prototype?]

namespace Context

def pushFrame (context : Context) (function : FunctionId) (arguments : List Value) : Context :=
  let code := (context.heap.function function).code
  let stack := context.stack ++ initialWindow code arguments
  { context with
    stack
    frames :=
      { function, code, base := context.stack.length, top := stack.length } :: context.frames }

theorem call_of_full {context : Context} (full : context.config.maxCallDepth ≤ context.depth)
    (function : FunctionId) (arguments : List Value) :
    context.call function arguments =
      (.error (.stackOverflow context.config.maxCallDepth), context) := by
  unfold call
  rw [if_pos full]

theorem call_of_room {context : Context} (room : context.depth < context.config.maxCallDepth)
    (function : FunctionId) (arguments : List Value) :
    context.call function arguments = (.ok (), context.pushFrame function arguments) := by
  unfold call
  rw [if_neg (Nat.not_le.mpr room)]
  rfl

theorem call_cases (context : Context) (function : FunctionId) (arguments : List Value) :
    (context.config.maxCallDepth ≤ context.depth ∧
      context.call function arguments =
        (.error (.stackOverflow context.config.maxCallDepth), context)) ∨
    (context.depth < context.config.maxCallDepth ∧
      context.call function arguments = (.ok (), context.pushFrame function arguments)) := by
  rcases Nat.lt_or_ge context.depth context.config.maxCallDepth with room | full
  · exact .inr ⟨room, call_of_room room function arguments⟩
  · exact .inl ⟨full, call_of_full full function arguments⟩

theorem popFrame_nil {context : Context} (empty : context.frames = []) :
    context.popFrame = context := by
  unfold popFrame
  rw [empty]

theorem popFrame_cons {context : Context} {frame : Frame} {outer : List Frame}
    (frames : context.frames = frame :: outer) :
    context.popFrame =
      { context with frames := outer, stack := context.stack.take frame.base } := by
  unfold popFrame
  rw [frames]

@[simp] theorem frames_popFrame (context : Context) :
    context.popFrame.frames = context.frames.tail := by
  unfold popFrame
  split
  · rename_i empty
    rw [empty]
    rfl
  · rename_i frames
    rw [frames]
    rfl

@[simp] theorem heap_popFrame (context : Context) : context.popFrame.heap = context.heap := by
  unfold popFrame
  split <;> rfl

@[simp] theorem config_popFrame (context : Context) :
    context.popFrame.config = context.config := by
  unfold popFrame
  split <;> rfl

theorem returnFromCall_context (context : Context) :
    context.returnFromCall.2 = context.popFrame := by
  unfold returnFromCall
  split
  · rename_i empty
    exact (popFrame_nil (List.isEmpty_iff.mp empty)).symm
  · rfl

theorem returnFromCall_cases (context : Context) :
    (context.frames = [] ∧
      context.returnFromCall = (.error (.runtime .returnWithoutFrame), context)) ∨
    (context.frames ≠ [] ∧ context.returnFromCall = (.ok (), context.popFrame)) := by
  unfold returnFromCall
  split
  · rename_i empty
    exact .inl ⟨List.isEmpty_iff.mp empty, rfl⟩
  · rename_i present
    exact .inr ⟨fun empty => present (List.isEmpty_iff.mpr empty), rfl⟩

def replaceFrame (context : Context) (function : FunctionId) (arguments : List Value)
    (collapsed : Nat) : Context :=
  (context.popFrame.pushFrame function arguments).modifyCurrent
    fun frame => { frame with tailCalls := collapsed }

/-- A tail call is refused at once, refused after the current frame is gone, or made. -/
theorem tailCall_cases (context : Context) (function : FunctionId) (arguments : List Value) :
    ((∀ frame ∈ context.currentFrame?,
        frame.isHost = true ∨ (context.heap.function function).code.isHost = true) ∧
      ∃ cause, context.tailCall function arguments = (.error (.runtime cause), context)) ∨
    ∃ frame outer, context.frames = frame :: outer ∧ frame.isHost = false ∧
      (context.heap.function function).code.isHost = false ∧
      ((context.config.maxCallDepth ≤ outer.length ∧
        context.tailCall function arguments =
          (.error (.stackOverflow context.config.maxCallDepth), context.popFrame)) ∨
      (outer.length < context.config.maxCallDepth ∧
        context.tailCall function arguments =
          (.ok (), context.replaceFrame function arguments (Word.nextCount frame.tailCalls)))) := by
  unfold tailCall
  split
  · rename_i empty
    refine .inl ⟨?_, _, rfl⟩
    intro frame current
    rw [currentFrame?, empty] at current
    cases current
  · rename_i frame outer frames
    have current : ∀ other ∈ context.currentFrame?, other = frame := by
      intro other current
      rw [currentFrame?, frames] at current
      exact (Option.some.inj current).symm
    split
    · rename_i host
      exact .inl ⟨fun other member => .inl (current other member ▸ host), _, rfl⟩
    · rename_i script
      split
      · rename_i target
        exact .inl ⟨fun _ _ => .inr target, _, rfl⟩
      · rename_i target
        refine .inr ⟨frame, outer, frames, Bool.eq_false_iff.mpr script,
          Bool.eq_false_iff.mpr target, ?_⟩
        have depth : context.popFrame.depth = outer.length := by
          rw [popFrame_cons frames]
          rfl
        rcases call_cases context.popFrame function arguments with ⟨full, refused⟩ | ⟨room, made⟩
        · rw [depth, config_popFrame] at full
          refine .inl ⟨full, ?_⟩
          rw [refused, config_popFrame]
        · rw [depth, config_popFrame] at room
          refine .inr ⟨room, ?_⟩
          rw [made]
          rfl

theorem modifyCurrent_cons {context : Context} {frame : Frame} {outer : List Frame}
    (frames : context.frames = frame :: outer) (change : Frame → Frame) :
    context.modifyCurrent change = { context with frames := change frame :: outer } := by
  unfold modifyCurrent
  rw [frames]

theorem replaceFrame_cons {context : Context} {frame : Frame} {outer : List Frame}
    (frames : context.frames = frame :: outer) (function : FunctionId) (arguments : List Value)
    (collapsed : Nat) :
    context.replaceFrame function arguments collapsed =
      let code := (context.heap.function function).code
      let below := context.stack.take frame.base
      let stack := below ++ initialWindow code arguments
      { context with
        stack
        frames :=
          { function, code, base := below.length, top := stack.length, tailCalls := collapsed } ::
            outer } := by
  unfold replaceFrame
  rw [popFrame_cons frames]
  rfl

theorem setPosition_cases (context : Context) (position : Nat) :
    (∃ cause, context.setPosition position = (.error (.runtime cause), context)) ∨
    ∃ frame outer prototype, context.frames = frame :: outer ∧ frame.code = .script prototype ∧
      position < prototype.instructions.length ∧
      context.setPosition position =
        (.ok (), { context with frames := { frame with position } :: outer }) := by
  unfold setPosition
  split
  · exact .inl ⟨_, rfl⟩
  · rename_i frame outer frames
    split
    · exact .inl ⟨_, rfl⟩
    · rename_i prototype script
      split
      · rename_i inside
        refine .inr ⟨frame, outer, prototype, frames, script, inside, ?_⟩
        rw [modifyCurrent_cons frames]
      · exact .inl ⟨_, rfl⟩

/-! ### Registers -/

theorem slotOf_of_lt {frame : Frame} {register : Nat}
    (fits : frame.base + register < Word.size64) :
    slotOf frame register =
      .ok (if frame.base + register < frame.top then some (frame.base + register) else none) :=
  if_neg (Nat.not_le.mpr fits)

theorem slotOf_of_le {frame : Frame} {register : Nat}
    (overflows : Word.size64 ≤ frame.base + register) :
    slotOf frame register = .error .addressOverflow :=
  if_pos overflows

theorem slotOf_eq_some {frame : Frame} {register slot : Nat} :
    slotOf frame register = .ok (some slot) ↔
      frame.base + register = slot ∧ slot < frame.top ∧ slot < Word.size64 := by
  rcases Nat.lt_or_ge (frame.base + register) Word.size64 with fits | overflows
  · rw [slotOf_of_lt fits, Except.ok.injEq, Option.ite_none_right_eq_some, Option.some.injEq]
    constructor
    · rintro ⟨inside, rfl⟩
      exact ⟨rfl, inside, fits⟩
    · rintro ⟨rfl, inside, -⟩
      exact ⟨inside, rfl⟩
  · rw [slotOf_of_le overflows]
    constructor
    · exact nofun
    · rintro ⟨rfl, -, fits⟩
      omega

/-- The position of a register lies in the window of its frame. -/
theorem inside_of_slotOf {frame : Frame} {register slot : Nat}
    (found : slotOf frame register = .ok (some slot)) : frame.base ≤ slot ∧ slot < frame.top := by
  obtain ⟨rfl, inside, -⟩ := slotOf_eq_some.mp found
  exact ⟨Nat.le_add_right _ _, inside⟩

theorem frames_writeSlot (context : Context) (frame : Frame) (slot : Nat) (value : Value) :
    (context.writeSlot frame slot value).frames = context.frames := by
  unfold writeSlot
  split <;> rfl

theorem config_writeSlot (context : Context) (frame : Frame) (slot : Nat) (value : Value) :
    (context.writeSlot frame slot value).config = context.config := by
  unfold writeSlot
  split <;> rfl

theorem setRegister_cases (context : Context) (register : Nat) (value : Value) :
    (∃ fault, context.setRegister register value = (.error fault, context)) ∨
    ∃ frame outer slot, context.frames = frame :: outer ∧
      slotOf frame register = .ok (some slot) ∧
      context.setRegister register value = (.ok (), context.writeSlot frame slot value) := by
  unfold setRegister
  split
  · exact .inl ⟨_, rfl⟩
  · rename_i frame outer frames
    split
    · exact .inl ⟨_, rfl⟩
    · exact .inl ⟨_, rfl⟩
    · rename_i slot found
      exact .inr ⟨frame, outer, slot, frames, found, rfl⟩

def attachCell (context : Context) (frame : Frame) (outer : List Frame) (slot : Nat) : Context :=
  { context with
    heap := (context.heap.addCell (context.stack[slot]?.getD .nil)).2
    frames :=
      { frame with captured := (slot, ⟨context.heap.cells.size⟩) :: frame.captured } :: outer }

theorem capture_cases (context : Context) (register : Nat) :
    (∃ fault, context.capture register = (.error fault, context)) ∨
    ∃ frame outer slot, context.frames = frame :: outer ∧
      slotOf frame register = .ok (some slot) ∧
      ((∃ cell, frame.cellAt? slot = some cell ∧ context.capture register = (.ok cell, context)) ∨
      (frame.cellAt? slot = none ∧
        context.capture register =
          (.ok ⟨context.heap.cells.size⟩, context.attachCell frame outer slot))) := by
  unfold capture
  split
  · exact .inl ⟨_, rfl⟩
  · rename_i frame outer frames
    split
    · exact .inl ⟨_, rfl⟩
    · exact .inl ⟨_, rfl⟩
    · rename_i slot found
      refine .inr ⟨frame, outer, slot, frames, found, ?_⟩
      split
      · rename_i cell present
        exact .inl ⟨cell, present, rfl⟩
      · rename_i absent
        exact .inr ⟨absent, rfl⟩

section FrameAt

variable {context : Context} {index : Nat} {frame : Frame} {outer : List Frame}

theorem mem_of_frameAt? (found : context.frameAt? index = some frame) : frame ∈ context.frames :=
  List.mem_reverse.mp (List.mem_of_getElem? found)

theorem exists_frameAt? (inside : index < context.depth) :
    ∃ frame, context.frameAt? index = some frame := by
  have present : index < context.frames.reverse.length := by
    rw [List.length_reverse]
    exact inside
  exact ⟨_, List.getElem?_eq_getElem present⟩

theorem frameAt?_innermost (frames : context.frames = frame :: outer) :
    context.frameAt? outer.length = some frame := by
  rw [frameAt?, frames, List.reverse_cons, ← List.length_reverse]
  exact List.getElem?_concat_length

theorem frameAt?_outer (frames : context.frames = frame :: outer) (inside : index < outer.length) :
    context.frameAt? index = outer.reverse[index]? := by
  rw [← List.length_reverse] at inside
  rw [frameAt?, frames, List.reverse_cons, List.getElem?_append_left inside]

end FrameAt

/-- Where a local is found: in the window of a script frame that exists, if it is live there. -/
theorem locate?_eq_some {context : Context} {level : Level} {ordinal : Nat} {place : LocalPlace} :
    context.locate? level ordinal = some place ↔
      level.slot = .active place.index ∧ context.frameAt? place.index = some place.frame ∧
      ∃ prototype scope, place.frame.code = .script prototype ∧
        prototype.localAt? ordinal place.frame.position = some scope ∧
        place.slot = place.frame.base + ordinal - 1 ∧ place.slot < place.frame.top ∧
        place.name = scope.name := by
  constructor
  · intro found
    obtain ⟨index, active, found⟩ := Option.bind_eq_some_iff.mp found
    obtain ⟨frame, present, found⟩ := Option.bind_eq_some_iff.mp found
    obtain ⟨prototype, script, found⟩ := Option.bind_eq_some_iff.mp found
    obtain ⟨scope, live, found⟩ := Option.bind_eq_some_iff.mp found
    obtain ⟨inside, same⟩ := Option.ite_none_right_eq_some.mp found
    cases same
    exact ⟨Level.index?_eq_some.mp active, present, prototype, scope,
      Code.prototype?_eq_some.mp script, live, rfl, inside, rfl⟩
  · obtain ⟨index, frame, slot, name⟩ := place
    dsimp only
    rintro ⟨active, present, prototype, scope, script, live, rfl, inside, rfl⟩
    refine Option.bind_eq_some_iff.mpr ⟨index, Level.index?_eq_some.mpr active, ?_⟩
    refine Option.bind_eq_some_iff.mpr ⟨frame, present, ?_⟩
    refine Option.bind_eq_some_iff.mpr ⟨prototype, Code.prototype?_eq_some.mpr script, ?_⟩
    refine Option.bind_eq_some_iff.mpr ⟨scope, live, ?_⟩
    exact if_pos inside

theorem setLocal_cases (context : Context) (level : Level) (ordinal : Nat) (value : Value) :
    context.setLocal level ordinal value = (none, context) ∨
    ∃ place, context.locate? level ordinal = some place ∧
      context.setLocal level ordinal value =
        (some place.name, context.writeSlot place.frame place.slot value) := by
  unfold setLocal
  split
  · exact .inl rfl
  · rename_i place found
    exact .inr ⟨place, found, rfl⟩

end Context

end StackScope
