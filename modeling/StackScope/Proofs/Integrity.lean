import StackScope.Proofs.Operations

/-!
The integrity of the stack. The windows of the frames lie end to end and cover the stack of values,
each window has the size that the code of its frame asks for, and captured registers belong to the
frame that remembers them. Whatever an operation makes of the frames keeps all of this.
-/

namespace StackScope

/-- The windows of frames, innermost first, lie end to end from zero up to a height. -/
def Tiled : List Frame → (height : Nat) → Prop
  | [], height => height = 0
  | frame :: outer, height => frame.base ≤ frame.top ∧ frame.top = height ∧ Tiled outer frame.base

namespace Frame

structure Sound (frame : Frame) : Prop where
  window : ∀ prototype, frame.code = .script prototype →
    frame.top = frame.base + prototype.windowSize
  position : ∀ prototype, frame.code = .script prototype →
    frame.position = 0 ∨ frame.position < prototype.instructions.length
  host : frame.isHost = true → frame.position = 0 ∧ frame.tailCalls = 0
  inside : ∀ slot cell, (slot, cell) ∈ frame.captured → frame.base ≤ slot ∧ slot < frame.top
  keys : (frame.captured.map Prod.fst).Nodup

end Frame

/-- The cells that frames remember, one for each captured register. -/
def capturedCells (frames : List Frame) : List CellId :=
  frames.flatMap fun frame => frame.captured.map Prod.snd

theorem capturedCells_cons (frame : Frame) (outer : List Frame) :
    capturedCells (frame :: outer) = frame.captured.map Prod.snd ++ capturedCells outer :=
  List.flatMap_cons

theorem capturedCells_subset {outer frames : List Frame} (suffix : outer <:+ frames) :
    capturedCells outer ⊆ capturedCells frames := by
  intro cell member
  obtain ⟨frame, inside, held⟩ := List.mem_flatMap.mp member
  exact List.mem_flatMap.mpr ⟨frame, suffix.subset inside, held⟩

/-! ### Windows -/

namespace Tiled

variable {frames : List Frame} {height : Nat}

theorem top_le (tiled : Tiled frames height) {frame : Frame} (member : frame ∈ frames) :
    frame.top ≤ height := by
  induction frames generalizing height with
  | nil => cases member
  | cons first outer ih =>
      obtain ⟨ordered, ends, below⟩ := tiled
      rcases List.mem_cons.mp member with same | member
      · subst same
        omega
      · have := ih below member
        omega

/-- Windows follow one another. -/
theorem pairwise (tiled : Tiled frames height) :
    frames.Pairwise fun inner outer => outer.top ≤ inner.base := by
  induction frames generalizing height with
  | nil => exact .nil
  | cons frame outer ih =>
      obtain ⟨-, -, below⟩ := tiled
      exact List.pairwise_cons.mpr ⟨fun _ member => below.top_le member, ih below⟩

/-- No position lies in the windows of two frames. -/
theorem eq_of_inside (tiled : Tiled frames height) {left right : Frame} {slot : Nat}
    (leftMember : left ∈ frames) (rightMember : right ∈ frames)
    (inLeft : left.base ≤ slot ∧ slot < left.top)
    (inRight : right.base ≤ slot ∧ slot < right.top) : left = right := by
  have apart := List.pairwise_iff_getElem.mp tiled.pairwise
  obtain ⟨i, leftAt, rfl⟩ := List.mem_iff_getElem.mp leftMember
  obtain ⟨j, rightAt, rfl⟩ := List.mem_iff_getElem.mp rightMember
  rcases Nat.lt_trichotomy i j with inner | same | outer
  · have := apart i j leftAt rightAt inner
    omega
  · subst same
    rfl
  · have := apart j i rightAt leftAt outer
    omega

theorem height_unique {other : Nat} (tiled : Tiled frames height) (same : Tiled frames other) :
    height = other := by
  cases frames with
  | nil => exact tiled.trans same.symm
  | cons first outer => exact tiled.2.1.symm.trans same.2.1

/-- The windows of frames reach at least as high as those of the outer ones among them. -/
theorem le_of_suffix {outer : List Frame} {floor : Nat} (tiled : Tiled frames height)
    (below : Tiled outer floor) (suffix : outer <:+ frames) : floor ≤ height := by
  induction frames generalizing height with
  | nil =>
      rw [List.suffix_nil.mp suffix] at below
      exact Nat.le_of_eq (below.height_unique tiled)
  | cons first rest ih =>
      rcases List.suffix_cons_iff.mp suffix with same | inside
      · subst same
        exact Nat.le_of_eq (below.height_unique tiled)
      · obtain ⟨ordered, ends, rest⟩ := tiled
        have := ih rest inside
        omega

theorem congr {frame other : Frame} {outer : List Frame} (tiled : Tiled (frame :: outer) height)
    (base : other.base = frame.base) (top : other.top = frame.top) :
    Tiled (other :: outer) height := by
  obtain ⟨ordered, ends, below⟩ := tiled
  refine ⟨?_, top.trans ends, ?_⟩
  · rw [base, top]
    exact ordered
  · rw [base]
    exact below

end Tiled

namespace Frame

variable {frame : Frame} {slot : Nat}

theorem mem_captured_of_cellAt? {cell : CellId} (found : frame.cellAt? slot = some cell) :
    (slot, cell) ∈ frame.captured := by
  unfold cellAt? at found
  obtain ⟨before, after, split, -⟩ := List.lookup_eq_some_iff.mp found
  rw [split]
  exact List.mem_append_right _ List.mem_cons_self

theorem slot_notMem_of_cellAt? (missing : frame.cellAt? slot = none) :
    slot ∉ frame.captured.map Prod.fst := by
  intro member
  obtain ⟨⟨key, cell⟩, present, same⟩ := List.mem_map.mp member
  have different := List.lookup_eq_none_iff.mp missing (key, cell) present
  simp_all

/-- Where keys are not repeated, a frame's list of captured registers finds each of its members. -/
theorem cellAt?_of_mem {cell : CellId} (keys : (frame.captured.map Prod.fst).Nodup)
    (member : (slot, cell) ∈ frame.captured) : frame.cellAt? slot = some cell := by
  unfold cellAt?
  generalize frame.captured = captured at keys member
  induction captured with
  | nil => cases member
  | cons entry rest ih =>
      obtain ⟨fresh, keysRest⟩ := List.nodup_cons.mp keys
      rw [List.lookup_cons]
      rcases List.mem_cons.mp member with same | member
      · subst same
        simp
      · have different : slot ≠ entry.1 := by
          intro same
          exact fresh (same ▸ List.mem_map_of_mem member)
        rw [beq_eq_false_iff_ne.mpr different]
        exact ih keysRest member

end Frame

namespace Context

/-- The windows tile the stack, and no cell belongs to two registers. -/
structure Stacked (context : Context) : Prop where
  tiled : Tiled context.frames context.stack.length
  distinct : (capturedCells context.frames).Nodup
  allocated : ∀ cell ∈ capturedCells context.frames, cell.index < context.heap.cells.size

structure Intact (context : Context) : Prop where
  tiled : Tiled context.frames context.stack.length
  sound : ∀ frame ∈ context.frames, frame.Sound
  distinct : (capturedCells context.frames).Nodup
  allocated : ∀ cell ∈ capturedCells context.frames, cell.index < context.heap.cells.size

/-- The address of a register of the current frame is a word. -/
def Fits (context : Context) (register : Nat) : Prop :=
  ∀ frame ∈ context.currentFrame?, frame.base + register < Word.size64

instance (context : Context) (register : Nat) : Decidable (context.Fits register) :=
  decidable_of_iff
    ((context.currentFrame?.all fun frame => decide (frame.base + register < Word.size64)) = true)
    (by simp [Fits, Option.all_eq_true])

namespace Stacked

variable {context : Context}

/-- The cells of captured registers exist. -/
theorem allocated_of_cellAt? (stacked : context.Stacked) {frame : Frame}
    (member : frame ∈ context.frames) (slot : Nat) :
    ∀ cell ∈ frame.cellAt? slot, cell.index < context.heap.cells.size := by
  intro cell captured
  refine stacked.allocated cell (List.mem_flatMap.mpr ⟨frame, member, ?_⟩)
  exact List.mem_map_of_mem (Frame.mem_captured_of_cellAt? captured)

theorem create (heap : Heap) (config : Config) : (Context.create heap config).Stacked where
  tiled := rfl
  distinct := List.nodup_nil
  allocated := by intro cell member; cases member

/-- Frames do not depend on anything in the heap but the number of its cells. -/
theorem congr {other : Context} (stacked : context.Stacked)
    (frames : other.frames = context.frames)
    (height : other.stack.length = context.stack.length)
    (cells : context.heap.cells.size ≤ other.heap.cells.size) : other.Stacked where
  tiled := by rw [frames, height]; exact stacked.tiled
  distinct := by rw [frames]; exact stacked.distinct
  allocated := by
    intro cell member
    rw [frames] at member
    exact Nat.lt_of_lt_of_le (stacked.allocated cell member) cells

theorem writeSlot (stacked : context.Stacked) (frame : Frame) (slot : Nat) (value : Value) :
    (context.writeSlot frame slot value).Stacked := by
  unfold Context.writeSlot
  split
  · refine stacked.congr rfl rfl ?_
    simp [Heap.setCell]
  · exact stacked.congr rfl List.length_set (Nat.le_refl _)

/-! ### Steps that push or remove frames -/

theorem popFrame (stacked : context.Stacked) : context.popFrame.Stacked := by
  cases frames : context.frames with
  | nil =>
      rw [popFrame_nil frames]
      exact stacked
  | cons frame outer =>
      obtain ⟨tiled, distinct, allocated⟩ := stacked
      rw [frames] at tiled distinct allocated
      obtain ⟨ordered, ends, below⟩ := tiled
      rw [capturedCells_cons] at distinct allocated
      rw [popFrame_cons frames]
      refine ⟨?_, ?_, ?_⟩
      · have height : (context.stack.take frame.base).length = frame.base := by
          rw [List.length_take]
          omega
        change Tiled outer (context.stack.take frame.base).length
        rw [height]
        exact below
      · exact (List.nodup_append.mp distinct).2.1
      · exact fun cell member => allocated cell (List.mem_append_right _ member)

theorem pushFrame (stacked : context.Stacked) (function : FunctionId) (arguments : List Value) :
    (context.pushFrame function arguments).Stacked where
  tiled := by
    refine ⟨?_, rfl, stacked.tiled⟩
    change context.stack.length ≤ (context.stack ++ _).length
    rw [List.length_append]
    exact Nat.le_add_right _ _
  distinct := by
    change (capturedCells (_ :: context.frames)).Nodup
    rw [capturedCells_cons]
    exact stacked.distinct
  allocated := by
    intro cell member
    change cell ∈ capturedCells (_ :: context.frames) at member
    rw [capturedCells_cons] at member
    exact stacked.allocated cell member

theorem unwind (context : Context) : context.unwind.Stacked where
  tiled := rfl
  distinct := List.nodup_nil
  allocated := by intro cell member; cases member

/-- A change of the current frame that keeps its window and its captured registers. -/
theorem replaceHead (stacked : context.Stacked) {frame changed : Frame} {outer : List Frame}
    (frames : context.frames = frame :: outer) (base : changed.base = frame.base)
    (top : changed.top = frame.top) (captured : changed.captured = frame.captured) :
    ({ context with frames := changed :: outer } : Context).Stacked := by
  obtain ⟨tiled, distinct, allocated⟩ := stacked
  rw [frames] at tiled distinct allocated
  have cells : capturedCells (changed :: outer) = capturedCells (frame :: outer) := by
    rw [capturedCells_cons, capturedCells_cons, captured]
  refine ⟨tiled.congr base top, ?_, ?_⟩
  · change (capturedCells (changed :: outer)).Nodup
    rw [cells]
    exact distinct
  · intro cell member
    change cell ∈ capturedCells (changed :: outer) at member
    rw [cells] at member
    exact allocated cell member

theorem attachCell (stacked : context.Stacked) {frame : Frame} {outer : List Frame}
    (frames : context.frames = frame :: outer) (slot : Nat) :
    (context.attachCell frame outer slot).Stacked := by
  obtain ⟨tiled, distinct, allocated⟩ := stacked
  rw [frames] at tiled distinct allocated
  have cells : capturedCells (context.attachCell frame outer slot).frames =
      ⟨context.heap.cells.size⟩ :: capturedCells (frame :: outer) := by
    rw [capturedCells_cons]
    rfl
  refine ⟨tiled.congr rfl rfl, ?_, ?_⟩
  · rw [cells]
    refine List.nodup_cons.mpr ⟨?_, distinct⟩
    intro old
    exact Nat.lt_irrefl _ (allocated _ old)
  · intro cell member
    rw [cells] at member
    change cell.index < (context.heap.cells.add _).size
    rw [Pool.size_add]
    rcases List.mem_cons.mp member with same | old
    · subst same
      exact Nat.lt_succ_self _
    · exact Nat.lt_succ_of_lt (allocated cell old)

end Stacked

namespace Intact

variable {context : Context}

theorem stacked (intact : context.Intact) : context.Stacked :=
  ⟨intact.tiled, intact.distinct, intact.allocated⟩

theorem ofStacked (stacked : context.Stacked) (sound : ∀ frame ∈ context.frames, frame.Sound) :
    context.Intact :=
  ⟨stacked.tiled, sound, stacked.distinct, stacked.allocated⟩

theorem create (heap : Heap) (config : Config) : (Context.create heap config).Intact :=
  .ofStacked (.create heap config) (by intro frame member; cases member)

theorem congr {other : Context} (intact : context.Intact) (frames : other.frames = context.frames)
    (height : other.stack.length = context.stack.length)
    (cells : context.heap.cells.size ≤ other.heap.cells.size) : other.Intact :=
  .ofStacked (intact.stacked.congr frames height cells) (by rw [frames]; exact intact.sound)

theorem writeSlot (intact : context.Intact) (frame : Frame) (slot : Nat) (value : Value) :
    (context.writeSlot frame slot value).Intact := by
  have stacked := intact.stacked.writeSlot frame slot value
  unfold Context.writeSlot at stacked ⊢
  split at stacked <;> exact .ofStacked stacked intact.sound

theorem popFrame (intact : context.Intact) : context.popFrame.Intact := by
  refine .ofStacked intact.stacked.popFrame ?_
  rw [frames_popFrame]
  exact fun frame member => intact.sound frame (List.mem_of_mem_tail member)

theorem pushFrame (intact : context.Intact) (function : FunctionId) (arguments : List Value) :
    (context.pushFrame function arguments).Intact := by
  refine .ofStacked (intact.stacked.pushFrame function arguments) ?_
  intro frame member
  rcases List.mem_cons.mp member with same | member
  · subst same
    refine ⟨?_, fun _ _ => .inl rfl, fun _ => ⟨rfl, rfl⟩, ?_, List.nodup_nil⟩
    · intro prototype script
      change (context.stack ++ initialWindow _ arguments).length = _
      rw [List.length_append]
      change (context.heap.function function).code = .script prototype at script
      rw [script, length_initialWindow_script]
    · intro slot cell present
      cases present
  · exact intact.sound frame member

theorem unwind (context : Context) : context.unwind.Intact :=
  .ofStacked (.unwind context) (by intro frame member; cases member)

/-- A change of the current frame that keeps its window and its captured registers. -/
theorem replaceHead (intact : context.Intact) {frame changed : Frame} {outer : List Frame}
    (frames : context.frames = frame :: outer) (base : changed.base = frame.base)
    (top : changed.top = frame.top) (captured : changed.captured = frame.captured)
    (sound : changed.Sound) :
    ({ context with frames := changed :: outer } : Context).Intact := by
  refine .ofStacked (intact.stacked.replaceHead frames base top captured) ?_
  intro other member
  rcases List.mem_cons.mp member with same | member
  · exact same ▸ sound
  · exact intact.sound other (frames ▸ List.mem_cons_of_mem _ member)

theorem replaceFrame (intact : context.Intact) {function : FunctionId} {arguments : List Value}
    {collapsed : Nat} (target : (context.heap.function function).code.isHost = false) :
    (context.replaceFrame function arguments collapsed).Intact := by
  have pushed := intact.popFrame.pushFrame function arguments
  refine pushed.replaceHead rfl rfl rfl rfl ?_
  obtain ⟨window, position, -, inside, keys⟩ := pushed.sound _ List.mem_cons_self
  refine ⟨window, position, ?_, inside, keys⟩
  intro host
  change (context.popFrame.heap.function function).code.isHost = true at host
  rw [heap_popFrame, target] at host
  cases host

theorem moveTo (intact : context.Intact) {frame : Frame} {outer : List Frame}
    {prototype : Prototype} {position : Nat} (frames : context.frames = frame :: outer)
    (script : frame.code = .script prototype)
    (within : position < prototype.instructions.length) :
    ({ context with frames := { frame with position } :: outer } : Context).Intact := by
  refine intact.replaceHead frames rfl rfl rfl ?_
  obtain ⟨window, -, -, inside, keys⟩ := intact.sound frame (frames ▸ List.mem_cons_self)
  refine ⟨window, ?_, ?_, inside, keys⟩
  · intro other same
    cases script.symm.trans same
    exact .inr within
  · intro host
    change frame.code.isHost = true at host
    rw [script] at host
    cases host

theorem attachCell (intact : context.Intact) {frame : Frame} {outer : List Frame} {slot : Nat}
    (frames : context.frames = frame :: outer) (inside : frame.base ≤ slot ∧ slot < frame.top)
    (absent : frame.cellAt? slot = none) : (context.attachCell frame outer slot).Intact := by
  refine .ofStacked (intact.stacked.attachCell frames slot) ?_
  intro other member
  rcases List.mem_cons.mp member with same | member
  · subst same
    obtain ⟨window, position, host, insideOld, keys⟩ :=
      intact.sound frame (frames ▸ List.mem_cons_self)
    refine ⟨window, position, host, ?_, ?_⟩
    · intro other cell present
      rcases List.mem_cons.mp present with same | present
      · cases same
        exact inside
      · exact insideOld other cell present
    · exact List.nodup_cons.mpr ⟨Frame.slot_notMem_of_cellAt? absent, keys⟩
  · exact intact.sound other (frames ▸ List.mem_cons_of_mem _ member)

end Intact

end Context

end StackScope
