import StackScope.Proofs.Boxed.Inspection
import StackScope.Proofs.Boxed.Machine
import StackScope.Proofs.Integrity

/-!
When a context and a machine with a cell for each register are in the same state.

The registers of all frames of the machine, the outermost frame first, lie beside the stack of the
context. At each position one of two things holds. Either the register is captured, and the cell of
the context and the cell of the register stand for one another; or it is not, and then the value on
the stack is the one in the cell of the register, and nothing else stands for that cell.

`known` lists the cells of the machine that stand for cells of the context, with their names. It
grows by one with each first capture.
-/

namespace StackScope

def BoxedFrame.handles (frame : BoxedFrame) : List BoxedHandle :=
  frame.registers.mapIdx fun register cell => ⟨.register frame.activation register, cell⟩

theorem BoxedFrame.length_handles (frame : BoxedFrame) :
    frame.handles.length = frame.registers.length :=
  List.length_mapIdx

theorem BoxedFrame.getElem?_handles (frame : BoxedFrame) (register : Nat) :
    frame.handles[register]? =
      frame.registers[register]?.map fun cell => ⟨.register frame.activation register, cell⟩ :=
  List.getElem?_mapIdx

def slots : List BoxedFrame → List BoxedHandle
  | [] => []
  | frame :: outer => slots outer ++ frame.handles

/-- Frames of which each has as many positions as registers, from where those of the outer frames
end. -/
inductive FramesAgree : List Frame → List BoxedFrame → Prop
  | nil : FramesAgree [] []
  | cons {frame : Frame} {outer : List Frame} {boxed : BoxedFrame} {rest : List BoxedFrame} :
      frame.Resembles boxed.view → frame.base = (slots rest).length →
        frame.top = frame.base + boxed.registers.length → FramesAgree outer rest →
          FramesAgree (frame :: outer) (boxed :: rest)

structure Placed (positions : List BoxedHandle) (frame : Frame) (boxed : BoxedFrame) : Prop where
  resembles : frame.Resembles boxed.view
  top : frame.top = frame.base + boxed.registers.length
  registers : ∀ {register handle}, boxed.handles[register]? = some handle →
    positions[frame.base + register]? = some handle

theorem Placed.append {positions : List BoxedHandle} {frame : Frame} {boxed : BoxedFrame}
    (placed : Placed positions frame boxed) (more : List BoxedHandle) :
    Placed (positions ++ more) frame boxed where
  resembles := placed.resembles
  top := placed.top
  registers := by
    intro register handle found
    have here := placed.registers found
    rw [List.getElem?_append_left (List.getElem?_eq_some_iff.mp here).1]
    exact here

namespace FramesAgree

variable {frames : List Frame} {boxed : List BoxedFrame}

theorem current_cases (agree : FramesAgree frames boxed) :
    (frames = [] ∧ boxed = []) ∨
    ∃ frame outer current rest, frames = frame :: outer ∧ boxed = current :: rest ∧
      frame.Resembles current.view ∧ frame.base = (slots rest).length ∧
      frame.top = frame.base + current.registers.length ∧ FramesAgree outer rest := by
  cases agree with
  | nil => exact .inl ⟨rfl, rfl⟩
  | cons resembles base top below =>
      exact .inr ⟨_, _, _, _, rfl, rfl, resembles, base, top, below⟩

theorem placed (agree : FramesAgree frames boxed) :
    List.Forall₂ (Placed (slots boxed)) frames boxed := by
  induction agree with
  | nil => exact .nil
  | @cons frame outer boxed rest resembles base top _ ih =>
      refine .cons ⟨resembles, top, ?_⟩ (ih.imp fun _ _ placed => placed.append boxed.handles)
      intro register handle found
      rw [base, slots, List.getElem?_append_right (Nat.le_add_right _ _),
        Nat.add_sub_cancel_left]
      exact found

theorem resembles (agree : FramesAgree frames boxed) :
    List.Forall₂ Frame.Resembles frames (boxed.map BoxedFrame.view) := by
  rw [List.forall₂_map_right_iff]
  exact agree.placed.imp fun _ _ placed => placed.resembles

theorem length_eq (agree : FramesAgree frames boxed) : frames.length = boxed.length :=
  agree.placed.length_eq

theorem height_eq (agree : FramesAgree frames boxed) {height : Nat}
    (tiled : Tiled frames height) : height = (slots boxed).length := by
  cases agree with
  | nil => exact tiled
  | cons _ base top _ =>
      obtain ⟨-, ends, -⟩ := tiled
      rw [slots, List.length_append, BoxedFrame.length_handles, ← base, ← top, ends]

end FramesAgree

/-! ### Captured registers by position -/

def home? (frames : List Frame) (slot : Nat) : Option CellId :=
  frames.findSome? fun frame => frame.cellAt? slot

theorem home?_cons (frame : Frame) (outer : List Frame) (slot : Nat) :
    home? (frame :: outer) slot = (frame.cellAt? slot).or (home? outer slot) := by
  unfold home?
  rw [List.findSome?_cons]
  cases frame.cellAt? slot <;> rfl

theorem Context.home?_attachCell (context : Context) {frame : Frame} {outer : List Frame}
    (frames : context.frames = frame :: outer) (slot other : Nat) :
    home? (context.attachCell frame outer slot).frames other =
      if other = slot then some ⟨context.heap.cells.size⟩ else home? context.frames other := by
  unfold attachCell
  rw [frames, home?_cons, home?_cons]
  unfold Frame.cellAt?
  rw [List.lookup_cons]
  by_cases same : other = slot
  · simp [same]
  · rw [if_neg same, beq_eq_false_iff_ne.mpr same]

theorem Frame.Sound.cellAt?_eq_none {frame : Frame} (sound : frame.Sound) {slot : Nat}
    (outside : slot < frame.base ∨ frame.top ≤ slot) : frame.cellAt? slot = none := by
  cases found : frame.cellAt? slot with
  | none => rfl
  | some cell =>
      have inside := sound.inside slot cell (mem_captured_of_cellAt? found)
      omega

namespace Context.Intact

variable {context : Context}

/-- Only the frame whose window holds a position has a cell for it. -/
theorem home?_eq (intact : context.Intact) {frame : Frame} {slot : Nat}
    (member : frame ∈ context.frames) (inside : frame.base ≤ slot ∧ slot < frame.top) :
    home? context.frames slot = frame.cellAt? slot := by
  cases found : frame.cellAt? slot with
  | none =>
      refine List.findSome?_eq_none_iff.mpr fun other otherMember => ?_
      cases elsewhere : other.cellAt? slot with
      | none => rfl
      | some cell =>
          have insideOther := (intact.sound other otherMember).inside slot cell
            (Frame.mem_captured_of_cellAt? elsewhere)
          have same := intact.tiled.eq_of_inside member otherMember inside insideOther
          rw [← same, found] at elsewhere
          cases elsewhere
  | some cell =>
      cases home : home? context.frames slot with
      | none =>
          have missing := List.findSome?_eq_none_iff.mp home frame member
          rw [found] at missing
          cases missing
      | some other =>
          obtain ⟨owner, ownerMember, atOwner⟩ := List.exists_of_findSome?_eq_some home
          have insideOwner := (intact.sound owner ownerMember).inside slot other
            (Frame.mem_captured_of_cellAt? atOwner)
          have same := intact.tiled.eq_of_inside member ownerMember inside insideOwner
          rw [← same, found] at atOwner
          exact atOwner.symm

/-- Below the window of the current frame, the outer frames alone decide. -/
theorem home?_outer (intact : context.Intact) {frame : Frame} {outer : List Frame} {slot : Nat}
    (frames : context.frames = frame :: outer) (before : slot < frame.base) :
    home? outer slot = home? context.frames slot := by
  have sound := intact.sound frame (frames ▸ List.mem_cons_self)
  rw [frames, home?_cons, sound.cellAt?_eq_none (.inl before), Option.none_or]

theorem home?_eq_none (intact : context.Intact) {slot : Nat}
    (beyond : context.stack.length ≤ slot) : home? context.frames slot = none := by
  refine List.findSome?_eq_none_iff.mpr fun frame member => ?_
  have top := intact.tiled.top_le member
  exact (intact.sound frame member).cellAt?_eq_none (.inr (Nat.le_trans top beyond))

end Context.Intact

def CellName.Before (name : CellName) (activations : Nat) : Prop :=
  match name with
  | .older _ => True
  | .register activation _ => activation < activations

/-- The cells of registers are all different, and names tell apart what cells tell apart. -/
structure Directory (known positions : List BoxedHandle) (cells activations : Nat) : Prop where
  distinct : (positions.map BoxedHandle.cell).Nodup
  inside : ∀ handle ∈ known ++ positions, handle.cell.index < cells
  past : ∀ handle ∈ known ++ positions, handle.name.Before activations
  named : ∀ left ∈ known ++ positions, ∀ right ∈ known ++ positions,
    left.name = right.name ↔ left.cell = right.cell

theorem Directory.mono {known later positions fewer : List BoxedHandle} {cells activations : Nat}
    (directory : Directory known positions cells activations)
    (distinct : (fewer.map BoxedHandle.cell).Nodup)
    (members : ∀ handle ∈ later ++ fewer, handle ∈ known ++ positions) :
    Directory later fewer cells activations where
  distinct := distinct
  inside := fun handle member => directory.inside handle (members handle member)
  past := fun handle member => directory.past handle (members handle member)
  named := fun left leftMember right rightMember =>
    directory.named left (members left leftMember) right (members right rightMember)

/-- A register becomes known. -/
theorem Directory.learn {known positions : List BoxedHandle} {cells activations : Nat}
    {handle : BoxedHandle} (directory : Directory known positions cells activations)
    (member : handle ∈ positions) :
    Directory (known ++ [handle]) positions cells activations := by
  refine directory.mono directory.distinct ?_
  intro other present
  simp only [List.mem_append, List.mem_singleton] at present ⊢
  rcases present with (old | rfl) | position
  · exact .inl old
  · exact .inr member
  · exact .inr position

theorem Directory.cell_ne {known positions : List BoxedHandle} {cells activations : Nat}
    (directory : Directory known positions cells activations) {slot other : Nat}
    {handle otherHandle : BoxedHandle} (found : positions[slot]? = some handle)
    (foundOther : positions[other]? = some otherHandle) (different : slot ≠ other) :
    handle.cell ≠ otherHandle.cell := by
  intro same
  refine different ((List.getElem?_inj ?_ directory.distinct).mp ?_)
  · rw [List.length_map]
    exact (List.getElem?_eq_some_iff.mp found).1
  · rw [List.getElem?_map, List.getElem?_map, found, foundOther]
    exact congrArg some same

/-! ### States -/

/-- What a position of the stack and the cell of its register have in common. -/
def Shares (known : List BoxedHandle) (frames : List Frame) (stack : List Value) (heap : Heap)
    (slot : Nat) (handle : BoxedHandle) : Prop :=
  match home? frames slot with
  | some cell => known[cell.index]? = some handle
  | none => handle.cell ∉ known.map BoxedHandle.cell ∧
      stack[slot]? = some (heap.cell handle.cell)

theorem Shares.captured {known : List BoxedHandle} {frames : List Frame} {stack : List Value}
    {heap : Heap} {slot : Nat} {handle : BoxedHandle} {cell : CellId}
    (home : home? frames slot = some cell) (found : known[cell.index]? = some handle) :
    Shares known frames stack heap slot handle := by
  unfold Shares
  rw [home]
  exact found

theorem Shares.plain {known : List BoxedHandle} {frames : List Frame} {stack : List Value}
    {heap : Heap} {slot : Nat} {handle : BoxedHandle} (home : home? frames slot = none)
    (free : handle.cell ∉ known.map BoxedHandle.cell)
    (value : stack[slot]? = some (heap.cell handle.cell)) :
    Shares known frames stack heap slot handle := by
  unfold Shares
  rw [home]
  exact ⟨free, value⟩

/-- Sharing goes on at a position whose register stays captured or is still not captured. -/
theorem Shares.later {known grown : List BoxedHandle} {frames framesLater : List Frame}
    {stack stackLater : List Value} {heap heapLater : Heap} {slot : Nat} {handle : BoxedHandle}
    (shares : Shares known frames stack heap slot handle)
    (home : home? framesLater slot = home? frames slot) (extension : known <+: grown)
    (plain : handle.cell ∉ known.map BoxedHandle.cell →
      stack[slot]? = some (heap.cell handle.cell) →
        handle.cell ∉ grown.map BoxedHandle.cell ∧
          stackLater[slot]? = some (heapLater.cell handle.cell)) :
    Shares grown framesLater stackLater heapLater slot handle := by
  unfold Shares at shares
  cases captured : home? frames slot with
  | some cell =>
      rw [captured] at shares
      refine .captured (home.trans captured) ?_
      obtain ⟨added, rfl⟩ := extension
      rw [List.getElem?_append_left (List.getElem?_eq_some_iff.mp shares).1]
      exact shares
  | none =>
      rw [captured] at shares
      obtain ⟨free, value⟩ := plain shares.1 shares.2
      exact .plain (home.trans captured) free value

structure Agrees (known : List BoxedHandle) (context : Context) (boxed : Boxed) : Prop where
  intact : context.Intact
  heap : HeapAgrees (known.map BoxedHandle.cell) context.heap boxed.heap
  frames : FramesAgree context.frames boxed.frames
  directory : Directory known (slots boxed.frames) boxed.heap.cells.size boxed.activations
  contents : ∀ {slot handle}, (slots boxed.frames)[slot]? = some handle →
    Shares known context.frames context.stack boxed.heap slot handle
  thread : context.thread = boxed.thread
  stringMetatable : context.stringMetatable = boxed.stringMetatable
  config : context.config = boxed.config

namespace Agrees

variable {known : List BoxedHandle} {context : Context} {boxed : Boxed}

theorem height (agrees : Agrees known context boxed) :
    context.stack.length = (slots boxed.frames).length :=
  agrees.frames.height_eq agrees.intact.tiled

theorem depth (agrees : Agrees known context boxed) : context.depth = boxed.depth :=
  agrees.frames.length_eq

theorem code (agrees : Agrees known context boxed) (function : FunctionId) :
    (context.heap.function function).code = (boxed.heap.function function).code :=
  (agrees.heap.functions function).code

theorem resembles (agrees : Agrees known context boxed) :
    context.Resembles (known.map BoxedHandle.cell) boxed.view where
  frames := agrees.frames.resembles
  heap := agrees.heap
  thread := agrees.thread
  stringMetatable := agrees.stringMetatable
  config := agrees.config

theorem stands {cell : CellId} {handle : BoxedHandle} (found : known[cell.index]? = some handle) :
    Stands (known.map BoxedHandle.cell) cell handle.cell := by
  unfold Stands
  rw [List.getElem?_map, found]
  rfl

end Agrees

end StackScope
