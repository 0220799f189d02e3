import StackScope.Proofs.StackIntegrity

/-!
A call and its return. What happens in between may push frames, replace and remove them, write and
capture registers and run host functions. As long as all of it happens above the frames of the
caller, the caller finds them as they were: the frames, the values of their windows and the contents
of the cells that they have captured.

`Above` is what each operation keeps. The innermost frame lies above the caller's window, so neither
a write nor a removal reaches below it, and its cells are none of the caller's.
-/

namespace StackScope

/-- The operation writes no variable but registers of the current frame. A function of the debug
library may write other ones, so it is not called either. -/
def Operation.Confined (operation : Operation) (context : Context) : Prop :=
  match operation with
  | callHost function _ => context.libraryFunction? function = none
  | unwind | writeCell _ _ | setLocal _ _ _ | setUpvalue _ _ _ => False
  | _ => True

instance (operation : Operation) (context : Context) : Decidable (operation.Confined context) :=
  match operation with
  | .callHost function _ => inferInstanceAs (Decidable (context.libraryFunction? function = none))
  | .unwind | .writeCell _ _ | .setLocal _ _ _ | .setUpvalue _ _ _ => isFalse id
  | .call _ _ | .tailCall _ _ | .returnFromCall | .setPosition _ | .readRegister _
  | .writeRegister _ _ | .capture _ | .readCell _ | .sameCell _ _ | .makeClosure _ _
  | .getLocal _ _ | .getUpvalue _ _ | .depth | .levelCount | .lookupLevel _ | .traceback _ _
  | .setConfig _ => isTrue trivial

namespace Context

/-- The context continues what the caller was doing when it made a call: the caller's frames, values
and captured registers are there and unchanged. -/
structure Above (caller context : Context) : Prop where
  frames : caller.frames <:+ context.frames
  values : caller.stack <+: context.stack
  cells : ∀ cell ∈ capturedCells caller.frames, context.heap.cell cell = caller.heap.cell cell

namespace Above

variable {caller context later : Context} {frame : Frame} {outer : List Frame}

theorem refl (context : Context) : Above context context :=
  ⟨List.suffix_refl _, List.prefix_refl _, fun _ _ => rfl⟩

theorem pushFrame (above : Above caller context) (function : FunctionId)
    (arguments : List Value) : Above caller (context.pushFrame function arguments) where
  frames := above.frames.trans (List.suffix_cons _ _)
  values := above.values.trans (List.prefix_append _ _)
  cells := above.cells

/-- A change of the frames that keeps the caller's. -/
theorem replaceHead (above : Above caller context) (below : caller.frames <:+ outer)
    (changed : Frame) : Above caller { context with frames := changed :: outer } where
  frames := below.trans (List.suffix_cons _ _)
  values := above.values
  cells := above.cells

variable (deeper : caller.depth < context.depth) (frames : context.frames = frame :: outer)
include deeper frames

/-- The innermost frame is none of the caller's. -/
theorem below (above : Above caller context) : caller.frames <:+ outer := by
  have suffix := above.frames
  rw [frames] at suffix
  rcases List.suffix_cons_iff.mp suffix with same | inside
  · rw [depth, depth, frames, same] at deeper
    exact absurd deeper (Nat.lt_irrefl _)
  · exact inside

variable (ordered : caller.Stacked) (stacked : context.Stacked)
include ordered stacked

theorem height_le_base (above : Above caller context) : caller.stack.length ≤ frame.base := by
  have tiled := stacked.tiled
  rw [frames] at tiled
  exact tiled.2.2.le_of_suffix ordered.tiled (above.below deeper frames)

omit ordered in
/-- The cells of the innermost frame are none of the caller's. -/
theorem cell_ne (above : Above caller context) {slot : Nat} {cell : CellId}
    (captured : frame.cellAt? slot = some cell) : cell ∉ capturedCells caller.frames := by
  have distinct := stacked.distinct
  rw [frames, capturedCells_cons] at distinct
  have own : cell ∈ frame.captured.map Prod.snd :=
    List.mem_map_of_mem (Frame.mem_captured_of_cellAt? captured)
  intro member
  have outside := capturedCells_subset (above.below deeper frames) member
  exact (List.nodup_append.mp distinct).2.2 cell own cell outside rfl

theorem writeSlot (above : Above caller context) {slot : Nat} (inside : frame.base ≤ slot)
    (value : Value) : Above caller (context.writeSlot frame slot value) := by
  unfold Context.writeSlot
  cases captured : frame.cellAt? slot with
  | some written =>
      refine ⟨above.frames, above.values, ?_⟩
      intro cell member
      have different : written ≠ cell := by
        rintro rfl
        exact above.cell_ne deeper frames stacked captured member
      have other : written.index ≠ cell.index := fun same => different (congrArg CellId.mk same)
      rw [← above.cells cell member]
      exact Pool.get_set_of_ne other value
  | none =>
      refine ⟨above.frames, ?_, above.cells⟩
      have height := above.height_le_base deeper frames ordered stacked
      obtain ⟨rest, split⟩ := above.values
      refine ⟨rest.set (slot - caller.stack.length) value, ?_⟩
      change _ = context.stack.set slot value
      rw [← split, List.set_append_right _ _ (Nat.le_trans height inside)]

omit ordered in
theorem attachCell (above : Above caller context) (slot : Nat) :
    Above caller (context.attachCell frame outer slot) := by
  refine ⟨(above.below deeper frames).trans (List.suffix_cons _ _), above.values, ?_⟩
  intro cell member
  have present : cell.index < context.heap.cells.size :=
    stacked.allocated cell (capturedCells_subset above.frames member)
  rw [← above.cells cell member]
  exact Pool.get_add_of_lt present _

end Above

namespace Above

variable {caller context later : Context} (deeper : caller.depth < context.depth)
  (ordered : caller.Stacked) (stacked : context.Stacked)
include deeper ordered stacked

theorem popFrame (above : Above caller context) : Above caller context.popFrame := by
  cases frames : context.frames with
  | nil =>
      rw [popFrame_nil frames]
      exact above
  | cons frame outer =>
      rw [popFrame_cons frames]
      refine ⟨above.below deeper frames, ?_, above.cells⟩
      exact List.prefix_take_iff.mpr
        ⟨above.values, above.height_le_base deeper frames ordered stacked⟩

theorem replaceFrame (above : Above caller context) {frame : Frame} {outer : List Frame}
    (frames : context.frames = frame :: outer) (function : FunctionId)
    (arguments : List Value) (collapsed : Nat) :
    Above caller (context.replaceFrame function arguments collapsed) := by
  have popped := above.popFrame deeper ordered stacked
  have pushed := popped.pushFrame function arguments
  rw [replaceFrame_cons frames]
  rw [popFrame_cons frames] at pushed
  exact pushed.replaceHead (above.below deeper frames) _

/-- Above the frames of the caller, an operation that writes registers only leaves the caller
alone. -/
theorem effect (above : Above caller context) {operation : Operation}
    (confined : operation.Confined context) (effect : operation.Effect context later) :
    Above caller later := by
  cases effect with
  | unchanged => exact above
  | pushed => exact above.pushFrame _ _
  | popped | dropped => exact above.popFrame deeper ordered stacked
  | replaced frames => exact above.replaceFrame deeper ordered stacked frames _ _ _
  | positioned frames => exact above.replaceHead (above.below deeper frames) _
  | written frames found =>
      exact above.writeSlot deeper frames ordered stacked (inside_of_slotOf found).1 _
  | attached frames => exact above.attachCell deeper frames stacked _
  | made | configured => exact ⟨above.frames, above.values, above.cells⟩
  | discarded | stored | assigned | shared => exact confined.elim

end Above

/-- The caller is left alone, or the depth shows that some of its frames are gone. -/
structure Undisturbed (caller context : Context) : Prop where
  intact : context.Intact
  above : Above caller context ∨ context.depth < caller.depth

namespace Undisturbed

variable {caller context : Context}

theorem effect (undisturbed : Undisturbed caller context) (ordered : caller.Stacked)
    (deeper : caller.depth < context.depth) {operation : Operation} {later : Context}
    (confined : operation.Confined context) (effect : operation.Effect context later) :
    Undisturbed caller later := by
  refine ⟨undisturbed.intact.effect effect, .inl ?_⟩
  rcases undisturbed.above with above | gone
  · exact above.effect deeper ordered undisturbed.intact.stacked confined effect
  · exact absurd gone (Nat.not_lt.mpr (Nat.le_of_lt deeper))

/-- The frame that is removed at the end of a host function may be one of the caller's; then the
depth shows it. -/
theorem popFrame (undisturbed : Undisturbed caller context) (ordered : caller.Stacked) :
    Undisturbed caller context.popFrame := by
  refine ⟨undisturbed.intact.popFrame, ?_⟩
  have depth : context.popFrame.depth = context.depth - 1 := by
    rw [Context.depth, frames_popFrame, List.length_tail]
    rfl
  rcases Nat.lt_or_ge caller.depth context.depth with deeper | level
  · rcases undisturbed.above with above | gone
    · exact .inl (above.popFrame deeper ordered undisturbed.intact.stacked)
    · omega
  · cases frames : context.frames with
    | nil =>
        rw [popFrame_nil frames]
        exact undisturbed.above
    | cons frame outer =>
        have positive : 0 < context.depth := by
          rw [Context.depth, frames]
          exact Nat.succ_pos _
        exact .inr (by omega)

theorem preserved (ordered : caller.Stacked) :
    Preserved
      (fun operation context => caller.depth < context.depth ∧ operation.Confined context)
      (Undisturbed caller) where
  step := fun other allowed undisturbed callHost cells =>
    undisturbed.effect ordered allowed.1 allowed.2
      (Operation.execute_effect other callHost cells _)
  enter := by
    intro function arguments context allowed undisturbed
    have confined : (Operation.call function arguments).Confined context := trivial
    exact undisturbed.effect ordered allowed.1 confined (context.call_effect function arguments)
  leave := fun undisturbed => undisturbed.popFrame ordered
  library := by
    intro function arguments before debug allowed runs
    have noLibrary : before.libraryFunction? function = none := allowed.2
    rw [runs] at noLibrary
    cases noLibrary

/-- Where the depth is the caller's again, nothing of the caller is missing and nothing is added. -/
theorem restored (undisturbed : Undisturbed caller context) (ordered : caller.Stacked)
    (level : context.depth = caller.depth) :
    context.frames = caller.frames ∧ context.stack = caller.stack ∧
      ∀ cell ∈ capturedCells caller.frames, context.heap.cell cell = caller.heap.cell cell := by
  rcases undisturbed.above with above | gone
  · have frames : context.frames = caller.frames :=
      (above.frames.eq_of_length level.symm).symm
    have tiled := undisturbed.intact.tiled
    rw [frames] at tiled
    have height : caller.stack.length = context.stack.length :=
      ordered.tiled.height_unique tiled
    exact ⟨frames, (above.values.eq_of_length height).symm, above.cells⟩
  · exact absurd level (Nat.ne_of_lt gone)

end Undisturbed

end Context

/-- A call is made, and then a run takes place above the caller's frames that writes nothing but
registers of its own frames, in its host functions too. When the depth is the caller's again, the
caller's frames and the stack are what they were, and so are the contents of all cells that the
caller's frames have captured. -/
theorem call_undisturbed {context : Context} (reachable : context.Reachable)
    {function : FunctionId} {arguments : List Value}
    (called : (context.call function arguments).1 = .ok ()) (cells : List CellId)
    (program : HostProgram)
    (within : Preserved.Allows
      (fun operation inner => context.depth < inner.depth ∧ operation.Confined inner)
      ((context.call function arguments).2.programEvents cells program))
    (returned : ((context.call function arguments).2.runProgram cells program).2.depth =
      context.depth) :
    let after := ((context.call function arguments).2.runProgram cells program).2
    after.frames = context.frames ∧ after.stack = context.stack ∧
      ∀ cell ∈ capturedCells context.frames, after.heap.cell cell = context.heap.cell cell := by
  have intact := reachable.intact
  have entered : Context.Undisturbed context (context.call function arguments).2 := by
    rcases context.call_cases function arguments with ⟨-, refused⟩ | ⟨-, made⟩
    · rw [refused] at called
      cases called
    · rw [made]
      exact ⟨intact.pushFrame function arguments,
        .inl ((Context.Above.refl context).pushFrame function arguments)⟩
  have preserved := Context.Undisturbed.preserved intact.stacked
  exact (preserved.run entered cells program within).2.restored intact.stacked returned

def capturingCaller : Context :=
  let called := ((Context.create sampleHeap {}).call ⟨0⟩ [.boolean true]).2
  ((called.setRegister 1 (.text "kept")).2.capture 0).2

/-- Writes and captures registers, makes a tail call, runs a host function that calls in turn, calls
once more, and returns from both calls. -/
def busyCallee : HostProgram :=
  .perform (.writeRegister 0 (.text "own")) fun _ =>
    .perform (.capture 0) fun _ =>
      .perform (.writeRegister 0 (.text "shared")) fun _ =>
        .perform (.tailCall ⟨0⟩ []) fun _ =>
          .perform (.callHost ⟨1⟩ []) fun _ =>
            .perform (.call ⟨0⟩ []) fun _ =>
              .perform (.capture 1) fun _ =>
                .perform .returnFromCall fun _ =>
                  .perform .returnFromCall fun _ => .finish (.ok [])

theorem call_undisturbed_busy :
    let called := (capturingCaller.call ⟨0⟩ []).2
    capturingCaller.Reachable ∧ (capturingCaller.call ⟨0⟩ []).1 = .ok () ∧
    Preserved.Allows
      (fun operation inner => capturingCaller.depth < inner.depth ∧ operation.Confined inner)
      (called.programEvents [] busyCallee) ∧
    (called.programEvents [] busyCallee).length = 12 ∧
    (called.runProgram [] busyCallee).2.depth = capturingCaller.depth ∧
    (called.runProgram [] busyCallee).2.frames = capturingCaller.frames ∧
    (called.runProgram [] busyCallee).2.stack = capturingCaller.stack ∧
    capturedCells capturingCaller.frames = [⟨0⟩] ∧
    (called.runProgram [] busyCallee).2.heap.cell ⟨0⟩ = capturingCaller.heap.cell ⟨0⟩ := by
  dsimp only
  have reachable : capturingCaller.Reachable :=
    .capture (.setRegister _ (.call _ _ (.create _ _)))
  have within : Preserved.Allows
      (fun operation inner => capturingCaller.depth < inner.depth ∧ operation.Confined inner)
      ((capturingCaller.call ⟨0⟩ []).2.programEvents [] busyCallee) := by
    unfold Preserved.Allows
    decide
  have returned : ((capturingCaller.call ⟨0⟩ []).2.runProgram [] busyCallee).2.depth =
      capturingCaller.depth := by decide
  obtain ⟨frames, stack, contents⟩ :=
    call_undisturbed reachable rfl [] busyCallee within returned
  have captured : capturedCells capturingCaller.frames = [⟨0⟩] := rfl
  have member : ⟨0⟩ ∈ capturedCells capturingCaller.frames := by
    rw [captured]
    exact List.mem_singleton_self _
  exact ⟨reachable, rfl, within, by decide, returned, frames, stack, captured,
    contents ⟨0⟩ member⟩

end StackScope
