import StackScope.Proofs.LocalSlots
import StackScope.Proofs.StackIntegrity

/-!
Registers and the window of the current frame. The address of a register is the sum of two words,
and only the end of the window is compared with it. As long as the sum is a word, access is granted
inside the window and refused outside of it. A sum that is no word is neither: the machine stops.
Taken modulo the number of words, it would lie in the window of another frame and pass the check.
-/

namespace StackScope

/-- Windows that lie end to end leave no gap. -/
theorem Tiled.exists_owner {frames : List Frame} {height slot : Nat} (tiled : Tiled frames height)
    (below : slot < height) : ∃ owner ∈ frames, owner.base ≤ slot ∧ slot < owner.top := by
  induction frames generalizing height with
  | nil =>
      change height = 0 at tiled
      omega
  | cons frame outer ih =>
      obtain ⟨-, ends, rest⟩ := tiled
      rcases Nat.lt_or_ge slot frame.base with outside | inside
      · obtain ⟨owner, member, window⟩ := ih rest outside
        exact ⟨owner, List.mem_cons_of_mem frame member, window⟩
      · exact ⟨frame, List.mem_cons_self, inside, by omega⟩

namespace Context

def HoldsRegister (context : Context) (register : Nat) : Prop :=
  ∃ frame ∈ context.currentFrame?, register < frame.top - frame.base

instance (context : Context) (register : Nat) : Decidable (context.HoldsRegister register) :=
  decidable_of_iff
    ((context.currentFrame?.any fun frame => decide (register < frame.top - frame.base)) = true)
    (by simp [HoldsRegister, Option.any_eq_true])

/-- The registers of all frames but the current one have kept their values. -/
def SparesOthers (before after : Context) : Prop :=
  ∀ frame ∈ before.frames.tail, ∀ slot, frame.base ≤ slot → slot < frame.top →
    after.readSlot frame slot = before.readSlot frame slot

def RecordsInside (before after : Context) : Prop :=
  ∀ frame ∈ before.currentFrame?, ∀ later ∈ after.currentFrame?, ∀ entry ∈ later.captured,
    entry ∈ frame.captured ∨ (frame.base ≤ entry.1 ∧ entry.1 < frame.top)

/-- The operation does what it is for if the condition holds. Otherwise it says why it does not, and
the context stays as it is. -/
structure GrantedIff {α : Type} (context : Context) (outcome : Outcome α) (condition : Prop) :
    Prop where
  granted : (∃ answer, outcome.1 = .ok answer) ↔ condition
  refused : ¬ condition → ∃ cause, outcome = (.error (.runtime cause), context)

structure StaysInside (context : Context) (register : Nat) : Prop where
  read : ∃ found, context.readRegister register = .ok found ∧
    (found.isSome ↔ context.HoldsRegister register)
  write : ∀ value,
    context.GrantedIff (context.setRegister register value) (context.HoldsRegister register)
  capture : context.GrantedIff (context.capture register) (context.HoldsRegister register)
  spares : ∀ value, context.SparesOthers (context.setRegister register value).2
  records : context.RecordsInside (context.capture register).2

/-- Access to a register is neither granted nor refused. -/
structure StopsMachine (context : Context) (register : Nat) : Prop where
  read : context.readRegister register = .error .addressOverflow
  write : ∀ value, context.setRegister register value = (.error .addressOverflow, context)
  capture : context.capture register = (.error .addressOverflow, context)

/-- Where sums wrap around, the address of a register is a position in the window of another frame.
A write to it is seen there unless one of the two frames has a cell for the position. -/
structure Strays (context : Context) (register : Nat) (frame owner : Frame) (slot : Nat) :
    Prop where
  address : slot + Word.size64 = frame.base + register
  other : owner ∈ context.frames.tail
  window : owner.base ≤ slot ∧ slot < owner.top ∧ owner.top ≤ frame.base
  lost : ∀ value, frame.cellAt? slot = none → owner.cellAt? slot = none →
    (context.writeSlot frame slot value).readSlot owner slot = value

namespace GrantedIff

variable {α : Type} {context : Context} {condition : Prop}

theorem ofOk (holds : condition) (answer : α) (later : Context) :
    context.GrantedIff (.ok answer, later) condition :=
  ⟨iff_of_true ⟨answer, rfl⟩ holds, fun fails => absurd holds fails⟩

theorem ofRuntime (fails : ¬ condition) (cause : RuntimeFault) :
    context.GrantedIff ((.error (.runtime cause), context) : Outcome α) condition := by
  refine ⟨iff_of_false ?_ fails, fun _ => ⟨cause, rfl⟩⟩
  rintro ⟨answer, granted⟩
  cases granted

end GrantedIff

variable {context : Context} {frame : Frame} {outer : List Frame} {register slot : Nat}

theorem not_holdsRegister_nil (empty : context.frames = []) : ¬ context.HoldsRegister register := by
  rintro ⟨frame, current, -⟩
  rw [currentFrame?, empty] at current
  cases current

theorem fits_cons (frames : context.frames = frame :: outer) :
    context.Fits register ↔ frame.base + register < Word.size64 := by
  unfold Fits currentFrame?
  rw [frames]
  simp

theorem holdsRegister_cons (frames : context.frames = frame :: outer) :
    context.HoldsRegister register ↔ register < frame.top - frame.base := by
  unfold HoldsRegister currentFrame?
  rw [frames]
  simp

/-- The three operations find the same address of a register, or none. -/
theorem slotOf_cases (frames : context.frames = frame :: outer) (fits : context.Fits register) :
    (context.HoldsRegister register ∧ ∃ slot, slotOf frame register = .ok (some slot)) ∨
    (¬ context.HoldsRegister register ∧ slotOf frame register = .ok none) := by
  rw [slotOf_of_lt ((fits_cons frames).mp fits), holdsRegister_cons frames]
  by_cases inside : frame.base + register < frame.top
  · rw [if_pos inside]
    exact .inl ⟨by omega, _, rfl⟩
  · rw [if_neg inside]
    exact .inr ⟨by omega, rfl⟩

theorem readRegister_cons (frames : context.frames = frame :: outer) :
    context.readRegister register =
      (slotOf frame register).map fun slot => slot.map (context.readSlot frame) := by
  unfold readRegister
  rw [frames]

theorem exists_frameAt?_of_mem (frames : context.frames = frame :: outer) {other : Frame}
    (member : other ∈ outer) : ∃ index < outer.length, context.frameAt? index = some other := by
  obtain ⟨index, present⟩ := List.mem_iff_getElem?.mp (List.mem_reverse.mpr member)
  have inside := (List.getElem?_eq_some_iff.mp present).1
  rw [List.length_reverse] at inside
  exact ⟨index, inside, (frameAt?_outer frames inside).trans present⟩

/-- A write to a register in the window is seen by no other frame. -/
theorem sparesOthers_writeSlot (stacked : context.Stacked)
    (frames : context.frames = frame :: outer) (inside : frame.base ≤ slot ∧ slot < frame.top)
    (value : Value) : context.SparesOthers (context.writeSlot frame slot value) := by
  have current := frameAt?_innermost frames
  have running := mem_of_frameAt? current
  have height : slot < context.stack.length :=
    Nat.lt_of_lt_of_le inside.2 (stacked.tiled.top_le running)
  have allocated := stacked.allocated_of_cellAt? running slot
  intro other member position above below
  rw [frames, List.tail_cons] at member
  obtain ⟨index, outside, present⟩ := exists_frameAt?_of_mem frames member
  rw [readSlot_eq_contents, readSlot_eq_contents]
  refine (writeSlot_assigned height allocated value).only.contents _ ?_
  intro same
  have indices := (stacked.register_eq_of_location current present inside ⟨above, below⟩
    (Option.some.inj same)).1
  omega

theorem recordsInside_capture (context : Context) (register : Nat) :
    context.RecordsInside (context.capture register).2 := by
  intro frame before later after entry member
  have unchanged : (context.capture register).2 = context →
      entry ∈ frame.captured ∨ (frame.base ≤ entry.1 ∧ entry.1 < frame.top) := by
    intro unchanged
    rw [unchanged] at after
    rw [Option.some.inj (before.symm.trans after)]
    exact .inl member
  rcases context.capture_cases register with
    ⟨fault, refused⟩ | ⟨current, outer, slot, frames, address, ⟨cell, -, again⟩ | ⟨-, made⟩⟩
  · exact unchanged (by rw [refused])
  · exact unchanged (by rw [again])
  · rw [currentFrame?, frames] at before
    cases before
    rw [made] at after
    cases after
    rcases List.mem_cons.mp member with rfl | old
    · exact .inr (inside_of_slotOf address)
    · exact .inl old

theorem sparesOthers_setRegister (stacked : context.Stacked) (register : Nat) (value : Value) :
    context.SparesOthers (context.setRegister register value).2 := by
  rcases context.setRegister_cases register value with
    ⟨fault, refused⟩ | ⟨frame, outer, slot, frames, address, made⟩
  · rw [refused]
    exact fun _ _ _ _ _ => rfl
  · rw [made]
    exact sparesOthers_writeSlot stacked frames (inside_of_slotOf address) value

theorem readRegister_of_fits (fits : context.Fits register) :
    ∃ found, context.readRegister register = .ok found ∧
      (found.isSome ↔ context.HoldsRegister register) := by
  cases frames : context.frames with
  | nil =>
      refine ⟨none, ?_, iff_of_false Bool.false_ne_true (not_holdsRegister_nil frames)⟩
      unfold readRegister
      rw [frames]
  | cons frame outer =>
      rw [readRegister_cons frames]
      rcases slotOf_cases frames fits with ⟨holds, slot, found⟩ | ⟨outside, missing⟩
      · rw [found]
        exact ⟨_, rfl, iff_of_true rfl holds⟩
      · rw [missing]
        exact ⟨_, rfl, iff_of_false Bool.false_ne_true outside⟩

theorem setRegister_granted (fits : context.Fits register) (value : Value) :
    context.GrantedIff (context.setRegister register value) (context.HoldsRegister register) := by
  unfold setRegister
  cases frames : context.frames with
  | nil => exact .ofRuntime (not_holdsRegister_nil frames) _
  | cons frame outer =>
      rcases slotOf_cases frames fits with ⟨holds, slot, found⟩ | ⟨outside, missing⟩
      · simp only [found]
        exact .ofOk holds _ _
      · simp only [missing]
        exact .ofRuntime outside _

theorem capture_granted (fits : context.Fits register) :
    context.GrantedIff (context.capture register) (context.HoldsRegister register) := by
  unfold capture
  cases frames : context.frames with
  | nil => exact .ofRuntime (not_holdsRegister_nil frames) _
  | cons frame outer =>
      rcases slotOf_cases frames fits with ⟨holds, slot, found⟩ | ⟨outside, missing⟩
      · simp only [found]
        cases frame.cellAt? slot with
        | none => exact .ofOk holds _ _
        | some cell => exact .ofOk holds _ _
      · simp only [missing]
        exact .ofRuntime outside _

theorem staysInside_of_fits (stacked : context.Stacked) (fits : context.Fits register) :
    context.StaysInside register where
  read := readRegister_of_fits fits
  write := setRegister_granted fits
  capture := capture_granted fits
  spares := sparesOthers_setRegister stacked register
  records := recordsInside_capture context register

theorem exists_current_of_not_fits (overflows : ¬ context.Fits register) :
    ∃ frame outer, context.frames = frame :: outer ∧
      Word.size64 ≤ frame.base + register := by
  cases frames : context.frames with
  | nil =>
      refine absurd ?_ overflows
      intro frame current
      rw [currentFrame?, frames] at current
      cases current
  | cons frame outer =>
      rw [fits_cons frames, Nat.not_lt] at overflows
      exact ⟨frame, outer, rfl, overflows⟩

theorem stopsMachine_of_not_fits (overflows : ¬ context.Fits register) :
    context.StopsMachine register := by
  obtain ⟨frame, outer, frames, overflows⟩ := exists_current_of_not_fits overflows
  have stops := slotOf_of_le overflows
  refine ⟨?_, ?_, ?_⟩
  · rw [readRegister_cons frames, stops]
    rfl
  · intro value
    unfold setRegister
    simp only [frames, stops]
  · unfold capture
    simp only [frames, stops]

theorem strays_of_not_fits (stacked : context.Stacked) (word : register < Word.size64)
    (overflows : ¬ context.Fits register) :
    ∃ frame ∈ context.currentFrame?, ∃ owner slot,
      context.Strays register frame owner slot := by
  obtain ⟨frame, outer, frames, overflows⟩ := exists_current_of_not_fits overflows
  obtain ⟨slot, address⟩ := Nat.exists_eq_add_of_le' overflows
  have tiled := stacked.tiled
  rw [frames] at tiled
  obtain ⟨ordered, ends, below⟩ := tiled
  -- The register alone is a word, so what is over a word lies below the window.
  have under : slot < frame.base := by omega
  obtain ⟨owner, member, window⟩ := below.exists_owner under
  have floor := below.top_le member
  refine ⟨frame, by rw [currentFrame?, frames]; rfl, owner, slot, address.symm, ?_,
    ⟨window.1, window.2, floor⟩, ?_⟩
  · rw [frames]
    exact member
  · intro value free ownerFree
    have written : location frame slot = location owner slot := by
      rw [location, location, free, ownerFree]
    rw [readSlot_eq_contents, ← written]
    refine (writeSlot_assigned (by omega) ?_ value).holds
    intro cell captured
    rw [free] at captured
    cases captured

end Context

/-- Access to a register stays inside the window of the current frame exactly if the address of the
register is a word. If it is not, the machine stops; where sums wrap around instead, the address is
that of a register of another frame. -/
theorem register_stays_inside {context : Context} (reachable : context.Reachable) {register : Nat}
    (word : register < Word.size64) :
    (context.StaysInside register ↔ context.Fits register) ∧
    (¬ context.Fits register → context.StopsMachine register ∧
      ∃ frame ∈ context.currentFrame?, ∃ owner slot,
        context.Strays register frame owner slot) := by
  have stacked := reachable.intact.stacked
  refine ⟨⟨?_, Context.staysInside_of_fits stacked⟩, ?_⟩
  · intro inside
    by_contra overflows
    obtain ⟨found, answered, -⟩ := inside.read
    rw [(Context.stopsMachine_of_not_fits overflows).read] at answered
    cases answered
  · intro overflows
    exact ⟨Context.stopsMachine_of_not_fits overflows,
      Context.strays_of_not_fits stacked word overflows⟩

def nestedWindows : Context :=
  (((Context.create sampleHeap {}).call ⟨0⟩ []).2.call ⟨0⟩ []).2

theorem nestedWindows_reachable : nestedWindows.Reachable := .call _ _ (.call _ _ (.create _ _))

/-- The last word would be the address of the register before the window, which is the caller's. -/
theorem register_stays_inside_nested :
    let last := Word.size64 - 1
    nestedWindows.StaysInside 1 ∧ nestedWindows.StaysInside 2 ∧
    ¬ nestedWindows.StaysInside last ∧ nestedWindows.StopsMachine last ∧
    ∃ frame ∈ nestedWindows.currentFrame?, ∃ owner slot,
      nestedWindows.Strays last frame owner slot := by
  intro last
  have overflows : ¬ nestedWindows.Fits last := by decide
  have word : last < Word.size64 := by decide
  obtain ⟨inside, outside⟩ := register_stays_inside nestedWindows_reachable word
  exact ⟨(register_stays_inside nestedWindows_reachable (by decide)).1.mpr (by decide),
    (register_stays_inside nestedWindows_reachable (by decide)).1.mpr (by decide),
    fun stays => overflows (inside.mp stays), outside overflows⟩

/-- The window does not have the register, and yet no access to it is refused: the machine stops.
The sum of the two words is one more than a word holds, and position 1 is in the window of the
caller. -/
theorem register_outside_window :
    let last := Word.size64 - 1
    nestedWindows.Reachable ∧ last < Word.size64 ∧ ¬ nestedWindows.HoldsRegister last ∧
    nestedWindows.readRegister last = .error .addressOverflow ∧
    (nestedWindows.setRegister last (.boolean true)).1 = .error .addressOverflow ∧
    (nestedWindows.capture last).1 = .error .addressOverflow ∧
    nestedWindows.frames.map (fun frame => (frame.base, frame.top)) = [(2, 4), (0, 2)] ∧
    (2 + last) % Word.size64 = 1 := by
  refine ⟨nestedWindows_reachable, by decide, by decide, by decide, by decide, by decide, by decide,
    by decide⟩

end StackScope
