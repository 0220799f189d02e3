import Mathlib.Data.List.Nodup
import StackScope.Proofs.LibraryFootprint
import StackScope.Proofs.Reachable

/-!
Locals at every level of the call chain. A local is addressed by a level and a count, and it is kept
in a register of the frame at that level, which is a position of the stack or a cell.

Two registers are never kept in the same place, because the windows of frames lie apart and no cell
belongs to two registers. So a write to one local is seen there and nowhere else.
-/

namespace StackScope

namespace Context

variable {context : Context}

/-- What holds between frames in the order of the stack holds between positions counted from the
outermost frame. -/
theorem apart_of_lt {relation : Frame → Frame → Prop} (pairwise : context.frames.Pairwise relation)
    {outer inner : Nat} {below above : Frame} (outerAt : context.frameAt? outer = some below)
    (innerAt : context.frameAt? inner = some above) (less : outer < inner) :
    relation above below := by
  have reversed : context.frames.reverse.Pairwise fun below above => relation above below :=
    List.pairwise_reverse.mpr pairwise
  obtain ⟨outerInside, rfl⟩ := List.getElem?_eq_some_iff.mp outerAt
  obtain ⟨innerInside, rfl⟩ := List.getElem?_eq_some_iff.mp innerAt
  exact List.pairwise_iff_getElem.mp reversed outer inner outerInside innerInside less

namespace Stacked

variable {i j : Nat} {left right : Frame} {slot other : Nat} (stacked : context.Stacked)
  (leftAt : context.frameAt? i = some left) (rightAt : context.frameAt? j = some right)
include stacked leftAt rightAt

theorem index_eq_of_inside (inLeft : left.base ≤ slot ∧ slot < left.top)
    (inRight : right.base ≤ slot ∧ slot < right.top) : i = j := by
  rcases Nat.lt_trichotomy i j with outer | same | inner
  · have := apart_of_lt stacked.tiled.pairwise leftAt rightAt outer
    omega
  · exact same
  · have := apart_of_lt stacked.tiled.pairwise rightAt leftAt inner
    omega

theorem register_eq_of_cell {cell : CellId} (inLeft : left.cellAt? slot = some cell)
    (inRight : right.cellAt? other = some cell) : i = j ∧ slot = other := by
  obtain ⟨within, between⟩ := List.pairwise_flatMap.mp stacked.distinct
  have leftEntry := Frame.mem_captured_of_cellAt? inLeft
  have rightEntry := Frame.mem_captured_of_cellAt? inRight
  have leftCell : cell ∈ left.captured.map Prod.snd := List.mem_map_of_mem leftEntry
  have rightCell : cell ∈ right.captured.map Prod.snd := List.mem_map_of_mem rightEntry
  rcases Nat.lt_trichotomy i j with outer | same | inner
  · exact absurd rfl (apart_of_lt between leftAt rightAt outer cell rightCell cell leftCell)
  · subst same
    rw [leftAt] at rightAt
    cases rightAt
    have alone := within left (mem_of_frameAt? leftAt)
    have entry := List.inj_on_of_nodup_map alone leftEntry rightEntry rfl
    exact ⟨rfl, congrArg Prod.fst entry⟩
  · exact absurd rfl (apart_of_lt between rightAt leftAt inner cell leftCell cell rightCell)

/-- Two registers are never kept in the same place. -/
theorem register_eq_of_location (inLeft : left.base ≤ slot ∧ slot < left.top)
    (inRight : right.base ≤ other ∧ other < right.top)
    (same : location left slot = location right other) : i = j ∧ slot = other := by
  unfold location at same
  cases leftCell : left.cellAt? slot with
  | none =>
      cases rightCell : right.cellAt? other with
      | none =>
          rw [leftCell, rightCell] at same
          cases same
          exact ⟨stacked.index_eq_of_inside leftAt rightAt inLeft inRight, rfl⟩
      | some cell =>
          rw [leftCell, rightCell] at same
          cases same
  | some cell =>
      cases rightCell : right.cellAt? other with
      | none =>
          rw [leftCell, rightCell] at same
          cases same
      | some cell =>
          rw [leftCell, rightCell] at same
          cases same
          exact stacked.register_eq_of_cell leftAt rightAt leftCell rightCell

end Stacked

theorem readSlot_eq_contents (context : Context) (frame : Frame) (slot : Nat) :
    context.readSlot frame slot = context.contents (location frame slot) := by
  unfold readSlot location
  cases frame.cellAt? slot <;> rfl

theorem writeSlot_readSlot (context : Context) (frame : Frame) (slot : Nat) :
    context.writeSlot frame slot (context.readSlot frame slot) = context := by
  unfold writeSlot readSlot
  cases frame.cellAt? slot with
  | some cell =>
      have same : context.heap.setCell cell (context.heap.cell cell) = context.heap := by
        unfold Heap.setCell Heap.cell
        rw [Pool.set_get]
      dsimp only
      rw [same]
  | none =>
      have same : context.stack.set slot (context.stack[slot]?.getD .nil) = context.stack := by
        rcases Nat.lt_or_ge slot context.stack.length with inside | outside
        · rw [List.getElem?_eq_getElem inside, Option.getD_some, List.set_getElem_self]
        · exact List.set_eq_of_length_le outside
      dsimp only
      rw [same]

/-- Where locals are found depends on the frames alone. -/
theorem locate?_congr {later : Context} (frames : later.frames = context.frames) (level : Level)
    (ordinal : Nat) : later.locate? level ordinal = context.locate? level ordinal := by
  unfold locate? frameAt?
  rw [frames]

def returnTimes : Context → Nat → Outcome Unit
  | context, 0 => (.ok (), context)
  | context, count + 1 =>
      match context.returnFromCall with
      | (.error fault, later) => (.error fault, later)
      | (.ok (), later) => later.returnTimes count

/-- Returning from the frames further in brings a frame back on top, with the stack below its top as
it is. -/
theorem returnTimes_of_frames (stacked : context.Stacked) {inner outer : List Frame}
    {frame : Frame} (frames : context.frames = inner ++ frame :: outer) :
    ∃ returned, context.returnTimes inner.length = (.ok (), returned) ∧
      returned.frames = frame :: outer ∧ returned.heap = context.heap ∧
      ∀ slot < frame.top, returned.stack[slot]? = context.stack[slot]? := by
  induction inner generalizing context with
  | nil => exact ⟨context, rfl, frames, rfl, fun _ _ => rfl⟩
  | cons first rest ih =>
      have framesLeft : context.popFrame.frames = rest ++ frame :: outer := by
        rw [frames_popFrame, frames]
        rfl
      obtain ⟨returned, ran, current, heap, stack⟩ := ih stacked.popFrame framesLeft
      have step : context.returnFromCall = (.ok (), context.popFrame) := by
        rcases context.returnFromCall_cases with ⟨empty, -⟩ | ⟨-, popped⟩
        · rw [frames] at empty
          cases empty
        · exact popped
      refine ⟨returned, ?_, current, heap.trans (heap_popFrame context), ?_⟩
      · rw [List.length_cons, returnTimes, step]
        exact ran
      · intro slot below
        have tiled := stacked.tiled
        rw [frames] at tiled
        have member : frame ∈ rest ++ frame :: outer :=
          List.mem_append_right rest List.mem_cons_self
        have floor : frame.top ≤ first.base := tiled.2.2.top_le member
        rw [stack slot below, popFrame_cons frames]
        exact List.getElem?_take_of_lt (Nat.lt_of_lt_of_le below floor)

theorem split_of_frameAt? {index : Nat} {frame : Frame}
    (present : context.frameAt? index = some frame) :
    ∃ inner outer, context.frames = inner ++ frame :: outer ∧
      inner.length = context.depth - 1 - index := by
  have inside : index < context.frames.length := by
    rw [← List.length_reverse]
    exact (List.getElem?_eq_some_iff.mp present).1
  unfold frameAt? at present
  rw [List.getElem?_reverse inside] at present
  obtain ⟨before, rfl⟩ := List.getElem?_eq_some_iff.mp present
  refine ⟨context.frames.take (context.frames.length - 1 - index),
    context.frames.drop (context.frames.length - 1 - index + 1), ?_, ?_⟩
  · rw [← List.drop_eq_getElem_cons before]
    exact (List.take_append_drop _ _).symm
  · exact List.length_take_of_le (Nat.le_of_lt before)

/-! ### Locals in place -/

variable {level : Level} {ordinal : Nat}

theorem getLocal?_isSome_iff (context : Context) (level : Level) (ordinal : Nat) :
    (context.getLocal? level ordinal).isSome ↔
      ∃ frame prototype, context.levelFrame? level = some frame ∧
        frame.code = .script prototype ∧ 1 ≤ ordinal ∧
        ordinal ≤ prototype.activeLocals frame.position ∧ ordinal ≤ frame.top - frame.base := by
  have located : (context.getLocal? level ordinal).isSome =
      (context.localLocation? level ordinal).isSome := by
    rw [getLocal?, localLocation?, Option.isSome_map, Option.isSome_map]
  rw [located, Option.isSome_iff_exists]
  constructor
  · rintro ⟨address, found⟩
    obtain ⟨frame, prototype, present, script, positive, live, width, -⟩ :=
      localLocation?_eq_some.mp found
    exact ⟨frame, prototype, present, script, positive, live, width⟩
  · rintro ⟨frame, prototype, present, script, positive, live, width⟩
    exact ⟨_, localLocation?_eq_some.mpr
      ⟨frame, prototype, present, script, positive, live, width, rfl⟩⟩

theorem setLocal_name (context : Context) (level : Level) (ordinal : Nat) (value : Value) :
    (context.setLocal level ordinal value).1 =
      (context.getLocal? level ordinal).map NamedValue.name := by
  unfold setLocal getLocal?
  cases context.locate? level ordinal <;> rfl

theorem setLocal_of_absent (absent : context.getLocal? level ordinal = none) (value : Value) :
    (context.setLocal level ordinal value).2 = context := by
  unfold setLocal
  rw [Option.map_eq_none_iff.mp absent]

/-- A local is kept in the register that its count stands for. -/
theorem register_of_locate? {place : LocalPlace}
    (found : context.locate? level ordinal = some place) :
    1 ≤ ordinal ∧ place.slot = place.frame.base + (ordinal - 1) ∧
      place.slot < place.frame.top := by
  obtain ⟨-, -, prototype, scope, -, live, address, inside, -⟩ := locate?_eq_some.mp found
  have counted := (prototype.localAt?_isSome ordinal place.frame.position).mp
    (Option.isSome_of_eq_some live)
  refine ⟨counted.1, ?_, inside⟩
  rw [address, Nat.add_sub_assoc counted.1]

section Write

variable {place : LocalPlace} (stacked : context.Stacked)
  (found : context.locate? level ordinal = some place) (value : Value)
include stacked found

theorem readSlot_setLocal :
    (context.setLocal level ordinal value).2.readSlot place.frame place.slot = value := by
  rw [readSlot_eq_contents]
  exact (setLocal_assigned stacked found value).holds

theorem readSlot_setLocal_of_ne {index : Nat} {frame : Frame} {slot : Nat}
    (present : context.frameAt? index = some frame)
    (inside : frame.base ≤ slot ∧ slot < frame.top)
    (different : ¬(index = place.index ∧ slot = place.slot)) :
    (context.setLocal level ordinal value).2.readSlot frame slot =
      context.readSlot frame slot := by
  rw [readSlot_eq_contents, readSlot_eq_contents]
  refine (setLocal_assigned stacked found value).only.contents _ ?_
  intro same
  obtain ⟨-, address, top⟩ := register_of_locate? found
  have placed := (locate?_eq_some.mp found).2.1
  obtain ⟨index, slot⟩ := stacked.register_eq_of_location placed present ⟨by omega, top⟩ inside
    (Option.some.inj same)
  exact different ⟨index.symm, slot.symm⟩

theorem getLocal?_setLocal :
    (context.setLocal level ordinal value).2.getLocal? level ordinal =
      some ⟨place.name, value⟩ := by
  have frames := (setLocal_assigned stacked found value).only.frames
  unfold getLocal?
  rw [locate?_congr frames, found, Option.map_some, readSlot_setLocal stacked found]

theorem getLocal?_setLocal_of_ne {other : Level} {count : Nat}
    (different : other.slot ≠ level.slot ∨ count ≠ ordinal) :
    (context.setLocal level ordinal value).2.getLocal? other count =
      context.getLocal? other count := by
  have frames := (setLocal_assigned stacked found value).only.frames
  unfold getLocal?
  rw [locate?_congr frames]
  cases elsewhere : context.locate? other count with
  | none => rfl
  | some target =>
      obtain ⟨active, present, -⟩ := locate?_eq_some.mp elsewhere
      obtain ⟨positive, address, top⟩ := register_of_locate? elsewhere
      have apart : ¬(target.index = place.index ∧ target.slot = place.slot) := by
        rintro ⟨index, slot⟩
        obtain ⟨placeActive, placed, -⟩ := locate?_eq_some.mp found
        obtain ⟨placePositive, placeAddress, -⟩ := register_of_locate? found
        rw [index] at active present
        have same : place.frame = target.frame := Option.some.inj (placed.symm.trans present)
        rw [← same] at address
        rcases different with otherSlot | otherCount
        · exact otherSlot (active.trans placeActive.symm)
        · omega
      rw [Option.map_some, Option.map_some,
        readSlot_setLocal_of_ne stacked found value present ⟨by omega, top⟩ apart]

/-- The write reaches the register that the frame's code works on. -/
theorem readRegister_after_returning (fits : place.slot < Word.size64) :
    let after := (context.setLocal level ordinal value).2
    ∃ returned, after.returnTimes (after.depth - 1 - place.index) = (.ok (), returned) ∧
      returned.currentFrame? = some place.frame ∧
      returned.readRegister (ordinal - 1) = .ok (some value) := by
  intro after
  have assigned := setLocal_assigned stacked found value
  have ordered : after.Stacked :=
    stacked.congr assigned.only.frames assigned.only.height
      (Nat.le_of_eq assigned.only.objects.cells.symm)
  have present : after.frameAt? place.index = some place.frame := by
    unfold frameAt?
    rw [assigned.only.frames]
    exact (locate?_eq_some.mp found).2.1
  obtain ⟨inner, outer, frames, count⟩ := split_of_frameAt? present
  obtain ⟨returned, ran, top, heap, stack⟩ := returnTimes_of_frames ordered frames
  obtain ⟨-, address, inside⟩ := register_of_locate? found
  have addressed : slotOf place.frame (ordinal - 1) = .ok (some place.slot) :=
    slotOf_eq_some.mpr ⟨address.symm, inside, fits⟩
  have same : returned.readSlot place.frame place.slot = after.readSlot place.frame place.slot := by
    unfold readSlot
    rw [heap, stack place.slot inside]
  refine ⟨returned, ?_, ?_, ?_⟩
  · rw [← count]
    exact ran
  · rw [currentFrame?, top]
    rfl
  · rw [readRegister, top]
    dsimp only
    rw [addressed]
    change Except.ok (some (returned.readSlot place.frame place.slot)) = _
    rw [same, readSlot_setLocal stacked found value]

end Write

theorem setLocal_own_value {place : LocalPlace}
    (found : context.locate? level ordinal = some place) :
    context.setLocal level ordinal (context.readSlot place.frame place.slot) =
      (some place.name, context) := by
  unfold setLocal
  rw [found]
  dsimp only
  rw [writeSlot_readSlot]

/-- A write changes the stack or the contents of cells, and nothing else. -/
theorem setLocal_rest (context : Context) (level : Level) (ordinal : Nat) (value : Value) :
    let after := (context.setLocal level ordinal value).2
    after = { context with
      stack := after.stack
      heap := { context.heap with cells := after.heap.cells } } := by
  rcases context.setLocal_cases level ordinal value with same | ⟨place, -, written⟩
  · rw [same]
  · rw [written]
    unfold writeSlot
    cases place.frame.cellAt? place.slot <;> rfl

/-- What the write of a value to a local, whose name is given, changes and what it leaves as it
is. -/
structure LocalWritten (before : Context) (level : Level) (ordinal : Nat) (name : Option String)
    (value : Value) (after : Context) : Prop where
  read : after.getLocal? level ordinal = some ⟨name, value⟩
  assigned : ∃ location, before.localLocation? level ordinal = some location ∧
    Assigned location value before after
  rest : after = { before with
    stack := after.stack
    heap := { before.heap with cells := after.heap.cells } }
  levels : after.levels = before.levels
  locals : ∀ other ∈ before.levels, ∀ count, (other, count) ≠ (level, ordinal) →
    after.getLocal? other count = before.getLocal? other count
  /-- Of every frame. -/
  registers : ∀ index frame register, before.frameAt? index = some frame →
    frame.base + register < frame.top → ¬(level.slot = .active index ∧ register + 1 = ordinal) →
      after.readSlot frame (frame.base + register) = before.readSlot frame (frame.base + register)
  cells : ∀ cell, before.localLocation? level ordinal ≠ some (.cell cell) →
    after.heap.cell cell = before.heap.cell cell
  /-- The frame's own code sees the value, once the frames further in have returned. The address of
  the register is a word. -/
  returned : ∀ index frame, level.slot = .active index → before.frameAt? index = some frame →
    frame.base + (ordinal - 1) < Word.size64 →
      ∃ returned, after.returnTimes (after.depth - 1 - index) = (.ok (), returned) ∧
        returned.currentFrame? = some frame ∧
          returned.readRegister (ordinal - 1) = .ok (some value)

theorem localWritten (stacked : context.Stacked) (member : level ∈ context.levels)
    {place : LocalPlace} (found : context.locate? level ordinal = some place) (value : Value) :
    LocalWritten context level ordinal place.name value
      (context.setLocal level ordinal value).2 := by
  have assigned := setLocal_assigned stacked found value
  obtain ⟨active, placed, -⟩ := locate?_eq_some.mp found
  obtain ⟨positive, address, inside⟩ := register_of_locate? found
  have location : context.localLocation? level ordinal =
      some (Context.location place.frame place.slot) := by
    rw [localLocation?, found]
    rfl
  refine
    { read := getLocal?_setLocal stacked found value
      assigned := ⟨_, location, assigned⟩
      rest := context.setLocal_rest level ordinal value
      levels := levels_congr assigned.only.config assigned.only.frames
      locals := ?_
      registers := ?_
      cells := ?_
      returned := ?_ }
  · intro other otherMember count different
    apply getLocal?_setLocal_of_ne stacked found value
    by_cases same : other.slot = level.slot
    · refine .inr ?_
      rintro rfl
      have level : other = level :=
        eq_of_mem_levels otherMember member (same.trans active) active
      exact different (by rw [level])
    · exact .inl same
  · intro index frame register present within different
    apply readSlot_setLocal_of_ne stacked found value present ⟨Nat.le_add_right _ _, within⟩
    rintro ⟨rfl, slot⟩
    cases placed.symm.trans present
    exact different ⟨active, by omega⟩
  · intro cell elsewhere
    exact assigned.only.contents (.cell cell) (location ▸ elsewhere)
  · intro index frame level present fits
    cases active.symm.trans level
    cases placed.symm.trans present
    rw [← address] at fits
    exact readRegister_after_returning stacked found value fits

end Context

/-- Locals are addressed by the register that they are kept in, at every level. A local exists when
the level is that of a script frame, the count is that of a live local and the register is in the
window. Writing answers for the same locals as reading and by the same name, and it changes the
register and nothing else; what was read can be written back without any change. -/
theorem locals_in_place {context : Context} (reachable : context.Reachable) {level : Level}
    (member : level ∈ context.levels) (ordinal : Nat) :
    ((context.getLocal? level ordinal).isSome ↔
      ∃ frame prototype, context.levelFrame? level = some frame ∧
        frame.code = .script prototype ∧ 1 ≤ ordinal ∧
        ordinal ≤ prototype.activeLocals frame.position ∧ ordinal ≤ frame.top - frame.base) ∧
    (∀ value, (context.setLocal level ordinal value).1 =
      (context.getLocal? level ordinal).map NamedValue.name) ∧
    (context.getLocal? level ordinal = none →
      ∀ value, (context.setLocal level ordinal value).2 = context) ∧
    ∀ name held, context.getLocal? level ordinal = some ⟨name, held⟩ →
      context.setLocal level ordinal held = (some name, context) ∧
      ∀ value, context.LocalWritten level ordinal name value
        (context.setLocal level ordinal value).2 := by
  refine ⟨context.getLocal?_isSome_iff level ordinal, context.setLocal_name level ordinal,
    Context.setLocal_of_absent, ?_⟩
  intro name held read
  obtain ⟨place, found, same⟩ := Option.map_eq_some_iff.mp read
  cases same
  exact ⟨Context.setLocal_own_value found,
    Context.localWritten reachable.intact.stacked member found⟩

/-- A function that has called itself. In both frames the first local is captured. -/
def nestedCaptures : Context :=
  let script : Prototype :=
    { source := "@sample", lineDefined := 1, parameterCount := 2, instructions := [.«return» 0 0]
      locals := [⟨some "left", 0, 1⟩, ⟨some "right", 0, 1⟩] }
  let heap := (Heap.empty.addFunction { code := .script script }).2
  let outer := (((Context.create heap {}).call ⟨0⟩ [.text "first", .text "second"]).2.capture 0).2
  ((outer.call ⟨0⟩ [.text "third", .text "fourth"]).2.capture 0).2

/-- The outer frame's captured local is written and later read by the frame itself, and the inner
frame's local of the same name is not affected. -/
theorem locals_in_place_nested :
    let outer : Level := ⟨1, .active 0⟩
    let after := (nestedCaptures.setLocal outer 1 (.text "new")).2
    nestedCaptures.Reachable ∧ outer ∈ nestedCaptures.levels ∧
    nestedCaptures.getLocal? outer 1 = some ⟨some "left", .text "first"⟩ ∧
    nestedCaptures.setLocal outer 1 (.text "first") = (some (some "left"), nestedCaptures) ∧
    after.getLocal? outer 1 = some ⟨some "left", .text "new"⟩ ∧
    after.getLocal? ⟨0, .active 1⟩ 1 = nestedCaptures.getLocal? ⟨0, .active 1⟩ 1 ∧
    ∃ returned, after.returnTimes 1 = (.ok (), returned) ∧
      returned.readRegister 0 = .ok (some (.text "new")) := by
  intro outer after
  have reachable : nestedCaptures.Reachable :=
    .capture (.call _ _ (.capture (.call _ _ (.create _ {}))))
  have member : outer ∈ nestedCaptures.levels := by decide
  have read : nestedCaptures.getLocal? outer 1 = some ⟨some "left", .text "first"⟩ := rfl
  obtain ⟨-, -, -, laws⟩ := locals_in_place reachable member 1
  obtain ⟨back, written⟩ := laws _ _ read
  have new := written (.text "new")
  obtain ⟨returned, ran, -, register⟩ := new.returned 0 _ rfl rfl (by decide)
  exact ⟨reachable, member, read, back, new.read,
    new.locals ⟨0, .active 1⟩ (by decide) 1 (by decide), returned, ran, register⟩

end StackScope
