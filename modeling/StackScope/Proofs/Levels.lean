import StackScope.Context.Levels
import StackScope.Proofs.Operations

/-!
The levels of a context as one list, and what pushing, removing or replacing a frame does to it.

All of that follows from one equation for the innermost frame: it stands for one level and one more
for each activation it replaced, and in front of the levels of the frames around it.
-/

namespace StackScope

def slotsFrom (hidden : Bool) (frames : List Frame) : List LevelSlot :=
  (levelsFrom hidden frames 0).map Level.slot

def numbered (slots : List LevelSlot) (first : Nat) : List Level :=
  (slots.zipIdx first).map fun entry => ⟨entry.2, entry.1⟩

theorem numbered_cons (slot : LevelSlot) (slots : List LevelSlot) (first : Nat) :
    numbered (slot :: slots) first = ⟨first, slot⟩ :: numbered slots (first + 1) :=
  rfl

theorem numbered_append (left right : List LevelSlot) (first : Nat) :
    numbered (left ++ right) first =
      numbered left first ++ numbered right (first + left.length) := by
  unfold numbered
  rw [List.zipIdx_append, List.map_append]

theorem map_slot_numbered (slots : List LevelSlot) (first : Nat) :
    (numbered slots first).map Level.slot = slots := by
  induction slots generalizing first with
  | nil => rfl
  | cons slot rest ih => rw [numbered_cons, List.map_cons, ih]

theorem getElem?_numbered (slots : List LevelSlot) (number : Nat) :
    (numbered slots 0)[number]? = slots[number]?.map fun slot => ⟨number, slot⟩ := by
  unfold numbered
  rw [List.getElem?_map, List.getElem?_zipIdx, Option.map_map, Nat.zero_add]
  rfl

theorem tailLevels_eq_numbered (first count : Nat) :
    tailLevels first count = numbered (List.replicate count .tailCall) first := by
  induction count generalizing first with
  | zero => rfl
  | succ count ih => rw [tailLevels, ih, List.replicate_succ, numbered_cons]

theorem map_slot_levelsFrom (hidden : Bool) (frames : List Frame) (first : Nat) :
    (levelsFrom hidden frames first).map Level.slot = slotsFrom hidden frames := by
  have independent : ∀ start other, (levelsFrom hidden frames start).map Level.slot =
      (levelsFrom hidden frames other).map Level.slot := by
    induction frames with
    | nil =>
        intro start other
        rfl
    | cons frame outer ih =>
        intro start other
        unfold levelsFrom
        split
        · rfl
        · split
          · exact ih start other
          · rw [List.map_cons, List.map_cons, List.map_append, List.map_append,
              tailLevels_eq_numbered, tailLevels_eq_numbered, map_slot_numbered,
              map_slot_numbered, ih]
  exact independent first 0

theorem slotsFrom_cons (hidden : Bool) (frame : Frame) (outer : List Frame) :
    slotsFrom hidden (frame :: outer) =
      if hidden && outer.isEmpty then []
      else if frame.isIntrospective then slotsFrom hidden outer
      else .active outer.length ::
        (List.replicate frame.collapsed .tailCall ++ slotsFrom hidden outer) := by
  rw [slotsFrom, levelsFrom]
  split
  · rfl
  · split
    · rfl
    · rw [List.map_cons, List.map_append, tailLevels_eq_numbered, map_slot_numbered,
        map_slot_levelsFrom]

theorem levelsFrom_eq_numbered (hidden : Bool) (frames : List Frame) (first : Nat) :
    levelsFrom hidden frames first = numbered (slotsFrom hidden frames) first := by
  induction frames generalizing first with
  | nil => rfl
  | cons frame outer ih =>
      rw [slotsFrom_cons, levelsFrom]
      split
      · rfl
      · split
        · exact ih first
        · rw [numbered_cons, numbered_append, tailLevels_eq_numbered, ih, List.length_replicate]

/-- Looking a level up gives what stands at its place in the list. -/
theorem slotFrom?_eq_getElem? (hidden : Bool) (frames : List Frame) (skip : Nat) :
    slotFrom? hidden frames skip = (slotsFrom hidden frames)[skip]? := by
  induction frames generalizing skip with
  | nil => rfl
  | cons frame outer ih =>
      rw [slotsFrom_cons, slotFrom?]
      split
      · rfl
      · split
        · exact ih skip
        · cases skip with
          | zero => rfl
          | succ skip =>
              rw [if_neg (Nat.succ_ne_zero skip), List.getElem?_cons_succ]
              have length : (List.replicate frame.collapsed LevelSlot.tailCall).length =
                  frame.collapsed := List.length_replicate
              by_cases within : skip < frame.collapsed
              · rw [if_pos (by omega), List.getElem?_append_left (by omega),
                  List.getElem?_replicate_of_lt within]
              · have rest : skip + 1 - 1 - frame.collapsed = skip - frame.collapsed := by omega
                rw [if_neg (by omega), ih, rest, List.getElem?_append_right (by omega), length]

/-- Active levels are those of frames that exist. -/
theorem index_lt_of_mem_slotsFrom {hidden : Bool} {frames : List Frame} {index : Nat}
    (member : LevelSlot.active index ∈ slotsFrom hidden frames) : index < frames.length := by
  induction frames with
  | nil => cases member
  | cons frame outer ih =>
      rw [slotsFrom_cons] at member
      rw [List.length_cons]
      split at member
      · cases member
      · split at member
        · have := ih member
          omega
        · rcases List.mem_cons.mp member with same | member
          · cases same
            omega
          · rcases List.mem_append.mp member with tail | member
            · cases List.eq_of_mem_replicate tail
            · have := ih member
              omega

/-- The level of a frame comes once. -/
theorem pairwise_slotsFrom (hidden : Bool) (frames : List Frame) :
    (slotsFrom hidden frames).Pairwise fun inner outer =>
      ∀ index, inner = .active index → outer ≠ .active index := by
  induction frames with
  | nil => exact .nil
  | cons frame outer ih =>
      rw [slotsFrom_cons]
      split
      · exact .nil
      · split
        · exact ih
        · refine List.pairwise_cons.mpr ⟨?_, List.pairwise_append.mpr ⟨?_, ih, ?_⟩⟩
          · intro slot member index head same
            cases head
            rw [same] at member
            rcases List.mem_append.mp member with tail | below
            · cases List.eq_of_mem_replicate tail
            · exact Nat.lt_irrefl _ (index_lt_of_mem_slotsFrom below)
          · refine List.pairwise_replicate.mpr (.inr ?_)
            intro index tail
            cases tail
          · intro slot tail _ _ index same
            rw [List.eq_of_mem_replicate tail] at same
            cases same

/-- Script functions are never introspective. -/
theorem Code.isIntrospective_of_script {code : Code} (script : code.isHost = false) :
    code.isIntrospective = false := by
  obtain ⟨prototype, rfl⟩ := isHost_eq_false.mp script
  rfl

namespace Context

def slots (context : Context) : List LevelSlot := context.levels.map Level.slot

def HidesCurrent (context : Context) : Prop := context.hidesMain = true ∧ context.depth = 1

instance (context : Context) : Decidable context.HidesCurrent :=
  inferInstanceAs (Decidable (_ ∧ _))

variable {context other : Context}

theorem slots_eq (context : Context) :
    context.slots = slotsFrom context.hidesMain context.frames :=
  rfl

theorem levels_eq_numbered (context : Context) : context.levels = numbered context.slots 0 :=
  levelsFrom_eq_numbered context.hidesMain context.frames 0

theorem level?_eq_getElem? (context : Context) (number : Nat) :
    context.level? number = context.levels[number]? := by
  unfold level?
  rw [slotFrom?_eq_getElem?, levels_eq_numbered, getElem?_numbered]
  rfl

theorem level?_eq_none_iff (context : Context) (number : Nat) :
    context.level? number = none ↔ context.levelCount ≤ number := by
  rw [level?_eq_getElem?, List.getElem?_eq_none_iff]
  unfold levels levelCount
  rw [length_levelsFrom]

theorem index_lt_of_mem_levels {level : Level} (member : level ∈ context.levels) {index : Nat}
    (active : level.slot = .active index) : index < context.depth := by
  have slot : level.slot ∈ context.slots := List.mem_map_of_mem member
  rw [active] at slot
  exact index_lt_of_mem_slotsFrom slot

theorem levelFrame?_of_active {level : Level} {index : Nat}
    (active : level.slot = .active index) :
    context.levelFrame? level = context.frameAt? index := by
  rw [levelFrame?, Level.index?_eq_some.mpr active, Option.bind_some]

theorem eq_of_mem_levels {left right : Level} (leftMember : left ∈ context.levels)
    (rightMember : right ∈ context.levels) {index : Nat} (leftActive : left.slot = .active index)
    (rightActive : right.slot = .active index) : left = right := by
  have apart : context.levels.Pairwise fun inner outer =>
      ∀ index, inner.slot = .active index → outer.slot ≠ .active index :=
    List.pairwise_map.mp (pairwise_slotsFrom context.hidesMain context.frames)
  obtain ⟨i, before, rfl⟩ := List.mem_iff_getElem.mp leftMember
  obtain ⟨j, inside, rfl⟩ := List.mem_iff_getElem.mp rightMember
  rcases Nat.lt_trichotomy i j with inner | same | outer
  · exact absurd rightActive
      (List.pairwise_iff_getElem.mp apart i j before inside inner index leftActive)
  · subst same
    rfl
  · exact absurd leftActive
      (List.pairwise_iff_getElem.mp apart j i inside before outer index rightActive)

/-! ### Changes of the frames -/

/-- The main chunk is hidden or not by the outermost frame alone. -/
theorem hidesMain_congr (config : other.config = context.config)
    (last : other.frames.getLast? = context.frames.getLast?) :
    other.hidesMain = context.hidesMain := by
  unfold hidesMain
  rw [config, last]

theorem levels_congr (config : other.config = context.config)
    (frames : other.frames = context.frames) : other.levels = context.levels := by
  unfold levels
  rw [hidesMain_congr config (congrArg List.getLast? frames), frames]

theorem slots_congr (config : other.config = context.config)
    (frames : other.frames = context.frames) : other.slots = context.slots :=
  congrArg (List.map Level.slot) (levels_congr config frames)

variable {frame : Frame} {outer : List Frame}

/-- Removing the current frame does not change whether the outermost frame is hidden, as long as
there is one. -/
theorem slots_popFrame (frames : context.frames = frame :: outer) :
    context.popFrame.slots = slotsFrom context.hidesMain outer := by
  rw [slots_eq, frames_popFrame, frames, List.tail_cons]
  cases outer with
  | nil => rfl
  | cons next rest =>
      rw [hidesMain_congr (config_popFrame context)]
      rw [frames_popFrame, frames, List.tail_cons, List.getLast?_cons_cons]

/-- The current frame stands for the innermost levels. -/
theorem slots_current (frames : context.frames = frame :: outer)
    (shown : ¬ context.HidesCurrent) (ordinary : frame.isIntrospective = false) :
    context.slots = .active outer.length ::
      (List.replicate frame.collapsed .tailCall ++ context.popFrame.slots) := by
  have notHidden : (context.hidesMain && outer.isEmpty) = false := by
    rw [Bool.and_eq_false_iff]
    by_cases hides : context.hidesMain = true
    · refine .inr ?_
      cases outer with
      | nil => exact absurd ⟨hides, by rw [depth, frames]; rfl⟩ shown
      | cons next rest => rfl
    · exact .inl (Bool.eq_false_iff.mpr hides)
  rw [slots_popFrame frames, slots_eq, frames, slotsFrom_cons, notHidden,
    if_neg Bool.false_ne_true, ordinary, if_neg Bool.false_ne_true]

/-- An introspective frame stands for no level. -/
theorem slots_introspective (frames : context.frames = frame :: outer)
    (introspective : frame.isIntrospective = true) :
    context.slots = context.popFrame.slots := by
  rw [slots_popFrame frames, slots_eq, frames, slotsFrom_cons, if_pos introspective]
  split
  · rename_i alone
    have outermost : outer = [] := List.isEmpty_iff.mp (Bool.and_eq_true_iff.mp alone).2
    rw [outermost]
    rfl
  · rfl

theorem levels_introspective (frames : context.frames = frame :: outer)
    (introspective : frame.isIntrospective = true) :
    context.levels = context.popFrame.levels := by
  rw [levels_eq_numbered, levels_eq_numbered, slots_introspective frames introspective]

theorem slots_pushFrame {function : FunctionId} {arguments : List Value}
    (ordinary : (context.heap.function function).code.isIntrospective = false)
    (shown : ¬ (context.pushFrame function arguments).HidesCurrent) :
    (context.pushFrame function arguments).slots = .active context.depth :: context.slots := by
  have frames : (context.pushFrame function arguments).frames = _ :: context.frames := rfl
  have below : (context.pushFrame function arguments).popFrame.slots = context.slots :=
    slots_congr (config_popFrame _) (frames_popFrame _)
  rw [slots_current frames shown ordinary, below, Frame.collapsed, ite_self]
  rfl

theorem levels_pushFrame {function : FunctionId}
    (introspective : (context.heap.function function).code.isIntrospective = true)
    (arguments : List Value) :
    (context.pushFrame function arguments).levels = context.levels := by
  have frames : (context.pushFrame function arguments).frames = _ :: context.frames := rfl
  rw [levels_introspective frames introspective]
  exact levels_congr (config_popFrame _) (frames_popFrame _)

theorem config_replaceFrame (frames : context.frames = frame :: outer) (function : FunctionId)
    (arguments : List Value) (collapsed : Nat) :
    (context.replaceFrame function arguments collapsed).config = context.config := by
  rw [replaceFrame_cons frames]

/-- A frame that replaces another stands in front of the same outer levels. -/
theorem slots_replaceFrame (frames : context.frames = frame :: outer) {function : FunctionId}
    {arguments : List Value} {collapsed : Nat}
    (target : (context.heap.function function).code.isHost = false)
    (shown : ¬ (context.replaceFrame function arguments collapsed).HidesCurrent) :
    (context.replaceFrame function arguments collapsed).slots = .active outer.length ::
      (List.replicate collapsed .tailCall ++ context.popFrame.slots) := by
  have replaced := congrArg Context.frames (replaceFrame_cons frames function arguments collapsed)
  dsimp only at replaced
  have below : (context.replaceFrame function arguments collapsed).popFrame.slots =
      context.popFrame.slots := by
    apply slots_congr
    · rw [config_popFrame, config_popFrame, config_replaceFrame frames]
    · rw [frames_popFrame, frames_popFrame, replaced, frames]
      rfl
  have ordinary : (context.heap.function function).code.isIntrospective = false :=
    Code.isIntrospective_of_script target
  rw [slots_current replaced shown ordinary, below, Frame.collapsed, Frame.isHost, target,
    if_neg Bool.false_ne_true]

/-- A change of the current frame that keeps its code and its count of tail calls changes no
level. -/
theorem levels_replaceHead {changed : Frame} (frames : context.frames = frame :: outer)
    (replaced : other.frames = changed :: outer) (config : other.config = context.config)
    (code : changed.code = frame.code) (tailCalls : changed.tailCalls = frame.tailCalls) :
    other.levels = context.levels := by
  have main : changed.isMainChunk = frame.isMainChunk := by
    rw [Frame.isMainChunk, Frame.isMainChunk, Frame.prototype?, Frame.prototype?, code]
  have collapsed : changed.collapsed = frame.collapsed := by
    rw [Frame.collapsed, Frame.collapsed, Frame.isHost, Frame.isHost, code, tailCalls]
  have introspective : changed.isIntrospective = frame.isIntrospective :=
    congrArg Code.isIntrospective code
  have hides : other.hidesMain = context.hidesMain := by
    cases outer with
    | nil =>
        rw [hidesMain, hidesMain, config, frames, replaced, List.getLast?_singleton,
          List.getLast?_singleton, Option.any_some, Option.any_some, main]
    | cons next rest =>
        apply hidesMain_congr config
        rw [frames, replaced, List.getLast?_cons_cons, List.getLast?_cons_cons]
  rw [levels_eq_numbered, levels_eq_numbered, slots_eq, slots_eq, frames, replaced,
    slotsFrom_cons, slotsFrom_cons, hides, introspective, collapsed]

end Context

end StackScope
