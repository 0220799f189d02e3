import Mathlib.Data.List.Nodup
import StackScope.Proofs.Scenario.Definitions

/-!
Which closures of a scenario share their upvalues. A definition either has upvalues of its own or
shares those of an earlier one, which may itself share those of a yet earlier one. The definition at
the end of this chain is the root, and the closures with one root hold the same cells.

A name may be given again between two definitions that share by it, so the chain is followed by the
numbers of definitions and not by their names.
-/

namespace StackScope

namespace Scenario

theorem lt_of_lastDefinition?_take {definitions : List FunctionDefinition} {index : Nat}
    {name : String} {entry : FunctionDefinition × Nat}
    (found : lastDefinition? (definitions.take index) name = some entry) : entry.2 < index := by
  have inside := (List.getElem?_eq_some_iff.mp (getElem?_of_lastDefinition? found)).1
  rw [List.length_take] at inside
  omega

/-- The number of the definition whose upvalues a definition has: its own, or, if it shares those of
a name, that of the root of the last definition before it with this name. -/
def root? (definitions : List FunctionDefinition) (index : Nat) : Option Nat :=
  match definitions[index]? with
  | none => none
  | some definition =>
      match definition.sharesUpvaluesWith with
      | none => some index
      | some name =>
          match found : lastDefinition? (definitions.take index) name with
          | none => none
          | some entry =>
              have := lt_of_lastDefinition?_take found
              root? definitions entry.2
termination_by index

def Owns (definitions : List FunctionDefinition) (index : Nat) (definition : FunctionDefinition) :
    Prop :=
  definitions[index]? = some definition ∧ definition.sharesUpvaluesWith = none

def SharesWith (definitions : List FunctionDefinition) (index source : Nat) : Prop :=
  ∃ definition name earlier, definitions[index]? = some definition ∧
    definition.sharesUpvaluesWith = some name ∧
    lastDefinition? (definitions.take index) name = some (earlier, source)

variable {definitions : List FunctionDefinition} {definition last : FunctionDefinition}
  {index source : Nat}

theorem SharesWith.lt (shares : SharesWith definitions index source) : source < index := by
  obtain ⟨_, _, _, -, -, found⟩ := shares
  exact lt_of_lastDefinition?_take found

theorem root?_of_owns (owns : Owns definitions index definition) :
    root? definitions index = some index := by
  rw [root?, owns.1]
  dsimp only
  rw [owns.2]

theorem root?_of_sharesWith (shares : SharesWith definitions index source) :
    root? definitions index = root? definitions source := by
  obtain ⟨definition, name, earlier, present, shared, found⟩ := shares
  rw [root?, present]
  dsimp only
  rw [shared]
  dsimp only
  split
  · rename_i missing
    cases missing.symm.trans found
  · rename_i entry other
    cases other.symm.trans found
    rfl

theorem owns_concat :
    Owns (definitions ++ [last]) index definition ↔
      Owns definitions index definition ∨
        index = definitions.length ∧ definition = last ∧ last.sharesUpvaluesWith = none := by
  unfold Owns
  rcases Nat.lt_trichotomy index definitions.length with inside | atEnd | outside
  · rw [List.getElem?_append_left inside]
    simp [Nat.ne_of_lt inside]
  · subst atEnd
    rw [List.getElem?_concat_length, List.getElem?_eq_none (Nat.le_refl _)]
    constructor
    · rintro ⟨same, own⟩
      cases same
      exact .inr ⟨rfl, rfl, own⟩
    · rintro (⟨impossible, -⟩ | ⟨-, rfl, own⟩)
      · cases impossible
      · exact ⟨rfl, own⟩
  · have beyond : (definitions ++ [last])[index]? = none := by
      apply List.getElem?_eq_none
      rw [List.length_append, List.length_singleton]
      omega
    rw [beyond, List.getElem?_eq_none (Nat.le_of_lt outside)]
    simp [Nat.ne_of_gt outside]

theorem SharesWith.concat (shares : SharesWith definitions index source)
    (last : FunctionDefinition) : SharesWith (definitions ++ [last]) index source := by
  obtain ⟨definition, name, earlier, present, shared, found⟩ := shares
  have inside := (List.getElem?_eq_some_iff.mp present).1
  refine ⟨definition, name, earlier, ?_, shared, ?_⟩
  · rw [List.getElem?_append_left inside]
    exact present
  · rw [List.take_append_of_le_length (Nat.le_of_lt inside)]
    exact found

theorem sharesWith_concat_length {name : String} {earlier : FunctionDefinition}
    (shared : last.sharesUpvaluesWith = some name)
    (found : lastDefinition? definitions name = some (earlier, source)) :
    SharesWith (definitions ++ [last]) definitions.length source := by
  refine ⟨last, name, earlier, List.getElem?_concat_length, shared, ?_⟩
  rw [List.take_left]
  exact found

end Scenario

namespace Heap

theorem getElem?_addCells {heap : Heap} {values : List Value} {index : Nat} {cell : CellId}
    (found : (heap.addCells values).1[index]? = some cell) :
    index < values.length ∧ cell.index = heap.cells.size + index := by
  rw [addCells_cells, List.getElem?_map] at found
  obtain ⟨position, inside, rfl⟩ := Option.map_eq_some_iff.mp found
  obtain ⟨bound, rfl⟩ := List.getElem?_eq_some_iff.mp inside
  rw [List.length_range] at bound
  rw [List.getElem_range]
  exact ⟨bound, rfl⟩

theorem map_cell_addCells (heap : Heap) (values : List Value) :
    (heap.addCells values).1.map (heap.addCells values).2.cell = values := by
  rw [addCells_cells, List.map_map]
  apply List.ext_getElem?
  intro index
  rw [List.getElem?_map]
  rcases Nat.lt_or_ge index values.length with inside | outside
  · rw [List.getElem?_range inside, Option.map_some, List.getElem?_eq_getElem inside]
    exact congrArg some (cell_addCells heap (List.getElem?_eq_getElem inside))
  · rw [List.getElem?_eq_none outside, List.getElem?_eq_none]
    · rfl
    · rw [List.length_range]
      exact outside

end Heap

namespace Scenario

variable {created context : Context} {definitions : List FunctionDefinition}
  {definition : FunctionDefinition} {index source first : Nat} {heap : Heap}

/-- The upvalue cells of the closure of a definition, where the first definition's closure is number
`first`. -/
def closureCells (heap : Heap) (first index : Nat) : List CellId :=
  (heap.function ⟨first + index⟩).upvalues

structure Shared (definitions : List FunctionDefinition) (first : Nat) (heap : Heap) : Prop where
  source : ∀ index < definitions.length, (∃ definition, Owns definitions index definition) ∨
    ∃ source, SharesWith definitions index source ∧
      closureCells heap first index = closureCells heap first source
  initial : ∀ index definition, Owns definitions index definition →
    (closureCells heap first index).map heap.cell = definition.upvalues.map Constant.toValue
  allocated : ∀ index < definitions.length, ∀ cell ∈ closureCells heap first index,
    cell.index < heap.cells.size
  /-- No cell belongs to two upvalues, except by sharing. -/
  apart : ∀ left right leftDefinition rightDefinition, Owns definitions left leftDefinition →
    Owns definitions right rightDefinition → ∀ (i j : Nat) (cell : CellId),
      (closureCells heap first left)[i]? = some cell →
      (closureCells heap first right)[j]? = some cell → left = right ∧ i = j

namespace Shared

theorem nil (first : Nat) (heap : Heap) : Shared [] first heap where
  source := nofun
  initial := nofun
  allocated := nofun
  apart := nofun

/-- Every definition has a root, and their closures hold the same cells. -/
theorem exists_root (shared : Shared definitions first heap) (inside : index < definitions.length) :
    ∃ root definition, root? definitions index = some root ∧ Owns definitions root definition ∧
      closureCells heap first index = closureCells heap first root := by
  induction index using Nat.strongRecOn with
  | _ index ih =>
      rcases shared.source index inside with ⟨definition, owns⟩ | ⟨source, shares, cells⟩
      · exact ⟨index, definition, root?_of_owns owns, owns, rfl⟩
      · obtain ⟨root, definition, rooted, owns, same⟩ :=
          ih source shares.lt (Nat.lt_trans shares.lt inside)
        exact ⟨root, definition, (root?_of_sharesWith shares).trans rooted, owns,
          cells.trans same⟩

theorem exists_of_root? {root : Nat} (shared : Shared definitions first heap)
    (rooted : root? definitions index = some root) :
    index < definitions.length ∧ ∃ definition, Owns definitions root definition ∧
      closureCells heap first index = closureCells heap first root := by
  have inside : index < definitions.length := by
    by_contra outside
    rw [root?, List.getElem?_eq_none (Nat.not_lt.mp outside)] at rooted
    cases rooted
  obtain ⟨other, definition, same, owns, cells⟩ := shared.exists_root inside
  cases rooted.symm.trans same
  exact ⟨inside, definition, owns, cells⟩

theorem length_closureCells {root : Nat} {owner : FunctionDefinition}
    (shared : Shared definitions first heap) (rooted : root? definitions index = some root)
    (present : definitions[root]? = some owner) :
    (closureCells heap first index).length = owner.upvalues.length := by
  obtain ⟨-, definition, owns, cells⟩ := shared.exists_of_root? rooted
  cases owns.1.symm.trans present
  have lengths := congrArg List.length (shared.initial root owner owns)
  rw [List.length_map, List.length_map] at lengths
  rw [cells, lengths]

/-- Two upvalues are one cell exactly if their closures have one root and they come at the same
position. -/
theorem getElem?_iff {left right leftRoot rightRoot i j : Nat} {cell : CellId}
    (shared : Shared definitions first heap) (leftRooted : root? definitions left = some leftRoot)
    (rightRooted : root? definitions right = some rightRoot)
    (found : (closureCells heap first left)[i]? = some cell) :
    (closureCells heap first right)[j]? = some cell ↔ leftRoot = rightRoot ∧ i = j := by
  obtain ⟨-, leftDefinition, leftOwns, leftCells⟩ := shared.exists_of_root? leftRooted
  obtain ⟨-, rightDefinition, rightOwns, rightCells⟩ := shared.exists_of_root? rightRooted
  rw [leftCells] at found
  rw [rightCells]
  constructor
  · intro same
    exact shared.apart leftRoot rightRoot _ _ leftOwns rightOwns i j cell found same
  · rintro ⟨rfl, rfl⟩
    exact found

/-- The closures share the same cells and find the same values in them as before. -/
theorem congr (shared : Shared definitions first heap) {after : Heap}
    (closures : ∀ index < definitions.length,
      closureCells after first index = closureCells heap first index)
    (size : heap.cells.size ≤ after.cells.size) (kept : ∀ cell, after.cell cell = heap.cell cell) :
    Shared definitions first after where
  source := by
    intro index inside
    rcases shared.source index inside with owns | ⟨source, shares, cells⟩
    · exact .inl owns
    · refine .inr ⟨source, shares, ?_⟩
      rw [closures index inside, cells, closures source (Nat.lt_trans shares.lt inside)]
  initial := by
    intro index definition owns
    rw [closures index (List.getElem?_eq_some_iff.mp owns.1).1, funext kept]
    exact shared.initial index definition owns
  allocated := by
    intro index inside cell member
    rw [closures index inside] at member
    exact Nat.lt_of_lt_of_le (shared.allocated index inside cell member) size
  apart := by
    intro left right _ _ leftOwns rightOwns i j cell inLeft inRight
    rw [closures left (List.getElem?_eq_some_iff.mp leftOwns.1).1] at inLeft
    rw [closures right (List.getElem?_eq_some_iff.mp rightOwns.1).1] at inRight
    exact shared.apart left right _ _ leftOwns rightOwns i j cell inLeft inRight

/-- What becomes of the cells when the closure of one more definition is made. Those of earlier
closures stay, and the new closure has cells of its own or those of an earlier one. -/
structure Joins (definitions : List FunctionDefinition) (first : Nat) (last : FunctionDefinition)
    (heap after : Heap) : Prop where
  before : ∀ index < definitions.length,
    closureCells after first index = closureCells heap first index
  size : heap.cells.size ≤ after.cells.size
  kept : ∀ cell : CellId, cell.index < heap.cells.size → after.cell cell = heap.cell cell
  source : last.sharesUpvaluesWith = none ∨
    ∃ source, SharesWith (definitions ++ [last]) definitions.length source ∧
      closureCells after first definitions.length = closureCells after first source
  initial : last.sharesUpvaluesWith = none →
    (closureCells after first definitions.length).map after.cell =
      last.upvalues.map Constant.toValue
  allocated : ∀ cell ∈ closureCells after first definitions.length,
    cell.index < after.cells.size
  fresh : last.sharesUpvaluesWith = none →
    ∀ cell ∈ closureCells after first definitions.length, heap.cells.size ≤ cell.index
  distinct : last.sharesUpvaluesWith = none →
    (closureCells after first definitions.length).Nodup

theorem concat (shared : Shared definitions first heap) {last : FunctionDefinition} {after : Heap}
    (joins : Joins definitions first last heap after) :
    Shared (definitions ++ [last]) first after where
  source := by
    intro index inside
    rw [List.length_append, List.length_singleton] at inside
    rcases Nat.lt_or_eq_of_le (Nat.le_of_lt_succ inside) with earlier | rfl
    · rcases shared.source index earlier with ⟨definition, owns⟩ | ⟨source, shares, cells⟩
      · exact .inl ⟨definition, owns_concat.mpr (.inl owns)⟩
      · refine .inr ⟨source, shares.concat last, ?_⟩
        rw [joins.before index earlier, cells,
          joins.before source (Nat.lt_trans shares.lt earlier)]
    · rcases joins.source with own | shares
      · exact .inl ⟨last, owns_concat.mpr (.inr ⟨rfl, rfl, own⟩)⟩
      · exact .inr shares
  initial := by
    intro index definition owns
    rcases owns_concat.mp owns with earlier | ⟨rfl, rfl, own⟩
    · have inside := (List.getElem?_eq_some_iff.mp earlier.1).1
      rw [joins.before index inside, ← shared.initial index definition earlier]
      apply List.map_congr_left
      intro cell member
      exact joins.kept cell (shared.allocated index inside cell member)
    · exact joins.initial own
  allocated := by
    intro index inside cell member
    rw [List.length_append, List.length_singleton] at inside
    rcases Nat.lt_or_eq_of_le (Nat.le_of_lt_succ inside) with earlier | rfl
    · rw [joins.before index earlier] at member
      exact Nat.lt_of_lt_of_le (shared.allocated index earlier cell member) joins.size
    · exact joins.allocated cell member
  apart := by
    -- A closure made earlier and the new one have no cell in common, since the latter's are new.
    have separate : ∀ index definition, Owns definitions index definition →
        last.sharesUpvaluesWith = none → ∀ cell ∈ closureCells after first index,
          cell ∉ closureCells after first definitions.length := by
      intro index definition earlier own cell member other
      have inside := (List.getElem?_eq_some_iff.mp earlier.1).1
      rw [joins.before index inside] at member
      have old := shared.allocated index inside cell member
      exact Nat.not_lt.mpr (joins.fresh own cell other) old
    intro left right leftDefinition rightDefinition leftOwns rightOwns i j cell inLeft inRight
    rcases owns_concat.mp leftOwns with leftEarlier | ⟨rfl, rfl, own⟩
    · rcases owns_concat.mp rightOwns with rightEarlier | ⟨rfl, rfl, own⟩
      · rw [joins.before left (List.getElem?_eq_some_iff.mp leftEarlier.1).1] at inLeft
        rw [joins.before right (List.getElem?_eq_some_iff.mp rightEarlier.1).1] at inRight
        exact shared.apart left right _ _ leftEarlier rightEarlier i j cell inLeft inRight
      · exact absurd (List.mem_of_getElem? inRight)
          (separate left _ leftEarlier own cell (List.mem_of_getElem? inLeft))
    · rcases owns_concat.mp rightOwns with rightEarlier | ⟨rfl, -, -⟩
      · exact absurd (List.mem_of_getElem? inLeft)
          (separate right _ rightEarlier own cell (List.mem_of_getElem? inRight))
      · have inside := (List.getElem?_eq_some_iff.mp inLeft).1
        exact ⟨rfl, (List.getElem?_inj inside (joins.distinct own)).mp (inLeft.trans inRight.symm)⟩

end Shared

/-! ### Making the definitions -/

theorem closureCells_install (made : Made created definitions context) (cells : Pool Value)
    (upvalues : List CellId) (last : FunctionDefinition) (index : Nat) :
    closureCells (install context cells upvalues last).heap created.heap.functions.size index =
      if index = definitions.length then upvalues
      else closureCells context.heap created.heap.functions.size index := by
  unfold closureCells
  rw [function_install, made.count]
  by_cases atEnd : index = definitions.length
  · rw [if_pos atEnd, if_pos (congrArg _ atEnd)]
  · rw [if_neg atEnd, if_neg (by simpa using atEnd)]

theorem joins_own (made : Made created definitions context) {last : FunctionDefinition}
    (own : last.sharesUpvaluesWith = none) :
    let added := context.heap.addCells (last.upvalues.map Constant.toValue)
    Shared.Joins definitions created.heap.functions.size last context.heap
      (install context added.2.cells added.1 last).heap := by
  intro added
  have new : closureCells (install context added.2.cells added.1 last).heap
      created.heap.functions.size definitions.length = added.1 :=
    (closureCells_install made _ _ _ _).trans (if_pos rfl)
  have bounds : ∀ cell ∈ added.1, context.heap.cells.size ≤ cell.index ∧
      cell.index < added.2.cells.size := by
    intro cell member
    obtain ⟨index, found⟩ := List.mem_iff_getElem?.mp member
    obtain ⟨inside, same⟩ := Heap.getElem?_addCells found
    have size : added.2.cells.size = _ := Heap.size_addCells _ _
    omega
  refine
    { before := fun index inside =>
        (closureCells_install made _ _ _ _).trans (if_neg (Nat.ne_of_lt inside))
      size := ?_
      kept := fun cell present => Heap.cell_addCells_of_lt present _
      source := .inl own
      initial := ?_
      allocated := ?_
      fresh := ?_
      distinct := ?_ }
  · change context.heap.cells.size ≤ added.2.cells.size
    rw [Heap.size_addCells]
    exact Nat.le_add_right _ _
  · intro _
    rw [new]
    exact Heap.map_cell_addCells _ _
  · intro cell member
    rw [new] at member
    exact (bounds cell member).2
  · intro _ cell member
    rw [new] at member
    exact (bounds cell member).1
  · intro _
    rw [new, Heap.addCells_cells]
    apply List.Nodup.map _ List.nodup_range
    intro left right same
    exact Nat.add_left_cancel (congrArg CellId.index same)

theorem joins_shared (made : Made created definitions context)
    (shared : Shared definitions created.heap.functions.size context.heap)
    {last earlier : FunctionDefinition} {name : String} {source : Nat}
    (shares : last.sharesUpvaluesWith = some name)
    (found : lastDefinition? definitions name = some (earlier, source)) :
    Shared.Joins definitions created.heap.functions.size last context.heap
      (install context context.heap.cells
        (closureCells context.heap created.heap.functions.size source) last).heap := by
  have inside : source < definitions.length :=
    (List.getElem?_eq_some_iff.mp (getElem?_of_lastDefinition? found)).1
  have before := fun index (inside : index < definitions.length) =>
    (closureCells_install made context.heap.cells
      (closureCells context.heap created.heap.functions.size source) last index).trans
        (if_neg (Nat.ne_of_lt inside))
  have new : closureCells (install context context.heap.cells
      (closureCells context.heap created.heap.functions.size source) last).heap
      created.heap.functions.size definitions.length =
        closureCells context.heap created.heap.functions.size source :=
    (closureCells_install made _ _ _ _).trans (if_pos rfl)
  refine
    { before
      size := Nat.le_refl _
      kept := fun _ _ => rfl
      source := .inr ⟨source, sharesWith_concat_length shares found, ?_⟩
      initial := fun own => by rw [own] at shares; cases shares
      allocated := ?_
      fresh := fun own => by rw [own] at shares; cases shares
      distinct := fun own => by rw [own] at shares; cases shares }
  · rw [new, before source inside]
  · intro cell member
    rw [new] at member
    exact shared.allocated source inside cell member

/-- The closure that a definition makes, and the supply of cells that it holds. -/
theorem define_cases {defined : Defined} {made : Defined × Context}
    (succeeded : define context defined definition = .ok made) :
    ∃ upvalues heap, upvalueCells context.heap defined definition = .ok (upvalues, heap) ∧
      made.2 = { context with heap := (heap.addFunction
          { code := .script definition.prototype.normalize, upvalues }).2 }.setGlobal definition.name
            (.function ⟨heap.functions.size⟩) := by
  obtain ⟨⟨upvalues, heap⟩, supplied, rest⟩ := passed_of_bind succeeded
  cases rest
  exact ⟨upvalues, heap, supplied, rfl⟩

theorem Shared.define (made : Made created definitions context)
    (shared : Shared definitions created.heap.functions.size context.heap)
    {last : FunctionDefinition} {next : Defined × Context}
    (succeeded : define context (closures definitions created.heap.functions.size) last = .ok next) :
    Shared (definitions ++ [last]) created.heap.functions.size next.2.heap := by
  obtain ⟨upvalues, heap, supplied, same⟩ := define_cases succeeded
  unfold upvalueCells at supplied
  split at supplied
  · rename_i name shares
    rw [lookup_closures] at supplied
    cases found : lastDefinition? definitions name with
    | none =>
        rw [found] at supplied
        cases supplied
    | some entry =>
        rw [found] at supplied
        cases supplied
        rw [same]
        exact shared.concat (joins_shared made shared shares found)
  · rename_i own
    obtain ⟨cells, grown⟩ := Prod.mk.inj (Except.ok.inj supplied)
    have joined := shared.concat (joins_own made own)
    rw [cells] at joined
    rw [same, ← grown, Heap.addCells_heap]
    rw [Heap.addCells_heap] at joined
    exact joined

/-- After all definitions, closures share cells as the definitions say. -/
theorem Shared.defineAll {rest : List FunctionDefinition} {final : Defined × Context} :
    ∀ {definitions : List FunctionDefinition} {context : Context},
      Made created definitions context →
      Shared definitions created.heap.functions.size context.heap →
      Scenario.defineAll context (closures definitions created.heap.functions.size) rest =
        .ok final →
      Shared (definitions ++ rest) created.heap.functions.size final.2.heap := by
  induction rest with
  | nil =>
      intro definitions context _ shared succeeded
      cases succeeded
      rw [List.append_nil]
      exact shared
  | cons definition rest ih =>
      intro definitions context made shared succeeded
      obtain ⟨⟨names, next⟩, defined, succeeded⟩ := passed_of_bind succeeded
      obtain ⟨same, madeNext⟩ := (define_foretold made definition).of_ok defined
      dsimp only at same succeeded
      rw [same] at succeeded
      have final := ih madeNext (shared.define made defined) succeeded
      rw [List.append_assoc] at final
      exact final

end Scenario

end StackScope
