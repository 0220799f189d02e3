import Mathlib.Data.List.Forall2
import StackScope.Proofs.HeapGrowth

/-!
Heaps that differ in their cells alone. The objects of both are the same, up to the cells that
functions have as upvalues. Each cell of one heap has a cell of the other that stands for it and
holds the same value; the other heap may have more cells, about which nothing is said.

A naming lists the cells that stand for the first, the second and so on of the heap's cells. It
grows when cells are added.
-/

namespace StackScope

namespace Pool

variable {α : Type} [Inhabited α] {related : α → α → Prop} {left right : Pool α}

theorem get_add (pool : Pool α) (item : α) (index : Nat) :
    (pool.add item).get index = if index = pool.size then item else pool.get index := by
  split
  · rename_i last
    subst last
    exact get_add_self pool item
  · rename_i different
    rcases Nat.lt_or_gt_of_ne different with present | beyond
    · exact get_add_of_lt present item
    · unfold size at beyond
      simp only [get, add, Array.getElem?_push]
      rw [if_neg (Nat.ne_of_gt beyond)]

theorem get_set (pool : Pool α) (index : Nat) (item : α) (other : Nat) :
    (pool.set index item).get other =
      if index = other ∧ index < pool.size then item else pool.get other := by
  split
  · rename_i here
    obtain ⟨rfl, present⟩ := here
    exact get_set_self present item
  · rename_i elsewhere
    by_cases same : index = other
    · have missing : ¬ index < pool.items.size := fun present => elsewhere ⟨same, present⟩
      rw [← same]
      simp [get, set, missing]
    · exact get_set_of_ne same item

theorem related_add (sizes : left.size = right.size)
    (all : ∀ index, related (left.get index) (right.get index)) {first second : α}
    (items : related first second) (index : Nat) :
    related ((left.add first).get index) ((right.add second).get index) := by
  rw [get_add, get_add, ← sizes]
  split
  · exact items
  · exact all index

theorem related_set (sizes : left.size = right.size)
    (all : ∀ index, related (left.get index) (right.get index)) {first second : α}
    (items : related first second) (place index : Nat) :
    related ((left.set place first).get index) ((right.set place second).get index) := by
  rw [get_set, get_set, ← sizes]
  split
  · exact items
  · exact all index

end Pool

def Heap.Closed (heap : Heap) : Prop :=
  ∀ object ∈ heap.functions.items.toList, ∀ cell ∈ object.upvalues,
    cell.index < heap.cells.size

theorem Heap.Closed.lt {heap : Heap} (closed : heap.Closed) {id : FunctionId} {cell : CellId}
    (member : cell ∈ (heap.function id).upvalues) : cell.index < heap.cells.size := by
  unfold Heap.function Pool.get at member
  cases found : heap.functions.items[id.index]? with
  | none =>
      rw [found] at member
      cases member
  | some object =>
      rw [found] at member
      exact closed object (Array.mem_toList_iff.mpr (Array.mem_of_getElem? found)) cell member

/-- Related lists have related members in the same places. -/
theorem getElem?_cases {α β : Type} {related : α → β → Prop} {left : List α} {right : List β}
    (all : List.Forall₂ related left right) (index : Nat) :
    (left[index]? = none ∧ right[index]? = none) ∨
    ∃ first second, left[index]? = some first ∧ right[index]? = some second ∧
      related first second := by
  induction all generalizing index with
  | nil => exact .inl ⟨rfl, rfl⟩
  | @cons first second _ _ items _ ih =>
      cases index with
      | zero => exact .inr ⟨first, second, rfl, rfl, items⟩
      | succ index => exact ih index

theorem exists_of_mem_left {α β : Type} {related : α → β → Prop} {left : List α} {right : List β}
    (all : List.Forall₂ related left right) {first : α} (member : first ∈ left) :
    ∃ second, related first second := by
  obtain ⟨index, found⟩ := List.mem_iff_getElem?.mp member
  rcases getElem?_cases all index with ⟨missing, -⟩ | ⟨here, second, same, -, items⟩
  · rw [found] at missing
    cases missing
  · rw [found] at same
    exact ⟨second, Option.some.inj same ▸ items⟩

def Stands (naming : List CellId) (cell box : CellId) : Prop :=
  naming[cell.index]? = some box

namespace Stands

variable {naming : List CellId} {cell box : CellId}

theorem mem (stands : Stands naming cell box) : box ∈ naming :=
  List.mem_of_getElem? stands

theorem lt (stands : Stands naming cell box) : cell.index < naming.length :=
  (List.getElem?_eq_some_iff.mp stands).1

theorem mono {later : List CellId} (stands : Stands naming cell box) (grown : naming <+: later) :
    Stands later cell box := by
  obtain ⟨added, rfl⟩ := grown
  unfold Stands
  rw [List.getElem?_append_left stands.lt]
  exact stands

theorem right_unique {other : CellId} (stands : Stands naming cell box)
    (same : Stands naming cell other) : box = other :=
  Option.some.inj (stands.symm.trans same)

theorem left_unique (distinct : naming.Nodup) {other : CellId} (stands : Stands naming cell box)
    (same : Stands naming other box) : cell = other := by
  have indices : cell.index = other.index :=
    (List.getElem?_inj stands.lt distinct).mp (stands.trans same.symm)
  cases cell
  cases other
  exact congrArg CellId.mk indices

/-- With one more cell, what stood for a cell still does, and the new one stands for the last. -/
theorem concat_cases {last : CellId} (stands : Stands (naming ++ [last]) cell box) :
    Stands naming cell box ∨ (cell.index = naming.length ∧ box = last) := by
  have bound := stands.lt
  rw [List.length_append] at bound
  unfold Stands at stands ⊢
  rcases Nat.lt_or_ge cell.index naming.length with before | beyond
  · rw [List.getElem?_append_left before] at stands
    exact .inl stands
  · have here : cell.index = naming.length := Nat.le_antisymm (Nat.le_of_lt_succ bound) beyond
    rw [here, List.getElem?_concat_length] at stands
    exact .inr ⟨here, (Option.some.inj stands).symm⟩

end Stands

structure FunctionAgrees (naming : List CellId) (left right : FunctionObject) : Prop where
  code : left.code = right.code
  environment : left.environment = right.environment
  metatable : left.metatable = right.metatable
  upvalues : List.Forall₂ (Stands naming) left.upvalues right.upvalues

structure HeapAgrees (naming : List CellId) (left right : Heap) : Prop where
  tables : left.tables = right.tables
  userdata : left.userdata = right.userdata
  threads : left.threads = right.threads
  sizes : left.functions.size = right.functions.size
  functions : ∀ id, FunctionAgrees naming (left.function id) (right.function id)
  count : naming.length = left.cells.size
  distinct : naming.Nodup
  inside : ∀ box ∈ naming, box.index < right.cells.size
  values : ∀ {cell box}, Stands naming cell box → left.cell cell = right.cell box

theorem Heap.cell_setCell (heap : Heap) (cell other : CellId) (value : Value) :
    (heap.setCell cell value).cell other =
      if cell = other ∧ cell.index < heap.cells.size then value else heap.cell other := by
  unfold Heap.cell Heap.setCell
  rw [Pool.get_set]
  cases cell
  cases other
  simp

/-- Cells that stand for none keep their values, and no cell is added. -/
structure KeepsOthers (naming : List CellId) (before after : Heap) : Prop where
  size : after.cells.size = before.cells.size
  cell : ∀ box, box ∉ naming → after.cell box = before.cell box

theorem KeepsOthers.ofCells {naming : List CellId} {before after : Heap}
    (cells : after.cells = before.cells) : KeepsOthers naming before after where
  size := congrArg Pool.size cells
  cell := fun box _ => congrArg (fun pool => Pool.get pool box.index) cells

theorem KeepsOthers.setCell {naming : List CellId} {cell box : CellId}
    (stands : Stands naming cell box) (heap : Heap) (value : Value) :
    KeepsOthers naming heap (heap.setCell box value) where
  size := Pool.size_set _ _ _
  cell := by
    intro other free
    rw [Heap.cell_setCell, if_neg]
    rintro ⟨rfl, -⟩
    exact free stands.mem

namespace Heap

theorem addCells_heap (heap : Heap) (values : List Value) :
    (heap.addCells values).2 =
      { heap with cells := ⟨heap.cells.items ++ values.toArray⟩ } := by
  induction values generalizing heap with
  | nil => simp [addCells]
  | cons value rest ih =>
      change ((heap.addCell value).2.addCells rest).2 = _
      rw [ih]
      simp [addCell, Pool.add]

theorem addCells_cells (heap : Heap) (values : List Value) :
    (heap.addCells values).1 =
      (List.range values.length).map fun index => ⟨heap.cells.size + index⟩ := by
  induction values generalizing heap with
  | nil => rfl
  | cons value rest ih =>
      change (⟨heap.cells.size⟩ : CellId) :: ((heap.addCell value).2.addCells rest).1 = _
      have size : (heap.addCell value).2.cells.size = heap.cells.size + 1 := Pool.size_add _ _
      rw [ih, size, List.length_cons, List.range_succ_eq_map, List.map_cons, List.map_map]
      refine congrArg _ (List.map_congr_left ?_)
      intro index _
      exact congrArg CellId.mk (Nat.add_right_comm heap.cells.size 1 index)

theorem size_addCells (heap : Heap) (values : List Value) :
    (heap.addCells values).2.cells.size = heap.cells.size + values.length := by
  rw [addCells_heap]
  simp [Pool.size]

theorem cell_addCells_of_lt {heap : Heap} {cell : CellId} (present : cell.index < heap.cells.size)
    (values : List Value) : (heap.addCells values).2.cell cell = heap.cell cell := by
  rw [addCells_heap]
  unfold Heap.cell Pool.get
  rw [Array.getElem?_append_left present]

theorem cell_addCells (heap : Heap) {values : List Value} {index : Nat} {value : Value}
    (found : values[index]? = some value) :
    (heap.addCells values).2.cell ⟨heap.cells.size + index⟩ = value := by
  rw [addCells_heap]
  unfold Heap.cell Pool.get Pool.size
  rw [Array.getElem?_append_right (Nat.le_add_right _ _), Nat.add_sub_cancel_left,
    List.getElem?_toArray, found]
  rfl

end Heap

namespace HeapAgrees

variable {naming : List CellId} {left right : Heap}

theorem table (agrees : HeapAgrees naming left right) (id : TableId) :
    left.table id = right.table id := by
  unfold Heap.table
  rw [agrees.tables]

theorem userdataAt (agrees : HeapAgrees naming left right) (id : UserdataId) :
    left.userdataAt id = right.userdataAt id := by
  unfold Heap.userdataAt
  rw [agrees.userdata]

theorem thread (agrees : HeapAgrees naming left right) (id : ThreadId) :
    left.thread id = right.thread id := by
  unfold Heap.thread
  rw [agrees.threads]

theorem lt {cell box : CellId} (agrees : HeapAgrees naming left right)
    (stands : Stands naming cell box) : cell.index < left.cells.size := by
  rw [← agrees.count]
  exact stands.lt

/-- In a closed heap each cell can stand for itself. -/
theorem refl {heap : Heap} (closed : heap.Closed) :
    HeapAgrees ((List.range heap.cells.size).map CellId.mk) heap heap where
  tables := rfl
  userdata := rfl
  threads := rfl
  sizes := rfl
  functions := by
    intro id
    refine ⟨rfl, rfl, rfl, List.forall₂_same.mpr ?_⟩
    intro cell member
    unfold Stands
    rw [List.getElem?_map, List.getElem?_range (closed.lt member)]
    rfl
  count := by rw [List.length_map, List.length_range]
  distinct := by
    refine List.Pairwise.map CellId.mk ?_ List.nodup_range
    exact fun _ _ different same => different (congrArg CellId.index same)
  inside := by
    intro box member
    obtain ⟨index, present, rfl⟩ := List.mem_map.mp member
    exact List.mem_range.mp present
  values := by
    intro cell box stands
    have present := stands.lt
    rw [List.length_map, List.length_range] at present
    unfold Stands at stands
    rw [List.getElem?_map, List.getElem?_range present] at stands
    exact congrArg heap.cell (Option.some.inj stands)

/-! ### Cells -/

theorem setCell (agrees : HeapAgrees naming left right) {cell box : CellId}
    (stands : Stands naming cell box) (value : Value) :
    HeapAgrees naming (left.setCell cell value) (right.setCell box value) where
  tables := agrees.tables
  userdata := agrees.userdata
  threads := agrees.threads
  sizes := agrees.sizes
  functions := agrees.functions
  count := by rw [agrees.count]; exact (Pool.size_set _ _ _).symm
  distinct := agrees.distinct
  inside := by
    intro other member
    change other.index < (right.cells.set _ _).size
    rw [Pool.size_set]
    exact agrees.inside other member
  values := by
    intro other otherBox otherStands
    rw [Heap.cell_setCell, Heap.cell_setCell]
    by_cases same : cell = other
    · subst same
      have : box = otherBox := stands.right_unique otherStands
      rw [if_pos ⟨rfl, agrees.lt stands⟩, if_pos ⟨this, agrees.inside box stands.mem⟩]
    · have different : box ≠ otherBox := by
        intro sameBox
        subst sameBox
        exact same (stands.left_unique agrees.distinct otherStands)
      rw [if_neg (fun both => same both.1), if_neg (fun both => different both.1)]
      exact agrees.values otherStands

/-- Only the cells that stand for some count. -/
theorem withCells (agrees : HeapAgrees naming left right) {cells : Pool Value}
    (size : right.cells.size ≤ cells.size)
    (same : ∀ box ∈ naming, ({ right with cells } : Heap).cell box = right.cell box) :
    HeapAgrees naming left { right with cells } :=
  { agrees with
    inside := fun box member => Nat.lt_of_lt_of_le (agrees.inside box member) size
    values := fun stands => (agrees.values stands).trans (same _ stands.mem).symm }

theorem setFree (agrees : HeapAgrees naming left right) {box : CellId} (free : box ∉ naming)
    (value : Value) : HeapAgrees naming left (right.setCell box value) := by
  refine agrees.withCells (Nat.le_of_eq (Pool.size_set _ _ _).symm) ?_
  intro other member
  refine (Heap.cell_setCell right box other value).trans (if_neg ?_)
  rintro ⟨rfl, -⟩
  exact free member

theorem addCells (agrees : HeapAgrees naming left right) (values : List Value) :
    HeapAgrees naming left (right.addCells values).2 := by
  have size := Heap.size_addCells right values
  have same : ∀ box ∈ naming, (right.addCells values).2.cell box = right.cell box :=
    fun box member => Heap.cell_addCells_of_lt (agrees.inside box member) values
  rw [Heap.addCells_heap] at size same ⊢
  exact agrees.withCells (Nat.le.intro size.symm) same

/-- A new cell of the heap, for which a cell stands that stood for none. -/
theorem addCell (agrees : HeapAgrees naming left right) {box : CellId} (free : box ∉ naming)
    (present : box.index < right.cells.size) :
    HeapAgrees (naming ++ [box]) (left.addCell (right.cell box)).2 right where
  tables := agrees.tables
  userdata := agrees.userdata
  threads := agrees.threads
  sizes := agrees.sizes
  functions := by
    intro id
    obtain ⟨code, environment, metatable, upvalues⟩ := agrees.functions id
    refine ⟨code, environment, metatable, ?_⟩
    exact upvalues.imp fun _ _ stands => stands.mono (List.prefix_append naming [box])
  count := by
    change _ = (left.cells.add _).size
    rw [List.length_append, agrees.count, Pool.size_add]
    rfl
  distinct := by
    refine List.nodup_append.mpr ⟨agrees.distinct, by simp, ?_⟩
    intro other member last same
    rw [List.mem_singleton.mp same]
    exact fun equal => free (equal ▸ member)
  inside := by
    intro other member
    rcases List.mem_append.mp member with old | new
    · exact agrees.inside other old
    · rw [List.mem_singleton.mp new]
      exact present
  values := by
    intro cell other stands
    rcases stands.concat_cases with old | ⟨last, rfl⟩
    · rw [← agrees.values old]
      exact Pool.get_add_of_lt (agrees.lt old) _
    · have here : cell.index = left.cells.size := last.trans agrees.count
      unfold Heap.cell
      rw [here]
      exact Pool.get_add_self left.cells _

theorem addTable (agrees : HeapAgrees naming left right) (object : Table) :
    (left.addTable object).1 = (right.addTable object).1 ∧
      HeapAgrees naming (left.addTable object).2 (right.addTable object).2 := by
  refine ⟨?_, { agrees with tables := ?_ }⟩
  · unfold Heap.addTable
    rw [agrees.tables]
  · unfold Heap.addTable
    rw [agrees.tables]

theorem setTable (agrees : HeapAgrees naming left right) (id : TableId)
    {first second : Table} (same : first = second) :
    HeapAgrees naming (left.setTable id first) (right.setTable id second) := by
  subst same
  exact { agrees with tables := congrArg (fun pool => pool.set id.index first) agrees.tables }

theorem setUserdata (agrees : HeapAgrees naming left right) (id : UserdataId)
    {first second : UserdataObject} (same : first = second) :
    HeapAgrees naming (left.setUserdata id first) (right.setUserdata id second) := by
  subst same
  exact { agrees with userdata := congrArg (fun pool => pool.set id.index first) agrees.userdata }

theorem setThread (agrees : HeapAgrees naming left right) (id : ThreadId)
    {first second : ThreadObject} (same : first = second) :
    HeapAgrees naming (left.setThread id first) (right.setThread id second) := by
  subst same
  exact { agrees with threads := congrArg (fun pool => pool.set id.index first) agrees.threads }

theorem setFunction (agrees : HeapAgrees naming left right) (id : FunctionId)
    {first second : FunctionObject} (same : FunctionAgrees naming first second) :
    HeapAgrees naming (left.setFunction id first) (right.setFunction id second) :=
  { agrees with
    sizes := by
      change (left.functions.set _ _).size = (right.functions.set _ _).size
      rw [Pool.size_set, Pool.size_set]
      exact agrees.sizes
    functions := fun other =>
      Pool.related_set agrees.sizes (fun index => agrees.functions ⟨index⟩) same id.index
        other.index }

theorem addFunction (agrees : HeapAgrees naming left right) {first second : FunctionObject}
    (same : FunctionAgrees naming first second) :
    (left.addFunction first).1 = (right.addFunction second).1 ∧
      HeapAgrees naming (left.addFunction first).2 (right.addFunction second).2 := by
  refine ⟨congrArg FunctionId.mk agrees.sizes, { agrees with sizes := ?_, functions := ?_ }⟩
  · change (left.functions.add _).size = (right.functions.add _).size
    rw [Pool.size_add, Pool.size_add, agrees.sizes]
  · exact fun other =>
      Pool.related_add agrees.sizes (fun index => agrees.functions ⟨index⟩) same other.index

theorem upvalue?_cases (agrees : HeapAgrees naming left right) (function : FunctionId)
    (ordinal : Nat) :
    (left.upvalue? function ordinal = none ∧ right.upvalue? function ordinal = none) ∨
    ∃ cell box name, left.upvalue? function ordinal = some (cell, name) ∧
      right.upvalue? function ordinal = some (box, name) ∧ Stands naming cell box := by
  cases ordinal with
  | zero => exact .inl ⟨rfl, rfl⟩
  | succ index =>
      obtain ⟨code, -, -, upvalues⟩ := agrees.functions function
      simp only [Heap.upvalue?, code]
      rcases getElem?_cases upvalues index with
        ⟨leftNone, rightNone⟩ | ⟨cell, box, leftSome, rightSome, stands⟩
      · rw [leftNone, rightNone]
        exact .inl ⟨rfl, rfl⟩
      · rw [leftSome, rightSome]
        exact .inr ⟨cell, box, _, rfl, rfl, stands⟩

theorem getUpvalue? (agrees : HeapAgrees naming left right) (function : FunctionId)
    (ordinal : Nat) : left.getUpvalue? function ordinal = right.getUpvalue? function ordinal := by
  unfold Heap.getUpvalue?
  rcases agrees.upvalue?_cases function ordinal with
    ⟨leftNone, rightNone⟩ | ⟨cell, box, name, leftSome, rightSome, stands⟩
  · rw [leftNone, rightNone]
    rfl
  · rw [leftSome, rightSome]
    simp only [Option.map_some, agrees.values stands]

theorem setUpvalue (agrees : HeapAgrees naming left right) (function : FunctionId)
    (ordinal : Nat) (value : Value) :
    (left.setUpvalue function ordinal value).1 = (right.setUpvalue function ordinal value).1 ∧
    HeapAgrees naming (left.setUpvalue function ordinal value).2
      (right.setUpvalue function ordinal value).2 ∧
    KeepsOthers naming right (right.setUpvalue function ordinal value).2 := by
  unfold Heap.setUpvalue
  rcases agrees.upvalue?_cases function ordinal with
    ⟨leftNone, rightNone⟩ | ⟨cell, box, name, leftSome, rightSome, stands⟩
  · rw [leftNone, rightNone]
    exact ⟨rfl, agrees, .ofCells rfl⟩
  · rw [leftSome, rightSome]
    exact ⟨rfl, agrees.setCell stands value, .setCell stands right value⟩

end HeapAgrees

end StackScope
