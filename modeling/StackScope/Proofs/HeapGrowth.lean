import StackScope.Variable

/-!
Growth of the heap. Objects are added and changed but never removed, and a function keeps its code
and the list of its upvalues for as long as it exists.
-/

namespace StackScope

namespace Pool

variable {α β : Type} [Inhabited α]

/-- What an item and its replacement have in common stays where it is. -/
theorem map_get_set (view : α → β) {pool : Pool α} {index : Nat} {item : α}
    (same : view item = view (pool.get index)) (other : Nat) :
    view ((pool.set index item).get other) = view (pool.get other) := by
  by_cases here : index = other
  · subst here
    rcases Nat.lt_or_ge index pool.size with present | missing
    · rw [get_set_self present, same]
    · unfold size at missing
      simp [get, set, missing]
  · rw [get_set_of_ne here]

end Pool

namespace Heap

structure Grows (heap later : Heap) : Prop where
  cells : heap.cells.size ≤ later.cells.size
  functions : heap.functions.size ≤ later.functions.size
  code : ∀ id, id.index < heap.functions.size →
    (later.function id).code = (heap.function id).code
  upvalues : ∀ id, id.index < heap.functions.size →
    (later.function id).upvalues = (heap.function id).upvalues

namespace Grows

variable {heap : Heap}

theorem ofFunctions {later : Heap} (functions : later.functions = heap.functions)
    (cells : heap.cells.size ≤ later.cells.size) : heap.Grows later where
  cells := cells
  functions := Nat.le_of_eq (congrArg Pool.size functions.symm)
  code := by
    intro id present
    unfold function
    rw [functions]
  upvalues := by
    intro id present
    unfold function
    rw [functions]

theorem refl (heap : Heap) : heap.Grows heap := ofFunctions rfl (Nat.le_refl _)

theorem trans {middle later : Heap} (first : heap.Grows middle) (second : middle.Grows later) :
    heap.Grows later where
  cells := Nat.le_trans first.cells second.cells
  functions := Nat.le_trans first.functions second.functions
  code := by
    intro id present
    rw [second.code id (Nat.lt_of_lt_of_le present first.functions), first.code id present]
  upvalues := by
    intro id present
    rw [second.upvalues id (Nat.lt_of_lt_of_le present first.functions),
      first.upvalues id present]

theorem setTable (id : TableId) (object : Table) : heap.Grows (heap.setTable id object) :=
  ofFunctions rfl (Nat.le_refl _)

theorem setUserdata (id : UserdataId) (object : UserdataObject) :
    heap.Grows (heap.setUserdata id object) :=
  ofFunctions rfl (Nat.le_refl _)

theorem setThread (id : ThreadId) (object : ThreadObject) :
    heap.Grows (heap.setThread id object) :=
  ofFunctions rfl (Nat.le_refl _)

theorem addTable (object : Table) : heap.Grows (heap.addTable object).2 :=
  ofFunctions rfl (Nat.le_refl _)

theorem setCell (id : CellId) (value : Value) : heap.Grows (heap.setCell id value) :=
  ofFunctions rfl (by simp [Heap.setCell])

theorem setFunction {id : FunctionId} {object : FunctionObject}
    (code : object.code = (heap.function id).code)
    (upvalues : object.upvalues = (heap.function id).upvalues) :
    heap.Grows (heap.setFunction id object) where
  cells := Nat.le_refl _
  functions := by simp [Heap.setFunction]
  code := fun other _ => Pool.map_get_set FunctionObject.code code other.index
  upvalues := fun other _ => Pool.map_get_set FunctionObject.upvalues upvalues other.index

theorem addFunction (object : FunctionObject) : heap.Grows (heap.addFunction object).2 where
  cells := Nat.le_refl _
  functions := by simp [Heap.addFunction]
  code := fun _ present =>
    congrArg FunctionObject.code (Pool.get_add_of_lt present object)
  upvalues := fun _ present =>
    congrArg FunctionObject.upvalues (Pool.get_add_of_lt present object)

end Grows

theorem setUpvalue_grows (heap : Heap) (function : FunctionId) (ordinal : Nat) (value : Value) :
    heap.Grows (heap.setUpvalue function ordinal value).2 := by
  unfold setUpvalue
  split
  · exact .refl heap
  · exact .setCell _ value

end Heap

end StackScope
