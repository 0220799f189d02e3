/-!
Pools: growing collections of objects in which each object keeps the position it was given. Objects
are added and changed but never removed. Reading a position that was never given yields the default
object, and changing one does nothing.
-/

namespace StackScope

structure Pool (α : Type) where
  items : Array α
deriving Inhabited

namespace Pool

variable {α : Type}

def empty : Pool α := ⟨#[]⟩

def size (pool : Pool α) : Nat := pool.items.size

def get [Inhabited α] (pool : Pool α) (index : Nat) : α := pool.items[index]?.getD default

def add (pool : Pool α) (item : α) : Pool α := ⟨pool.items.push item⟩

def set (pool : Pool α) (index : Nat) (item : α) : Pool α := ⟨pool.items.setIfInBounds index item⟩

@[simp] theorem size_add (pool : Pool α) (item : α) : (pool.add item).size = pool.size + 1 := by
  simp [size, add]

@[simp] theorem size_set (pool : Pool α) (index : Nat) (item : α) :
    (pool.set index item).size = pool.size := by
  simp [size, set]

variable [Inhabited α]

@[simp] theorem get_add_self (pool : Pool α) (item : α) :
    (pool.add item).get pool.size = item := by
  simp [get, add, size]

theorem get_add_of_lt {pool : Pool α} {index : Nat} (present : index < pool.size) (item : α) :
    (pool.add item).get index = pool.get index := by
  unfold size at present
  simp [get, add, Array.getElem?_push, Nat.ne_of_lt present]

theorem get_set_self {pool : Pool α} {index : Nat} (present : index < pool.size) (item : α) :
    (pool.set index item).get index = item := by
  unfold size at present
  simp [get, set, present]

theorem get_set_of_ne {pool : Pool α} {index other : Nat} (different : index ≠ other) (item : α) :
    (pool.set index item).get other = pool.get other := by
  simp [get, set, different]

theorem set_get (pool : Pool α) (index : Nat) : pool.set index (pool.get index) = pool := by
  unfold set get
  congr 1
  rcases Nat.lt_or_ge index pool.items.size with present | absent
  · rw [Array.getElem?_eq_getElem present, Option.getD_some, Array.setIfInBounds, dif_pos present]
    exact Array.set_getElem_self present
  · exact Array.setIfInBounds_eq_of_size_le absent

end Pool

end StackScope
