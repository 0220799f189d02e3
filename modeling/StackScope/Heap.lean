import StackScope.Heap.Pool
import StackScope.Host.Program

/-!
The heap: tables, functions, userdata, threads and shared cells, each kind in a pool of its own. The
heap outlives the contexts that run on it.
-/

namespace StackScope

/-- A table maps texts to values and has a sequence besides. The entries are kept in the order of
their keys, and no entry holds nil. -/
structure Table where
  entries : List (String × Value) := []
  sequence : List Value := []
  metatable : Option TableId := none
deriving DecidableEq, Inhabited

structure FunctionObject where
  code : Code
  upvalues : List CellId := []
  /-- Absent as long as the function uses the globals of the context. -/
  environment : Option TableId := none
  metatable : Option TableId := none
deriving Inhabited

structure UserdataObject where
  typeName : String
  metatable : Option TableId := none
  /-- Absent as long as the userdata uses the globals of the context. -/
  environment : Option TableId := none
deriving DecidableEq, Inhabited

structure ThreadObject where
  name : String
  /-- The globals of code that runs on the thread. -/
  environment : TableId
  metatable : Option TableId := none
deriving DecidableEq, Inhabited

/-! ### Entries of tables -/

def insertEntry (key : String) (value : Value) : List (String × Value) → List (String × Value)
  | [] => [(key, value)]
  | (present, old) :: rest =>
      if key = present then (key, value) :: rest
      else if key < present then (key, value) :: (present, old) :: rest
      else (present, old) :: insertEntry key value rest

namespace Table

def get (table : Table) (key : String) : Value := (table.entries.lookup key).getD .nil

def set (table : Table) (key : String) (value : Value) : Table :=
  { table with
    entries :=
      if value.isNil then table.entries.filter fun entry => entry.1 != key
      else insertEntry key value table.entries }

def push (table : Table) (value : Value) : Table :=
  { table with sequence := table.sequence ++ [value] }

def isEmpty (table : Table) : Bool := table.entries.isEmpty && table.sequence.isEmpty

end Table

theorem lookup_entry (key present : String) (value : Value) (rest : List (String × Value)) :
    ((present, value) :: rest).lookup key =
      if key = present then some value else rest.lookup key := by
  rw [List.lookup_cons]
  by_cases same : key = present
  · simp [same]
  · simp [same, beq_eq_false_iff_ne.mpr same]

theorem lookup_insertEntry (key other : String) (value : Value)
    (entries : List (String × Value)) :
    (insertEntry key value entries).lookup other =
      if other = key then some value else entries.lookup other := by
  induction entries with
  | nil => simp only [insertEntry, lookup_entry]
  | cons entry rest ih =>
      obtain ⟨present, old⟩ := entry
      unfold insertEntry
      split
      · rename_i same
        subst same
        simp only [lookup_entry]
        split <;> rfl
      · split
        · simp only [lookup_entry]
        · simp only [lookup_entry, ih]
          split
          · rename_i different _ atPresent
            subst atPresent
            rw [if_neg (Ne.symm different)]
          · rfl

theorem lookup_filter_ne (key other : String) (entries : List (String × Value)) :
    (entries.filter fun entry => entry.1 != key).lookup other =
      if other = key then none else entries.lookup other := by
  induction entries with
  | nil => simp
  | cons entry rest ih =>
      obtain ⟨present, value⟩ := entry
      rw [List.filter_cons, lookup_entry]
      split
      · rename_i kept
        rw [lookup_entry, ih]
        split <;> simp_all
      · rw [ih]
        split <;> simp_all

namespace Table

theorem get_set (table : Table) (key other : String) (value : Value) :
    (table.set key value).get other = if other = key then value else table.get other := by
  unfold get set
  by_cases absent : value = .nil
  · subst absent
    simp only [Value.isNil, if_true, lookup_filter_ne]
    split <;> rfl
  · have present : value.isNil = false := by cases value <;> simp_all [Value.isNil]
    simp only [present, Bool.false_eq_true, if_false, lookup_insertEntry]
    split <;> rfl

end Table

structure Heap where
  tables : Pool Table := .empty
  functions : Pool FunctionObject := .empty
  userdata : Pool UserdataObject := .empty
  threads : Pool ThreadObject := .empty
  cells : Pool Value := .empty
deriving Inhabited

namespace Heap

def empty : Heap := {}

def table (heap : Heap) (id : TableId) : Table := heap.tables.get id.index

def function (heap : Heap) (id : FunctionId) : FunctionObject := heap.functions.get id.index

def userdataAt (heap : Heap) (id : UserdataId) : UserdataObject := heap.userdata.get id.index

def thread (heap : Heap) (id : ThreadId) : ThreadObject := heap.threads.get id.index

def cell (heap : Heap) (id : CellId) : Value := heap.cells.get id.index

def setTable (heap : Heap) (id : TableId) (object : Table) : Heap :=
  { heap with tables := heap.tables.set id.index object }

def setFunction (heap : Heap) (id : FunctionId) (object : FunctionObject) : Heap :=
  { heap with functions := heap.functions.set id.index object }

def setUserdata (heap : Heap) (id : UserdataId) (object : UserdataObject) : Heap :=
  { heap with userdata := heap.userdata.set id.index object }

def setThread (heap : Heap) (id : ThreadId) (object : ThreadObject) : Heap :=
  { heap with threads := heap.threads.set id.index object }

def setCell (heap : Heap) (id : CellId) (value : Value) : Heap :=
  { heap with cells := heap.cells.set id.index value }

def addTable (heap : Heap) (object : Table) : TableId × Heap :=
  (⟨heap.tables.size⟩, { heap with tables := heap.tables.add object })

def addFunction (heap : Heap) (object : FunctionObject) : FunctionId × Heap :=
  (⟨heap.functions.size⟩, { heap with functions := heap.functions.add object })

def addUserdata (heap : Heap) (object : UserdataObject) : UserdataId × Heap :=
  (⟨heap.userdata.size⟩, { heap with userdata := heap.userdata.add object })

def addThread (heap : Heap) (object : ThreadObject) : ThreadId × Heap :=
  (⟨heap.threads.size⟩, { heap with threads := heap.threads.add object })

def addCell (heap : Heap) (value : Value) : CellId × Heap :=
  (⟨heap.cells.size⟩, { heap with cells := heap.cells.add value })

def addCells (heap : Heap) : List Value → List CellId × Heap
  | [] => ([], heap)
  | value :: rest =>
      let (cell, heap) := heap.addCell value
      let (cells, heap) := heap.addCells rest
      (cell :: cells, heap)

end Heap

end StackScope
