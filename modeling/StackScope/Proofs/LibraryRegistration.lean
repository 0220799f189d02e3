import StackScope.Proofs.Reachable

/-!
What opening the debug library does to a context: a function object for each function of the
library, found by its name in a table that is the value of a global. Everything that was on the heap
before is still there.
-/

namespace StackScope

theorem Heap.table_addTable (heap : Heap) (object : Table) :
    (heap.addTable object).2.table (heap.addTable object).1 = object :=
  Pool.get_add_self heap.tables object

namespace DebugFunction

theorem name_inj {left right : DebugFunction} (same : left.name = right.name) : left = right := by
  have names : ∀ left ∈ all, ∀ right ∈ all, left.name = right.name → left = right := by decide
  exact names left left.mem_all right right.mem_all same

theorem register_grows (heap : Heap) (table : Table) (functions : List DebugFunction) :
    heap.Grows (register heap table functions).2 := by
  induction functions generalizing heap table with
  | nil => exact .refl heap
  | cons function rest ih => exact (Heap.Grows.addFunction _).trans (ih _ _)

theorem tables_register (heap : Heap) (table : Table) (functions : List DebugFunction) :
    (register heap table functions).2.tables = heap.tables := by
  induction functions generalizing heap table with
  | nil => rfl
  | cons function rest ih => exact ih _ _

theorem threads_register (heap : Heap) (table : Table) (functions : List DebugFunction) :
    (register heap table functions).2.threads = heap.threads := by
  induction functions generalizing heap table with
  | nil => rfl
  | cons function rest ih => exact ih _ _

/-- Names of other functions keep their values. -/
theorem register_keeps (heap : Heap) (table : Table) {functions : List DebugFunction}
    {other : DebugFunction} (absent : other ∉ functions) :
    (register heap table functions).1.get other.name = table.get other.name := by
  induction functions generalizing heap table with
  | nil => rfl
  | cons function rest ih =>
      have names : other.name ≠ function.name := by
        intro same
        exact absent (List.mem_cons.mpr (.inl (name_inj same)))
      have later : other ∉ rest := fun member => absent (List.mem_cons_of_mem function member)
      calc
        (register heap table (function :: rest)).1.get other.name
        _ = (table.set function.name (.function ⟨heap.functions.size⟩)).get other.name :=
            ih _ _ later
        _ = table.get other.name := by rw [Table.get_set, if_neg names]

theorem register_finds (heap : Heap) (table : Table) {functions : List DebugFunction}
    (distinct : functions.Nodup) {function : DebugFunction} (member : function ∈ functions) :
    ∃ id, id.index < (register heap table functions).2.functions.size ∧
      (register heap table functions).1.get function.name = .function id ∧
      ((register heap table functions).2.function id).code = .host function.hostFunction := by
  induction functions generalizing heap table with
  | nil => cases member
  | cons first rest ih =>
      obtain ⟨fresh, distinct⟩ := List.nodup_cons.mp distinct
      rcases List.mem_cons.mp member with same | member
      · subst same
        let added := heap.addFunction { code := .host function.hostFunction }
        have present : added.1.index < added.2.functions.size := by
          change heap.functions.size < (heap.functions.add _).size
          rw [Pool.size_add]
          exact Nat.lt_succ_self _
        have grows := register_grows added.2 (table.set function.name (.function added.1)) rest
        have named : (register heap table (function :: rest)).1.get function.name =
            .function added.1 := by
          calc
            (register heap table (function :: rest)).1.get function.name
            _ = (table.set function.name (.function added.1)).get function.name :=
                register_keeps added.2 _ fresh
            _ = .function added.1 := by rw [Table.get_set, if_pos rfl]
        have code : ((register heap table (function :: rest)).2.function added.1).code =
            .host function.hostFunction := by
          calc
            ((register heap table (function :: rest)).2.function added.1).code
            _ = (added.2.function added.1).code := grows.code added.1 present
            _ = .host function.hostFunction :=
                congrArg FunctionObject.code (Pool.get_add_self _ _)
        exact ⟨added.1, Nat.lt_of_lt_of_le present grows.functions, named, code⟩
      · exact ih _ _ distinct member

end DebugFunction

namespace Context

variable {context : Context}

def Registered (context : Context) (function : DebugFunction) (id : FunctionId) : Prop :=
  (context.heap.function id).code = .host function.hostFunction

theorem getGlobal_setGlobal (present : context.globals.index < context.heap.tables.size)
    (name : String) (value : Value) : (context.setGlobal name value).getGlobal name = value := by
  have stored : (context.setGlobal name value).heap.table context.globals =
      (context.heap.table context.globals).set name value :=
    Pool.get_set_self present _
  change ((context.setGlobal name value).heap.table context.globals).get name = value
  rw [stored, Table.get_set, if_pos rfl]

theorem table_setGlobal {id : TableId} (other : context.globals.index ≠ id.index) (name : String)
    (value : Value) : (context.setGlobal name value).heap.table id = context.heap.table id :=
  Pool.get_set_of_ne other _

def libraryTable (context : Context) : TableId × Context :=
  let (table, heap) := DebugFunction.register context.heap {} DebugFunction.all
  let (library, heap) := heap.addTable table
  (library, { context with heap })

theorem openDebug_eq (context : Context) :
    context.openDebug = context.libraryTable.2.setGlobal "debug" (.table context.libraryTable.1) :=
  rfl

theorem openDebug_grows (context : Context) : context.heap.Grows context.openDebug.heap := by
  have functions : context.heap.Grows _ :=
    DebugFunction.register_grows context.heap {} DebugFunction.all
  have library : context.heap.Grows context.libraryTable.2.heap := functions.trans (.addTable _)
  rw [openDebug_eq]
  exact library.trans (.setTable _ _)

theorem Reachable.openDebug (reachable : context.Reachable) : context.openDebug.Reachable :=
  reachable.setHeap context.openDebug_grows

theorem libraryTable_index (context : Context) :
    context.libraryTable.1.index = context.heap.tables.size :=
  congrArg Pool.size (DebugFunction.tables_register context.heap {} DebugFunction.all)

theorem size_tables_libraryTable (context : Context) :
    context.libraryTable.2.heap.tables.size = context.heap.tables.size + 1 := by
  have tables := DebugFunction.tables_register context.heap {} DebugFunction.all
  rw [← tables]
  exact Pool.size_add _ _

theorem globals_libraryTable (context : Context) :
    context.libraryTable.2.globals = context.globals :=
  congrArg (fun threads : Pool ThreadObject => (threads.get context.thread.index).environment)
    (DebugFunction.threads_register context.heap {} DebugFunction.all)

/-- Where the library was opened, each of its functions is found by its name, and it stays
registered whatever becomes of the heap. -/
theorem openDebug_registers (present : context.globals.index < context.heap.tables.size)
    (function : DebugFunction) :
    ∃ id, context.openDebug.debugFunction? function.name = some id ∧
      ∀ later : Context, context.openDebug.heap.Grows later.heap →
        later.Registered function id := by
  have distinct : DebugFunction.all.Nodup := by decide
  obtain ⟨id, known, found, code⟩ :=
    DebugFunction.register_finds context.heap {} distinct function.mem_all
  have inside : context.libraryTable.2.globals.index <
      context.libraryTable.2.heap.tables.size := by
    rw [globals_libraryTable, size_tables_libraryTable]
    omega
  have apart : context.libraryTable.2.globals.index ≠ context.libraryTable.1.index := by
    rw [globals_libraryTable, libraryTable_index]
    omega
  have contents : (context.libraryTable.2.heap.table context.libraryTable.1).get function.name =
      .function id := by
    unfold libraryTable
    dsimp only
    rw [Heap.table_addTable]
    exact found
  refine ⟨id, ?_, fun later grows => (grows.code id known).trans code⟩
  unfold debugFunction?
  rw [openDebug_eq, getGlobal_setGlobal inside]
  change ((_ : Table).get function.name).function? = some id
  rw [table_setGlobal apart, contents]
  rfl

end Context

end StackScope
