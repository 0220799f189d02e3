import StackScope.Proofs.Boxed.HeapAgreement
import StackScope.Proofs.LibraryRegistration
import StackScope.Proofs.Scenario.Faults

/-!
Making the functions of a scenario. Each definition adds one closure to the heap, so its number
among the definitions gives the identity of the closure, and a name stands for the last closure that
was given it, as a global and for the steps.
-/

namespace StackScope

@[simp] theorem Context.globals_setGlobal (context : Context) (name : String) (value : Value) :
    (context.setGlobal name value).globals = context.globals :=
  rfl

@[simp] theorem Context.size_tables_setGlobal (context : Context) (name : String) (value : Value) :
    (context.setGlobal name value).heap.tables.size = context.heap.tables.size :=
  Pool.size_set _ _ _

/-- Another global keeps its value. -/
theorem Context.getGlobal_setGlobal_of_ne {context : Context}
    (present : context.globals.index < context.heap.tables.size) {name other : String}
    (different : other ≠ name) (value : Value) :
    (context.setGlobal name value).getGlobal other = context.getGlobal other := by
  have stored : (context.setGlobal name value).heap.table context.globals =
      (context.heap.table context.globals).set name value :=
    Pool.get_set_self present _
  change ((context.setGlobal name value).heap.table context.globals).get other = _
  rw [stored, Table.get_set, if_neg different]
  rfl

namespace Scenario

def closures (definitions : List FunctionDefinition) (first : Nat) : Defined :=
  definitions.zipIdx.reverse.map fun entry => (entry.1.name, ⟨first + entry.2⟩)

theorem closures_concat (definitions : List FunctionDefinition) (definition : FunctionDefinition)
    (first : Nat) :
    closures (definitions ++ [definition]) first =
      (definition.name, ⟨first + definitions.length⟩) :: closures definitions first := by
  unfold closures
  rw [List.zipIdx_append, List.reverse_append, List.map_append, Nat.zero_add]
  rfl

theorem lookup_closures (definitions : List FunctionDefinition) (first : Nat) (name : String) :
    (closures definitions first).lookup name =
      (lastDefinition? definitions name).map fun entry => ⟨first + entry.2⟩ := by
  induction definitions using List.reverseRecOn with
  | nil => rfl
  | append_singleton definitions last ih =>
      rw [closures_concat, List.lookup_cons, lastDefinition?_concat, ih]
      by_cases same : last.name = name
      · simp [same]
      · simp [same, beq_eq_false_iff_ne.mpr (Ne.symm same)]

structure Made (created : Context) (definitions : List FunctionDefinition) (context : Context) :
    Prop where
  count : context.heap.functions.size =
    created.heap.functions.size + definitions.length
  code : ∀ index definition, definitions[index]? = some definition →
    (context.heap.function ⟨created.heap.functions.size + index⟩).code =
      .script definition.prototype.normalize
  globals : ∀ name definition index, lastDefinition? definitions name = some (definition, index) →
    context.getGlobal name = .function ⟨created.heap.functions.size + index⟩
  table : context.globals.index < context.heap.tables.size
  frames : context.frames = []
  stack : context.stack = []
  config : context.config = created.config

variable {created context : Context} {definitions : List FunctionDefinition}

/-- The closures keep their code, whatever becomes of the heap. -/
theorem Made.code_of_grows (made : Made created definitions context) {heap : Heap}
    (grows : context.heap.Grows heap) {definition : FunctionDefinition} {index : Nat}
    (present : definitions[index]? = some definition) :
    (heap.function ⟨created.heap.functions.size + index⟩).code =
      .script definition.prototype.normalize := by
  have inside := (List.getElem?_eq_some_iff.mp present).1
  rw [grows.code _ (by rw [made.count]; exact Nat.add_lt_add_left inside _)]
  exact made.code index definition present

theorem upvalueCells_foretold (heap : Heap) (definitions : List FunctionDefinition) (first : Nat)
    (definition : FunctionDefinition) :
    Foretold (fun shared => ∃ cells, shared.2 = { heap with cells })
      (definitionFault? definitions definition)
      (upvalueCells heap (closures definitions first) definition) := by
  unfold upvalueCells
  cases shared : definition.sharesUpvaluesWith with
  | none =>
      have sound : definitionFault? definitions definition = none := by
        apply definitionFault?_eq_none_iff.mpr
        intro other same
        rw [shared] at same
        cases same
      rw [sound]
      exact .succeeds ⟨_, heap.addCells_heap _⟩
  | some other =>
      dsimp only
      rw [lookup_closures]
      cases found : lastDefinition? definitions other with
      | none =>
          rw [definitionFault?_of_missing shared found]
          exact .fails _
      | some entry =>
          have sound : definitionFault? definitions definition = none := by
            apply definitionFault?_eq_none_iff.mpr
            intro name same
            cases Option.some.inj (shared.symm.trans same)
            exact exists_lastDefinition?_iff.mp ⟨entry.1, entry.2, found⟩
          rw [sound]
          exact .succeeds ⟨heap.cells, rfl⟩

def withClosure (context : Context) (cells : Pool Value) (upvalues : List CellId)
    (definition : FunctionDefinition) : Context :=
  let heap := { context.heap with cells }
  { context with
    heap :=
      (heap.addFunction { code := .script definition.prototype.normalize, upvalues }).2 }

def install (context : Context) (cells : Pool Value) (upvalues : List CellId)
    (definition : FunctionDefinition) : Context :=
  (withClosure context cells upvalues definition).setGlobal definition.name
    (.function ⟨context.heap.functions.size⟩)

theorem function_install (context : Context) (cells : Pool Value) (upvalues : List CellId)
    (definition : FunctionDefinition) (id : FunctionId) :
    (install context cells upvalues definition).heap.function id =
      if id.index = context.heap.functions.size then
        { code := .script definition.prototype.normalize, upvalues }
      else context.heap.function id :=
  Pool.get_add _ _ _

theorem Made.install (made : Made created definitions context) (cells : Pool Value)
    (upvalues : List CellId) (definition : FunctionDefinition) :
    Made created (definitions ++ [definition])
      (Scenario.install context cells upvalues definition) where
  count := by
    have added : (Scenario.install context cells upvalues definition).heap.functions.size =
        context.heap.functions.size + 1 := Pool.size_add _ _
    rw [added, made.count, List.length_append]
    rfl
  code := by
    intro index other found
    rw [function_install, made.count]
    by_cases last : index = definitions.length
    · subst last
      rw [List.getElem?_concat_length] at found
      cases found
      rw [if_pos rfl]
    · rw [if_neg (by simpa using last)]
      apply made.code
      rw [List.getElem?_append_left] at found
      · exact found
      · have inside := (List.getElem?_eq_some_iff.mp found).1
        rw [List.length_append, List.length_singleton] at inside
        omega
  globals := by
    intro name other index found
    have present : (withClosure context cells upvalues definition).globals.index <
        (withClosure context cells upvalues definition).heap.tables.size := made.table
    rw [lastDefinition?_concat] at found
    unfold Scenario.install
    by_cases same : definition.name = name
    · rw [if_pos same] at found
      cases found
      subst same
      rw [Context.getGlobal_setGlobal present, made.count]
    · rw [if_neg same] at found
      rw [Context.getGlobal_setGlobal_of_ne present (Ne.symm same)]
      exact made.globals name other index found
  table := Nat.lt_of_lt_of_eq made.table (Pool.size_set _ _ _).symm
  frames := made.frames
  stack := made.stack
  config := made.config

def MadeAll (created : Context) (definitions : List FunctionDefinition) (made : Defined × Context) :
    Prop :=
  made.1 = closures definitions created.heap.functions.size ∧ Made created definitions made.2

theorem define_foretold (made : Made created definitions context) (definition : FunctionDefinition) :
    Foretold (MadeAll created (definitions ++ [definition]))
      (definitionFault? definitions definition)
      (define context (closures definitions created.heap.functions.size) definition) := by
  unfold define
  apply Foretold.bind_ok
    (upvalueCells_foretold context.heap definitions created.heap.functions.size definition)
  rintro ⟨upvalues, heap⟩ ⟨cells, same⟩
  dsimp only at same
  subst same
  refine ⟨_, rfl, ?_, made.install cells upvalues definition⟩
  rw [closures_concat, ← made.count]

theorem defineAll_foretold (made : Made created definitions context)
    (rest : List FunctionDefinition) :
    Foretold (MadeAll created (definitions ++ rest))
      (firstFault? definitionFault? definitions rest)
      (defineAll context (closures definitions created.heap.functions.size) rest) := by
  induction rest generalizing definitions context with
  | nil =>
      rw [List.append_nil]
      exact .succeeds ⟨rfl, made⟩
  | cons definition rest ih =>
      unfold firstFault? defineAll
      apply (define_foretold made definition).bind
      rintro ⟨defined, later⟩ - ⟨same, madeLater⟩
      have next := ih madeLater
      rw [List.append_assoc, ← same] at next
      exact next

end Scenario

end StackScope
