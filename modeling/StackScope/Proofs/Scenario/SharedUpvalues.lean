import StackScope.Proofs.OperationEffect
import StackScope.Proofs.ScopeOrder
import StackScope.Proofs.Scenario.Build
import StackScope.Proofs.Scenario.Sharing

/-!
The upvalues of a scenario that was built. The calls of a scenario write registers that nobody has
captured, so the cells still hold what the definitions put into them. Two upvalues are one variable
exactly when their closures have the same root and they come at the same position, and a write to
one of them is seen there and nowhere else.
-/

namespace StackScope

def Operation.Placing : Operation → Prop
  | call _ _ | tailCall _ _ | setPosition _ | writeRegister _ _ => True
  | _ => False

/-- What has become of a context by calls alone. Functions may have been added, and no register has
been captured. -/
structure OnlyCalled (ready context : Context) : Prop where
  objects : context.heap = { ready.heap with functions := context.heap.functions }
  grows : ready.heap.Grows context.heap
  thread : context.thread = ready.thread
  uncaptured : ∀ frame ∈ context.frames, frame.captured = []

namespace OnlyCalled

variable {ready context later : Context}

theorem refl (empty : ready.frames = []) : OnlyCalled ready ready where
  objects := rfl
  grows := .refl _
  thread := rfl
  uncaptured := by
    rw [empty]
    exact nofun

theorem of_frames (only : OnlyCalled ready context) (heap : later.heap = context.heap)
    (thread : later.thread = context.thread)
    (uncaptured : ∀ frame ∈ later.frames, frame.captured = []) : OnlyCalled ready later where
  objects := by
    rw [heap]
    exact only.objects
  grows := by
    rw [heap]
    exact only.grows
  thread := thread.trans only.thread
  uncaptured := uncaptured

theorem addFunction (only : OnlyCalled ready context) (object : FunctionObject) :
    OnlyCalled ready { context with heap := (context.heap.addFunction object).2 } where
  objects :=
    congrArg (fun heap : Heap => { heap with functions := context.heap.functions.add object })
      only.objects
  grows := only.grows.trans (.addFunction object)
  thread := only.thread
  uncaptured := only.uncaptured

theorem outer (only : OnlyCalled ready context) {frame : Frame} {outer : List Frame}
    (frames : context.frames = frame :: outer) : ∀ other ∈ outer, other.captured = [] := by
  intro other member
  apply only.uncaptured
  rw [frames]
  exact List.mem_cons_of_mem frame member

theorem effect (only : OnlyCalled ready context) {operation : Operation}
    (effect : operation.Effect context later) (placing : operation.Placing) :
    OnlyCalled ready later := by
  cases effect with
  | unchanged => exact only
  | pushed =>
      exact only.of_frames rfl rfl (List.forall_mem_cons.mpr ⟨rfl, only.uncaptured⟩)
  | dropped frames =>
      rw [Context.popFrame_cons frames]
      exact only.of_frames rfl rfl (only.outer frames)
  | replaced frames =>
      rw [Context.replaceFrame_cons frames]
      exact only.of_frames rfl rfl (List.forall_mem_cons.mpr ⟨rfl, only.outer frames⟩)
  | @positioned position frame outer prototype frames =>
      have current : frame.captured = [] := only.uncaptured frame (frames ▸ List.mem_cons_self)
      exact only.of_frames rfl rfl (List.forall_mem_cons.mpr ⟨current, only.outer frames⟩)
  | @written register slot value frame outer frames =>
      have current : frame.captured = [] := only.uncaptured frame (frames ▸ List.mem_cons_self)
      have free : frame.cellAt? slot = none := by
        unfold Frame.cellAt?
        rw [current]
        rfl
      unfold Context.writeSlot
      rw [free]
      exact only.of_frames rfl rfl only.uncaptured
  | _ => exact placing.elim

theorem getGlobal (only : OnlyCalled ready context) (name : String) :
    context.getGlobal name = ready.getGlobal name := by
  unfold Context.getGlobal Context.globals
  rw [only.objects, only.thread]
  rfl

theorem cell (only : OnlyCalled ready context) (cell : CellId) :
    context.heap.cell cell = ready.heap.cell cell := by
  rw [only.objects]
  rfl

end OnlyCalled

namespace Scenario

variable {ready context later : Context} {defined : Defined}

theorem require_eq_ok {outcome : Outcome Unit} (passed : require outcome = .ok later) :
    outcome.2 = later := by
  obtain ⟨answer, left⟩ := outcome
  cases answer with
  | error fault => cases passed
  | ok =>
      cases passed
      rfl

theorem onlyCalled_fillRegisters {name : String} {constants : List Constant} :
    ∀ {context : Context} {register : Nat}, OnlyCalled ready context →
      fillRegisters context name register constants = .ok later → OnlyCalled ready later := by
  induction constants with
  | nil =>
      intro context register only filled
      cases filled
      exact only
  | cons constant rest ih =>
      intro context register only filled
      have written : OnlyCalled ready (context.setRegister register constant.toValue).2 :=
        only.effect (context.setRegister_effect register constant.toValue) trivial
      unfold fillRegisters at filled
      split at filled
      · cases filled
      · rename_i next same
        rw [same] at written
        exact ih written filled

theorem onlyCalled_replay (only : OnlyCalled ready context) {step : CallStep}
    (replayed : replay defined context step = .ok later) : OnlyCalled ready later := by
  cases step with
  | host name =>
      have called := require_eq_ok replayed
      rw [← called]
      exact (only.addFunction _).effect (Context.call_effect _ _ _) trivial
  | script name position registers tail =>
      unfold replay at replayed
      dsimp only at replayed
      split at replayed
      · cases replayed
      · rename_i function found
        obtain ⟨entered, called, replayed⟩ := passed_of_bind replayed
        obtain ⟨filled, placed, replayed⟩ := passed_of_bind replayed
        have entering : OnlyCalled ready entered := by
          rw [← require_eq_ok called]
          cases tail with
          | true => exact only.effect (context.tailCall_effect function []) trivial
          | false => exact only.effect (context.call_effect function []) trivial
        rw [← require_eq_ok replayed]
        exact (onlyCalled_fillRegisters entering placed).effect
          (filled.setPosition_effect position) trivial

theorem onlyCalled_replayAll {steps : List CallStep} :
    ∀ {context : Context}, OnlyCalled ready context →
      replayAll defined context steps = .ok later → OnlyCalled ready later := by
  induction steps with
  | nil =>
      intro context only replayed
      cases replayed
      exact only
  | cons step rest ih =>
      intro context only replayed
      obtain ⟨next, first, replayed⟩ := passed_of_bind replayed
      exact ih (onlyCalled_replay only first) replayed

end Scenario

/-! ### Reading and writing upvalues -/

namespace Heap

theorem getUpvalue?_succ (heap : Heap) (function : FunctionId) (index : Nat) :
    heap.getUpvalue? function (index + 1) =
      (heap.function function).upvalues[index]?.map fun cell =>
        ⟨(heap.function function).code.upvalueName? index, heap.cell cell⟩ :=
  Option.map_map _ _ _

theorem setUpvalue_succ {heap : Heap} {function : FunctionId} {index : Nat} {cell : CellId}
    (found : (heap.function function).upvalues[index]? = some cell) (value : Value) :
    (heap.setUpvalue function (index + 1) value).2 = heap.setCell cell value := by
  unfold setUpvalue upvalue?
  dsimp only
  rw [found]
  rfl

end Heap

namespace Scenario

/-- What a context shows of the upvalues of the scenario that it was built from. The closure of the
first definition is number `first`, and the others follow it in order. -/
structure SharingLaws (scenario : Scenario) (first : Nat) (built : Context) : Prop where
  closures : ∀ index definition, scenario.functions[index]? = some definition →
    (built.heap.function ⟨first + index⟩).code = .script definition.prototype.normalize
  globals : ∀ name definition index,
    lastDefinition? scenario.functions name = some (definition, index) →
      built.getGlobal name = .function ⟨first + index⟩
  /-- A closure has the cells of its root, which hold the values that the root's definition gives. -/
  root : ∀ index < scenario.functions.length, ∃ root definition,
    root? scenario.functions index = some root ∧ Owns scenario.functions root definition ∧
    closureCells built.heap first index = closureCells built.heap first root ∧
    (closureCells built.heap first index).map built.heap.cell =
      definition.upvalues.map Constant.toValue
  identity : ∀ left right leftRoot rightRoot, root? scenario.functions left = some leftRoot →
    root? scenario.functions right = some rightRoot → ∀ (i j : Nat) (cell : CellId),
      (closureCells built.heap first left)[i]? = some cell →
        ((closureCells built.heap first right)[j]? = some cell ↔ leftRoot = rightRoot ∧ i = j)
  /-- Whatever becomes of the heap, the closures keep their upvalues and give them the names of
  their own code. -/
  present : ∀ heap, built.heap.Grows heap → ∀ index root definition owner,
    root? scenario.functions index = some root → scenario.functions[index]? = some definition →
    scenario.functions[root]? = some owner → ∀ ordinal,
      ((heap.getUpvalue? ⟨first + index⟩ ordinal).isSome ↔
        1 ≤ ordinal ∧ ordinal ≤ owner.upvalues.length) ∧
      ∀ found, heap.getUpvalue? ⟨first + index⟩ ordinal = some found →
        found.name = definition.prototype.upvalueName? (ordinal - 1)
  /-- A write is seen at the same position in the closures with the same root, and nowhere else. -/
  written : ∀ heap, built.heap.Grows heap → ∀ writer writerRoot owner,
    root? scenario.functions writer = some writerRoot →
    scenario.functions[writerRoot]? = some owner → ∀ ordinal value,
    1 ≤ ordinal → ordinal ≤ owner.upvalues.length → ∀ reader readerRoot definition,
    root? scenario.functions reader = some readerRoot →
    scenario.functions[reader]? = some definition → ∀ count,
      (heap.setUpvalue ⟨first + writer⟩ ordinal value).2.getUpvalue? ⟨first + reader⟩ count =
        if readerRoot = writerRoot ∧ count = ordinal then
          some ⟨definition.prototype.upvalueName? (ordinal - 1), value⟩
        else heap.getUpvalue? ⟨first + reader⟩ count

variable {definitions : List FunctionDefinition} {first : Nat} {heap : Heap}

theorem closureCells_of_grows {later : Heap}
    (count : first + definitions.length ≤ heap.functions.size) (grows : heap.Grows later)
    {index : Nat} (inside : index < definitions.length) :
    closureCells later first index = closureCells heap first index :=
  grows.upvalues _ (Nat.lt_of_lt_of_le (Nat.add_lt_add_left inside first) count)

theorem upvalueName?_normalize (prototype : Prototype) (index : Nat) :
    prototype.normalize.upvalueName? index = prototype.upvalueName? index := by
  rw [Prototype.normalize_eq]
  rfl

section Later

variable {built : Context} {later : Heap} (shared : Shared definitions first built.heap)
  (count : first + definitions.length ≤ built.heap.functions.size)
  (code : ∀ index definition, definitions[index]? = some definition →
    (built.heap.function ⟨first + index⟩).code = .script definition.prototype.normalize)
  (grows : built.heap.Grows later)
include shared count code grows

/-- What is found at a position of a closure, later on. -/
theorem getUpvalue?_of_grows {index root : Nat} {definition : FunctionDefinition}
    (rooted : root? definitions index = some root)
    (present : definitions[index]? = some definition) (position : Nat) :
    later.getUpvalue? ⟨first + index⟩ (position + 1) =
      (closureCells built.heap first index)[position]?.map fun cell =>
        ⟨definition.prototype.upvalueName? position, later.cell cell⟩ := by
  obtain ⟨inside, -⟩ := shared.exists_of_root? rooted
  have cells : (later.function ⟨first + index⟩).upvalues = closureCells built.heap first index :=
    closureCells_of_grows count grows inside
  have named : (later.function ⟨first + index⟩).code.upvalueName? position =
      definition.prototype.upvalueName? position := by
    rw [grows.code _ (Nat.lt_of_lt_of_le (Nat.add_lt_add_left inside first) count),
      code index definition present]
    exact upvalueName?_normalize definition.prototype position
  rw [Heap.getUpvalue?_succ, cells, named]

theorem present_of_grows {index root : Nat} {definition owner : FunctionDefinition}
    (rooted : root? definitions index = some root)
    (present : definitions[index]? = some definition) (owned : definitions[root]? = some owner)
    (ordinal : Nat) :
    ((later.getUpvalue? ⟨first + index⟩ ordinal).isSome ↔
      1 ≤ ordinal ∧ ordinal ≤ owner.upvalues.length) ∧
    ∀ found, later.getUpvalue? ⟨first + index⟩ ordinal = some found →
      found.name = definition.prototype.upvalueName? (ordinal - 1) := by
  cases ordinal with
  | zero => exact ⟨⟨nofun, nofun⟩, nofun⟩
  | succ position =>
      rw [getUpvalue?_of_grows shared count code grows rooted present]
      refine ⟨?_, ?_⟩
      · rw [Option.isSome_map, isSome_getElem?, ← shared.length_closureCells rooted owned]
        exact ⟨fun inside => ⟨Nat.succ_pos position, inside⟩, And.right⟩
      · intro found same
        obtain ⟨cell, -, rfl⟩ := Option.map_eq_some_iff.mp same
        rfl

theorem written_of_grows {writer writerRoot : Nat} {owner : FunctionDefinition}
    (writerRooted : root? definitions writer = some writerRoot)
    (owned : definitions[writerRoot]? = some owner) {ordinal : Nat} (value : Value)
    (positive : 1 ≤ ordinal) (within : ordinal ≤ owner.upvalues.length)
    {reader readerRoot : Nat} {definition : FunctionDefinition}
    (readerRooted : root? definitions reader = some readerRoot)
    (present : definitions[reader]? = some definition) (number : Nat) :
    (later.setUpvalue ⟨first + writer⟩ ordinal value).2.getUpvalue? ⟨first + reader⟩ number =
      if readerRoot = writerRoot ∧ number = ordinal then
        some ⟨definition.prototype.upvalueName? (ordinal - 1), value⟩
      else later.getUpvalue? ⟨first + reader⟩ number := by
  obtain ⟨inside, -⟩ := shared.exists_of_root? writerRooted
  obtain ⟨position, rfl⟩ := Nat.exists_eq_add_of_le' positive
  have bound : position < (closureCells built.heap first writer).length := by
    rw [shared.length_closureCells writerRooted owned]
    exact within
  have found := List.getElem?_eq_getElem bound
  generalize (closureCells built.heap first writer)[position] = cell at found
  have allocated : cell.index < later.cells.size :=
    Nat.lt_of_lt_of_le (shared.allocated writer inside cell (List.mem_of_getElem? found))
      grows.cells
  have held : (later.function ⟨first + writer⟩).upvalues[position]? = some cell := by
    rw [← found]
    exact congrArg (·[position]?) (closureCells_of_grows count grows inside)
  rw [Heap.setUpvalue_succ held]
  cases number with
  | zero =>
      rw [if_neg (by omega)]
      rfl
  | succ other =>
      rw [getUpvalue?_of_grows shared count code (grows.trans (.setCell cell value)) readerRooted
        present, getUpvalue?_of_grows shared count code grows readerRooted present]
      have iff := shared.getElem?_iff writerRooted readerRooted found (j := other)
      by_cases same : readerRoot = writerRoot ∧ other + 1 = position + 1
      · obtain ⟨rfl, here⟩ := same
        cases here
        rw [if_pos ⟨rfl, rfl⟩, iff.mpr ⟨rfl, rfl⟩, Option.map_some, Heap.cell_setCell,
          if_pos ⟨rfl, allocated⟩]
        rfl
      · rw [if_neg same]
        cases read : (closureCells built.heap first reader)[other]? with
        | none => rfl
        | some elsewhere =>
            have different : cell ≠ elsewhere := by
              rintro rfl
              obtain ⟨roots, positions⟩ := iff.mp read
              exact same ⟨roots.symm, congrArg (· + 1) positions.symm⟩
            rw [Option.map_some, Option.map_some, Heap.cell_setCell,
              if_neg fun both => different both.1]

end Later

/-- The laws hold wherever calls alone were made since the definitions. -/
theorem sharingLaws_of_onlyCalled {scenario : Scenario} {created ready built : Context}
    (made : Made created scenario.functions ready)
    (shared : Shared scenario.functions created.heap.functions.size ready.heap)
    (only : OnlyCalled ready built) :
    scenario.SharingLaws created.heap.functions.size built := by
  have count : created.heap.functions.size + scenario.functions.length ≤
      built.heap.functions.size := by
    rw [← made.count]
    exact only.grows.functions
  have shared : Shared scenario.functions created.heap.functions.size built.heap :=
    shared.congr (fun index inside => closureCells_of_grows (Nat.le_of_eq made.count.symm)
      only.grows inside) only.grows.cells only.cell
  have code : ∀ index definition, scenario.functions[index]? = some definition →
      (built.heap.function ⟨created.heap.functions.size + index⟩).code =
        .script definition.prototype.normalize :=
    fun _ _ present => made.code_of_grows only.grows present
  exact
    { closures := code
      globals := fun name definition index found =>
        (only.getGlobal name).trans (made.globals name definition index found)
      root := by
        intro index inside
        obtain ⟨root, definition, rooted, owns, cells⟩ := shared.exists_root inside
        refine ⟨root, definition, rooted, owns, cells, ?_⟩
        rw [cells]
        exact shared.initial root definition owns
      identity := fun left right leftRoot rightRoot leftRooted rightRooted i j cell =>
        shared.getElem?_iff leftRooted rightRooted
      present := fun heap grows index root definition owner rooted present owned =>
        present_of_grows shared count code grows rooted present owned
      written := fun heap grows writer writerRoot owner writerRooted owned ordinal value positive
          within reader readerRoot definition readerRooted present =>
        written_of_grows shared count code grows writerRooted owned value positive within
          readerRooted present }

end Scenario

/-- In a scenario that can be built, closures share their upvalues exactly if they have one root,
which is found by following the names that definitions share by. -/
theorem upvalues_shared_by_root {scenario : Scenario} {heap : Heap} {config : Config}
    {built : Context} (succeeded : scenario.build heap config = .ok built) :
    scenario.SharingLaws (Scenario.firstClosure heap config) built := by
  rw [Scenario.build_eq] at succeeded
  obtain ⟨⟨defined, ready⟩, definitions, replayed⟩ := passed_of_bind succeeded
  have start := Scenario.made_openDebug heap config
  obtain ⟨-, made⟩ := (Scenario.defineAll_foretold start scenario.functions).of_ok definitions
  have shared := Scenario.Shared.defineAll start (.nil _ _) definitions
  exact Scenario.sharingLaws_of_onlyCalled made shared
    (Scenario.onlyCalled_replayAll (.refl made.frames) replayed)

/-- The name `first` is given twice. The last two definitions share by that name, one of them
through a definition made before it was given again. -/
def chained : Scenario where
  functions :=
    let prototype (name : String) : Prototype :=
      { source := "@sample", instructions := [.«return» 0 0], upvalueNames := [none, some name] }
    [{ name := "first", prototype := prototype "a", upvalues := [.nil, .boolean true] },
      { name := "second", prototype := prototype "b", sharesUpvaluesWith := some "first" },
      { name := "first", prototype := prototype "c", upvalues := [.nil, .boolean false] },
      { name := "third", prototype := prototype "d", sharesUpvaluesWith := some "second" },
      { name := "fourth", prototype := prototype "e", sharesUpvaluesWith := some "first" }]
  calls := [.script "third" 0 [] false]

/-- A write through the fourth definition, whose root is the first one, is seen in the first closure
of the name and not in the second. -/
theorem upvalues_shared_by_root_chained :
    ∃ built, chained.build Heap.empty {} = .ok built ∧
      chained.SharingLaws (Scenario.firstClosure Heap.empty {}) built ∧
      built.getGlobal "third" = .function ⟨Scenario.firstClosure Heap.empty {} + 3⟩ ∧
      Scenario.root? chained.functions 3 = some 0 ∧
      Scenario.root? chained.functions 4 = some 2 ∧
      let first := Scenario.firstClosure Heap.empty {}
      let after := (built.heap.setUpvalue ⟨first + 3⟩ 2 (.text "new")).2
      after.getUpvalue? ⟨first + 0⟩ 2 = some ⟨some "a", .text "new"⟩ ∧
      after.getUpvalue? ⟨first + 2⟩ 2 = built.heap.getUpvalue? ⟨first + 2⟩ 2 := by
  have succeeds : (chained.build Heap.empty {}).toOption.isSome = true := by decide +kernel
  cases made : chained.build Heap.empty {} with
  | error fault =>
      rw [made] at succeeds
      cases succeeds
  | ok built =>
      have laws := upvalues_shared_by_root made
      have firstRoot : Scenario.root? chained.functions 0 = some 0 := by decide +kernel
      have againRoot : Scenario.root? chained.functions 2 = some 2 := by decide +kernel
      have thirdRoot : Scenario.root? chained.functions 3 = some 0 := by decide +kernel
      have written := laws.written built.heap (.refl _) 3 0 _ thirdRoot rfl 2 (.text "new")
        (by decide) (by decide)
      refine ⟨built, rfl, laws, laws.globals "third" _ 3 rfl, thirdRoot, by decide +kernel, ?_, ?_⟩
      · exact (written 0 0 _ firstRoot rfl 2).trans (if_pos ⟨rfl, rfl⟩)
      · exact (written 2 2 _ againRoot rfl 2).trans (if_neg (by decide))

end StackScope
