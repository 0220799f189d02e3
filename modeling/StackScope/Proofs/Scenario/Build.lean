import StackScope.Proofs.Scenario.Replay

/-!
Building a scenario. Whether it can be built, with which fault it fails and what stands on the stack
afterwards follow from its text alone.
-/

namespace StackScope

namespace Scenario

def firstClosure (heap : Heap) (config : Config) : Nat :=
  (Context.create heap config).openDebug.heap.functions.size

structure Shows (scenario : Scenario) (heap : Heap) (config : Config) (built : Context) : Prop where
  frames : ∃ groups : List CallGroup, groups.flatMap CallGroup.steps = scenario.calls ∧
    (∀ group ∈ groups, group.Formed) ∧
    scenario.Stands (firstClosure heap config) groups.reverse built.frames built.stack
  closures : ∀ index definition, scenario.functions[index]? = some definition →
    (built.heap.function ⟨firstClosure heap config + index⟩).code =
      .script definition.prototype.normalize
  globals : ∀ name definition index,
    lastDefinition? scenario.functions name = some (definition, index) →
      built.getGlobal name = .function ⟨firstClosure heap config + index⟩
  config : built.config = config

theorem made_openDebug (heap : Heap) (config : Config) :
    Made (Context.create heap config).openDebug [] (Context.create heap config).openDebug where
  count := rfl
  code := by
    intro index definition found
    cases found
  globals := by
    intro name definition index found
    cases found
  table := by
    have own : (Context.create heap config).globals.index = heap.tables.size :=
      congrArg (fun thread : ThreadObject => thread.environment.index) (Pool.get_add_self _ _)
    have size : (Context.create heap config).heap.tables.size = heap.tables.size + 1 :=
      Pool.size_add _ _
    rw [Context.openDebug_eq, Context.globals_setGlobal, Context.size_tables_setGlobal,
      Context.globals_libraryTable, Context.size_tables_libraryTable, own, size]
    omega
  frames := rfl
  stack := rfl
  config := rfl

variable {scenario : Scenario} {ready built : Context} {groups : List CallGroup}

theorem Replayed.getGlobal {first : Nat} {before : List CallStep}
    (replayed : Replayed scenario first ready before groups built) (name : String) :
    built.getGlobal name = ready.getGlobal name := by
  unfold Context.getGlobal Context.globals Heap.table Heap.thread
  rw [replayed.tables, replayed.threads, replayed.thread]

theorem Replayed.shows {heap : Heap} {config : Config}
    (made : Made (Context.create heap config).openDebug scenario.functions ready)
    (replayed : Replayed scenario (firstClosure heap config) ready scenario.calls groups built) :
    scenario.Shows heap config built where
  frames := by
    refine ⟨groups.reverse, replayed.steps, ?_, ?_⟩
    · intro group member
      exact replayed.formed group (List.mem_reverse.mp member)
    · rw [List.reverse_reverse]
      exact replayed.stands
  closures _ _ present := made.code_of_grows replayed.grows present
  globals := by
    intro name definition index found
    rw [replayed.getGlobal]
    exact made.globals name definition index found
  config := replayed.config.trans made.config

theorem build_eq (scenario : Scenario) (heap : Heap) (config : Config) :
    scenario.build heap config =
      (defineAll (Context.create heap config).openDebug (closures [] (firstClosure heap config))
        scenario.functions >>= fun defined => replayAll defined.1 defined.2 scenario.calls) :=
  rfl

/-- After the definitions no step has been made yet. -/
theorem Made.replayed {created : Context} (made : Made created scenario.functions ready)
    (first : Nat) : Replayed scenario first ready [] [] ready where
  steps := rfl
  formed := nofun
  stands := by
    rw [made.frames, made.stack]
    exact .nil
  grows := .refl _
  tables := rfl
  threads := rfl
  thread := rfl
  config := rfl
  room := by
    rw [Context.depth, made.frames]
    exact Nat.zero_le _

theorem build_foretold (scenario : Scenario) (heap : Heap) (config : Config)
    (fits : scenario.Fits) :
    Foretold (scenario.Shows heap config) (scenario.fault? config)
      (scenario.build heap config) := by
  unfold fault?
  rw [build_eq]
  apply (defineAll_foretold (made_openDebug heap config) scenario.functions).bind
  rintro ⟨defined, ready⟩ - ⟨same, made⟩
  have limit : ready.config.maxCallDepth = config.maxCallDepth :=
    congrArg Config.maxCallDepth made.config
  dsimp only at same
  rw [same, ← limit]
  apply (replayAll_foretold made scenario.calls (made.replayed _) fits).mono
  rintro built - ⟨groups, replayed⟩
  exact replayed.shows made

end Scenario

/-- A scenario can be built exactly if no definition and no step of it is at fault, and otherwise it
fails with the first fault. The context then has a frame for each group of steps. -/
theorem build_exact (scenario : Scenario) (heap : Heap) (config : Config) (fits : scenario.Fits) :
    ((∃ built, scenario.build heap config = .ok built) ↔ scenario.Buildable config) ∧
    (∀ fault, scenario.build heap config = .error fault ↔ scenario.FailsWith config fault) ∧
    ∀ built, scenario.build heap config = .ok built → scenario.Shows heap config built := by
  have foretold := scenario.build_foretold heap config fits
  refine ⟨?_, ?_, ?_⟩
  · rw [← Scenario.fault?_eq_none_iff]
    exact foretold.exists_ok_iff
  · intro fault
    rw [← Scenario.fault?_eq_some_iff]
    exact foretold.error_iff fault
  · intro built made
    exact foretold.of_ok made

/-- A function that is defined twice, and whose later definition shares the upvalues of the earlier
one. It is called by a main chunk, calls itself at its end and then calls a host function. -/
def redefined : Scenario where
  functions :=
    [{ name := "main", prototype := { source := "@sample", instructions := [.«return» 0 0] } },
      { name := "visit"
        prototype := { source := "@sample", lineDefined := 2, instructions := [.«return» 0 0] }
        upvalues := [.boolean true] },
      { name := "visit"
        prototype :=
          { source := "@sample", lineDefined := 5, stackSize := 2
            instructions := [.«return» 0 0, .«return» 0 0] }
        sharesUpvaluesWith := some "visit" }]
  calls :=
    [.script "main" 0 [] false, .script "visit" 0 [.boolean true, .nil] false,
      .script "visit" 1 [.boolean false] true, .host "emit"]

/-- With room for three frames it is built, and with less the host function is the first at
fault. -/
theorem build_exact_redefined :
    redefined.Fits ∧ redefined.Buildable { maxCallDepth := 3 } ∧
    (∃ built, redefined.build Heap.empty { maxCallDepth := 3 } = .ok built ∧
      redefined.Shows Heap.empty { maxCallDepth := 3 } built ∧ built.depth = 3 ∧
      built.stack = [.boolean false, .nil] ∧
      built.getGlobal "visit" = .function ⟨12⟩) ∧
    redefined.build Heap.empty { maxCallDepth := 2 } = .error (.machine (.stackOverflow 2)) ∧
    redefined.FailsWith { maxCallDepth := 2 } (.machine (.stackOverflow 2)) := by
  have fits : redefined.Fits := by
    unfold Scenario.Fits
    decide
  obtain ⟨buildable, -, showsAll⟩ := build_exact redefined Heap.empty { maxCallDepth := 3 } fits
  obtain ⟨-, fails, -⟩ := build_exact redefined Heap.empty { maxCallDepth := 2 } fits
  have sound : redefined.Buildable { maxCallDepth := 3 } :=
    Scenario.fault?_eq_none_iff.mp (by decide)
  have failing : redefined.FailsWith { maxCallDepth := 2 } (.machine (.stackOverflow 2)) :=
    Scenario.fault?_eq_some_iff.mp (by decide)
  obtain ⟨built, made⟩ := buildable.mpr sound
  have shown := showsAll built made
  have stands : (redefined.build Heap.empty { maxCallDepth := 3 }).toOption.map
      (fun built => (built.depth, built.stack)) = some (3, [.boolean false, .nil]) := by
    decide +kernel
  rw [made] at stands
  obtain ⟨depth, stack⟩ := Prod.mk.inj (Option.some.inj stands)
  exact ⟨fits, sound, ⟨built, made, shown, depth, stack, shown.globals "visit" _ 2 rfl⟩,
    (fails _).mpr failing, failing⟩

end StackScope
