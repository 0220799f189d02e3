import Mathlib.Data.List.Induction
import StackScope.Scenario

/-!
What is wrong with a scenario, read off its text. A definition or a step is judged by what comes
before it, without running anything, and the first one at fault decides.
-/

namespace StackScope

/-- Without a fault the outcome is a value with a property, and with a fault it is that fault. -/
inductive Foretold {α : Type} (holds : α → Prop) :
    Option ScenarioFault → Except ScenarioFault α → Prop
  | succeeds {value : α} : holds value → Foretold holds none (.ok value)
  | fails (fault : ScenarioFault) : Foretold holds (some fault) (.error fault)

namespace Foretold

variable {α β : Type} {holds : α → Prop} {check : Option ScenarioFault}
  {outcome : Except ScenarioFault α}

theorem mono {weaker : α → Prop} (foretold : Foretold holds check outcome)
    (implied : ∀ value, check = none → holds value → weaker value) :
    Foretold weaker check outcome := by
  cases foretold with
  | succeeds known => exact .succeeds (implied _ rfl known)
  | fails fault => exact .fails fault

/-- What comes next is judged by a later check, which counts when the earlier one finds nothing. -/
theorem bind {result : β → Prop} {later : Option ScenarioFault}
    {next : α → Except ScenarioFault β} :
    Foretold holds check outcome →
    (∀ value, check = none → holds value → Foretold result later (next value)) →
    Foretold result
      (match check with
        | some fault => some fault
        | none => later)
      (outcome >>= next) := by
  intro foretold continues
  cases foretold with
  | succeeds known => exact continues _ rfl known
  | fails fault => exact .fails fault

/-- What comes next cannot fail. -/
theorem bind_ok {result : β → Prop} {next : α → Except ScenarioFault β}
    (foretold : Foretold holds check outcome)
    (continues : ∀ value, holds value → ∃ made, next value = .ok made ∧ result made) :
    Foretold result check (outcome >>= next) := by
  cases foretold with
  | fails fault => exact .fails fault
  | @succeeds value known =>
      obtain ⟨made, same, reached⟩ := continues value known
      have outcome : (Except.ok value >>= next) = .ok made := same
      rw [outcome]
      exact .succeeds reached

theorem exists_ok_iff (foretold : Foretold holds check outcome) :
    (∃ value, outcome = .ok value) ↔ check = none := by
  cases foretold with
  | succeeds known => exact ⟨fun _ => rfl, fun _ => ⟨_, rfl⟩⟩
  | fails fault => exact ⟨nofun, nofun⟩

theorem error_iff (foretold : Foretold holds check outcome) (fault : ScenarioFault) :
    outcome = .error fault ↔ check = some fault := by
  cases foretold with
  | succeeds known => exact ⟨nofun, nofun⟩
  | fails other => rw [Except.error.injEq, Option.some.injEq]

theorem of_ok (foretold : Foretold holds check outcome) {value : α} (made : outcome = .ok value) :
    holds value := by
  cases foretold with
  | succeeds known =>
      cases made
      exact known
  | fails fault => cases made

end Foretold

/-! ### The first fault of a list -/

section FirstFault

variable {α : Type} (fault? : List α → α → Option ScenarioFault)

/-- The first fault among items that follow others. Each item is judged by all that come before
it. -/
def firstFault? (before : List α) : List α → Option ScenarioFault
  | [] => none
  | item :: rest =>
      match fault? before item with
      | some fault => some fault
      | none => firstFault? (before ++ [item]) rest

variable {fault?}

theorem firstFault?_cons_eq_none_iff {before rest : List α} {item : α} :
    firstFault? fault? before (item :: rest) = none ↔
      fault? before item = none ∧ firstFault? fault? (before ++ [item]) rest = none := by
  conv_lhs => unfold firstFault?
  cases fault? before item with
  | none => simp
  | some fault => simp

theorem firstFault?_append {before earlier : List α}
    (clean : firstFault? fault? before earlier = none) (later : List α) :
    firstFault? fault? before (earlier ++ later) =
      firstFault? fault? (before ++ earlier) later := by
  induction earlier generalizing before with
  | nil => rw [List.nil_append, List.append_nil]
  | cons item rest ih =>
      obtain ⟨here, others⟩ := firstFault?_cons_eq_none_iff.mp clean
      rw [List.cons_append, firstFault?, here]
      dsimp only
      rw [ih others, List.append_assoc]
      rfl

theorem firstFault?_eq_none_iff {before items : List α} :
    firstFault? fault? before items = none ↔
      ∀ earlier item later, items = earlier ++ item :: later →
        fault? (before ++ earlier) item = none := by
  induction items generalizing before with
  | nil => simp [firstFault?]
  | cons first rest ih =>
      rw [firstFault?_cons_eq_none_iff, ih]
      constructor
      · rintro ⟨here, others⟩ earlier item later cut
        cases earlier with
        | nil =>
            cases cut
            rw [List.append_nil]
            exact here
        | cons head earlier =>
            cases cut
            have clean := others earlier item later rfl
            rw [List.append_assoc] at clean
            exact clean
      · intro clean
        constructor
        · have here := clean [] first rest rfl
          rw [List.append_nil] at here
          exact here
        · rintro earlier item later rfl
          rw [List.append_assoc]
          exact clean (first :: earlier) item later rfl

/-- An item is the first one at fault when none before it is. -/
theorem firstFault?_eq_some_iff {before items : List α} {fault : ScenarioFault} :
    firstFault? fault? before items = some fault ↔
      ∃ earlier item later, items = earlier ++ item :: later ∧
        fault? (before ++ earlier) item = some fault ∧
        firstFault? fault? before earlier = none := by
  constructor
  · intro found
    induction items generalizing before with
    | nil => cases found
    | cons first rest ih =>
        cases here : fault? before first with
        | some other =>
            rw [firstFault?, here] at found
            cases found
            refine ⟨[], first, rest, rfl, ?_, rfl⟩
            rw [List.append_nil]
            exact here
        | none =>
            rw [firstFault?, here] at found
            obtain ⟨earlier, item, later, rfl, wrong, clean⟩ := ih found
            rw [List.append_assoc] at wrong
            exact ⟨first :: earlier, item, later, rfl, wrong,
              firstFault?_cons_eq_none_iff.mpr ⟨here, clean⟩⟩
  · rintro ⟨earlier, item, later, rfl, wrong, clean⟩
    rw [firstFault?_append clean, firstFault?, wrong]

end FirstFault

def definitionFault? (before : List FunctionDefinition) (definition : FunctionDefinition) :
    Option ScenarioFault :=
  match definition.sharesUpvaluesWith with
  | none => none
  | some other =>
      if before.any fun earlier => earlier.name == other then none
      else some (.unknownFunction other)

theorem definitionFault?_eq_none_iff {before : List FunctionDefinition}
    {definition : FunctionDefinition} :
    definitionFault? before definition = none ↔
      ∀ other, definition.sharesUpvaluesWith = some other →
        ∃ earlier ∈ before, earlier.name = other := by
  unfold definitionFault?
  cases definition.sharesUpvaluesWith with
  | none => simp
  | some other => simp

def lastDefinition? (definitions : List FunctionDefinition) (name : String) :
    Option (FunctionDefinition × Nat) :=
  definitions.zipIdx.reverse.find? fun entry => entry.1.name == name

theorem lastDefinition?_concat (definitions : List FunctionDefinition)
    (definition : FunctionDefinition) (name : String) :
    lastDefinition? (definitions ++ [definition]) name =
      if definition.name = name then some (definition, definitions.length)
      else lastDefinition? definitions name := by
  unfold lastDefinition?
  rw [List.zipIdx_append, List.reverse_append, Nat.zero_add]
  change ((definition, definitions.length) :: definitions.zipIdx.reverse).find? _ = _
  rw [List.find?_cons]
  by_cases same : definition.name = name
  · simp [same]
  · simp [same, beq_eq_false_iff_ne.mpr same]

theorem exists_lastDefinition?_iff {definitions : List FunctionDefinition} {name : String} :
    (∃ definition index, lastDefinition? definitions name = some (definition, index)) ↔
      ∃ definition ∈ definitions, definition.name = name := by
  induction definitions using List.reverseRecOn with
  | nil => simp [lastDefinition?]
  | append_singleton definitions last ih =>
      rw [lastDefinition?_concat]
      by_cases same : last.name = name
      · simp [same]
      · simp [same, ih]

theorem getElem?_of_lastDefinition? {definitions : List FunctionDefinition} {name : String}
    {definition : FunctionDefinition} {index : Nat}
    (found : lastDefinition? definitions name = some (definition, index)) :
    definitions[index]? = some definition := by
  have member := List.mem_of_find?_eq_some found
  exact List.mem_zipIdx_iff_getElem?.mp (List.mem_reverse.mp member)

theorem definitionFault?_of_missing {before : List FunctionDefinition}
    {definition : FunctionDefinition} {other : String}
    (shared : definition.sharesUpvaluesWith = some other)
    (missing : lastDefinition? before other = none) :
    definitionFault? before definition = some (.unknownFunction other) := by
  have absent : ¬ ∃ earlier ∈ before, earlier.name = other := by
    rw [← exists_lastDefinition?_iff, missing]
    simp
  unfold definitionFault?
  rw [shared]
  simpa using absent

namespace CallStep

def isTail : CallStep → Bool
  | script _ _ _ tail => tail
  | host _ => false

def isHost : CallStep → Bool
  | script _ _ _ _ => false
  | host _ => true

end CallStep

def openedBy (steps : List CallStep) : Nat := steps.countP fun step => !step.isTail

theorem openedBy_append (steps later : List CallStep) :
    openedBy (steps ++ later) = openedBy steps + openedBy later :=
  List.countP_append

theorem openedBy_singleton (step : CallStep) :
    openedBy [step] = if step.isTail then 0 else 1 := by
  cases tail : step.isTail <;> simp [openedBy, tail]

/-- There is room for each frame exactly if there is room for all. -/
theorem room_iff {steps : List CallStep} {limit : Nat} :
    (∀ before step after, steps = before ++ step :: after → step.isTail = false →
      openedBy before < limit) ↔ openedBy steps ≤ limit := by
  constructor
  · intro room
    induction steps using List.reverseRecOn with
    | nil => exact Nat.zero_le limit
    | append_singleton steps last ih =>
        rw [openedBy_append, openedBy_singleton]
        cases tail : last.isTail with
        | true =>
            apply ih
            rintro before step after rfl
            exact room before step (after ++ [last]) (by simp)
        | false => exact room steps last [] rfl tail
  · rintro enough before step after rfl opens
    have pushed : openedBy (step :: after) = 1 + openedBy after := by
      rw [← List.singleton_append, openedBy_append, openedBy_singleton, opens]
      rfl
    rw [openedBy_append, pushed] at enough
    omega

def callFault? (limit : Nat) (before : List CallStep) : Option ScenarioFault :=
  if limit ≤ openedBy before then some (.machine (.stackOverflow limit)) else none

theorem callFault?_eq_none_iff {limit : Nat} {before : List CallStep} :
    callFault? limit before = none ↔ openedBy before < limit := by
  unfold callFault?
  by_cases full : limit ≤ openedBy before
  · simp [full]
  · simp [full]
    omega

def tailFault? (before : List CallStep) : Option ScenarioFault :=
  match before.getLast? with
  | none => some (.machine (.runtime .tailCallWithoutFrame))
  | some (.host _) => some (.machine (.runtime .tailCallFromHost))
  | some (.script _ _ _ _) => none

theorem tailFault?_eq_none_iff {before : List CallStep} :
    tailFault? before = none ↔
      ∃ previous, before.getLast? = some previous ∧ previous.isHost = false := by
  unfold tailFault?
  cases before.getLast? with
  | none => simp
  | some previous => cases previous <;> simp [CallStep.isHost]

def placeFault? (name : String) (prototype : Prototype) (position : Nat)
    (registers : List Constant) : Option ScenarioFault :=
  if prototype.windowSize < registers.length then
    some (.register name prototype.windowSize
      (.runtime (.registerOutside prototype.windowSize)))
  else if prototype.instructions.length ≤ position then
    some (.machine (.runtime (.positionOutside position prototype.instructions.length)))
  else none

theorem placeFault?_eq_none_iff {name : String} {prototype : Prototype} {position : Nat}
    {registers : List Constant} :
    placeFault? name prototype position registers = none ↔
      registers.length ≤ prototype.windowSize ∧ position < prototype.instructions.length := by
  unfold placeFault?
  by_cases outside : prototype.windowSize < registers.length
  · simp [outside, Nat.not_le.mpr outside]
  · by_cases beyond : prototype.instructions.length ≤ position
    · simp [outside, beyond]
    · simp [outside, beyond]
      omega

namespace Scenario

def stepFault? (scenario : Scenario) (limit : Nat) (before : List CallStep) (step : CallStep) :
    Option ScenarioFault :=
  match step with
  | .host _ => callFault? limit before
  | .script name position registers tail =>
      match lastDefinition? scenario.functions name with
      | none => some (.unknownFunction name)
      | some (definition, _) =>
          match if tail then tailFault? before else callFault? limit before with
          | some fault => some fault
          | none => placeFault? name definition.prototype position registers

def fault? (scenario : Scenario) (config : Config) : Option ScenarioFault :=
  match firstFault? definitionFault? [] scenario.functions with
  | some fault => some fault
  | none => firstFault? (scenario.stepFault? config.maxCallDepth) [] scenario.calls

structure Buildable (scenario : Scenario) (config : Config) : Prop where
  shares : ∀ before definition after, scenario.functions = before ++ definition :: after →
    ∀ other, definition.sharesUpvaluesWith = some other → ∃ earlier ∈ before, earlier.name = other
  known : ∀ name position registers tail, .script name position registers tail ∈ scenario.calls →
    ∃ definition ∈ scenario.functions, definition.name = name
  tails : ∀ before step after, scenario.calls = before ++ step :: after → step.isTail = true →
    ∃ previous, before.getLast? = some previous ∧ previous.isHost = false
  places : ∀ name position registers tail, .script name position registers tail ∈ scenario.calls →
    ∀ definition index, lastDefinition? scenario.functions name = some (definition, index) →
      registers.length ≤ definition.prototype.windowSize ∧
        position < definition.prototype.instructions.length
  depth : openedBy scenario.calls ≤ config.maxCallDepth

variable {scenario : Scenario} {config : Config}

section Step

variable {limit : Nat} {before : List CallStep} {name : String} {position : Nat}
  {registers : List Constant} {tail : Bool}

theorem stepFault?_unknown (missing : lastDefinition? scenario.functions name = none) :
    scenario.stepFault? limit before (.script name position registers tail) =
      some (.unknownFunction name) := by
  unfold stepFault?
  dsimp only
  rw [missing]

theorem stepFault?_known {definition : FunctionDefinition} {index : Nat}
    (found : lastDefinition? scenario.functions name = some (definition, index)) :
    scenario.stepFault? limit before (.script name position registers tail) =
      match if tail then tailFault? before else callFault? limit before with
      | some fault => some fault
      | none => placeFault? name definition.prototype position registers := by
  unfold stepFault?
  dsimp only
  rw [found]

/-- The function of a step is there, and it has the registers and the position. -/
def Provides (scenario : Scenario) : CallStep → Prop
  | .host _ => True
  | .script name position registers _ =>
      ∃ definition index, lastDefinition? scenario.functions name = some (definition, index) ∧
        registers.length ≤ definition.prototype.windowSize ∧
          position < definition.prototype.instructions.length

theorem provides_known {definition : FunctionDefinition} {index : Nat}
    (found : lastDefinition? scenario.functions name = some (definition, index)) :
    scenario.Provides (.script name position registers tail) ↔
      placeFault? name definition.prototype position registers = none := by
  rw [placeFault?_eq_none_iff]
  constructor
  · rintro ⟨other, number, present, inside⟩
    cases Option.some.inj (present.symm.trans found)
    exact inside
  · intro inside
    exact ⟨definition, index, found, inside⟩

/-- What a step has to be like after others. -/
theorem stepFault?_eq_none_iff {step : CallStep} :
    scenario.stepFault? limit before step = none ↔
      (step.isTail = true →
        ∃ previous, before.getLast? = some previous ∧ previous.isHost = false) ∧
      (step.isTail = false → openedBy before < limit) ∧ scenario.Provides step := by
  rw [← tailFault?_eq_none_iff, ← callFault?_eq_none_iff]
  cases step with
  | host name => simp [stepFault?, CallStep.isTail, Provides]
  | script name position registers tail =>
      cases found : lastDefinition? scenario.functions name with
      | none =>
          rw [stepFault?_unknown found]
          constructor
          · nofun
          · rintro ⟨-, -, definition, index, present, -⟩
            rw [found] at present
            cases present
      | some entry =>
          rw [stepFault?_known found, provides_known found]
          cases tail with
          | true => cases tailFault? before <;> simp [CallStep.isTail]
          | false => cases callFault? limit before <;> simp [CallStep.isTail]

end Step

/-- Without a fault anywhere, a scenario can be built, and only then. -/
theorem fault?_eq_none_iff : scenario.fault? config = none ↔ scenario.Buildable config := by
  have both : scenario.fault? config = none ↔
      firstFault? definitionFault? [] scenario.functions = none ∧
        firstFault? (scenario.stepFault? config.maxCallDepth) [] scenario.calls = none := by
    unfold fault?
    cases firstFault? definitionFault? [] scenario.functions <;> simp
  rw [both, firstFault?_eq_none_iff, firstFault?_eq_none_iff]
  constructor
  · rintro ⟨definitions, steps⟩
    have each : ∀ before step after, scenario.calls = before ++ step :: after → _ :=
      fun before step after cut => stepFault?_eq_none_iff.mp (steps before step after cut)
    have provided : ∀ step ∈ scenario.calls, scenario.Provides step := by
      intro step member
      obtain ⟨before, after, cut⟩ := List.append_of_mem member
      exact (each before step after cut).2.2
    refine ⟨?_, ?_, ?_, ?_, ?_⟩
    · intro before definition after cut
      exact definitionFault?_eq_none_iff.mp (definitions before definition after cut)
    · intro name position registers tail member
      obtain ⟨definition, index, found, -⟩ := provided _ member
      exact exists_lastDefinition?_iff.mp ⟨definition, index, found⟩
    · intro before step after cut
      exact (each before step after cut).1
    · intro name position registers tail member definition index found
      rw [← placeFault?_eq_none_iff, ← provides_known found]
      exact provided _ member
    · exact room_iff.mp fun before step after cut => (each before step after cut).2.1
  · intro buildable
    constructor
    · intro before definition after cut
      exact definitionFault?_eq_none_iff.mpr (buildable.shares before definition after cut)
    · intro before step after cut
      refine stepFault?_eq_none_iff.mpr ⟨buildable.tails before step after cut,
        room_iff.mpr buildable.depth before step after cut, ?_⟩
      have member : step ∈ scenario.calls := by
        rw [cut]
        simp
      cases step with
      | host name => trivial
      | script name position registers tail =>
          obtain ⟨definition, index, found⟩ :=
            exists_lastDefinition?_iff.mpr (buildable.known name position registers tail member)
          exact ⟨definition, index, found,
            buildable.places name position registers tail member definition index found⟩

def FirstAtFault {α : Type} (fault? : List α → α → Option ScenarioFault) (items : List α)
    (fault : ScenarioFault) : Prop :=
  ∃ before item after, items = before ++ item :: after ∧ fault? before item = some fault ∧
    ∀ earlier other later, before = earlier ++ other :: later → fault? earlier other = none

theorem firstFault?_eq_some_iff_firstAtFault {α : Type} {fault? : List α → α → Option ScenarioFault}
    {items : List α} {fault : ScenarioFault} :
    firstFault? fault? [] items = some fault ↔ FirstAtFault fault? items fault := by
  unfold FirstAtFault
  simp only [firstFault?_eq_some_iff, firstFault?_eq_none_iff, List.nil_append]

/-- The first definition at fault decides, or else the first step at fault. -/
def FailsWith (scenario : Scenario) (config : Config) (fault : ScenarioFault) : Prop :=
  FirstAtFault definitionFault? scenario.functions fault ∨
  (∀ before definition after, scenario.functions = before ++ definition :: after →
    definitionFault? before definition = none) ∧
  FirstAtFault (scenario.stepFault? config.maxCallDepth) scenario.calls fault

theorem fault?_eq_some_iff {fault : ScenarioFault} :
    scenario.fault? config = some fault ↔ scenario.FailsWith config fault := by
  have sound : firstFault? definitionFault? [] scenario.functions = none ↔
      ∀ before definition after, scenario.functions = before ++ definition :: after →
        definitionFault? before definition = none := firstFault?_eq_none_iff
  unfold fault? FailsWith
  rw [← firstFault?_eq_some_iff_firstAtFault, ← firstFault?_eq_some_iff_firstAtFault, ← sound]
  cases firstFault? definitionFault? [] scenario.functions <;> simp

end Scenario

end StackScope
