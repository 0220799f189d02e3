import StackScope.Proofs.Operations
import StackScope.Proofs.Scenario.Faults

/-!
The frames that the steps of a scenario leave. A step that pushes a frame and the tail steps that
directly follow it make up a group, and each group leaves one frame, which shows the last of its
steps. The windows of the frames follow one another on the stack.
-/

namespace StackScope

/-- A step that pushes a frame, and the tail steps that replace it. -/
structure CallGroup where
  opening : CallStep
  tails : List CallStep := []
deriving DecidableEq

theorem CallStep.isHost_of_isTail {step : CallStep} (tail : step.isTail = true) :
    step.isHost = false := by
  cases step with
  | script name position registers tail => rfl
  | host name => cases tail

namespace CallGroup

def steps (group : CallGroup) : List CallStep := group.opening :: group.tails

def last (group : CallGroup) : CallStep := group.tails.getLastD group.opening

/-- Only the tail steps of a group are tail steps, and no group of a host function has one. -/
structure Formed (group : CallGroup) : Prop where
  opening : group.opening.isTail = false
  tails : ∀ step ∈ group.tails, step.isTail = true
  alone : group.opening.isHost = true → group.tails = []

def extend (group : CallGroup) (step : CallStep) : CallGroup :=
  { group with tails := group.tails ++ [step] }

variable {group : CallGroup}

theorem Formed.extend (formed : group.Formed) (script : group.opening.isHost = false)
    {step : CallStep} (tail : step.isTail = true) : (group.extend step).Formed where
  opening := formed.opening
  tails := by
    intro other member
    rcases List.mem_append.mp member with earlier | same
    · exact formed.tails other earlier
    · rw [List.mem_singleton.mp same]
      exact tail
  alone := by
    intro host
    cases script.symm.trans host

theorem steps_extend (group : CallGroup) (step : CallStep) :
    (group.extend step).steps = group.steps ++ [step] :=
  rfl

theorem last_extend (group : CallGroup) (step : CallStep) : (group.extend step).last = step := by
  unfold last extend
  simp

theorem getLast?_steps (group : CallGroup) : group.steps.getLast? = some group.last := by
  unfold steps last
  rw [List.getLast?_cons]
  simp

theorem last_isHost (formed : group.Formed) : group.last.isHost = group.opening.isHost := by
  unfold last
  rw [List.getLastD_eq_getLast?]
  cases ended : group.tails.getLast? with
  | none => rfl
  | some step =>
      have member : step ∈ group.tails := List.mem_of_getLast? ended
      have script : group.opening.isHost = false := by
        by_contra host
        rw [formed.alone (Bool.of_not_eq_false host)] at member
        cases member
      rw [script]
      exact CallStep.isHost_of_isTail (formed.tails step member)

theorem openedBy_steps (formed : group.Formed) : openedBy group.steps = 1 := by
  have noneOpen : openedBy group.tails = 0 := by
    apply List.countP_eq_zero.mpr
    intro step member
    simp [formed.tails step member]
  unfold steps
  rw [← List.singleton_append, openedBy_append, openedBy_singleton,
    formed.opening, noneOpen]
  rfl

/-- As many frames are pushed as there are groups. -/
theorem openedBy_flatMap {groups : List CallGroup} (formed : ∀ group ∈ groups, group.Formed) :
    openedBy (groups.flatMap steps) = groups.length := by
  induction groups with
  | nil => rfl
  | cons group rest ih =>
      obtain ⟨here, others⟩ := List.forall_mem_cons.mp formed
      rw [List.flatMap_cons, openedBy_append, openedBy_steps here, ih others,
        List.length_cons, Nat.add_comm]

end CallGroup

namespace Scenario

def standIn (name : String) : HostFunction where
  name := name
  body := .program fun _ => .finish (.ok [])

/-- The frame that a step leaves, and its window. The closures of the definitions are numbered from
`first`. -/
inductive Leaves (scenario : Scenario) (first : Nat) : CallStep → Frame → List Value → Prop
  | host (name : String) {frame : Frame} : frame.code = .host (standIn name) →
      Leaves scenario first (.host name) frame []
  | script {name : String} {position : Nat} {registers : List Constant} {tail : Bool}
      {definition : FunctionDefinition} {index : Nat} {frame : Frame} :
      lastDefinition? scenario.functions name = some (definition, index) →
      frame.function = ⟨first + index⟩ →
      frame.code = .script definition.prototype.normalize → frame.position = position →
      Leaves scenario first (.script name position registers tail) frame
        (registers.map Constant.toValue ++
          List.replicate (definition.prototype.windowSize - registers.length) .nil)

/-- Frames and the stack as groups of steps leave them, the innermost first. -/
inductive Stands (scenario : Scenario) (first : Nat) :
    List CallGroup → List Frame → List Value → Prop
  | nil : Stands scenario first [] [] []
  | cons {group : CallGroup} {frame : Frame} {window : List Value} {groups : List CallGroup}
      {frames : List Frame} {stack : List Value} :
      scenario.Leaves first group.last frame window →
      frame.base = stack.length → frame.top = stack.length + window.length →
      frame.tailCalls = group.tails.length % Word.size32 → frame.captured = [] →
      Stands scenario first groups frames stack →
      Stands scenario first (group :: groups) (frame :: frames) (stack ++ window)

/-- How many positions of the stack a step may ask for. -/
def extent (scenario : Scenario) : CallStep → Nat
  | .host _ => 0
  | .script name _ registers _ =>
      max (((lastDefinition? scenario.functions name).map fun entry =>
        entry.1.prototype.windowSize).getD 0) registers.length

def totalExtent (scenario : Scenario) : List CallStep → Nat
  | [] => 0
  | step :: rest => scenario.extent step + scenario.totalExtent rest

def Fits (scenario : Scenario) : Prop := scenario.totalExtent scenario.calls ≤ Word.size64

variable {scenario : Scenario} {first : Nat}

theorem totalExtent_append (scenario : Scenario) (steps later : List CallStep) :
    scenario.totalExtent (steps ++ later) =
      scenario.totalExtent steps + scenario.totalExtent later := by
  induction steps with
  | nil => exact (Nat.zero_add _).symm
  | cons step rest ih =>
      rw [List.cons_append, totalExtent, totalExtent, ih]
      omega

theorem Leaves.length_window {step : CallStep} {frame : Frame} {window : List Value}
    (leaves : scenario.Leaves first step frame window) : window.length = scenario.extent step := by
  cases leaves with
  | host name => rfl
  | script found =>
      unfold extent
      dsimp only
      rw [found, List.length_append, List.length_map, List.length_replicate, Option.map_some,
        Option.getD_some]
      dsimp only
      omega

theorem Leaves.isHost {step : CallStep} {frame : Frame} {window : List Value}
    (leaves : scenario.Leaves first step frame window) : frame.isHost = step.isHost := by
  unfold Frame.isHost
  cases leaves with
  | host name code =>
      rw [code]
      rfl
  | script found function code =>
      rw [code]
      rfl

theorem Stands.frames_nil {frames : List Frame} {stack : List Value}
    (stands : scenario.Stands first [] frames stack) : frames = [] := by
  cases stands
  rfl

/-- The innermost group has left the current frame and the end of the stack. -/
theorem Stands.innermost {group : CallGroup} {inner : List CallGroup} {frames : List Frame}
    {stack : List Value} (stands : scenario.Stands first (group :: inner) frames stack) :
    ∃ frame outer below window, frames = frame :: outer ∧ stack = below ++ window ∧
      scenario.Leaves first group.last frame window ∧ frame.base = below.length ∧
      frame.tailCalls = group.tails.length % Word.size32 ∧
      scenario.Stands first inner outer below := by
  cases stands with
  | cons leaves base top tailCalls captured rest =>
      exact ⟨_, _, _, _, rfl, rfl, leaves, base, tailCalls, rest⟩

theorem Stands.length {groups : List CallGroup} {frames : List Frame} {stack : List Value}
    (stands : scenario.Stands first groups frames stack) : frames.length = groups.length := by
  induction stands with
  | nil => rfl
  | cons _ _ _ _ _ _ ih => rw [List.length_cons, List.length_cons, ih]

theorem extent_last_le (scenario : Scenario) (group : CallGroup) :
    scenario.extent group.last ≤ scenario.totalExtent group.steps := by
  obtain ⟨before, after, cut⟩ := List.append_of_mem (List.mem_of_getLast? group.getLast?_steps)
  rw [cut, totalExtent_append, totalExtent]
  omega

/-- The stack is no higher than the steps ask for. -/
theorem Stands.height {groups : List CallGroup} {frames : List Frame} {stack : List Value}
    (stands : scenario.Stands first groups frames stack) :
    stack.length ≤ scenario.totalExtent (groups.reverse.flatMap CallGroup.steps) := by
  induction stands with
  | nil => exact Nat.le_refl 0
  | @cons group frame window groups frames stack leaves _ _ _ _ _ ih =>
      have inner := scenario.extent_last_le group
      rw [List.reverse_cons, List.flatMap_append, List.flatMap_singleton, totalExtent_append,
        List.length_append, leaves.length_window]
      omega

section Place

variable {entered : Context} {frame : Frame} {outer : List Frame}
  (frames : entered.frames = frame :: outer) (free : frame.captured = [])
include frames free

theorem setRegister_inside {register : Nat} (fits : frame.base + register < Word.size64)
    (inside : frame.base + register < frame.top) (value : Value) :
    entered.setRegister register value =
      (.ok (), { entered with stack := entered.stack.set (frame.base + register) value }) := by
  have slot : Context.slotOf frame register = .ok (some (frame.base + register)) :=
    Context.slotOf_eq_some.mpr ⟨rfl, inside, fits⟩
  have uncaptured : frame.cellAt? (frame.base + register) = none := by
    unfold Frame.cellAt?
    rw [free]
    rfl
  have written : entered.writeSlot frame (frame.base + register) value =
      { entered with stack := entered.stack.set (frame.base + register) value } := by
    unfold Context.writeSlot
    rw [uncaptured]
  rw [← written]
  unfold Context.setRegister
  rw [frames]
  dsimp only
  rw [slot]

omit free in
theorem setRegister_outside {register : Nat} (fits : frame.base + register < Word.size64)
    (outside : frame.top ≤ frame.base + register) (value : Value) :
    entered.setRegister register value =
      (.error (.runtime (.registerOutside register)), entered) := by
  have slot : Context.slotOf frame register = .ok none := by
    rw [Context.slotOf_of_lt fits, if_neg (Nat.not_lt.mpr outside)]
  unfold Context.setRegister
  rw [frames]
  dsimp only
  rw [slot]

omit free in
theorem setPosition_inside {prototype : Prototype} (code : frame.code = .script prototype)
    {position : Nat} (inside : position < prototype.instructions.length) :
    entered.setPosition position =
      (.ok (), { entered with frames := { frame with position } :: outer }) := by
  unfold Context.setPosition
  rw [frames]
  dsimp only
  rw [Context.modifyCurrent_cons frames, code]
  exact if_pos inside

omit free in
theorem setPosition_outside {prototype : Prototype} (code : frame.code = .script prototype)
    {position : Nat} (outside : prototype.instructions.length ≤ position) :
    entered.setPosition position =
      (.error (.runtime (.positionOutside position prototype.instructions.length)), entered) := by
  unfold Context.setPosition
  rw [frames]
  dsimp only
  rw [code]
  exact if_neg (Nat.not_lt.mpr outside)

omit frames in
/-- Registers are filled from the first free one on, until one lies outside of the window. -/
theorem fillRegisters_cases (name : String) (constants : List Constant) :
    ∀ (entered : Context) (register : Nat) (filled rest : List Value),
      entered.frames = frame :: outer → entered.stack = filled ++ rest →
      frame.base + register = filled.length → frame.top = filled.length + rest.length →
      filled.length + constants.length ≤ Word.size64 →
      (constants.length ≤ rest.length ∧
        fillRegisters entered name register constants = .ok
          { entered with
            stack := filled ++ (constants.map Constant.toValue ++ rest.drop constants.length) }) ∨
      (rest.length < constants.length ∧
        fillRegisters entered name register constants =
          .error (.register name (register + rest.length)
            (.runtime (.registerOutside (register + rest.length))))) := by
  induction constants with
  | nil =>
      intro entered register filled rest frames stack _ _ _
      refine .inl ⟨Nat.zero_le _, ?_⟩
      change Except.ok entered = Except.ok { entered with stack := filled ++ rest }
      rw [← stack]
  | cons constant constants ih =>
      intro entered register filled rest frames stack base top fits
      rw [List.length_cons] at fits
      unfold fillRegisters
      cases rest with
      | nil =>
          rw [setRegister_outside frames (by omega) (by simp [top, base])]
          exact .inr ⟨Nat.succ_pos _, rfl⟩
      | cons old rest =>
          rw [List.length_cons] at top
          rw [setRegister_inside frames free (by omega) (by omega), base, stack]
          have written : (filled ++ old :: rest).set filled.length constant.toValue =
              (filled ++ [constant.toValue]) ++ rest := by simp
          dsimp only
          rw [written]
          rcases ih { entered with stack := (filled ++ [constant.toValue]) ++ rest } (register + 1)
            (filled ++ [constant.toValue]) rest frames rfl (by simp; omega) (by simp; omega)
            (by simp; omega) with ⟨enough, done⟩ | ⟨short, refused⟩
          · refine .inl ⟨Nat.succ_le_succ enough, ?_⟩
            rw [done]
            simp
          · refine .inr ⟨Nat.succ_lt_succ short, ?_⟩
            have same : register + 1 + rest.length = register + (old :: rest).length := by
              rw [List.length_cons]
              omega
            rw [refused, same]

end Place

theorem windowSize_normalize (prototype : Prototype) :
    prototype.normalize.windowSize = prototype.windowSize := by
  unfold Prototype.normalize
  rw [Prototype.everywhere_eq]
  rfl

theorem instructions_normalize (prototype : Prototype) :
    prototype.normalize.instructions = prototype.instructions := by
  unfold Prototype.normalize
  rw [Prototype.everywhere_eq]
  rfl

/-- The registers and the position of a step, once its frame has a window of nils. -/
theorem place_foretold {entered : Context} {frame : Frame} {outer : List Frame} {below : List Value}
    {prototype : Prototype} (frames : entered.frames = frame :: outer)
    (code : frame.code = .script prototype.normalize) (free : frame.captured = [])
    (base : frame.base = below.length)
    (top : frame.top = below.length + prototype.windowSize)
    (stack : entered.stack = below ++ List.replicate prototype.windowSize .nil) (name : String)
    (position : Nat) {registers : List Constant}
    (fits : below.length + registers.length ≤ Word.size64) :
    Foretold
      (· =
        { entered with
          frames := { frame with position } :: outer
          stack := below ++ (registers.map Constant.toValue ++
            List.replicate (prototype.windowSize - registers.length) .nil) })
      (placeFault? name prototype position registers)
      (do
        let context ← fillRegisters entered name 0 registers
        require (context.setPosition position)) := by
  have filled := fillRegisters_cases free name registers entered 0 below _ frames stack
    (by rw [base]; rfl) (by rw [top, List.length_replicate]) fits
  rw [List.length_replicate, List.drop_replicate, Nat.zero_add] at filled
  unfold placeFault?
  rcases filled with ⟨enough, done⟩ | ⟨short, refused⟩
  · let settled : Context :=
      { entered with
        stack := below ++ (registers.map Constant.toValue ++
          List.replicate (prototype.windowSize - registers.length) .nil) }
    have current : settled.frames = frame :: outer := frames
    rw [if_neg (Nat.not_lt.mpr enough), done]
    change Foretold _ _ (require (settled.setPosition position))
    rw [← instructions_normalize]
    by_cases inside : position < prototype.normalize.instructions.length
    · rw [if_neg (Nat.not_le.mpr inside), setPosition_inside current code inside]
      exact .succeeds rfl
    · have beyond := Nat.le_of_not_lt inside
      rw [if_pos beyond, setPosition_outside current code beyond]
      exact .fails _
  · rw [if_pos short, refused]
    exact .fails _

end Scenario

end StackScope
