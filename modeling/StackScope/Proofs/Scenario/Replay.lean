import StackScope.Proofs.Scenario.Definitions
import StackScope.Proofs.Scenario.Frames

/-!
Replaying the steps of a scenario. As long as no step is at fault, the frames are those of the
groups of the steps so far, and the step that is at fault is the one that fails.
-/

namespace StackScope

theorem Context.tailCall_of_room {context : Context} {frame : Frame} {outer : List Frame}
    (frames : context.frames = frame :: outer) (script : frame.isHost = false)
    {function : FunctionId} (target : (context.heap.function function).code.isHost = false)
    (room : outer.length < context.config.maxCallDepth) (arguments : List Value) :
    context.tailCall function arguments =
      (.ok (), context.replaceFrame function arguments (Word.nextCount frame.tailCalls)) := by
  rcases context.tailCall_cases function arguments with
    ⟨hosts, -⟩ | ⟨other, rest, same, -, -, ⟨full, -⟩ | ⟨-, made⟩⟩
  · have current : frame ∈ context.currentFrame? := by
      rw [currentFrame?, frames]
      rfl
    rcases hosts frame current with host | host
    · rw [script] at host
      cases host
    · rw [target] at host
      cases host
  · cases frames.symm.trans same
    omega
  · cases frames.symm.trans same
    exact made

theorem Context.tailCall_of_host {context : Context} {frame : Frame} {outer : List Frame}
    (frames : context.frames = frame :: outer) (host : frame.isHost = true)
    (function : FunctionId) (arguments : List Value) :
    context.tailCall function arguments = (.error (.runtime .tailCallFromHost), context) := by
  unfold Context.tailCall
  rw [frames]
  exact if_pos host

namespace Scenario

structure Replayed (scenario : Scenario) (first : Nat) (ready : Context) (before : List CallStep)
    (groups : List CallGroup) (context : Context) : Prop where
  steps : groups.reverse.flatMap CallGroup.steps = before
  formed : ∀ group ∈ groups, group.Formed
  stands : scenario.Stands first groups context.frames context.stack
  grows : ready.heap.Grows context.heap
  tables : context.heap.tables = ready.heap.tables
  threads : context.heap.threads = ready.heap.threads
  thread : context.thread = ready.thread
  config : context.config = ready.config
  room : context.depth ≤ context.config.maxCallDepth

namespace Replayed

variable {scenario : Scenario} {first : Nat} {ready context : Context} {before : List CallStep}
  {groups : List CallGroup}

theorem depth (replayed : Replayed scenario first ready before groups context) :
    context.depth = openedBy before := by
  have formed : ∀ group ∈ groups.reverse, group.Formed :=
    fun group member => replayed.formed group (List.mem_reverse.mp member)
  rw [← replayed.steps, CallGroup.openedBy_flatMap formed, List.length_reverse]
  exact replayed.stands.length

theorem height (replayed : Replayed scenario first ready before groups context) :
    context.stack.length ≤ scenario.totalExtent before := by
  rw [← replayed.steps]
  exact replayed.stands.height

/-- The last step so far is the last one of the innermost group. -/
theorem getLast?_steps (replayed : Replayed scenario first ready before groups context) :
    before.getLast? = groups.head?.map CallGroup.last := by
  rw [← replayed.steps]
  cases groups with
  | nil => rfl
  | cons group inner =>
      rw [List.reverse_cons, List.flatMap_append, List.flatMap_singleton, List.getLast?_append,
        group.getLast?_steps]
      rfl

end Replayed

/-- Where a step puts its frame: the step ends a group, and the groups of the frames around it left
the rest of the frames and of the stack. -/
structure Entry (scenario : Scenario) (first limit : Nat) (before : List CallStep) (step : CallStep)
    (group : CallGroup) (others : List CallGroup) (outer : List Frame) (below : List Value)
    (collapsed : Nat) : Prop where
  steps : others.reverse.flatMap CallGroup.steps ++ group.steps = before ++ [step]
  formed : ∀ other ∈ group :: others, other.Formed
  last : group.last = step
  stands : scenario.Stands first others outer below
  count : collapsed = group.tails.length % Word.size32
  room : outer.length < limit

/-- A group of one step that pushes a frame. -/
theorem formed_single {step : CallStep} (opens : step.isTail = false) :
    CallGroup.Formed ⟨step, []⟩ where
  opening := opens
  tails := nofun
  alone _ := rfl

section Entry

variable {scenario : Scenario} {first : Nat} {ready context : Context} {before : List CallStep}
  {step : CallStep} {group : CallGroup} {groups others : List CallGroup} {outer : List Frame}
  {below : List Value} {collapsed : Nat}

/-- A step that pushes a frame makes a group of its own. -/
theorem Replayed.opens (replayed : Replayed scenario first ready before groups context)
    (opens : step.isTail = false) (room : context.depth < context.config.maxCallDepth) :
    Entry scenario first context.config.maxCallDepth before step ⟨step, []⟩ groups context.frames
      context.stack 0 where
  steps := by
    rw [replayed.steps]
    rfl
  formed := List.forall_mem_cons.mpr ⟨formed_single opens, replayed.formed⟩
  last := rfl
  stands := replayed.stands
  count := rfl
  room := room

/-- A tail step joins the innermost group and takes the place of its frame. -/
theorem Replayed.joins (replayed : Replayed scenario first ready before (group :: others) context)
    (tail : step.isTail = true) (script : group.opening.isHost = false) {frame : Frame}
    (frames : context.frames = frame :: outer) (stands : scenario.Stands first others outer below)
    (count : frame.tailCalls = group.tails.length % Word.size32) :
    Entry scenario first context.config.maxCallDepth before step (group.extend step) others outer
      below (Word.nextCount frame.tailCalls) where
  steps := by
    rw [CallGroup.steps_extend, ← List.append_assoc, ← replayed.steps, List.reverse_cons,
      List.flatMap_append, List.flatMap_singleton]
  formed := by
    obtain ⟨formed, rest⟩ := List.forall_mem_cons.mp replayed.formed
    exact List.forall_mem_cons.mpr ⟨formed.extend script tail, rest⟩
  last := group.last_extend step
  stands := stands
  count := by
    unfold Word.nextCount CallGroup.extend
    rw [count, Nat.mod_add_mod, List.length_append]
    rfl
  room := by
    have depth := replayed.room
    rw [Context.depth, frames] at depth
    exact depth

/-- Below the window of a step there is no more than the earlier steps asked for. -/
theorem Entry.height {limit : Nat}
    (entry : Entry scenario first limit before step group others outer below collapsed) :
    below.length + scenario.extent step ≤ scenario.totalExtent (before ++ [step]) := by
  have rest := entry.stands.height
  have last := scenario.extent_last_le group
  rw [entry.last] at last
  rw [← entry.steps, totalExtent_append]
  omega

/-- The frame of a step is made, and the heap has grown at most by functions and cells. -/
theorem Replayed.enter (replayed : Replayed scenario first ready before groups context)
    (entry : Entry scenario first context.config.maxCallDepth before step group others outer below
      collapsed)
    {frame : Frame} {window : List Value} (leaves : scenario.Leaves first step frame window)
    (base : frame.base = below.length) (top : frame.top = below.length + window.length)
    (tailCalls : frame.tailCalls = collapsed) (captured : frame.captured = []) {heap : Heap}
    (grows : context.heap.Grows heap) (tables : heap.tables = context.heap.tables)
    (threads : heap.threads = context.heap.threads) :
    Replayed scenario first ready (before ++ [step]) (group :: others)
      { context with heap, frames := frame :: outer, stack := below ++ window } where
  steps := by
    rw [← entry.steps, List.reverse_cons, List.flatMap_append, List.flatMap_singleton]
  formed := entry.formed
  stands := by
    have left : scenario.Leaves first group.last frame window := by
      rw [entry.last]
      exact leaves
    exact .cons left base top (tailCalls.trans entry.count) captured entry.stands
  grows := replayed.grows.trans grows
  tables := tables.trans replayed.tables
  threads := threads.trans replayed.threads
  thread := replayed.thread
  config := replayed.config
  room := entry.room

end Entry

/-- The context with a frame for a script function, and with all registers nil. -/
def entered (context : Context) (outer : List Frame) (below : List Value) (function : FunctionId)
    (prototype : Prototype) (collapsed : Nat) : Context :=
  { context with
    stack := below ++ List.replicate prototype.windowSize .nil
    frames :=
      { function, code := .script prototype.normalize, base := below.length
        top := below.length + prototype.windowSize, tailCalls := collapsed } :: outer }

theorem initialWindow_normalize (prototype : Prototype) :
    Context.initialWindow (.script prototype.normalize) [] =
      List.replicate prototype.windowSize .nil := by
  rw [← windowSize_normalize]
  simp [Context.initialWindow]

theorem pushFrame_eq_entered {context : Context} {function : FunctionId} {prototype : Prototype}
    (code : (context.heap.function function).code = .script prototype.normalize) :
    context.pushFrame function [] =
      entered context context.frames context.stack function prototype 0 := by
  unfold Context.pushFrame entered
  rw [code]
  dsimp only
  rw [initialWindow_normalize, List.length_append, List.length_replicate]

theorem replaceFrame_eq_entered {context : Context} {function : FunctionId} {prototype : Prototype}
    {frame : Frame} {outer : List Frame} {below window : List Value}
    (code : (context.heap.function function).code = .script prototype.normalize)
    (frames : context.frames = frame :: outer) (stack : context.stack = below ++ window)
    (base : frame.base = below.length) (collapsed : Nat) :
    context.replaceFrame function [] collapsed =
      entered context outer below function prototype collapsed := by
  rw [Context.replaceFrame_cons frames]
  unfold entered
  rw [code, stack, base, List.take_left]
  dsimp only
  rw [initialWindow_normalize, List.length_append, List.length_replicate]

def Enters (scenario : Scenario) (first : Nat) (before : List CallStep) (step : CallStep)
    (context : Context) (function : FunctionId) (prototype : Prototype) (start : Context) : Prop :=
  ∃ group others outer below collapsed,
    Entry scenario first context.config.maxCallDepth before step group others outer below collapsed ∧
      start = entered context outer below function prototype collapsed

section Enter

variable {scenario : Scenario} {first : Nat} {ready context : Context} {before : List CallStep}
  {groups : List CallGroup} {function : FunctionId} {prototype : Prototype} {step : CallStep}
  (replayed : Replayed scenario first ready before groups context)
  (code : (context.heap.function function).code = .script prototype.normalize)
include replayed code

theorem call_foretold (opens : step.isTail = false) :
    Foretold (Enters scenario first before step context function prototype)
      (callFault? ready.config.maxCallDepth before)
      (require (context.call function [])) := by
  unfold callFault?
  rw [← replayed.config, ← replayed.depth]
  rcases context.call_cases function [] with ⟨full, refused⟩ | ⟨room, made⟩
  · rw [if_pos full, refused]
    exact .fails _
  · rw [if_neg (Nat.not_le.mpr room), made]
    exact .succeeds ⟨_, _, _, _, _, replayed.opens opens room, pushFrame_eq_entered code⟩

/-- The frame that a tail step replaces leaves a place for another. -/
theorem tailCall_foretold (tail : step.isTail = true) :
    Foretold (Enters scenario first before step context function prototype)
      (tailFault? before)
      (require (context.tailCall function [])) := by
  unfold tailFault?
  rw [replayed.getLast?_steps]
  cases groups with
  | nil =>
      unfold Context.tailCall
      rw [replayed.stands.frames_nil]
      exact .fails _
  | cons group others =>
      obtain ⟨frame, outer, below, window, frames, stack, leaves, base, count, rest⟩ :=
        replayed.stands.innermost
      have formed : group.Formed := replayed.formed group List.mem_cons_self
      rw [List.head?_cons, Option.map_some]
      cases last : group.last with
      | host name =>
          have host : frame.isHost = true := by
            rw [leaves.isHost, last]
            rfl
          rw [Context.tailCall_of_host frames host]
          exact .fails _
      | script name position registers replaces =>
          have script : frame.isHost = false := by
            rw [leaves.isHost, last]
            rfl
          have opening : group.opening.isHost = false := by
            rw [← CallGroup.last_isHost formed, last]
            rfl
          have target : (context.heap.function function).code.isHost = false := by
            rw [code]
            rfl
          have entry := replayed.joins tail opening frames rest count
          rw [Context.tailCall_of_room frames script target entry.room]
          exact .succeeds ⟨_, _, _, _, _, entry, replaceFrame_eq_entered code frames stack base _⟩

end Enter

/-! ### One step -/

section Step

variable {scenario : Scenario} {first : Nat} {ready context : Context} {before : List CallStep}
  {groups : List CallGroup}

def Reaches (scenario : Scenario) (first : Nat) (ready : Context) (before : List CallStep)
    (context : Context) : Prop :=
  ∃ groups, Replayed scenario first ready before groups context

/-- The step that has entered a function fills its registers and sets its position. -/
theorem Replayed.place_foretold (replayed : Replayed scenario first ready before groups context)
    {name : String} {position : Nat} {registers : List Constant} {tail : Bool}
    {definition : FunctionDefinition} {index : Nat} {start : Context}
    (enters : Enters scenario first before (.script name position registers tail) context
      ⟨first + index⟩ definition.prototype start)
    (found : lastDefinition? scenario.functions name = some (definition, index))
    (fits : scenario.totalExtent (before ++ [.script name position registers tail]) ≤
      Word.size64) :
    Foretold (Reaches scenario first ready (before ++ [.script name position registers tail]))
      (placeFault? name definition.prototype position registers)
      (do
        let context ← fillRegisters start name 0 registers
        require (context.setPosition position)) := by
  obtain ⟨group, others, outer, below, collapsed, entry, rfl⟩ := enters
  have wanted : registers.length ≤ scenario.extent (.script name position registers tail) :=
    Nat.le_max_right _ _
  have height := entry.height
  have frames : (entered context outer below ⟨first + index⟩ definition.prototype
      collapsed).frames = _ :: outer := rfl
  refine (Scenario.place_foretold frames rfl rfl rfl rfl rfl name position (by omega)).mono ?_
  rintro later sound rfl
  have enough := (placeFault?_eq_none_iff.mp sound).1
  refine ⟨group :: others, ?_⟩
  apply replayed.enter entry (.script found rfl rfl rfl) rfl ?_ rfl rfl (.refl _) rfl rfl
  rw [List.length_append, List.length_map, List.length_replicate]
  dsimp only
  omega

def withStandIn (context : Context) (name : String) : Context :=
  { context with heap := (context.heap.addFunction { code := .host (standIn name) }).2 }

theorem pushFrame_standIn (context : Context) (name : String) :
    (withStandIn context name).pushFrame ⟨context.heap.functions.size⟩ [] =
      { withStandIn context name with
        stack := context.stack ++ []
        frames :=
          { function := ⟨context.heap.functions.size⟩, code := .host (standIn name)
            base := context.stack.length, top := (context.stack ++ []).length } ::
              context.frames } := by
  have code : ((withStandIn context name).heap.function ⟨context.heap.functions.size⟩).code =
      .host (standIn name) :=
    congrArg FunctionObject.code (Pool.get_add_self context.heap.functions _)
  unfold Context.pushFrame
  rw [code]
  rfl

theorem replay_host_foretold (replayed : Replayed scenario first ready before groups context)
    (defined : Defined) (name : String) :
    Foretold (Reaches scenario first ready (before ++ [.host name]))
      (callFault? ready.config.maxCallDepth before)
      (replay defined context (.host name)) := by
  change Foretold _ _
    (require ((withStandIn context name).call ⟨context.heap.functions.size⟩ []))
  unfold callFault?
  rw [← replayed.config, ← replayed.depth]
  rcases (withStandIn context name).call_cases ⟨context.heap.functions.size⟩ [] with
    ⟨full, refused⟩ | ⟨room, made⟩
  · have reached : context.config.maxCallDepth ≤ context.depth := full
    rw [if_pos reached, refused]
    exact .fails _
  · have free : context.depth < context.config.maxCallDepth := room
    rw [if_neg (Nat.not_le.mpr free), made, pushFrame_standIn]
    refine .succeeds ⟨_, replayed.enter (replayed.opens rfl free) (.host name rfl) rfl ?_ rfl rfl
      (.addFunction _) rfl rfl⟩
    rw [List.append_nil]
    rfl

theorem replay_script {defined : Defined} {name : String} {function : FunctionId}
    (looked : defined.lookup name = some function) (position : Nat) (registers : List Constant)
    (tail : Bool) :
    replay defined context (.script name position registers tail) =
      (require (if tail then context.tailCall function [] else context.call function []) >>=
        fun start => do
          let context ← fillRegisters start name 0 registers
          require (context.setPosition position)) := by
  unfold replay
  dsimp only
  rw [looked]

/-- A step without a fault is made, and one with a fault fails with that fault. -/
theorem replay_foretold {created : Context} (made : Made created scenario.functions ready)
    (replayed : Replayed scenario created.heap.functions.size ready before groups context)
    (step : CallStep) (fits : scenario.totalExtent (before ++ [step]) ≤ Word.size64) :
    Foretold (Reaches scenario created.heap.functions.size ready (before ++ [step]))
      (scenario.stepFault? ready.config.maxCallDepth before step)
      (replay (closures scenario.functions created.heap.functions.size) context step) := by
  cases step with
  | host name => exact replay_host_foretold replayed _ name
  | script name position registers tail =>
      have looked := lookup_closures scenario.functions created.heap.functions.size name
      cases found : lastDefinition? scenario.functions name with
      | none =>
          rw [found] at looked
          rw [stepFault?_unknown found]
          unfold replay
          dsimp only
          rw [looked]
          exact .fails _
      | some entry =>
          obtain ⟨definition, index⟩ := entry
          rw [found] at looked
          have code := made.code_of_grows replayed.grows (getElem?_of_lastDefinition? found)
          have entering : Foretold
              (Enters scenario created.heap.functions.size before
                (.script name position registers tail) context
                ⟨created.heap.functions.size + index⟩ definition.prototype)
              (if tail then tailFault? before else callFault? ready.config.maxCallDepth before)
              (require
                (if tail then context.tailCall ⟨created.heap.functions.size + index⟩ []
                else context.call ⟨created.heap.functions.size + index⟩ [])) := by
            cases tail with
            | false => exact call_foretold replayed code rfl
            | true => exact tailCall_foretold replayed code rfl
          rw [stepFault?_known found, replay_script looked]
          apply entering.bind
          intro start _ enters
          exact replayed.place_foretold enters found fits

theorem replayAll_foretold {created : Context} (made : Made created scenario.functions ready)
    (steps : List CallStep) :
    ∀ {before : List CallStep} {groups : List CallGroup} {context : Context},
      Replayed scenario created.heap.functions.size ready before groups context →
      scenario.totalExtent (before ++ steps) ≤ Word.size64 →
      Foretold (Reaches scenario created.heap.functions.size ready (before ++ steps))
        (firstFault? (scenario.stepFault? ready.config.maxCallDepth) before steps)
        (replayAll (closures scenario.functions created.heap.functions.size) context steps) := by
  induction steps with
  | nil =>
      intro before groups context replayed _
      rw [List.append_nil]
      exact .succeeds ⟨groups, replayed⟩
  | cons step rest ih =>
      intro before groups context replayed fits
      have regrouped : before ++ step :: rest = (before ++ [step]) ++ rest := by simp
      rw [regrouped] at fits ⊢
      have first : scenario.totalExtent (before ++ [step]) ≤ Word.size64 := by
        rw [totalExtent_append] at fits
        omega
      unfold firstFault? replayAll
      apply (replay_foretold made replayed step first).bind
      rintro later - ⟨grown, next⟩
      exact ih next fits

end Step

end Scenario

end StackScope
