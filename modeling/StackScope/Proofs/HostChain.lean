import StackScope.Proofs.HostRun

/-!
Chains of host functions. Each function but the last one asks for the next one, hands on what that
answers and changes nothing itself.

Each level pushes a frame, names its function in an error that comes from below and removes the
frame again. By induction on the chain all of this comes down to what happens at the innermost
level: its name is the one that an error gets, and where the calls are nested too deeply nothing
beyond the limit begins to run.
-/

namespace StackScope

def Context.Admits (context : Context) (function : FunctionId) : Prop :=
  (context.heap.function function).code.isHost = true ∧
    context.depth < context.config.maxCallDepth

instance (context : Context) (function : FunctionId) : Decidable (context.Admits function) :=
  inferInstanceAs (Decidable (_ ∧ _))

def Event.begun? (event : Event) : Option FunctionId :=
  match event.operation with
  | .callHost function _ => if event.context.Admits function then some function else none
  | _ => none

def begunBodies (events : List Event) : List FunctionId := events.filterMap Event.begun?

namespace HostProgram

def relay (function : FunctionId) (arguments : List Value) : HostProgram :=
  .perform (.callHost function arguments) .finish

/-- The program may look around first, by operations that change nothing. Then it does as `relay`
does. -/
inductive Relays (function : FunctionId) (arguments : List Value) (cells : List CellId)
    (context : Context) : HostProgram → Prop where
  | asks : Relays function arguments cells context (relay function arguments)
  | looks {operation : Operation} {reply : operation.Reply} {next : operation.Reply → HostProgram}
      (still : ∀ callHost, operation.execute callHost cells context = (reply, cells, context))
      (later : Relays function arguments cells context (next reply)) :
      Relays function arguments cells context (.perform operation next)

variable {function : FunctionId} {arguments : List Value} {cells : List CellId}
  {context : Context} {program : HostProgram}

theorem Relays.run (relays : Relays function arguments cells context program)
    (callHost : HostCaller) :
    program.run callHost cells context = callHost function arguments context := by
  induction relays with
  | asks => rfl
  | looks still _ ih =>
      rw [HostProgram.run, still callHost]
      exact ih

/-- What answers calls of host functions decides about the reply to such a call. -/
theorem not_still_callHost {reply : Except Fault (List Value)} :
    ¬∀ callHost, (Operation.callHost function arguments).execute callHost cells context =
      (reply, cells, context) := by
  intro still
  have answered := congrArg Prod.fst (still fun _ _ _ => (.ok [], context))
  have refused := congrArg Prod.fst
    (still fun _ _ _ => (.error (.runtime .hostFunctionExpected), context))
  cases answered.trans refused.symm

theorem begunBodies_relay (callHost : HostCaller) (witness : HostWitness) :
    begunBodies ((relay function arguments).events callHost witness cells context) =
      (if context.Admits function then [function] else []) ++
        begunBodies (witness function arguments context) := by
  have events : (relay function arguments).events callHost witness cells context =
      ⟨.callHost function arguments, cells, context, (callHost function arguments context).1⟩ ::
        (witness function arguments context ++ []) := rfl
  rw [events, List.append_nil]
  by_cases admits : context.Admits function
  · rw [if_pos admits]
    exact List.filterMap_cons_some (if_pos admits)
  · rw [if_neg admits]
    exact List.filterMap_cons_none (if_neg admits)

theorem Relays.begunBodies_eq (relays : Relays function arguments cells context program)
    (callHost : HostCaller) (witness : HostWitness) :
    begunBodies (program.events callHost witness cells context) =
      begunBodies ((relay function arguments).events callHost witness cells context) := by
  induction relays with
  | asks => rfl
  | @looks operation reply next still _ ih =>
      rw [← ih, HostProgram.events, still callHost]
      cases operation with
      | callHost function arguments => exact absurd still not_still_callHost
      | _ => rfl

end HostProgram

/-! ### Chains -/

structure HostActivation where
  host : HostFunction
  arguments : List Value
  context : Context

def HostActivation.run (activation : HostActivation) (nesting : Nat) : Outcome (List Value) :=
  activation.host.body.run (callHostWithin nesting) activation.arguments activation.context

/-- A call of the first of the host functions leads through all of them, each of which relays to the
one after it, down to the body of the last one. -/
inductive HostChain :
    FunctionId → List Value → Context → List FunctionId → HostActivation → Prop where
  | answers {function : FunctionId} {arguments : List Value} {context : Context}
      {host : HostFunction} (code : (context.heap.function function).code = .host host) :
      HostChain function arguments context [function]
        ⟨host, arguments, context.pushFrame function arguments⟩
  | relays {function next : FunctionId} {arguments passed : List Value} {context : Context}
      {host : HostFunction} {start : List Value → HostProgram} {deeper : List FunctionId}
      {innermost : HostActivation}
      (code : (context.heap.function function).code = .host host)
      (body : host.body = .program start)
      (relays : (start arguments).Relays next passed [] (context.pushFrame function arguments))
      (rest : HostChain next passed (context.pushFrame function arguments) deeper innermost) :
      HostChain function arguments context (function :: deeper) innermost

namespace Context

variable {context ended : Context} {function : FunctionId} {arguments : List Value}

/-- The removal of a frame undoes its push, also when other parts of the context have changed. -/
theorem popFrame_of_entered (frames : ended.frames = (context.pushFrame function arguments).frames)
    (stack : ended.stack = (context.pushFrame function arguments).stack) :
    ended.popFrame = { ended with frames := context.frames, stack := context.stack } := by
  have below : ended.stack.take context.stack.length = context.stack := by
    rw [stack]
    exact List.take_left
  rw [popFrame_cons frames, below]

@[simp] theorem depth_pushFrame (context : Context) (function : FunctionId)
    (arguments : List Value) :
    (context.pushFrame function arguments).depth = context.depth + 1 := rfl

theorem popFrame_pushFrame (context : Context) (function : FunctionId) (arguments : List Value) :
    (context.pushFrame function arguments).popFrame = context :=
  popFrame_of_entered rfl rfl

end Context

theorem mapError_inFunction_inFunction (outer inner : String)
    (result : Except Fault (List Value)) :
    (result.mapError (Fault.inFunction inner)).mapError (Fault.inFunction outer) =
      result.mapError (Fault.inFunction inner) := by
  cases result with
  | ok values => rfl
  | error fault => exact congrArg Except.error (Fault.inFunction_inFunction outer inner fault)

/-- A call of a host function is refused for its depth, or it runs the body. -/
theorem callHostWith_cases_of_host {context : Context} {function : FunctionId}
    {host : HostFunction} (code : (context.heap.function function).code = .host host)
    (callHost : HostCaller) (witness : HostWitness) (arguments : List Value) :
    (context.config.maxCallDepth ≤ context.depth ∧
      callHostWith callHost function arguments context =
        (.error (.stackOverflow context.config.maxCallDepth), context) ∧
      hostEventsWith callHost witness function arguments context = []) ∨
    (context.depth < context.config.maxCallDepth ∧
      callHostWith callHost function arguments context =
        (let ended := host.body.run callHost arguments (context.pushFrame function arguments)
        (ended.1.mapError (Fault.inFunction host.name), ended.2.popFrame)) ∧
      hostEventsWith callHost witness function arguments context =
        host.body.events callHost witness arguments (context.pushFrame function arguments)) := by
  rcases callHostWith_cases callHost witness function arguments context with
    ⟨⟨prototype, script⟩, -⟩ | ⟨-, refused⟩ | ⟨other, same, ran⟩
  · rw [code] at script
    cases script
  · exact .inl refused
  · rw [code] at same
    cases same
    exact .inr ran

namespace HostChain

variable {function : FunctionId} {arguments : List Value} {context : Context}
  {functions : List FunctionId} {innermost : HostActivation} {nesting : Nat}

/-- Where the depth allows for all levels, the chain answers what the innermost body does. -/
theorem completes (chain : HostChain function arguments context functions innermost)
    (reach : functions.length ≤ nesting)
    (room : context.depth + functions.length ≤ context.config.maxCallDepth)
    {raised : Except Fault (List Value)} {ended : Context}
    (ran : innermost.run (nesting - functions.length) = (raised, ended))
    (frames : ended.frames = innermost.context.frames)
    (stack : ended.stack = innermost.context.stack) :
    callHostWithin nesting function arguments context =
      (raised.mapError (Fault.inFunction innermost.host.name),
        { ended with frames := context.frames, stack := context.stack }) := by
  induction chain generalizing nesting with
  | @answers function arguments context host code =>
      obtain ⟨nesting, rfl⟩ := Nat.exists_eq_add_of_le' reach
      rcases callHostWith_cases_of_host code (callHostWithin nesting) (hostEventsWithin nesting)
        arguments with ⟨full, -⟩ | ⟨-, answered, -⟩
      · rw [List.length_singleton] at room
        omega
      · change host.body.run (callHostWithin nesting) arguments _ = _ at ran
        change callHostWith (callHostWithin nesting) function arguments context = _
        rw [answered, ran]
        exact congrArg _ (Context.popFrame_of_entered frames stack)
  | @relays function next arguments passed context host start deeper innermost code body relays
      rest ih =>
      obtain ⟨nesting, rfl⟩ := Nat.exists_eq_add_of_le' (Nat.le_trans (Nat.succ_pos _) reach)
      rw [List.length_cons] at reach room ran
      rcases callHostWith_cases_of_host code (callHostWithin nesting) (hostEventsWithin nesting)
        arguments with ⟨full, -⟩ | ⟨-, answered, -⟩
      · omega
      · have inside : (context.pushFrame function arguments).depth + deeper.length ≤
            context.config.maxCallDepth := by
          rw [Context.depth_pushFrame]
          omega
        have below := ih (Nat.le_of_succ_le_succ reach) inside
          (by rwa [Nat.add_sub_add_right] at ran) frames stack
        have undone : { ended with
              frames := (context.pushFrame function arguments).frames
              stack := (context.pushFrame function arguments).stack }.popFrame =
            { ended with frames := context.frames, stack := context.stack } :=
          Context.popFrame_of_entered rfl rfl
        change callHostWith (callHostWithin nesting) function arguments context = _
        rw [answered, body, HostBody.run, relays.run, below]
        exact Prod.ext (mapError_inFunction_inFunction _ _ raised) undone

/-- Where the calls are nested too deeply, every level hands on the refusal of the one below, and
undoes its push. -/
theorem overflows (chain : HostChain function arguments context functions innermost)
    (tight : context.config.maxCallDepth < context.depth + functions.length) (nesting : Nat) :
    callHostWithin nesting function arguments context =
      (.error (.stackOverflow context.config.maxCallDepth), context) := by
  induction chain generalizing nesting with
  | @answers function arguments context host code =>
      cases nesting with
      | zero => rfl
      | succ nesting =>
          rcases callHostWith_cases_of_host code (callHostWithin nesting)
            (hostEventsWithin nesting) arguments with ⟨-, refused, -⟩ | ⟨room, -⟩
          · exact refused
          · rw [List.length_singleton] at tight
            omega
  | @relays function next arguments passed context host start deeper innermost code body relays
      rest ih =>
      cases nesting with
      | zero => rfl
      | succ nesting =>
          rcases callHostWith_cases_of_host code (callHostWithin nesting)
            (hostEventsWithin nesting) arguments with ⟨-, refused, -⟩ | ⟨-, answered, -⟩
          · exact refused
          · have inside : context.config.maxCallDepth <
                (context.pushFrame function arguments).depth + deeper.length := by
              rw [List.length_cons] at tight
              rw [Context.depth_pushFrame]
              omega
            have below := ih inside nesting
            change callHostWith (callHostWithin nesting) function arguments context = _
            rw [answered, body, HostBody.run, relays.run, below]
            exact Prod.ext rfl (Context.popFrame_pushFrame context function arguments)

end HostChain

section

variable {context : Context} {function : FunctionId} {arguments : List Value}

theorem hostEventsWithin_of_full (full : context.config.maxCallDepth ≤ context.depth)
    (nesting : Nat) : hostEventsWithin nesting function arguments context = [] := by
  cases nesting with
  | zero => rfl
  | succ nesting =>
      rcases callHostWith_cases (callHostWithin nesting) (hostEventsWithin nesting) function
        arguments context with ⟨-, -, silent⟩ | ⟨-, -, -, silent⟩ | ⟨_, -, room, -⟩
      · exact silent
      · exact silent
      · exact absurd room (Nat.not_lt.mpr full)

theorem begunBodies_of_full (full : context.config.maxCallDepth ≤ context.depth) (nesting : Nat)
    (cells : List CellId) :
    begunBodies ((HostProgram.relay function arguments).events (callHostWithin nesting)
      (hostEventsWithin nesting) cells context) = [] := by
  have refused : ¬context.Admits function := fun admits => Nat.not_lt.mpr full admits.2
  rw [HostProgram.begunBodies_relay, hostEventsWithin_of_full full, if_neg refused]
  rfl

theorem begunBodies_of_room {host : HostFunction}
    (code : (context.heap.function function).code = .host host)
    (room : context.depth < context.config.maxCallDepth) (nesting : Nat) (cells : List CellId) :
    begunBodies ((HostProgram.relay function arguments).events (callHostWithin (nesting + 1))
        (hostEventsWithin (nesting + 1)) cells context) =
      function :: begunBodies (host.body.events (callHostWithin nesting)
        (hostEventsWithin nesting) arguments (context.pushFrame function arguments)) := by
  have admits : context.Admits function := by
    refine ⟨?_, room⟩
    rw [code]
    rfl
  rw [HostProgram.begunBodies_relay, if_pos admits]
  rcases callHostWith_cases_of_host code (callHostWithin nesting) (hostEventsWithin nesting)
    arguments with ⟨full, -⟩ | ⟨-, -, events⟩
  · exact absurd room (Nat.not_lt.mpr full)
  · rw [hostEventsWithin, events]
    rfl

end

/-- The bodies that run are those of the functions for which there is room, one after the other, and
after the last function of the chain those that it calls in turn. -/
theorem HostChain.begunBodies_eq {function : FunctionId} {arguments : List Value}
    {context : Context} {functions : List FunctionId} {innermost : HostActivation}
    (chain : HostChain function arguments context functions innermost) {nesting : Nat}
    (reach : context.config.maxCallDepth ≤ context.depth + nesting) (cells : List CellId) :
    ∃ within, begunBodies ((HostProgram.relay function arguments).events (callHostWithin nesting)
        (hostEventsWithin nesting) cells context) =
          functions.take (context.config.maxCallDepth - context.depth) ++ within ∧
      (context.config.maxCallDepth < context.depth + functions.length → within = []) := by
  induction chain generalizing nesting cells with
  | @answers function arguments context host code =>
      rcases Nat.lt_or_ge context.depth context.config.maxCallDepth with room | full
      · obtain ⟨nesting, rfl⟩ : ∃ fewer, nesting = fewer + 1 := ⟨nesting - 1, by omega⟩
        refine ⟨begunBodies (host.body.events (callHostWithin nesting) (hostEventsWithin nesting)
          arguments (context.pushFrame function arguments)), ?_, ?_⟩
        · rw [begunBodies_of_room code room, List.take_of_length_le (Nat.sub_pos_of_lt room)]
          rfl
        · intro tight
          exact absurd room (Nat.not_lt.mpr (Nat.le_of_lt_succ tight))
      · refine ⟨[], ?_, fun _ => rfl⟩
        rw [begunBodies_of_full full, Nat.sub_eq_zero_of_le full]
        rfl
  | @relays function next arguments passed context host start deeper innermost code body relays
      rest ih =>
      rcases Nat.lt_or_ge context.depth context.config.maxCallDepth with room | full
      · obtain ⟨nesting, rfl⟩ : ∃ fewer, nesting = fewer + 1 := ⟨nesting - 1, by omega⟩
        have inside : (context.pushFrame function arguments).config.maxCallDepth ≤
            (context.pushFrame function arguments).depth + nesting := by
          rw [Context.depth_pushFrame, Nat.add_right_comm]
          exact reach
        obtain ⟨within, below, silent⟩ := ih inside []
        have left : context.config.maxCallDepth - context.depth =
            context.config.maxCallDepth - (context.depth + 1) + 1 := by omega
        refine ⟨within, ?_, ?_⟩
        · rw [begunBodies_of_room code room, body, HostBody.events, relays.begunBodies_eq, below,
            left]
          rfl
        · intro tight
          refine silent ?_
          rw [Context.depth_pushFrame, Nat.add_right_comm]
          exact tight
      · refine ⟨[], ?_, fun _ => rfl⟩
        rw [begunBodies_of_full full, Nat.sub_eq_zero_of_le full]
        rfl

/-! ### The law of chains -/

/-- What is reported of an outcome that was raised inside the function: an argument error is given
the name of the function unless it names one, and all else stays. -/
structure ReportedBy (name : String) (raised reported : Except Fault (List Value)) : Prop where
  values : ∀ values, raised = .ok values → reported = .ok values
  unnamed : ∀ position cause, raised = .error (.argument position none cause) →
    reported = .error (.argument position (some name) cause)
  named : ∀ position function cause, raised = .error (.argument position (some function) cause) →
    reported = .error (.argument position (some function) cause)
  other : ∀ fault, (∀ position function cause, fault ≠ .argument position function cause) →
    raised = .error fault → reported = .error fault

theorem reportedBy_mapError (name : String) (raised : Except Fault (List Value)) :
    ReportedBy name raised (raised.mapError (Fault.inFunction name)) where
  values := by
    rintro values rfl
    rfl
  unnamed := by
    rintro position cause rfl
    rfl
  named := by
    rintro position function cause rfl
    rfl
  other := by
    rintro fault different rfl
    cases fault with
    | argument position function cause => exact absurd rfl (different position function cause)
    | runtime | invalidTarget | invalidOption | stackOverflow | config | addressOverflow => rfl

def Context.hostsRun (context : Context) (function : FunctionId) (arguments : List Value) :
    List FunctionId :=
  begunBodies (context.programEvents [] (.relay function arguments))

/-- A chain of host functions for whose frames there is room answers what its innermost body does,
named by the innermost function, and leaves the frames and the stack as they were if that body has
done so. A chain that is longer overflows as a whole. Then only the functions for whose frames there
was room have begun to run, and nothing has changed. -/
theorem callHost_of_chain {function : FunctionId} {arguments : List Value} {context : Context}
    {functions : List FunctionId} {innermost : HostActivation}
    (chain : HostChain function arguments context functions innermost)
    (word : context.config.maxCallDepth < Word.size64) :
    (context.depth + functions.length ≤ context.config.maxCallDepth →
      ∀ raised ended, innermost.run (nestingLimit - functions.length) = (raised, ended) →
        ended.frames = innermost.context.frames → ended.stack = innermost.context.stack →
          ReportedBy innermost.host.name raised (context.callHost function arguments).1 ∧
          (context.callHost function arguments).2 =
            { ended with frames := context.frames, stack := context.stack } ∧
          functions <+: context.hostsRun function arguments) ∧
    (context.config.maxCallDepth < context.depth + functions.length →
      context.callHost function arguments =
        (.error (.stackOverflow context.config.maxCallDepth), context) ∧
      context.hostsRun function arguments =
        functions.take (context.config.maxCallDepth - context.depth)) := by
  have reach : context.config.maxCallDepth ≤ context.depth + nestingLimit :=
    Nat.le_trans (Nat.le_of_lt word) (Nat.le_add_left _ _)
  obtain ⟨within, bodies, silent⟩ := chain.begunBodies_eq reach []
  constructor
  · intro room raised ended ran frames stack
    have shallow : functions.length ≤ nestingLimit := by
      have size : nestingLimit = Word.size64 := rfl
      omega
    have answered := chain.completes shallow room ran frames stack
    have whole : functions.take (context.config.maxCallDepth - context.depth) = functions :=
      List.take_of_length_le (Nat.le_sub_of_add_le' room)
    rw [whole] at bodies
    rw [Context.callHost, answered]
    exact ⟨reportedBy_mapError innermost.host.name raised, rfl, within, bodies.symm⟩
  · intro tight
    rw [silent tight, List.append_nil] at bodies
    exact ⟨chain.overflows tight nestingLimit, bodies⟩

/-- A script function and three host functions. The first of these looks at the depth before it asks
for the second one, which asks for the third one, which refuses an argument. -/
def relayingHeap : Heap :=
  let outer : HostFunction :=
    { name := "outer"
      body := .program fun arguments => .perform .depth fun _ => .relay ⟨2⟩ arguments }
  let middle : HostFunction := { name := "middle", body := .program fun _ => .relay ⟨3⟩ [.nil] }
  let inner : HostFunction :=
    { name := "inner"
      body := .program fun _ => .finish (.error (.argument 1 none .valueExpected)) }
  let heap := (Heap.empty.addFunction { code := .script { source := "@sample" } }).2
  let heap := (heap.addFunction { code := .host outer }).2
  let heap := (heap.addFunction { code := .host middle }).2
  (heap.addFunction { code := .host inner }).2

def relayingCaller (limit : Nat) : Context :=
  ((Context.create relayingHeap { maxCallDepth := limit }).call ⟨0⟩ []).2

/-- Three levels fit below a limit of four, and below a limit of three the innermost one does
not. -/
theorem callHost_of_chain_three :
    (∃ innermost, HostChain ⟨1⟩ [.boolean true] (relayingCaller 4) [⟨1⟩, ⟨2⟩, ⟨3⟩] innermost) ∧
    (relayingCaller 4).depth = 1 ∧
    ((relayingCaller 4).callHost ⟨1⟩ [.boolean true]).1 =
      .error (.argument 1 (some "inner") .valueExpected) ∧
    ((relayingCaller 4).callHost ⟨1⟩ [.boolean true]).2.frames = (relayingCaller 4).frames ∧
    [⟨1⟩, ⟨2⟩, ⟨3⟩] <+: (relayingCaller 4).hostsRun ⟨1⟩ [.boolean true] ∧
    (∃ innermost, HostChain ⟨1⟩ [.boolean true] (relayingCaller 3) [⟨1⟩, ⟨2⟩, ⟨3⟩] innermost) ∧
    (relayingCaller 3).callHost ⟨1⟩ [.boolean true] =
      (.error (.stackOverflow 3), relayingCaller 3) ∧
    (relayingCaller 3).hostsRun ⟨1⟩ [.boolean true] = [⟨1⟩, ⟨2⟩] := by
  have roomy : HostChain ⟨1⟩ [.boolean true] (relayingCaller 4) [⟨1⟩, ⟨2⟩, ⟨3⟩] _ :=
    .relays rfl rfl (.looks (fun _ => rfl) .asks) (.relays rfl rfl .asks (.answers rfl))
  have tight : HostChain ⟨1⟩ [.boolean true] (relayingCaller 3) [⟨1⟩, ⟨2⟩, ⟨3⟩] _ :=
    .relays rfl rfl (.looks (fun _ => rfl) .asks) (.relays rfl rfl .asks (.answers rfl))
  obtain ⟨reported, after, ran⟩ :=
    (callHost_of_chain roomy (by decide)).1 (by decide) _ _ rfl rfl rfl
  obtain ⟨overflow, begun⟩ := (callHost_of_chain tight (by decide)).2 (by decide)
  refine ⟨⟨_, roomy⟩, rfl, reported.unnamed _ _ rfl, ?_, ran, ⟨_, tight⟩, overflow, begun⟩
  rw [after]

end StackScope
