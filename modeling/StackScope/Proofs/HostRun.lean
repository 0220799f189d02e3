import StackScope.Proofs.OperationEffect

/-!
Runs of host functions, seen from inside. A run is listed operation by operation, the operations of
the host functions that it calls in turn included, each with the context that it was asked of.

`Preserved` collects what one step has to keep; `Preserved.run` draws the conclusion for a whole
run. It is an induction on how deep host functions nest and, inside, on the program.
-/

namespace StackScope

structure Event where
  operation : Operation
  held : List CellId
  context : Context
  reply : operation.Reply

abbrev HostWitness := FunctionId → List Value → Context → List Event

namespace Operation

def inner (witness : HostWitness) (context : Context) : Operation → List Event
  | callHost function arguments => witness function arguments context
  | _ => []

/-- The addresses of registers are words. -/
def Fits (operation : Operation) (context : Context) : Prop :=
  match operation with
  | readRegister register | writeRegister register _ | capture register => context.Fits register
  | _ => True

instance (operation : Operation) (context : Context) : Decidable (operation.Fits context) :=
  match operation with
  | readRegister register | writeRegister register _ | capture register =>
      inferInstanceAs (Decidable (context.Fits register))
  | call _ _ | tailCall _ _ | callHost _ _ | returnFromCall | unwind | setPosition _ | readCell _
  | writeCell _ _ | sameCell _ _ | makeClosure _ _ | getLocal _ _ | setLocal _ _ _
  | getUpvalue _ _ | setUpvalue _ _ _ | depth | levelCount | lookupLevel _ | traceback _ _
  | setConfig _ => isTrue trivial

end Operation

def HostProgram.events (callHost : HostCaller) (witness : HostWitness) :
    HostProgram → List CellId → Context → List Event
  | .finish _, _, _ => []
  | .perform operation next, cells, context =>
      let (reply, later, after) := operation.execute callHost cells context
      ⟨operation, cells, context, reply⟩ ::
        (operation.inner witness context ++ (next reply).events callHost witness later after)

def HostBody.events (callHost : HostCaller) (witness : HostWitness) (body : HostBody)
    (arguments : List Value) (context : Context) : List Event :=
  match body with
  | .debug _ => []
  | .program start => (start arguments).events callHost witness [] context

def hostEventsWith (callHost : HostCaller) (witness : HostWitness) : HostWitness :=
  fun function arguments context =>
    match (context.heap.function function).code with
    | .script _ => []
    | .host host =>
        match context.call function arguments with
        | (.error _, _) => []
        | (.ok (), context) => host.body.events callHost witness arguments context

def hostEventsWithin : (nesting : Nat) → HostWitness
  | 0 => fun _ _ _ => []
  | nesting + 1 => hostEventsWith (callHostWithin nesting) (hostEventsWithin nesting)

namespace Context

def hostEvents (context : Context) (function : FunctionId) (arguments : List Value) :
    List Event :=
  hostEventsWithin nestingLimit function arguments context

/-- Runs a program from outside of all host functions, with cells that were made before. -/
def runProgram (context : Context) (cells : List CellId) (program : HostProgram) :
    Outcome (List Value) :=
  program.run (callHostWithin nestingLimit) cells context

def programEvents (context : Context) (cells : List CellId) (program : HostProgram) :
    List Event :=
  program.events (callHostWithin nestingLimit) (hostEventsWithin nestingLimit) cells context

end Context

/-- A call of a host function is refused before anything runs, or the body runs in a frame of its
own and the innermost frame is removed when it ends. -/
theorem callHostWith_cases (callHost : HostCaller) (witness : HostWitness) (function : FunctionId)
    (arguments : List Value) (context : Context) :
    ((∃ prototype, (context.heap.function function).code = .script prototype) ∧
      callHostWith callHost function arguments context =
        (.error (.runtime .hostFunctionExpected), context) ∧
      hostEventsWith callHost witness function arguments context = []) ∨
    ((∃ host, (context.heap.function function).code = .host host) ∧
      context.config.maxCallDepth ≤ context.depth ∧
      callHostWith callHost function arguments context =
        (.error (.stackOverflow context.config.maxCallDepth), context) ∧
      hostEventsWith callHost witness function arguments context = []) ∨
    ∃ host, (context.heap.function function).code = .host host ∧
      context.depth < context.config.maxCallDepth ∧
      callHostWith callHost function arguments context =
        (let ended := host.body.run callHost arguments (context.pushFrame function arguments)
        (ended.1.mapError (Fault.inFunction host.name), ended.2.popFrame)) ∧
      hostEventsWith callHost witness function arguments context =
        host.body.events callHost witness arguments (context.pushFrame function arguments) := by
  unfold callHostWith hostEventsWith
  cases code : (context.heap.function function).code with
  | script prototype => exact .inl ⟨⟨prototype, rfl⟩, rfl, rfl⟩
  | host host =>
      refine .inr ?_
      rcases context.call_cases function arguments with ⟨full, refused⟩ | ⟨room, made⟩
      · rw [refused]
        exact .inl ⟨⟨host, rfl⟩, full, rfl, rfl⟩
      · rw [made]
        exact .inr ⟨host, rfl, room, rfl, rfl⟩

/-! ### What a run keeps -/

def Context.libraryFunction? (context : Context) (function : FunctionId) : Option DebugFunction :=
  match (context.heap.function function).code with
  | .script _ => none
  | .host host =>
      match host.body with
      | .debug function => some function
      | .program _ => none

/-- A property of contexts that each allowed step keeps: an operation, and the beginning and the end
of a host function. Calls of host functions are allowed or not where they begin. -/
structure Preserved (allowed : Operation → Context → Prop) (holds : Context → Prop) : Prop where
  step : ∀ {operation context}, (∀ function arguments, operation ≠ .callHost function arguments) →
    allowed operation context → holds context →
      ∀ callHost cells, holds (operation.execute callHost cells context).2.2
  enter : ∀ {function arguments context}, allowed (.callHost function arguments) context →
    holds context → holds (context.call function arguments).2
  leave : ∀ {context}, holds context → holds context.popFrame
  library : ∀ {function arguments before debug}, allowed (.callHost function arguments) before →
    before.libraryFunction? function = some debug →
      ∀ {context}, holds context → holds (debug.run arguments context).2

namespace Preserved

variable {allowed : Operation → Context → Prop} {holds : Context → Prop}

def Allows (allowed : Operation → Context → Prop) (events : List Event) : Prop :=
  ∀ event ∈ events, allowed event.operation event.context

def Throughout (holds : Context → Prop) (events : List Event) (after : Context) : Prop :=
  (∀ event ∈ events, holds event.context) ∧ holds after

def Calls (allowed : Operation → Context → Prop) (holds : Context → Prop) (callHost : HostCaller)
    (witness : HostWitness) : Prop :=
  ∀ function arguments context, allowed (.callHost function arguments) context → holds context →
    Allows allowed (witness function arguments context) →
      Throughout holds (witness function arguments context)
        (callHost function arguments context).2

theorem Throughout.nil {after : Context} (held : holds after) : Throughout holds [] after := by
  refine ⟨?_, held⟩
  intro event member
  cases member

theorem Throughout.append {first second : List Event} {middle after : Context}
    (before : Throughout holds first middle) (rest : Throughout holds second after) :
    Throughout holds (first ++ second) after := by
  refine ⟨?_, rest.2⟩
  intro event member
  rcases List.mem_append.mp member with inFirst | inSecond
  · exact before.1 event inFirst
  · exact rest.1 event inSecond

theorem Throughout.imp {stronger : Context → Prop} {events : List Event} {after : Context}
    (throughout : Throughout stronger events after)
    (implies : ∀ context, stronger context → holds context) : Throughout holds events after :=
  ⟨fun event member => implies _ (throughout.1 event member), implies _ throughout.2⟩

theorem operation (preserved : Preserved allowed holds) {callHost : HostCaller}
    {witness : HostWitness} (calls : Calls allowed holds callHost witness)
    {operation : Operation} {context : Context} (permitted : allowed operation context)
    (before : holds context) (inner : Allows allowed (operation.inner witness context))
    (cells : List CellId) :
    Throughout holds (operation.inner witness context)
      (operation.execute callHost cells context).2.2 := by
  by_cases isCall : ∃ function arguments, operation = .callHost function arguments
  · obtain ⟨function, arguments, rfl⟩ := isCall
    exact calls function arguments context permitted before inner
  · have other : ∀ function arguments, operation ≠ .callHost function arguments :=
      fun function arguments same => isCall ⟨function, arguments, same⟩
    refine ⟨?_, preserved.step other permitted before callHost cells⟩
    intro event member
    cases operation with
    | callHost function arguments => exact absurd rfl (other function arguments)
    | _ => cases member

theorem program (preserved : Preserved allowed holds) {callHost : HostCaller}
    {witness : HostWitness} (calls : Calls allowed holds callHost witness)
    (program : HostProgram) (cells : List CellId) {context : Context} (before : holds context)
    (permitted : Allows allowed (program.events callHost witness cells context)) :
    Throughout holds (program.events callHost witness cells context)
      (program.run callHost cells context).2 := by
  induction program generalizing cells context with
  | finish result => exact .nil before
  | perform operation next ih =>
      obtain ⟨first, rest⟩ := List.forall_mem_cons.mp permitted
      obtain ⟨inner, later⟩ := List.forall_mem_append.mp rest
      -- What an operation has inside comes before the rest of the program.
      have step := preserved.operation calls first before inner cells
      have remaining := ih _ _ step.2 later
      have all := step.append remaining
      refine ⟨?_, all.2⟩
      intro event member
      rcases List.mem_cons.mp member with same | member
      · subst same
        exact before
      · exact all.1 event member

theorem body (preserved : Preserved allowed holds) {callHost : HostCaller}
    {witness : HostWitness} (calls : Calls allowed holds callHost witness) (body : HostBody)
    (arguments : List Value) {context : Context}
    (library : ∀ debug, body = .debug debug → holds (debug.run arguments context).2)
    (before : holds context)
    (permitted : Allows allowed (body.events callHost witness arguments context)) :
    Throughout holds (body.events callHost witness arguments context)
      (body.run callHost arguments context).2 := by
  cases body with
  | debug function => exact .nil (library function rfl)
  | program start => exact preserved.program calls (start arguments) [] before permitted

theorem callHostWith (preserved : Preserved allowed holds) {callHost : HostCaller}
    {witness : HostWitness} (calls : Calls allowed holds callHost witness) :
    Calls allowed holds (callHostWith callHost) (hostEventsWith callHost witness) := by
  intro function arguments context permitted before inner
  rcases callHostWith_cases callHost witness function arguments context with
    ⟨-, refused, silent⟩ | ⟨-, -, refused, silent⟩ | ⟨host, code, room, ran, events⟩
  · rw [refused, silent]
    exact .nil before
  · rw [refused, silent]
    exact .nil before
  · have entered := preserved.enter permitted before
    rw [Context.call_of_room room] at entered
    rw [events] at inner
    rw [ran, events]
    have library : ∀ debug, host.body = .debug debug →
        holds (debug.run arguments (context.pushFrame function arguments)).2 := by
      intro debug same
      refine preserved.library permitted ?_ entered
      rw [Context.libraryFunction?, code]
      simp only [same]
    have body := preserved.body calls host.body arguments library entered inner
    exact ⟨body.1, preserved.leave body.2⟩

theorem callHostWithin (preserved : Preserved allowed holds) (nesting : Nat) :
    Calls allowed holds (callHostWithin nesting) (hostEventsWithin nesting) := by
  induction nesting with
  | zero =>
      intro function arguments context _ before _
      exact .nil before
  | succ nesting ih => exact preserved.callHostWith ih

theorem run (preserved : Preserved allowed holds) {context : Context} (before : holds context)
    (cells : List CellId) (program : HostProgram)
    (permitted : Allows allowed (context.programEvents cells program)) :
    Throughout holds (context.programEvents cells program)
      (context.runProgram cells program).2 :=
  preserved.program (preserved.callHostWithin nestingLimit) program cells before permitted

end Preserved

structure Kept (allowed : Operation → Context → Prop) (holds : Context → Prop) : Prop where
  objects : ∀ {context later}, context.ObjectsGrow later → holds context → holds later
  effect : ∀ {operation context later}, allowed operation context →
    operation.Effect context later → holds context → holds later

/-- What host functions do besides the operations of their programs is allowed: they begin with a
call, end with a return, and those of the debug library write locals. -/
structure Permits (allowed : Operation → Context → Prop) : Prop where
  call : ∀ {function arguments context}, allowed (.callHost function arguments) context →
    allowed (.call function arguments) context
  returnFromCall : ∀ context, allowed .returnFromCall context
  setLocal : ∀ level ordinal value context, allowed (.setLocal level ordinal value) context

theorem Kept.preserved {allowed : Operation → Context → Prop} {holds : Context → Prop}
    (kept : Kept allowed holds) (permits : Permits allowed) : Preserved allowed holds where
  step := fun other permitted before callHost cells =>
    kept.effect permitted (Operation.execute_effect other callHost cells _) before
  enter := fun permitted before =>
    kept.effect (permits.call permitted) (Context.call_effect _ _ _) before
  leave := by
    intro context before
    rw [← Context.returnFromCall_context]
    exact kept.effect (permits.returnFromCall context) context.returnFromCall_effect before
  library := by
    intro _ arguments _ function _ _ context before
    rcases function.run_cases arguments context with objects | ⟨level, ordinal, value, written⟩
    · exact kept.objects objects before
    · rw [written]
      exact kept.effect (permits.setLocal _ _ _ context) (context.setLocal_effect _ _ _) before

end StackScope
