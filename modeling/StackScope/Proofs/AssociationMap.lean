import Mathlib.Data.List.Induction
import StackScope.Proofs.Footprint

/-!
Metatables and environments as one map from owners to what they were given. Whatever requests to set
an association come one after the other, and however their values are aliased, each value answers
with the argument of the last request that was granted for its owner.

Functions and userdata that were never given an environment are outside of that map: they follow
the thread of the context.
-/

namespace StackScope

namespace Association

def accepts : Association → Value → Bool
  | .metatable, .nil => true
  | _, .table _ => true
  | _, _ => false

def wanted : Association → Wanted
  | .metatable => .tableOrNil
  | .environment => .table

def unsupportedFault : Association → Category → ArgumentFault
  | .metatable => .cannotHoldMetatable
  | .environment => .cannotHoldEnvironment

end Association

structure AssociationRequest where
  association : Association
  value : Value
  argument : Value
deriving DecidableEq

namespace AssociationRequest

def perform (request : AssociationRequest) (context : Context) : Outcome (List Value) :=
  match request.association with
  | .metatable =>
      let (answer, context) := context.setMetatable request.value request.argument
      (answer.map fun value => [value], context)
  | .environment =>
      let (answer, context) := context.setEnvironment request.value request.argument
      (answer.map fun _ => [], context)

def Granted (request : AssociationRequest) : Prop :=
  request.association.accepts request.argument = true ∧
    request.association.storage request.value.category ≠ .unsupported

instance (request : AssociationRequest) : Decidable request.Granted :=
  inferInstanceAs (Decidable (_ ∧ _))

/-- The argument is judged before the value. -/
def answer (request : AssociationRequest) : Except Fault (List Value) :=
  if request.association.accepts request.argument = false then
    .error (.argument 2 none
      (.expected request.association.wanted (some request.argument.category)))
  else if request.association.storage request.value.category = .unsupported then
    .error (.argument 1 none (request.association.unsupportedFault request.value.category))
  else
    match request.association with
    | .metatable => .ok [request.value]
    | .environment => .ok []

def Reaches (request : AssociationRequest) (association : Association) (owner : Owner) : Prop :=
  request.Granted ∧ request.association = association ∧
    association.owner? request.value = some owner

instance (request : AssociationRequest) (association : Association) (owner : Owner) :
    Decidable (request.Reaches association owner) :=
  inferInstanceAs (Decidable (_ ∧ _))

end AssociationRequest

/-- The argument of the last request that gave something to the owner. -/
def lastGiven? (association : Association) (owner : Owner) (requests : List AssociationRequest) :
    Option Value :=
  (requests.reverse.find? fun request => decide (request.Reaches association owner)).map
    AssociationRequest.argument

theorem lastGiven?_concat (association : Association) (owner : Owner)
    (requests : List AssociationRequest) (request : AssociationRequest) :
    lastGiven? association owner (requests ++ [request]) =
      if request.Reaches association owner then some request.argument
      else lastGiven? association owner requests := by
  unfold lastGiven?
  rw [List.reverse_append, List.reverse_singleton, List.singleton_append, List.find?_cons]
  by_cases reaches : request.Reaches association owner
  · rw [decide_eq_true reaches, if_pos reaches]
    rfl
  · rw [decide_eq_false reaches, if_neg reaches]

namespace Context

def associate (context : Context) (requests : List AssociationRequest) : Context :=
  requests.foldl (fun context request => (request.perform context).2) context

theorem associate_concat (context : Context) (requests : List AssociationRequest)
    (request : AssociationRequest) :
    context.associate (requests ++ [request]) =
      (request.perform (context.associate requests)).2 := by
  unfold associate
  rw [List.foldl_append]
  rfl

def give (context : Context) (request : AssociationRequest) : Context :=
  match request.association, request.argument with
  | .metatable, argument => context.putMetatable request.value argument.table?
  | .environment, .table table => context.putEnvironment request.value table
  | .environment, _ => context

end Context

open Context

namespace AssociationRequest

variable {request : AssociationRequest}

theorem metatableArgument_eq (argument : Value) :
    metatableArgument argument =
      if Association.metatable.accepts argument = true then .ok argument.table?
      else .error (.argument 2 none (.expected .tableOrNil (some argument.category))) := by
  cases argument <;> rfl

theorem environmentArgument_cases (argument : Value) :
    (∃ table, argument = .table table ∧ environmentArgument argument = .ok table) ∨
      (Association.environment.accepts argument = false ∧ environmentArgument argument =
        .error (.argument 2 none (.expected .table (some argument.category)))) := by
  cases argument with
  | table id => exact .inl ⟨id, rfl, rfl⟩
  | _ => exact .inr ⟨rfl, rfl⟩

theorem Granted.answer_eq_ok (granted : request.Granted) :
    ∃ results, request.answer = .ok results := by
  obtain ⟨accepted, supported⟩ := granted
  unfold answer
  rw [accepted, if_neg Bool.false_ne_true.symm, if_neg supported]
  cases request.association
  · exact ⟨_, rfl⟩
  · exact ⟨_, rfl⟩

theorem answer_of_not_granted (refused : ¬ request.Granted) :
    ∃ position cause, request.answer = .error (.argument position none cause) := by
  unfold answer
  split
  · exact ⟨2, _, rfl⟩
  · split
    · exact ⟨1, _, rfl⟩
    · rename_i accepted supported
      exact absurd ⟨Bool.of_not_eq_false accepted, supported⟩ refused

/-- A request is refused and changes nothing, or it is granted and gives its argument away. -/
theorem perform_cases (request : AssociationRequest) (context : Context) :
    (¬ request.Granted ∧ request.perform context = (request.answer, context)) ∨
      (request.Granted ∧ request.perform context = (request.answer, context.give request)) := by
  obtain ⟨association, value, argument⟩ := request
  cases association with
  | metatable =>
      unfold Granted perform answer setMetatable
      dsimp only
      rw [metatableArgument_eq]
      by_cases accepted : Association.metatable.accepts argument = true
      · by_cases supported : Association.metatable.storage value.category = .unsupported
        · refine .inl ⟨fun granted => granted.2 supported, ?_⟩
          simp [accepted, supported, Association.unsupportedFault, Except.map]
        · refine .inr ⟨⟨accepted, supported⟩, ?_⟩
          simp [accepted, supported, give, Except.map]
      · refine .inl ⟨fun granted => accepted granted.1, ?_⟩
        simp [accepted, Association.wanted, Except.map]
  | environment =>
      unfold Granted perform answer setEnvironment
      dsimp only
      rcases environmentArgument_cases argument with ⟨table, rfl, judged⟩ | ⟨refused, judged⟩
      · by_cases supported : Association.environment.storage value.category = .unsupported
        · refine .inl ⟨fun granted => granted.2 supported, ?_⟩
          simp [judged, supported, Association.accepts, Association.unsupportedFault, Except.map]
        · refine .inr ⟨⟨rfl, supported⟩, ?_⟩
          simp [judged, supported, Association.accepts, give, Except.map]
      · refine .inl ⟨fun granted => Bool.false_ne_true (refused.symm.trans granted.1), ?_⟩
        simp [judged, refused, Association.wanted, Except.map]

theorem Granted.owner (granted : request.Granted) :
    ∃ place, request.association.owner? request.value = some place := by
  obtain ⟨-, supported⟩ := granted
  unfold Association.owner?
  rw [if_neg supported]
  cases value : request.value with
  | nil | boolean _ | number _ =>
      rw [value] at supported
      cases association : request.association <;> rw [association] at supported <;>
        exact absurd rfl supported
  | _ => exact ⟨_, rfl⟩

/-- A granted request assigns its argument to one place. -/
theorem Granted.assigned (granted : request.Granted) {context : Context}
    (present : context.heap.Holds request.value) :
    ∃ place, request.association.owner? request.value = some place ∧
      Assigned (.association request.association place) request.argument context
        (context.give request) := by
  obtain ⟨place, owned⟩ := granted.owner
  refine ⟨place, owned, ?_⟩
  obtain ⟨kind, value, argument⟩ := request
  obtain ⟨accepted, -⟩ := granted
  cases kind with
  | metatable =>
      cases argument with
      | nil => exact putMetatable_assigned present owned none
      | table table => exact putMetatable_assigned present owned (some table)
      | _ => cases accepted
  | environment =>
      cases argument with
      | table table => exact putEnvironment_assigned present owned table
      | _ => cases accepted

/-- What an owner has after one request. -/
theorem contents_perform {context : Context} (present : context.heap.Holds request.value)
    (association : Association) (owner : Owner) :
    (request.perform context).2.contents (.association association owner) =
      if request.Reaches association owner then request.argument
      else context.contents (.association association owner) := by
  rcases request.perform_cases context with ⟨refused, made⟩ | ⟨granted, made⟩
  · rw [made, if_neg fun reaches => refused reaches.1]
  · obtain ⟨place, owned, assigned⟩ := granted.assigned present
    rw [made]
    by_cases reaches : request.Reaches association owner
    · obtain ⟨-, rfl, same⟩ := id reaches
      have here : place = owner := Option.some.inj (owned.symm.trans same)
      subst here
      rw [if_pos reaches]
      exact assigned.holds
    · rw [if_neg reaches]
      apply assigned.only.contents
      intro same
      cases same
      exact reaches ⟨granted, rfl, owned⟩

theorem objects_perform {context : Context} (present : context.heap.Holds request.value) :
    context.heap.Keeps (request.perform context).2.heap ∧
      (request.perform context).2.thread = context.thread := by
  rcases request.perform_cases context with ⟨-, made⟩ | ⟨granted, made⟩
  · rw [made]
    exact ⟨.refl _, rfl⟩
  · obtain ⟨place, -, assigned⟩ := granted.assigned present
    rw [made]
    exact ⟨assigned.only.objects, assigned.only.thread⟩

end AssociationRequest

namespace Context

variable {context : Context} {requests : List AssociationRequest}

theorem objects_associate (present : ∀ request ∈ requests, context.heap.Holds request.value) :
    context.heap.Keeps (context.associate requests).heap ∧
      (context.associate requests).thread = context.thread := by
  induction requests using List.reverseRecOn with
  | nil => exact ⟨.refl _, rfl⟩
  | append_singleton requests request ih =>
      obtain ⟨earlier, last⟩ := List.forall_mem_append.mp present
      obtain ⟨objects, thread⟩ := ih earlier
      have held := objects.holds (last request List.mem_cons_self)
      obtain ⟨objectsAfter, threadAfter⟩ := request.objects_perform held
      rw [associate_concat]
      exact ⟨objects.trans objectsAfter, threadAfter.trans thread⟩

theorem contents_associate (present : ∀ request ∈ requests, context.heap.Holds request.value)
    (association : Association) (owner : Owner) :
    (context.associate requests).contents (.association association owner) =
      (lastGiven? association owner requests).getD
        (context.contents (.association association owner)) := by
  induction requests using List.reverseRecOn with
  | nil => rfl
  | append_singleton requests request ih =>
      obtain ⟨earlier, last⟩ := List.forall_mem_append.mp present
      have held := (objects_associate earlier).1.holds (last request List.mem_cons_self)
      rw [associate_concat, request.contents_perform held, ih earlier, lastGiven?_concat]
      split <;> rfl

/-! ### Answers -/

/-- The value can have an environment and was not given one. -/
def Inherits (context : Context) (value : Value) : Prop :=
  ∃ owner, Association.environment.owner? value = some owner ∧
    context.contents (.association .environment owner) = .nil

theorem getMetatable_eq (context : Context) (value : Value) :
    context.getMetatable value =
      ((Association.metatable.owner? value).map fun owner =>
        context.contents (.association .metatable owner)).getD .nil := by
  cases value <;> rfl

def orGlobals (context : Context) (given : Value) : Value :=
  if given = .nil then .table context.globals else given

theorem getEnvironment_eq (context : Context) (value : Value) :
    context.getEnvironment value =
      ((Association.environment.owner? value).map fun owner =>
        context.orGlobals (context.contents (.association .environment owner))).getD .nil := by
  have given : ∀ chosen : Option TableId,
      Value.table (chosen.getD context.globals) = context.orGlobals (.ofTable? chosen) := by
    intro chosen
    cases chosen <;> rfl
  cases value with
  | function id => exact given (context.heap.function id).environment
  | userdata id => exact given (context.heap.userdataAt id).environment
  | _ => rfl

theorem orGlobals_of_ne (context : Context) {given : Value} (present : given ≠ .nil) :
    context.orGlobals given = given :=
  if_neg present

theorem Inherits.getEnvironment {value : Value} (inherits : context.Inherits value) :
    context.getEnvironment value = .table context.globals := by
  obtain ⟨owner, owned, absent⟩ := inherits
  rw [getEnvironment_eq, owned, Option.map_some, absent]
  rfl

def lastOf? (association : Association) (requests : List AssociationRequest) (value : Value) :
    Option Value :=
  (association.owner? value).bind fun owner => lastGiven? association owner requests

theorem lastGiven?_environment_ne_nil (owner : Owner) (requests : List AssociationRequest) :
    lastGiven? .environment owner requests ≠ some .nil := by
  intro given
  obtain ⟨request, found, argument⟩ := Option.map_eq_some_iff.mp given
  have reaches : request.Reaches .environment owner := by simpa using List.find?_some found
  obtain ⟨⟨accepted, -⟩, kind, -⟩ := reaches
  rw [kind, argument] at accepted
  cases accepted

section Sequence

variable (present : ∀ request ∈ requests, context.heap.Holds request.value) (value : Value)
include present

theorem getMetatable_associate :
    (context.associate requests).getMetatable value =
      (lastOf? .metatable requests value).getD (context.getMetatable value) := by
  rw [getMetatable_eq, getMetatable_eq]
  unfold lastOf?
  cases Association.metatable.owner? value with
  | none => rfl
  | some owner => exact contents_associate present .metatable owner

/-- A value inherits its environment until it is given one. -/
theorem inherits_associate_iff :
    (context.associate requests).Inherits value ↔
      context.Inherits value ∧ lastOf? .environment requests value = none := by
  unfold Inherits lastOf?
  cases Association.environment.owner? value with
  | none => simp
  | some owner =>
      simp only [Option.some.injEq, exists_eq_left', Option.bind_some, contents_associate present]
      cases given : lastGiven? .environment owner requests with
      | none => simp
      | some argument =>
          have nonNil : argument ≠ .nil := by
            rintro rfl
            exact lastGiven?_environment_ne_nil owner requests given
          simp [nonNil]

theorem getEnvironment_associate (own : ¬ (context.associate requests).Inherits value) :
    (context.associate requests).getEnvironment value =
      (lastOf? .environment requests value).getD (context.getEnvironment value) := by
  rw [getEnvironment_eq, getEnvironment_eq]
  unfold Inherits at own
  unfold lastOf?
  cases owned : Association.environment.owner? value with
  | none => rfl
  | some owner =>
      have given : (context.associate requests).contents (.association .environment owner) ≠ .nil :=
        fun absent => own ⟨owner, owned, absent⟩
      rw [Option.map_some, Option.map_some, Option.bind_some, Option.getD_some, Option.getD_some,
        orGlobals_of_ne _ given]
      rw [contents_associate present] at given ⊢
      cases last : lastGiven? .environment owner requests with
      | none =>
          rw [last] at given
          exact (orGlobals_of_ne context given).symm
      | some argument => rfl

end Sequence

section Thread

variable {thread : ThreadId} (present : context.heap.Holds (.thread thread)) (table : TableId)
include present

theorem setThread_assigned :
    Assigned (.association .environment (.thread thread)) (.table table) context
      (context.setEnvironment (.thread thread) (.table table)).2 :=
  putEnvironment_assigned present rfl table

/-- The globals are the environment of the context's own thread. -/
theorem globals_setThread :
    (context.setEnvironment (.thread thread) (.table table)).2.globals =
      if thread = context.thread then table else context.globals := by
  have assigned := setThread_assigned present table
  have read : ∀ other : Context, other.contents (.association .environment (.thread other.thread)) =
      .table other.globals := fun _ => rfl
  apply Value.table.inj
  rw [← read, assigned.only.thread]
  by_cases own : thread = context.thread
  · rw [if_pos own, ← own, assigned.holds]
  · have other : some (Location.association .environment (.thread thread)) ≠
        some (.association .environment (.thread context.thread)) := by
      intro same
      injections
      contradiction
    rw [if_neg own, assigned.only.contents _ other, read]

theorem Inherits.setThread {value : Value} (inherits : context.Inherits value) :
    (context.setEnvironment (.thread thread) (.table table)).2.getEnvironment value =
      if thread = context.thread then .table table else context.getEnvironment value := by
  have assigned := setThread_assigned present table
  obtain ⟨owner, owned, absent⟩ := id inherits
  have other : some (Location.association .environment (.thread thread)) ≠
      some (.association .environment owner) := by
    intro same
    cases same
    cases absent
  have still : (context.setEnvironment (.thread thread) (.table table)).2.Inherits value :=
    ⟨owner, owned, (assigned.only.contents _ other).trans absent⟩
  rw [still.getEnvironment, globals_setThread present, inherits.getEnvironment]
  split <;> rfl

end Thread

/-! ### Laws -/

/-- How values answer after requests: as the last request for their owner says, or else as
before. -/
structure AssociationLaws (context later : Context) (requests : List AssociationRequest) :
    Prop where
  metatable : ∀ value, later.getMetatable value =
    (lastOf? .metatable requests value).getD (context.getMetatable value)
  environment : ∀ value, ¬ later.Inherits value → later.getEnvironment value =
    (lastOf? .environment requests value).getD (context.getEnvironment value)
  inherits_iff : ∀ value, later.Inherits value ↔
    context.Inherits value ∧ lastOf? .environment requests value = none
  inherited : ∀ value, later.Inherits value →
    later.getEnvironment value = later.getEnvironment (.thread context.thread)
  globals : later.getEnvironment (.thread context.thread) = .table later.globals
  /-- One more environment, for a thread. -/
  threadGlobals : ∀ thread table, context.heap.Holds (.thread thread) →
    (later.setEnvironment (.thread thread) (.table table)).2.globals =
      if thread = context.thread then table else later.globals
  threadInherited : ∀ thread table, context.heap.Holds (.thread thread) →
    ∀ value, later.Inherits value →
      (later.setEnvironment (.thread thread) (.table table)).2.getEnvironment value =
        if thread = context.thread then .table table else later.getEnvironment value
  /-- Unqualified names are looked up in the function's environment. -/
  resolved : ∀ function table name, later.getEnvironment (.function function) = .table table →
    context.heap.Holds (.table table) →
      later.resolveGlobal function name = (context.heap.table table).get name

theorem associationLaws (present : ∀ request ∈ requests, context.heap.Holds request.value) :
    AssociationLaws context (context.associate requests) requests := by
  obtain ⟨objects, thread⟩ := objects_associate present
  have own : (context.associate requests).getEnvironment (.thread context.thread) =
      .table (context.associate requests).globals := by
    rw [← thread]
    rfl
  refine
    { metatable := getMetatable_associate present
      environment := fun value => getEnvironment_associate present value
      inherits_iff := inherits_associate_iff present
      inherited := fun value inherits => inherits.getEnvironment.trans own.symm
      globals := own
      threadGlobals := ?_
      threadInherited := ?_
      resolved := ?_ }
  · intro other table held
    rw [globals_setThread (objects.holds held), thread]
  · intro other table held value inherits
    rw [inherits.setThread (objects.holds held), thread]
  · intro function table name environment held
    have same : (context.associate requests).functionEnvironment function = table :=
      Value.table.inj environment
    unfold resolveGlobal
    rw [same]
    unfold Table.get
    rw [objects.entries table held]

end Context

/-- A request is granted exactly if its argument can be given and its value has storage for the
association; the argument is judged first. A request that is refused changes nothing, and after any
requests each value answers as the last one granted for its owner says. -/
theorem associations_form_map (context : Context) (requests : List AssociationRequest)
    (present : ∀ request ∈ requests, context.heap.Holds request.value) :
    (∀ request : AssociationRequest,
      (request.perform (context.associate requests)).1 = request.answer ∧
      ((∃ results, request.answer = .ok results) ↔ request.Granted) ∧
      (¬ request.Granted →
        (request.perform (context.associate requests)).2 = context.associate requests)) ∧
    Context.AssociationLaws context (context.associate requests) requests := by
  refine ⟨?_, Context.associationLaws present⟩
  intro request
  have answered : (∃ results, request.answer = .ok results) ↔ request.Granted := by
    refine ⟨?_, AssociationRequest.Granted.answer_eq_ok⟩
    rintro ⟨results, granted⟩
    by_contra refused
    obtain ⟨position, cause, answer⟩ := AssociationRequest.answer_of_not_granted refused
    rw [granted] at answer
    cases answer
  rcases request.perform_cases (context.associate requests) with ⟨refused, made⟩ | ⟨granted, made⟩
  · rw [made]
    exact ⟨rfl, answered, fun _ => rfl⟩
  · rw [made]
    exact ⟨rfl, answered, fun refused => absurd granted refused⟩

def sharedContext : Context :=
  let heap := (Heap.empty.addTable {}).2
  let heap := (heap.addTable {}).2
  Context.create (heap.addFunction { code := .script { source := "@sample" } }).2 {}

/-- The thread is given other globals, texts are given a metatable, and numbers are refused one. -/
def sharedRequests : List AssociationRequest :=
  [⟨.environment, .thread ⟨0⟩, .table ⟨1⟩⟩, ⟨.metatable, .text "one", .table ⟨0⟩⟩,
    ⟨.metatable, .number ⟨0⟩, .table ⟨1⟩⟩]

/-- Another text has the metatable, and the function has the other globals. -/
theorem associations_form_map_shared :
    (∀ request ∈ sharedRequests, sharedContext.heap.Holds request.value) ∧
    (sharedContext.associate sharedRequests).getMetatable (.text "other") = .table ⟨0⟩ ∧
    sharedContext.Inherits (.function ⟨0⟩) ∧
    (sharedContext.associate sharedRequests).getEnvironment (.function ⟨0⟩) = .table ⟨1⟩ ∧
    (AssociationRequest.perform ⟨.environment, .nil, .nil⟩
        (sharedContext.associate sharedRequests)) =
      (.error (.argument 2 none (.expected .table (some .nil))),
        sharedContext.associate sharedRequests) := by
  have present : ∀ request ∈ sharedRequests, sharedContext.heap.Holds request.value := by decide
  obtain ⟨answers, laws⟩ := associations_form_map sharedContext sharedRequests present
  have inherits : sharedContext.Inherits (.function ⟨0⟩) := ⟨_, rfl, rfl⟩
  have inheritsAfter : (sharedContext.associate sharedRequests).Inherits (.function ⟨0⟩) :=
    (laws.inherits_iff _).mpr ⟨inherits, by decide⟩
  obtain ⟨answer, -, unchanged⟩ := answers ⟨.environment, .nil, .nil⟩
  refine ⟨present, ?_, inherits, ?_, Prod.ext answer (unchanged (by decide))⟩
  · rw [laws.metatable]
    decide
  · rw [laws.inherited _ inheritsAfter, laws.globals]
    rfl

end StackScope
