import StackScope.Proofs.HostRun

/-!
Reachable contexts: what any sequence of operations makes of a new context.

A host function that runs needs no rule of its own. It is a call, the operations of its body and a
return, so the contexts that it sees while it runs are reachable as well.
-/

namespace StackScope

namespace Context

/-- What operations make of a context, each of them allowed when it is asked for. Objects are made
and changed in between, in whatever way. -/
inductive LeadsTo (allowed : Operation → Context → Prop) (start : Context) : Context → Prop
  | refl : LeadsTo allowed start start
  | setObjects {context later : Context} :
      LeadsTo allowed start context → context.ObjectsGrow later → LeadsTo allowed start later
  | perform {context : Context} (operation : Operation) (callHost : HostCaller)
      (cells : List CellId) : (∀ function arguments, operation ≠ .callHost function arguments) →
      allowed operation context → LeadsTo allowed start context →
        LeadsTo allowed start (operation.execute callHost cells context).2.2

def Reachable (context : Context) : Prop :=
  ∃ heap config, (create heap config).LeadsTo (fun _ _ => True) context

theorem Intact.kept {allowed : Operation → Context → Prop} : Kept allowed Intact where
  objects := fun objects intact => intact.objects objects
  effect := fun _ effect intact => intact.effect effect

namespace LeadsTo

variable {allowed : Operation → Context → Prop} {start context : Context}

theorem keeps {holds : Context → Prop} (leads : start.LeadsTo allowed context)
    (kept : Kept allowed holds) (begins : holds start) : holds context := by
  induction leads with
  | refl => exact begins
  | setObjects _ objects ih => exact kept.objects objects ih
  | perform operation callHost cells other permitted _ ih =>
      exact kept.effect permitted (Operation.execute_effect other callHost cells _) ih

section Operations

variable (leads : start.LeadsTo allowed context)
include leads

theorem call {function : FunctionId} {arguments : List Value}
    (permitted : allowed (.call function arguments) context) :
    start.LeadsTo allowed (context.call function arguments).2 :=
  leads.perform _ (callHostWithin 0) [] (by simp) permitted

theorem tailCall {function : FunctionId} {arguments : List Value}
    (permitted : allowed (.tailCall function arguments) context) :
    start.LeadsTo allowed (context.tailCall function arguments).2 :=
  leads.perform _ (callHostWithin 0) [] (by simp) permitted

theorem returnFromCall (permitted : allowed .returnFromCall context) :
    start.LeadsTo allowed context.returnFromCall.2 :=
  leads.perform _ (callHostWithin 0) [] (by simp) permitted

theorem setPosition {position : Nat} (permitted : allowed (.setPosition position) context) :
    start.LeadsTo allowed (context.setPosition position).2 :=
  leads.perform _ (callHostWithin 0) [] (by simp) permitted

theorem setRegister {register : Nat} {value : Value}
    (permitted : allowed (.writeRegister register value) context) :
    start.LeadsTo allowed (context.setRegister register value).2 :=
  leads.perform _ (callHostWithin 0) [] (by simp) permitted

theorem capture {register : Nat} (permitted : allowed (.capture register) context) :
    start.LeadsTo allowed (context.capture register).2 := by
  rw [← Operation.execute_capture_context (callHostWithin 0) []]
  exact leads.perform _ (callHostWithin 0) [] (by simp) permitted

theorem setLocal {level : Level} {ordinal : Nat} {value : Value}
    (permitted : allowed (.setLocal level ordinal value) context) :
    start.LeadsTo allowed (context.setLocal level ordinal value).2 :=
  leads.perform _ (callHostWithin 0) [] (by simp) permitted

theorem setConfig {config : Config} (permitted : allowed (.setConfig config) context) :
    start.LeadsTo allowed (context.setConfig config) :=
  leads.perform _ (callHostWithin 0) [] (by simp) permitted

end Operations

/-- A run leads from context to context. -/
theorem preserved (permits : Permits allowed) : Preserved allowed (LeadsTo allowed start) where
  step := fun other permitted leads callHost cells =>
    leads.perform _ callHost cells other permitted
  enter := fun permitted leads => leads.call (permits.call permitted)
  leave := by
    intro context leads
    rw [← returnFromCall_context]
    exact leads.returnFromCall (permits.returnFromCall context)
  library := by
    intro _ arguments _ function _ _ context leads
    -- The body of a library function is no program: it changes objects, or it writes one local.
    rcases function.run_cases arguments context with objects | ⟨level, ordinal, value, written⟩
    · exact leads.setObjects objects
    · rw [written]
      exact leads.setLocal (permits.setLocal _ _ _ context)

end LeadsTo

namespace Reachable

variable {context later : Context}

theorem create (heap : Heap) (config : Config) : (create heap config).Reachable :=
  ⟨heap, config, .refl⟩

theorem setObjects (reachable : context.Reachable) (effect : context.ObjectsGrow later) :
    later.Reachable := by
  obtain ⟨heap, config, leads⟩ := reachable
  exact ⟨heap, config, leads.setObjects effect⟩

theorem perform (operation : Operation) (callHost : HostCaller) (cells : List CellId)
    (other : ∀ function arguments, operation ≠ .callHost function arguments)
    (reachable : context.Reachable) : (operation.execute callHost cells context).2.2.Reachable := by
  obtain ⟨heap, config, leads⟩ := reachable
  exact ⟨heap, config, leads.perform operation callHost cells other trivial⟩

theorem call (function : FunctionId) (arguments : List Value) (reachable : context.Reachable) :
    (context.call function arguments).2.Reachable :=
  reachable.imp fun _ => Exists.imp fun _ leads => leads.call trivial

theorem setPosition (position : Nat) (reachable : context.Reachable) :
    (context.setPosition position).2.Reachable :=
  reachable.imp fun _ => Exists.imp fun _ leads => leads.setPosition trivial

theorem setRegister {register : Nat} (value : Value) (reachable : context.Reachable) :
    (context.setRegister register value).2.Reachable :=
  reachable.imp fun _ => Exists.imp fun _ leads => leads.setRegister trivial

theorem capture {register : Nat} (reachable : context.Reachable) :
    (context.capture register).2.Reachable :=
  reachable.imp fun _ => Exists.imp fun _ leads => leads.capture trivial

theorem setConfig (config : Config) (reachable : context.Reachable) :
    (context.setConfig config).Reachable :=
  reachable.imp fun _ => Exists.imp fun _ leads => leads.setConfig trivial

theorem setHeap (reachable : context.Reachable) {heap : Heap} (grows : context.heap.Grows heap) :
    ({ context with heap } : Context).Reachable :=
  reachable.setObjects (.ofHeap grows)

theorem keeps {holds : Context → Prop} (reachable : context.Reachable)
    (kept : Kept (fun _ _ => True) holds)
    (begins : ∀ heap config, holds (Context.create heap config)) : holds context := by
  obtain ⟨heap, config, leads⟩ := reachable
  exact leads.keeps kept (begins heap config)

theorem intact (reachable : context.Reachable) : context.Intact :=
  reachable.keeps Intact.kept Intact.create

end Reachable

end Context

end StackScope
