import StackScope.Proofs.StackIntegrity
import StackScope.Proofs.Storage

/-!
The functions of frames. A frame remembers the code of its function. As long as only functions that
exist are called, this is the code that the function has on the heap: functions are never removed,
and they keep their code.
-/

namespace StackScope

namespace Context

/-- The frames run functions that exist, and the code that these functions have. -/
def Linked (context : Context) : Prop :=
  ∀ frame ∈ context.frames, context.heap.Holds (.function frame.function) ∧
    (context.heap.function frame.function).code = frame.code

end Context

def Operation.Known (operation : Operation) (context : Context) : Prop :=
  match operation with
  | call function _ | tailCall function _ | callHost function _ =>
      context.heap.Holds (.function function)
  | _ => True

namespace Context.Linked

variable {context later : Context}

theorem setObjects (linked : context.Linked) (effect : context.ObjectsGrow later) :
    later.Linked := by
  obtain ⟨heap, stringMetatable, grows, rfl⟩ := effect
  intro frame member
  obtain ⟨present, same⟩ := linked frame member
  exact ⟨Nat.lt_of_lt_of_le present grows.functions, (grows.code _ present).trans same⟩

theorem effect (linked : context.Linked) {operation : Operation} (known : operation.Known context)
    (effect : operation.Effect context later) : later.Linked := by
  have grows := effect.grows
  intro frame member
  rcases effect.frame_cases member with
    ⟨earlier, before, continues⟩ | ⟨function, arguments, called, begins⟩
  · obtain ⟨present, same⟩ := linked earlier before
    rw [continues.function, continues.code]
    exact ⟨Nat.lt_of_lt_of_le present grows.functions, (grows.code _ present).trans same⟩
  · have present : context.heap.Holds (.function function) := by
      rcases called with rfl | rfl <;> exact known
    rw [begins.function, begins.code]
    exact ⟨Nat.lt_of_lt_of_le present grows.functions, grows.code _ present⟩

theorem kept : Kept Operation.Known Context.Linked where
  objects := fun objects linked => linked.setObjects objects
  effect := fun known effect linked => linked.effect known effect

end Context.Linked

namespace Context

/-- Operations lead to the context, and all functions that were called did exist. -/
def Established (context : Context) : Prop :=
  ∃ heap config, (create heap config).LeadsTo Operation.Known context

namespace Established

variable {context : Context} {function : FunctionId}

theorem create (heap : Heap) (config : Config) : (create heap config).Established :=
  ⟨heap, config, .refl⟩

theorem call (established : context.Established)
    (present : context.heap.Holds (.function function)) (arguments : List Value) :
    (context.call function arguments).2.Established :=
  established.imp fun _ => Exists.imp fun _ leads => leads.call present

theorem tailCall (established : context.Established)
    (present : context.heap.Holds (.function function)) (arguments : List Value) :
    (context.tailCall function arguments).2.Established :=
  established.imp fun _ => Exists.imp fun _ leads => leads.tailCall present

theorem setPosition (established : context.Established) (position : Nat) :
    (context.setPosition position).2.Established :=
  established.imp fun _ => Exists.imp fun _ leads => leads.setPosition trivial

theorem linked (established : context.Established) : context.Linked := by
  obtain ⟨heap, config, leads⟩ := established
  refine leads.keeps Linked.kept ?_
  intro frame member
  cases member

end Established

end Context

end StackScope
