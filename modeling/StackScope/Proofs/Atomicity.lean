import StackScope.Proofs.StackIntegrity

/-!
What a refused operation leaves behind. Operations judge before they act, so a refusal changes
nothing at all: no frame, no value on the stack, no cell and no other object.

The exception is a tail call in a context whose limit was lowered below its depth. The current frame
is removed before the new call is refused, and it does not come back.
-/

namespace StackScope

namespace Operation

/-- The operation fails; a call of a host function, before the function runs. -/
def Refused (operation : Operation) (context : Context) : Prop :=
  match operation with
  | call function arguments => ∃ fault, (context.call function arguments).1 = .error fault
  | tailCall function arguments => ∃ fault, (context.tailCall function arguments).1 = .error fault
  | callHost function _ =>
      (context.heap.function function).code.isHost = false ∨
        context.config.maxCallDepth ≤ context.depth
  | returnFromCall => ∃ fault, context.returnFromCall.1 = .error fault
  | setPosition position => ∃ fault, (context.setPosition position).1 = .error fault
  | writeRegister register value => ∃ fault, (context.setRegister register value).1 = .error fault
  | capture register => ∃ fault, (context.capture register).1 = .error fault
  | _ => False

/-- A tail call from a script frame to a script function, in a context that is deeper than its limit
allows. -/
def DropsFrame (operation : Operation) (context : Context) : Prop :=
  match operation with
  | tailCall function _ =>
      (∃ frame ∈ context.currentFrame?, frame.isHost = false) ∧
        (context.heap.function function).code.isHost = false ∧
        context.config.maxCallDepth < context.depth
  | _ => False

end Operation

namespace Context

variable {context : Context}

theorem call_refused {function : FunctionId} {arguments : List Value} {fault : Fault}
    (refused : (context.call function arguments).1 = .error fault) :
    (context.call function arguments).2 = context := by
  rcases context.call_cases function arguments with ⟨-, same⟩ | ⟨-, made⟩
  · rw [same]
  · rw [made] at refused
    cases refused

theorem returnFromCall_refused {fault : Fault}
    (refused : context.returnFromCall.1 = .error fault) :
    context.returnFromCall.2 = context := by
  rcases context.returnFromCall_cases with ⟨-, same⟩ | ⟨-, made⟩
  · rw [same]
  · rw [made] at refused
    cases refused

theorem setPosition_refused {position : Nat} {fault : Fault}
    (refused : (context.setPosition position).1 = .error fault) :
    (context.setPosition position).2 = context := by
  rcases context.setPosition_cases position with ⟨cause, same⟩ | ⟨_, _, _, -, -, -, made⟩
  · rw [same]
  · rw [made] at refused
    cases refused

theorem setRegister_refused {register : Nat} {value : Value} {fault : Fault}
    (refused : (context.setRegister register value).1 = .error fault) :
    (context.setRegister register value).2 = context := by
  rcases context.setRegister_cases register value with ⟨cause, same⟩ | ⟨_, _, _, -, -, made⟩
  · rw [same]
  · rw [made] at refused
    cases refused

theorem capture_refused {register : Nat} {fault : Fault}
    (refused : (context.capture register).1 = .error fault) :
    context.capture register = (.error fault, context) := by
  rcases context.capture_cases register with
    ⟨cause, same⟩ | ⟨_, _, _, -, -, ⟨_, -, again⟩ | ⟨-, made⟩⟩
  · rw [same] at refused ⊢
    cases refused
    rfl
  · rw [again] at refused
    cases refused
  · rw [made] at refused
    cases refused

theorem callHost_refused {function : FunctionId}
    (refused : (context.heap.function function).code.isHost = false ∨
      context.config.maxCallDepth ≤ context.depth) (arguments : List Value) :
    (context.callHost function arguments).2 = context := by
  change (callHostWith (callHostWithin (nestingLimit - 1)) function arguments context).2 = context
  rcases callHostWith_cases (callHostWithin (nestingLimit - 1)) (fun _ _ _ => []) function arguments
    context with ⟨-, same, -⟩ | ⟨-, -, same, -⟩ | ⟨host, code, room, -, -⟩
  · rw [same]
  · rw [same]
  · rw [code] at refused
    rcases refused with script | full
    · cases script
    · omega

/-- A refused tail call changes the context only where it drops a frame. -/
theorem tailCall_refused {function : FunctionId} {arguments : List Value} {fault : Fault}
    (refused : (context.tailCall function arguments).1 = .error fault) :
    (¬ (Operation.tailCall function arguments).DropsFrame context ∧
      (context.tailCall function arguments).2 = context) ∨
    ((Operation.tailCall function arguments).DropsFrame context ∧
      (context.tailCall function arguments).2 = context.popFrame) := by
  rcases context.tailCall_cases function arguments with
    ⟨early, cause, same⟩ |
      ⟨frame, outer, frames, script, target, ⟨full, late⟩ | ⟨room, made⟩⟩
  · refine .inl ⟨?_, by rw [same]⟩
    rintro ⟨⟨frame, current, script⟩, target, -⟩
    rcases early frame current with host | host
    · rw [script] at host
      cases host
    · rw [target] at host
      cases host
  · refine .inr ⟨⟨⟨frame, by rw [currentFrame?, frames]; rfl, script⟩, target, ?_⟩, by rw [late]⟩
    rw [depth, frames, List.length_cons]
    omega
  · rw [made] at refused
    cases refused

theorem popFrame_ne {frame : Frame} (current : frame ∈ context.currentFrame?) :
    context.popFrame ≠ context := by
  intro same
  have lengths := congrArg Context.depth same
  rw [depth, frames_popFrame, List.length_tail] at lengths
  cases frames : context.frames with
  | nil =>
      rw [currentFrame?, frames] at current
      cases current
  | cons first outer =>
      rw [depth, frames, List.length_cons] at lengths
      omega

end Context

theorem Operation.execute_refused {operation : Operation} {context : Context}
    (refused : operation.Refused context) (cells : List CellId)
    (other : ∀ function arguments, operation ≠ .tailCall function arguments) :
    (operation.execute (callHostWithin nestingLimit) cells context).2 = (cells, context) := by
  cases operation with
  | call function arguments =>
      obtain ⟨fault, refused⟩ := refused
      exact congrArg (Prod.mk cells) (Context.call_refused refused)
  | tailCall function arguments => exact absurd rfl (other function arguments)
  | callHost function arguments =>
      exact congrArg (Prod.mk cells) (Context.callHost_refused refused arguments)
  | returnFromCall =>
      obtain ⟨fault, refused⟩ := refused
      exact congrArg (Prod.mk cells) (Context.returnFromCall_refused refused)
  | setPosition position =>
      obtain ⟨fault, refused⟩ := refused
      exact congrArg (Prod.mk cells) (Context.setPosition_refused refused)
  | writeRegister register value =>
      obtain ⟨fault, refused⟩ := refused
      exact congrArg (Prod.mk cells) (Context.setRegister_refused refused)
  | capture register =>
      obtain ⟨fault, refused⟩ := refused
      simp only [execute, Context.capture_refused refused]
  | _ => exact refused.elim

/-- A refused operation leaves the context as it was, unless it is a tail call that drops a frame;
then exactly that frame is gone. -/
theorem refused_keeps_context {operation : Operation} {context : Context}
    (refused : operation.Refused context) (cells : List CellId) :
    ((operation.execute (callHostWithin nestingLimit) cells context).2 = (cells, context) ↔
      ¬ operation.DropsFrame context) ∧
    (operation.DropsFrame context →
      (operation.execute (callHostWithin nestingLimit) cells context).2 =
        (cells, context.popFrame)) := by
  by_cases isTail : ∃ function arguments, operation = .tailCall function arguments
  · obtain ⟨function, arguments, rfl⟩ := isTail
    obtain ⟨fault, refused⟩ := refused
    change ((cells, (context.tailCall function arguments).2) = (cells, context) ↔ _) ∧
      (_ → (cells, (context.tailCall function arguments).2) = (cells, context.popFrame))
    rcases Context.tailCall_refused refused with ⟨keeps, same⟩ | ⟨drops, popped⟩
    · rw [same]
      exact ⟨⟨fun _ => keeps, fun _ => rfl⟩, fun drops => absurd drops keeps⟩
    · rw [popped]
      refine ⟨⟨?_, fun keeps => absurd drops keeps⟩, fun _ => rfl⟩
      intro same
      obtain ⟨⟨frame, current, -⟩, -, -⟩ := drops
      exact absurd (Prod.mk.inj same).2 (Context.popFrame_ne current)
  · have other : ∀ function arguments, operation ≠ .tailCall function arguments :=
      fun function arguments same => isTail ⟨function, arguments, same⟩
    have keeps : ¬ operation.DropsFrame context := by
      intro drops
      cases operation with
      | tailCall function arguments => exact other function arguments rfl
      | _ => exact drops
    exact ⟨⟨fun _ => keeps, fun _ => Operation.execute_refused refused cells other⟩,
      fun drops => absurd drops keeps⟩

def loweredLimit : Context :=
  (((Context.create sampleHeap {}).call ⟨0⟩ []).2.call ⟨0⟩ []).2.setConfig { maxCallDepth := 1 }

/-- Below the lowered limit a write outside of the window changes nothing, and a tail call loses the
current frame. -/
theorem refused_keeps_context_lowered :
    (Operation.writeRegister 2 .nil).Refused loweredLimit ∧
    ((Operation.writeRegister 2 .nil).execute (callHostWithin nestingLimit) [] loweredLimit).2 =
      ([], loweredLimit) ∧
    (Operation.tailCall ⟨0⟩ []).Refused loweredLimit ∧
    ((Operation.tailCall ⟨0⟩ []).execute (callHostWithin nestingLimit) [] loweredLimit).2 =
      ([], loweredLimit.popFrame) := by
  have write : (Operation.writeRegister 2 .nil).Refused loweredLimit := ⟨_, rfl⟩
  have tail : (Operation.tailCall ⟨0⟩ []).Refused loweredLimit := ⟨_, rfl⟩
  have drops : (Operation.tailCall ⟨0⟩ []).DropsFrame loweredLimit :=
    ⟨⟨_, rfl, rfl⟩, rfl, by decide⟩
  exact ⟨write, (refused_keeps_context write []).1.mpr (fun impossible => impossible), tail,
    (refused_keeps_context tail []).2 drops⟩

theorem tailCall_not_atomic :
    loweredLimit.Reachable ∧ (Operation.tailCall ⟨0⟩ []).Refused loweredLimit ∧
      ((Operation.tailCall ⟨0⟩ []).execute (callHostWithin nestingLimit) [] loweredLimit).2 ≠
        ([], loweredLimit) := by
  refine ⟨.setConfig _ (.call _ _ (.call _ _ (.create _ _))), ⟨_, rfl⟩, ?_⟩
  intro same
  have depths : 1 = 2 := congrArg (fun outcome => outcome.2.depth) same
  cases depths

end StackScope
