import Mathlib.Data.List.Forall2
import StackScope.Proofs.HostBalance
import StackScope.Proofs.Levels

/-!
Levels and the history of calls. A context does not record which calls tail calls have replaced;
each frame only counts them, in a word that wraps around. `CallHistory` keeps the true counts beside
a run, and the levels are read off from them: the chain of all calls that have not returned, from
the innermost one outward.
-/

namespace StackScope

def afterCall : Except Fault Unit → List Nat → List Nat
  | .ok (), counts => 0 :: counts
  | .error _, counts => counts

/-- The counts after a tail call. One that is refused for want of room has lost the current
frame. -/
def afterTailCall : Except Fault Unit → List Nat → List Nat
  | .ok (), count :: older => (count + 1) :: older
  | .error (.stackOverflow _), _ :: older => older
  | _, counts => counts

def Operation.countsAfter : (operation : Operation) → operation.Reply → List Nat → List Nat
  | .call _ _, reply, counts => afterCall reply counts
  | .tailCall _ _, reply, counts => afterTailCall reply counts
  | .returnFromCall, _, counts => counts.tail
  | .unwind, _, _ => []
  | _, _, counts => counts

/-- For each frame of a reachable context, innermost first, how many tail calls the run collapsed
into it. -/
inductive CallHistory : Context → List Nat → Prop
  | create (heap : Heap) (config : Config) : CallHistory (Context.create heap config) []
  | setObjects {context later : Context} {counts : List Nat} :
      CallHistory context counts → context.ObjectsGrow later → CallHistory later counts
  | perform {context : Context} {counts : List Nat} (operation : Operation)
      (callHost : HostCaller) (cells : List CellId) :
      (∀ function arguments, operation ≠ .callHost function arguments) →
      CallHistory context counts →
        CallHistory (operation.execute callHost cells context).2.2
          (operation.countsAfter (operation.execute callHost cells context).1 counts)

theorem CallHistory.reachable {context : Context} {counts : List Nat}
    (history : CallHistory context counts) : context.Reachable := by
  induction history with
  | create heap config => exact .create heap config
  | setObjects _ effect ih => exact ih.setObjects effect
  | perform operation callHost cells other _ ih => exact ih.perform operation callHost cells other

theorem Context.Reachable.exists_history {context : Context} (reachable : context.Reachable) :
    ∃ counts, CallHistory context counts := by
  obtain ⟨heap, config, leads⟩ := reachable
  induction leads with
  | refl => exact ⟨[], .create heap config⟩
  | setObjects _ effect ih => exact ih.imp fun _ history => history.setObjects effect
  | perform operation callHost cells other _ _ ih =>
      obtain ⟨counts, history⟩ := ih
      exact ⟨_, history.perform operation callHost cells other⟩

/-- Each frame counts its tail calls as far as a word of 32 bits goes. -/
def Counted (frames : List Frame) (counts : List Nat) : Prop :=
  List.Forall₂ (fun frame count => frame.tailCalls = count % Word.size32) frames counts

namespace Counted

variable {context : Context} {counts : List Nat}

theorem tail {frames : List Frame} (counted : Counted frames counts) :
    Counted frames.tail counts.tail := by
  cases counted with
  | nil => exact .nil
  | cons _ rest => exact rest

theorem replaceHead {frame changed : Frame} {outer : List Frame}
    (counted : Counted (frame :: outer) counts) (same : changed.tailCalls = frame.tailCalls) :
    Counted (changed :: outer) counts := by
  cases counted with
  | cons first rest => exact .cons (same.trans first) rest

theorem call (counted : Counted context.frames counts) (function : FunctionId)
    (arguments : List Value) :
    Counted (context.call function arguments).2.frames
      (afterCall (context.call function arguments).1 counts) := by
  rcases context.call_cases function arguments with ⟨-, refused⟩ | ⟨-, made⟩
  · rw [refused]
    exact counted
  · rw [made]
    exact .cons rfl counted

theorem tailCall (counted : Counted context.frames counts) (function : FunctionId)
    (arguments : List Value) :
    Counted (context.tailCall function arguments).2.frames
      (afterTailCall (context.tailCall function arguments).1 counts) := by
  rcases context.tailCall_cases function arguments with
    ⟨-, cause, refused⟩ | ⟨frame, outer, frames, -, -, ⟨-, late⟩ | ⟨-, made⟩⟩
  · rw [refused]
    exact counted
  · rw [frames] at counted
    rw [late, Context.frames_popFrame, frames]
    cases counted with
    | cons _ rest => exact rest
  · rw [frames] at counted
    rw [made, Context.replaceFrame_cons frames]
    cases counted with
    | @cons _ count _ older first rest =>
        refine .cons ?_ rest
        change Word.nextCount frame.tailCalls = (count + 1) % Word.size32
        rw [Word.nextCount, first, Nat.mod_add_mod]

/-- An operation that neither makes nor ends calls keeps the counts. -/
theorem effect {later : Context} {operation : Operation} (counted : Counted context.frames counts)
    (effect : operation.Effect context later)
    (noCall : ∀ function arguments, operation ≠ .call function arguments)
    (noTailCall : ∀ function arguments, operation ≠ .tailCall function arguments)
    (noReturn : operation ≠ .returnFromCall) (noUnwind : operation ≠ .unwind) :
    Counted later.frames counts := by
  cases effect with
  | unchanged | stored | made | shared | configured => exact counted
  | pushed => exact absurd rfl (noCall _ _)
  | popped => exact absurd rfl noReturn
  | dropped | replaced => exact absurd rfl (noTailCall _ _)
  | discarded => exact absurd rfl noUnwind
  | positioned frames | attached frames =>
      rw [frames] at counted
      exact counted.replaceHead rfl
  | written | assigned =>
      rw [Context.frames_writeSlot]
      exact counted

end Counted

theorem CallHistory.counted {context : Context} {counts : List Nat}
    (history : CallHistory context counts) : Counted context.frames counts := by
  induction history with
  | create heap config => exact .nil
  | setObjects _ effect ih =>
      rw [effect.frames]
      exact ih
  | @perform context counts operation callHost cells other _ ih =>
      have effect := Operation.execute_effect other callHost cells context
      cases operation with
      | call function arguments => exact ih.call function arguments
      | tailCall function arguments => exact ih.tailCall function arguments
      | returnFromCall =>
          change Counted context.returnFromCall.2.frames counts.tail
          rw [Context.returnFromCall_context, Context.frames_popFrame]
          exact ih.tail
      | unwind => exact .nil
      | _ => refine ih.effect effect ?_ ?_ ?_ ?_ <;> simp

/-! ### The chain of calls -/

def withoutHidden {α : Type} (hidden : Bool) (calls : List α) : List α :=
  if hidden then calls.drop 1 else calls

/-- The calls that have not returned, innermost first: each frame by its position counted from the
outermost one, and behind it a trace for each call that it replaced. Introspective frames are left
out, and so is the outermost frame where it is hidden. -/
def callChain (hidden : Bool) (calls : List (Frame × Nat)) : List LevelSlot :=
  let shown := (withoutHidden hidden calls.reverse.zipIdx).filter
    fun call => !call.1.1.isIntrospective
  shown.reverse.flatMap fun call => .active call.2 :: List.replicate call.1.2 .tailCall

theorem withoutHidden_append {α : Type} {hidden : Bool} {calls : List α}
    (several : hidden = true → calls ≠ []) (last : α) :
    withoutHidden hidden (calls ++ [last]) = withoutHidden hidden calls ++ [last] := by
  cases hidden with
  | false => rfl
  | true =>
      have length : 1 ≤ calls.length := List.length_pos_iff.mpr (several rfl)
      exact List.drop_append_of_le_length length

theorem callChain_cons (hidden : Bool) (frame : Frame) (count : Nat)
    (outer : List (Frame × Nat)) :
    callChain hidden ((frame, count) :: outer) =
      if hidden && outer.isEmpty then []
      else if frame.isIntrospective then callChain hidden outer
      else .active outer.length ::
        (List.replicate count .tailCall ++ callChain hidden outer) := by
  have placed : ((frame, count) :: outer).reverse.zipIdx =
      outer.reverse.zipIdx ++ [((frame, count), outer.length)] := by
    rw [List.reverse_cons, List.zipIdx_append, List.length_reverse, Nat.zero_add]
    rfl
  split
  · rename_i alone
    obtain ⟨rfl, empty⟩ := Bool.and_eq_true_iff.mp alone
    rw [List.isEmpty_iff.mp empty]
    rfl
  · rename_i notAlone
    have several : hidden = true → outer.reverse.zipIdx ≠ [] := by
      intro hides nothing
      have lengths := congrArg List.length nothing
      rw [List.length_zipIdx, List.length_reverse, List.length_nil] at lengths
      rw [hides, List.length_eq_zero_iff.mp lengths] at notAlone
      exact notAlone rfl
    rw [callChain, placed, withoutHidden_append several, List.filter_append, List.reverse_append,
      List.flatMap_append]
    cases introspective : frame.isIntrospective with
    | true =>
        rw [List.filter_cons_of_neg (by simp [introspective])]
        rfl
    | false =>
        rw [List.filter_cons_of_pos (by simp [introspective]), if_neg Bool.false_ne_true,
          List.filter_nil, List.reverse_singleton, List.flatMap_singleton]
        rfl

/-- A frame in order stands for as many levels as it counts tail calls. -/
theorem Frame.Sound.collapsed_eq {frame : Frame} (sound : frame.Sound) :
    frame.collapsed = frame.tailCalls := by
  unfold Frame.collapsed
  split
  · rename_i host
    exact (sound.host host).2.symm
  · rfl

theorem slotsFrom_eq_callChain {frames : List Frame} {counts : List Nat}
    (counted : Counted frames counts) (sound : ∀ frame ∈ frames, frame.Sound)
    (few : ∀ count ∈ counts, count < Word.size32) (hidden : Bool) :
    slotsFrom hidden frames = callChain hidden (frames.zip counts) := by
  induction counted with
  | nil =>
      cases hidden with
      | false => rfl
      | true => rfl
  | @cons frame count outer older first rest ih =>
      obtain ⟨firstSound, restSound⟩ := List.forall_mem_cons.mp sound
      obtain ⟨firstFew, restFew⟩ := List.forall_mem_cons.mp few
      have few : frame.collapsed = count := by
        rw [firstSound.collapsed_eq, first, Nat.mod_eq_of_lt firstFew]
      have lengths : (outer.zip older).length = outer.length := by
        rw [List.length_zip, rest.length_eq, Nat.min_self]
      have empty : (outer.zip older).isEmpty = outer.isEmpty := by
        cases rest with
        | nil => rfl
        | cons _ _ => rfl
      rw [slotsFrom_cons, List.zip_cons_cons, callChain_cons, few, lengths, empty,
        ih restSound restFew]

/-- How the levels follow the operations. The operations leave the settings alone, so this holds
from step to step of every run in which nobody changes them. -/
structure LevelLaws (context : Context) (counts : List Nat) : Prop where
  called : ∀ function arguments, (context.call function arguments).1 = .ok () →
    (context.heap.function function).code.isIntrospective = false →
    ¬ (context.call function arguments).2.HidesCurrent →
      (context.call function arguments).2.slots = .active context.depth :: context.slots
  calledIntrospective : ∀ function arguments, (context.call function arguments).1 = .ok () →
    (context.heap.function function).code.isIntrospective = true →
      (context.call function arguments).2.levels = context.levels
  tailCalled : ∀ function arguments, (context.tailCall function arguments).1 = .ok () →
    (∀ count ∈ counts.head?, count + 1 < Word.size32) →
    ¬ context.HidesCurrent → ¬ (context.tailCall function arguments).2.HidesCurrent →
      ∃ older, context.slots = .active (context.depth - 1) :: older ∧
        (context.tailCall function arguments).2.slots =
          .active (context.depth - 1) :: .tailCall :: older
  returned : ∀ frame ∈ context.currentFrame?, ∀ count ∈ counts.head?,
    frame.isIntrospective = false → ¬ context.HidesCurrent →
      context.slots = .active (context.depth - 1) ::
        (List.replicate count .tailCall ++ context.returnFromCall.2.slots)
  returnedIntrospective : ∀ frame ∈ context.currentFrame?, frame.isIntrospective = true →
    context.returnFromCall.2.levels = context.levels
  positioned : ∀ position, (context.setPosition position).2.levels = context.levels
  written : ∀ register value, (context.setRegister register value).2.levels = context.levels
  captured : ∀ register, (context.capture register).2.levels = context.levels
  assigned : ∀ level ordinal value,
    (context.setLocal level ordinal value).2.levels = context.levels

namespace Context

variable {context : Context}

theorem pushFrame_of_called {function : FunctionId} {arguments : List Value}
    (made : (context.call function arguments).1 = .ok ()) :
    (context.call function arguments).2 = context.pushFrame function arguments := by
  rcases context.call_cases function arguments with ⟨-, refused⟩ | ⟨-, pushed⟩
  · rw [refused] at made
    cases made
  · rw [pushed]

theorem levels_writeSlot (context : Context) (frame : Frame) (slot : Nat) (value : Value) :
    (context.writeSlot frame slot value).levels = context.levels :=
  levels_congr (context.config_writeSlot frame slot value)
    (context.frames_writeSlot frame slot value)

theorem levels_setPosition (context : Context) (position : Nat) :
    (context.setPosition position).2.levels = context.levels := by
  rcases context.setPosition_cases position with
    ⟨cause, refused⟩ | ⟨frame, outer, prototype, frames, -, -, made⟩
  · rw [refused]
  · rw [made]
    exact levels_replaceHead frames rfl rfl rfl rfl

theorem levels_setRegister (context : Context) (register : Nat) (value : Value) :
    (context.setRegister register value).2.levels = context.levels := by
  rcases context.setRegister_cases register value with
    ⟨fault, refused⟩ | ⟨frame, outer, slot, -, -, made⟩
  · rw [refused]
  · rw [made]
    exact context.levels_writeSlot frame slot value

theorem levels_capture (context : Context) (register : Nat) :
    (context.capture register).2.levels = context.levels := by
  rcases context.capture_cases register with
    ⟨fault, refused⟩ | ⟨frame, outer, slot, frames, -, ⟨cell, -, again⟩ | ⟨-, made⟩⟩
  · rw [refused]
  · rw [again]
  · rw [made]
    exact levels_replaceHead frames rfl rfl rfl rfl

theorem levels_setLocal (context : Context) (level : Level) (ordinal : Nat) (value : Value) :
    (context.setLocal level ordinal value).2.levels = context.levels := by
  rcases context.setLocal_cases level ordinal value with missing | ⟨place, -, made⟩
  · rw [missing]
  · rw [made]
    exact context.levels_writeSlot place.frame place.slot value

theorem currentFrame?_cases {frame : Frame} (current : frame ∈ context.currentFrame?) :
    ∃ outer, context.frames = frame :: outer ∧ context.depth - 1 = outer.length := by
  unfold currentFrame? at current
  unfold depth
  cases frames : context.frames with
  | nil =>
      rw [frames] at current
      cases current
  | cons first outer =>
      rw [frames] at current
      cases current
      exact ⟨outer, rfl, rfl⟩

end Context

namespace CallHistory

variable {context : Context} {counts : List Nat}

/-- The current frame counts its tail calls exactly, as long as there are few. -/
theorem collapsed_current (history : CallHistory context counts)
    (few : ∀ count ∈ counts, count < Word.size32) {frame : Frame} {outer : List Frame}
    (frames : context.frames = frame :: outer) :
    ∃ count older, counts = count :: older ∧ frame.tailCalls = count ∧
      frame.collapsed = count := by
  have counted := history.counted
  have sound := history.reachable.intact.sound frame (frames ▸ List.mem_cons_self)
  rw [frames] at counted
  cases counted with
  | @cons _ count _ older first rest =>
      have tails : frame.tailCalls = count := by
        rw [first, Nat.mod_eq_of_lt (few count List.mem_cons_self)]
      exact ⟨count, older, rfl, tails, sound.collapsed_eq.trans tails⟩

theorem tailCalled (history : CallHistory context counts)
    (few : ∀ count ∈ counts, count < Word.size32) {function : FunctionId}
    {arguments : List Value} (made : (context.tailCall function arguments).1 = .ok ())
    (room : ∀ count ∈ counts.head?, count + 1 < Word.size32)
    (shown : ¬ context.HidesCurrent)
    (shownAfter : ¬ (context.tailCall function arguments).2.HidesCurrent) :
    ∃ older, context.slots = .active (context.depth - 1) :: older ∧
      (context.tailCall function arguments).2.slots =
        .active (context.depth - 1) :: .tailCall :: older := by
  rcases context.tailCall_cases function arguments with
    ⟨-, cause, refused⟩ | ⟨frame, outer, frames, script, target, ⟨-, late⟩ | ⟨-, replaced⟩⟩
  · rw [refused] at made
    cases made
  · rw [late] at made
    cases made
  · obtain ⟨count, older, rfl, tailCalls, collapsed⟩ := history.collapsed_current few frames
    have next : Word.nextCount frame.tailCalls = count + 1 := by
      rw [tailCalls]
      exact Word.nextCount_eq_of_lt (room count rfl)
    have depth : context.depth - 1 = outer.length := by
      rw [Context.depth, frames, List.length_cons, Nat.add_sub_cancel]
    rw [replaced, next] at shownAfter ⊢
    refine ⟨List.replicate count .tailCall ++ context.popFrame.slots, ?_, ?_⟩
    · rw [Context.slots_current frames shown (Code.isIntrospective_of_script script), collapsed,
        depth]
    · rw [Context.slots_replaceFrame frames target shownAfter, depth, List.replicate_succ]
      rfl

theorem laws (history : CallHistory context counts)
    (few : ∀ count ∈ counts, count < Word.size32) : LevelLaws context counts where
  called := by
    intro function arguments made ordinary shown
    rw [Context.pushFrame_of_called made] at shown ⊢
    exact Context.slots_pushFrame ordinary shown
  calledIntrospective := by
    intro function arguments made introspective
    rw [Context.pushFrame_of_called made]
    exact Context.levels_pushFrame introspective arguments
  tailCalled := by
    intro function arguments made room shown shownAfter
    exact history.tailCalled few made room shown shownAfter
  returned := by
    intro frame current count first ordinary shown
    obtain ⟨outer, frames, depth⟩ := Context.currentFrame?_cases current
    obtain ⟨tails, older, rfl, -, collapsed⟩ := history.collapsed_current few frames
    cases first
    rw [Context.returnFromCall_context, depth, ← collapsed]
    exact Context.slots_current frames shown ordinary
  returnedIntrospective := by
    intro frame current introspective
    obtain ⟨outer, frames, -⟩ := Context.currentFrame?_cases current
    rw [Context.returnFromCall_context]
    exact (Context.levels_introspective frames introspective).symm
  positioned := context.levels_setPosition
  written := context.levels_setRegister
  captured := context.levels_capture
  assigned := context.levels_setLocal

end CallHistory

/-- Every reachable context has a history. As long as no word has wrapped around, its levels are the
chain of calls that the history tells of, in order and numbered from zero; looking a level up gives
its place in that list, and nothing from the number of levels on; and the levels follow the
operations. -/
theorem levels_follow_calls (context : Context) :
    (context.Reachable ↔ ∃ counts, CallHistory context counts) ∧
    ∀ counts, CallHistory context counts → (∀ count ∈ counts, count < Word.size32) →
      context.levels = numbered (callChain context.hidesMain (context.frames.zip counts)) 0 ∧
      (∀ number, context.level? number = context.levels[number]?) ∧
      (∀ number, context.level? number = none ↔ context.levelCount ≤ number) ∧
      LevelLaws context counts := by
  refine ⟨⟨fun reachable => reachable.exists_history, ?_⟩, ?_⟩
  · rintro ⟨counts, history⟩
    exact history.reachable
  · intro counts history few
    refine ⟨?_, context.level?_eq_getElem?, context.level?_eq_none_iff, history.laws few⟩
    rw [Context.levels_eq_numbered, Context.slots_eq,
      slotsFrom_eq_callChain history.counted history.reachable.intact.sound few]

def chainHeap : Heap :=
  let main : Prototype := { source := "@sample" }
  let worker : Prototype := { source := "@sample", lineDefined := 1, lastLineDefined := 3 }
  let inspector : HostFunction :=
    { name := "inspector", introspective := true, body := .program fun _ => .finish (.ok []) }
  let heap := (Heap.empty.addFunction { code := .script main }).2
  ((heap.addFunction { code := .script worker }).2.addFunction { code := .host inspector }).2

/-- The hidden main chunk has called the function, which has called itself as a tail call and then
the host function. -/
def chainContext : Context :=
  let main := ((Context.create chainHeap { mainChunk := .hide }).call ⟨0⟩ []).2
  (((main.call ⟨1⟩ []).2.tailCall ⟨1⟩ []).2.call ⟨2⟩ []).2

theorem levels_follow_calls_sample :
    CallHistory chainContext [0, 1, 0] ∧ (∀ count ∈ [0, 1, 0], count < Word.size32) ∧
      chainContext.levels = [⟨0, .active 1⟩, ⟨1, .tailCall⟩] ∧
      chainContext.levels =
        numbered (callChain chainContext.hidesMain (chainContext.frames.zip [0, 1, 0])) 0 ∧
      LevelLaws chainContext [0, 1, 0] := by
  have begun := CallHistory.create chainHeap { mainChunk := .hide }
  have main := begun.perform (.call ⟨0⟩ []) (callHostWithin 0) [] (by simp)
  have worker := main.perform (.call ⟨1⟩ []) (callHostWithin 0) [] (by simp)
  have replaced := worker.perform (.tailCall ⟨1⟩ []) (callHostWithin 0) [] (by simp)
  have history : CallHistory chainContext [0, 1, 0] :=
    replaced.perform (.call ⟨2⟩ []) (callHostWithin 0) [] (by simp)
  have few : ∀ count ∈ [0, 1, 0], count < Word.size32 := by decide
  obtain ⟨chain, -, -, laws⟩ := (levels_follow_calls chainContext).2 [0, 1, 0] history few
  exact ⟨history, few, by decide, chain, laws⟩

end StackScope
