import StackScope.Proofs.Assembly
import StackScope.Proofs.LocalSlots

/-!
Room for locals. An assembled prototype has a register for each local that was declared, as long as
their number fits into a word of 16 bits. A frame that runs it has a window of that size for as long
as it exists, so all of its live locals can be read at every position.
-/

namespace StackScope

def AssemblyStep.scope? : AssemblyStep → Option LocalScope
  | declare name first last => some ⟨some name, first, last⟩
  | _ => none

def AssemblyStep.size? : AssemblyStep → Option Nat
  | stackSize size => some size
  | _ => none

def AssemblyStep.parameters? : AssemblyStep → Option Nat
  | parameters count => some count
  | _ => none

def declaredScopes (steps : List AssemblyStep) : List LocalScope :=
  steps.filterMap AssemblyStep.scope?

/-- The number of registers that the steps ask for, where the last one counts. -/
def requestedSize (steps : List AssemblyStep) : Nat :=
  (steps.filterMap AssemblyStep.size?).getLast?.getD 0

def requestedParameters (steps : List AssemblyStep) : Nat :=
  (steps.filterMap AssemblyStep.parameters?).getLast?.getD 0

namespace PrototypeBuilder

theorem field_constant {α : Type} {field : PrototypeBuilder → α} (builder : PrototypeBuilder)
    (others : ∀ constants, field { builder with constants } = field builder) (value : Constant) :
    field (builder.constant value).2 = field builder := by
  rcases builder.constant_cases value with ⟨present, -, -, found⟩ | ⟨-, -, added⟩
  · rw [found]
  · rw [added]
    exact others _

theorem locals_perform (builder : PrototypeBuilder) (step : AssemblyStep) :
    (builder.perform step).2.locals.toList = builder.locals.toList ++ step.scope?.toList := by
  cases step with
  | declare name first last => exact Array.toList_push
  | constant value | text value =>
      refine Eq.trans ?_ (List.append_nil _).symm
      exact congrArg Array.toList (builder.field_constant (fun _ => rfl) _)
  | parameters | variadic | stackSize | emit | upvalue | child =>
      exact (List.append_nil _).symm

theorem locals_run (builder : PrototypeBuilder) (steps : List AssemblyStep) :
    (builder.run steps).locals.toList = builder.locals.toList ++ declaredScopes steps := by
  induction steps generalizing builder with
  | nil => exact (List.append_nil _).symm
  | cons step rest ih =>
      rw [run_cons, ih, locals_perform, List.append_assoc]
      refine congrArg (builder.locals.toList ++ ·) ?_
      unfold declaredScopes
      rw [List.filterMap_cons]
      cases step.scope? <;> rfl

/-- Of the steps that set a field, the last one counts. -/
theorem field_run {field : PrototypeBuilder → Nat} {setting? : AssemblyStep → Option Nat}
    (performed : ∀ builder step,
      field (builder.perform step).2 = (setting? step).getD (field builder))
    (builder : PrototypeBuilder) (steps : List AssemblyStep) :
    field (builder.run steps) = (steps.filterMap setting?).getLast?.getD (field builder) := by
  induction steps generalizing builder with
  | nil => rfl
  | cons step rest ih =>
      rw [run_cons, ih, performed, List.filterMap_cons]
      cases setting? step with
      | none => rfl
      | some value =>
          dsimp only
          rw [List.getLast?_cons]
          rfl

theorem stackSize_perform (builder : PrototypeBuilder) (step : AssemblyStep) :
    (builder.perform step).2.stackSize = step.size?.getD builder.stackSize := by
  cases step with
  | constant value | text value => exact builder.field_constant (fun _ => rfl) _
  | declare | parameters | variadic | stackSize | emit | upvalue | child => rfl

theorem parameterCount_perform (builder : PrototypeBuilder) (step : AssemblyStep) :
    (builder.perform step).2.parameterCount = step.parameters?.getD builder.parameterCount := by
  cases step with
  | constant value | text value => exact builder.field_constant (fun _ => rfl) _
  | declare | parameters | variadic | stackSize | emit | upvalue | child => rfl

section Built

variable (source : String) (lineDefined lastLineDefined : Nat) (steps : List AssemblyStep)

theorem activeLocals_build_run (position : Nat) :
    ((function source lineDefined lastLineDefined).run steps).build.activeLocals position =
      (declaredScopes steps).countP (LocalScope.covers position) := by
  have declared := locals_run (function source lineDefined lastLineDefined) steps
  change _ = declaredScopes steps at declared
  rw [← declared]
  exact Prototype.activeLocals_normalize _ position

theorem stackSize_build_run :
    ((function source lineDefined lastLineDefined).run steps).build.stackSize =
      max (max (requestedSize steps) ((declaredScopes steps).length % Word.size16)) 2 := by
  have declared := locals_run (function source lineDefined lastLineDefined) steps
  have requested := field_run stackSize_perform (function source lineDefined lastLineDefined) steps
  change _ = declaredScopes steps at declared
  change _ = requestedSize steps at requested
  rw [← declared, ← requested, build, Prototype.normalize_eq]
  rfl

theorem windowSize_build_run :
    ((function source lineDefined lastLineDefined).run steps).build.windowSize =
      max ((function source lineDefined lastLineDefined).run steps).build.stackSize
        (requestedParameters steps) := by
  have requested :=
    field_run parameterCount_perform (function source lineDefined lastLineDefined) steps
  change _ = requestedParameters steps at requested
  rw [← requested, Prototype.windowSize, build, Prototype.normalize_eq]

theorem activeLocals_le_stackSize (counted : (declaredScopes steps).length < Word.size16)
    (position : Nat) :
    ((function source lineDefined lastLineDefined).run steps).build.activeLocals position ≤
      ((function source lineDefined lastLineDefined).run steps).build.stackSize := by
  have live : (declaredScopes steps).countP (LocalScope.covers position) ≤
      (declaredScopes steps).length := List.countP_le_length
  rw [activeLocals_build_run, stackSize_build_run, Nat.mod_eq_of_lt counted]
  omega

end Built

end PrototypeBuilder

namespace Context

variable {context : Context}

/-! ### Locals that are shown -/

def ShowsLocals (context : Context) (level : Level) (prototype : Prototype) (position : Nat) :
    Prop :=
  ∀ ordinal, (context.getLocal? level ordinal).isSome ↔
    1 ≤ ordinal ∧ ordinal ≤ prototype.activeLocals position

section Shown

variable (reachable : context.Reachable) {level : Level} {frame : Frame} {prototype : Prototype}
  (present : context.levelFrame? level = some frame) (script : frame.code = .script prototype)
include reachable present script

theorem isSome_getLocal?_iff (ordinal : Nat) :
    (context.getLocal? level ordinal).isSome ↔
      1 ≤ ordinal ∧ ordinal ≤ prototype.activeLocals frame.position ∧
        ordinal ≤ prototype.windowSize := by
  obtain ⟨index, -, frameAt⟩ := Option.bind_eq_some_iff.mp present
  have window : frame.top - frame.base = prototype.windowSize := by
    have top := (reachable.intact.sound frame (mem_of_frameAt? frameAt)).window prototype script
    omega
  rw [getLocal?_isSome_iff, ← window]
  constructor
  · rintro ⟨other, otherPrototype, otherPresent, otherScript, bounds⟩
    cases present.symm.trans otherPresent
    cases script.symm.trans otherScript
    exact bounds
  · intro bounds
    exact ⟨frame, prototype, present, script, bounds⟩

/-- A frame shows its live locals exactly if they fit into its window. -/
theorem showsLocals_iff :
    context.ShowsLocals level prototype frame.position ↔
      prototype.activeLocals frame.position ≤ prototype.windowSize := by
  have shown := isSome_getLocal?_iff reachable present script
  constructor
  · intro shows
    rcases Nat.eq_zero_or_pos (prototype.activeLocals frame.position) with nothing | live
    · omega
    · have last := (shows _).mpr ⟨live, Nat.le_refl _⟩
      exact ((shown _).mp last).2.2
  · intro fits ordinal
    rw [shown]
    omega

end Shown

/-- A function that is called and then set to a position has the innermost frame, at that
position. -/
theorem levelFrame?_of_call {called placed : Context} {function : FunctionId}
    {arguments : List Value} {position : Nat}
    (calling : context.call function arguments = (.ok (), called))
    (positioning : called.setPosition position = (.ok (), placed)) (number : Nat) :
    ∃ frame, placed.levelFrame? ⟨number, .active context.depth⟩ = some frame ∧
      frame.code = (context.heap.function function).code ∧ frame.position = position := by
  rcases context.call_cases function arguments with ⟨-, refused⟩ | ⟨-, made⟩
  · cases refused.symm.trans calling
  · cases made.symm.trans calling
    rcases setPosition_cases _ position with
      ⟨cause, refused⟩ | ⟨frame, outer, prototype, frames, -, -, made⟩
    · cases refused.symm.trans positioning
    · cases made.symm.trans positioning
      obtain ⟨current, below⟩ := List.cons.inj frames
      refine ⟨{ frame with position }, ?_, ?_, rfl⟩
      · change frameAt? _ context.frames.length = _
        rw [below]
        exact frameAt?_innermost rfl
      · change frame.code = _
        rw [← current]

theorem Reachable.of_call {called placed : Context} (reachable : context.Reachable)
    {function : FunctionId} {arguments : List Value} {position : Nat}
    (calling : context.call function arguments = (.ok (), called))
    (positioning : called.setPosition position = (.ok (), placed)) : placed.Reachable := by
  have entered := reachable.call function arguments
  rw [calling] at entered
  have moved := entered.setPosition position
  rw [positioning] at moved
  exact moved

end Context

/-- How many registers an assembled prototype has, and what that means for its locals. -/
structure RoomLaws (steps : List AssemblyStep) (built : Prototype) : Prop where
  active : ∀ position, built.activeLocals position =
    (declaredScopes steps).countP (LocalScope.covers position)
  size : built.stackSize =
    max (max (requestedSize steps) ((declaredScopes steps).length % Word.size16)) 2
  window : built.windowSize = max built.stackSize (requestedParameters steps)
  room : (declaredScopes steps).length < Word.size16 →
    ∀ position, built.activeLocals position ≤ built.stackSize
  /-- At every level of every context. -/
  shown : ∀ (context : Context) level frame, context.Reachable →
    context.levelFrame? level = some frame → frame.code = .script built →
      (context.ShowsLocals level built frame.position ↔
        built.activeLocals frame.position ≤ built.windowSize)
  called : (declaredScopes steps).length < Word.size16 →
    ∀ (context called placed : Context) function arguments position, context.Reachable →
      (context.heap.function function).code = .script built →
      context.call function arguments = (.ok (), called) →
      called.setPosition position = (.ok (), placed) →
        ∀ number, placed.ShowsLocals ⟨number, .active context.depth⟩ built position

/-- An assembled prototype has room for all of its locals, and a frame that runs it shows them,
unless more locals were declared than a word of 16 bits can count. -/
theorem locals_have_room (source : String) (lineDefined lastLineDefined : Nat)
    (steps : List AssemblyStep) :
    RoomLaws steps
      ((PrototypeBuilder.function source lineDefined lastLineDefined).run steps).build := by
  refine
    { active := PrototypeBuilder.activeLocals_build_run source lineDefined lastLineDefined steps
      size := PrototypeBuilder.stackSize_build_run source lineDefined lastLineDefined steps
      window := PrototypeBuilder.windowSize_build_run source lineDefined lastLineDefined steps
      room := PrototypeBuilder.activeLocals_le_stackSize source lineDefined lastLineDefined steps
      shown := fun _ _ _ reachable => Context.showsLocals_iff reachable
      called := ?_ }
  intro counted context called placed function arguments position reachable script calling
    positioning number
  obtain ⟨frame, present, code, rfl⟩ := Context.levelFrame?_of_call calling positioning number
  have room := PrototypeBuilder.activeLocals_le_stackSize source lineDefined lastLineDefined steps
    counted frame.position
  have placedReachable := reachable.of_call calling positioning
  apply (Context.showsLocals_iff placedReachable present (code.trans script)).mpr
  exact Nat.le_trans room (Nat.le_max_left _ _)

def overlappingSteps : List AssemblyStep :=
  [.declare "late" 1 2, .declare "whole" 0 3, .emit (.loadNil 0 2) 1, .declare "empty" 1 1,
    .stackSize 1, .parameters 1, .declare "inner" 1 3, .emit (.move 1 0) 2, .emit (.«return» 0 1) 2]

theorem locals_have_room_overlapping :
    let built := ((PrototypeBuilder.main "=b").run overlappingSteps).build
    let start := Context.create (Heap.empty.addFunction { code := .script built }).2 {}
    let placed := ((start.call ⟨0⟩ [.boolean true]).2.setPosition 1).2
    built.activeLocals 1 = 3 ∧ built.stackSize = 4 ∧
    (placed.getLocal? ⟨0, .active 0⟩ 3).isSome ∧ placed.getLocal? ⟨0, .active 0⟩ 4 = none := by
  intro built start placed
  have laws : RoomLaws overlappingSteps built := locals_have_room "=b" 0 0 overlappingSteps
  have active : built.activeLocals 1 = 3 := laws.active 1
  have shows := laws.called (by decide) start (start.call ⟨0⟩ [.boolean true]).2 placed ⟨0⟩
    [.boolean true] 1 (.create _ {}) rfl rfl rfl 0
  have third := (shows 3).mpr ⟨by decide, Nat.le_of_eq active.symm⟩
  have fourth : placed.getLocal? ⟨0, .active 0⟩ 4 = none := by
    rw [← Option.not_isSome_iff_eq_none]
    intro present
    have live := ((shows 4).mp present).2
    rw [active] at live
    exact absurd live (by decide)
  exact ⟨active, laws.size, third, fourth⟩

/-- Three live locals, and so many others that the number of all of them is zero as a word. -/
def uncountedSteps : List AssemblyStep :=
  .emit (.«return» 0 0) 1 ::
    (List.replicate 3 (.declare "v" 0 1) ++ List.replicate 65533 (.declare "w" 1 1))

theorem declaredScopes_uncountedSteps :
    declaredScopes uncountedSteps =
      List.replicate 3 ⟨some "v", 0, 1⟩ ++ List.replicate 65533 ⟨some "w", 1, 1⟩ := by
  unfold declaredScopes uncountedSteps
  rw [List.filterMap_cons_none rfl, List.filterMap_append, List.filterMap_replicate,
    List.filterMap_replicate]
  rfl

/-- They ask for no registers and no parameters. -/
theorem filterMap_uncountedSteps {setting? : AssemblyStep → Option Nat}
    (emitted : setting? (.emit (.«return» 0 0) 1) = none)
    (declared : ∀ name first last, setting? (.declare name first last) = none) :
    uncountedSteps.filterMap setting? = [] := by
  unfold uncountedSteps
  rw [List.filterMap_cons_none emitted, List.filterMap_append, List.filterMap_replicate,
    List.filterMap_replicate, declared, declared]
  rfl

/-- The window of a function that has just been called ends before its third local. -/
theorem local_beyond_window :
    let built := ((PrototypeBuilder.main "=b").run uncountedSteps).build
    let start := Context.create (Heap.empty.addFunction { code := .script built }).2 {}
    built.activeLocals 0 = 3 ∧ built.stackSize = 2 ∧
    (start.call ⟨0⟩ []).1 = .ok () ∧
    (start.call ⟨0⟩ []).2.getLocal? ⟨0, .active 0⟩ 3 = none := by
  intro built start
  have active : built.activeLocals 0 = 3 := by
    refine (PrototypeBuilder.activeLocals_build_run "=b" 0 0 uncountedSteps 0).trans ?_
    rw [declaredScopes_uncountedSteps, List.countP_append, List.countP_replicate,
      List.countP_replicate]
    rfl
  have size : built.stackSize = 2 := by
    refine (PrototypeBuilder.stackSize_build_run "=b" 0 0 uncountedSteps).trans ?_
    rw [declaredScopes_uncountedSteps, requestedSize, filterMap_uncountedSteps rfl fun _ _ _ => rfl,
      List.length_append, List.length_replicate, List.length_replicate]
    rfl
  have window : built.windowSize = 2 := by
    refine (PrototypeBuilder.windowSize_build_run "=b" 0 0 uncountedSteps).trans ?_
    change max built.stackSize _ = 2
    rw [size, requestedParameters, filterMap_uncountedSteps rfl fun _ _ _ => rfl]
    rfl
  have reachable : (start.call ⟨0⟩ []).2.Reachable := .call _ _ (.create _ {})
  -- Nothing else is needed of the prototype, and its steps are too many to evaluate.
  clear_value built
  refine ⟨active, size, rfl, ?_⟩
  rw [← Option.not_isSome_iff_eq_none]
  intro present
  have within := ((Context.isSome_getLocal?_iff reachable rfl rfl 3).mp present).2.2
  change 3 ≤ built.windowSize at within
  omega

end StackScope
