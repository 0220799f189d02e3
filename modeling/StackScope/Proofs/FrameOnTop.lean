import StackScope.Association
import StackScope.Traceback
import StackScope.Variable
import StackScope.Proofs.Integrity
import StackScope.Proofs.Levels

/-!
A context with an introspective frame on top, as a function of the debug library has one while it
runs. The frame stands for no level, and it leaves the positions of all other frames, counted from
the outermost one, and the stack below its own window as they are. What is asked about a level of
the context therefore has the same answer with the frame and without it.
-/

namespace StackScope

namespace Context

def withFrame (context : Context) (frame : Frame) (window : List Value) : Context :=
  { context with frames := frame :: context.frames, stack := context.stack ++ window }

/-- The level is the trace of a tail call, or its frame is one of the context. -/
def Contains (context : Context) (level : Level) : Prop :=
  ∀ index, level.slot = .active index → index < context.depth

variable {context : Context} {level : Level}

theorem contains_of_mem_levels (member : level ∈ context.levels) : context.Contains level :=
  fun _ active => index_lt_of_mem_levels member active

theorem contains_of_level? {number : Nat} (found : context.level? number = some level) :
    context.Contains level := by
  rw [level?_eq_getElem?] at found
  exact contains_of_mem_levels (List.mem_of_getElem? found)

variable (frame : Frame) (window : List Value)

theorem popFrame_withFrame (base : frame.base = context.stack.length) :
    (context.withFrame frame window).popFrame = context := by
  have frames : (context.withFrame frame window).frames = frame :: context.frames := rfl
  rw [popFrame_cons frames]
  change { context with stack := (context.stack ++ window).take frame.base } = context
  rw [base, List.take_left]

theorem frameAt?_withFrame {index : Nat} (inside : index < context.depth) :
    (context.withFrame frame window).frameAt? index = context.frameAt? index := by
  have frames : (context.withFrame frame window).frames = frame :: context.frames := rfl
  exact frameAt?_outer frames inside

theorem levelFrame?_withFrame (contains : context.Contains level) :
    (context.withFrame frame window).levelFrame? level = context.levelFrame? level := by
  unfold levelFrame? Level.index?
  cases slot : level.slot with
  | tailCall => rfl
  | active index => exact frameAt?_withFrame frame window (contains index slot)

theorem callerName?_withFrame {index : Nat} (inside : index < context.depth) :
    (context.withFrame frame window).callerName? index = context.callerName? index := by
  unfold callerName?
  rw [frameAt?_withFrame frame window inside]
  cases index with
  | zero => rfl
  | succ outer =>
      dsimp only
      rw [frameAt?_withFrame frame window (Nat.lt_of_succ_lt inside)]

theorem resolveLevel_withFrame (contains : context.Contains level) (mask : Mask) :
    (context.withFrame frame window).resolveLevel mask level =
      context.resolveLevel mask level := by
  unfold resolveLevel
  cases slot : level.slot with
  | tailCall => rfl
  | active index =>
      have inside : index < context.depth := contains index slot
      dsimp only
      rw [frameAt?_withFrame frame window inside, callerName?_withFrame frame window inside]
      rfl

theorem resolve_withFrame {target : Target}
    (contains : ∀ level, target = .level level → context.Contains level) (mask : Mask) :
    (context.withFrame frame window).resolve mask target = context.resolve mask target := by
  cases target with
  | value value => cases value <;> rfl
  | level level =>
      unfold resolve
      dsimp only
      rw [resolveLevel_withFrame frame window (contains level rfl)]

theorem tracebackLine_withFrame (contains : context.Contains level) :
    (context.withFrame frame window).tracebackLine level = context.tracebackLine level := by
  have known : ∀ other, Target.level level = .level other → context.Contains other := by
    intro other same
    cases same
    exact contains
  unfold tracebackLine describe functionText
  rw [resolve_withFrame frame window known, levelFrame?_withFrame frame window contains]
  rfl

theorem limitedLines_withFrame {levels : List Level}
    (contains : ∀ level ∈ levels, context.Contains level) (limit : Option Nat) :
    (context.withFrame frame window).limitedLines limit levels =
      context.limitedLines limit levels := by
  have lines : ∀ shown, shown ⊆ levels →
      shown.map (context.withFrame frame window).tracebackLine =
        shown.map context.tracebackLine := by
    intro shown within
    apply List.map_congr_left
    intro level member
    exact tracebackLine_withFrame frame window (contains level (within member))
  unfold limitedLines
  cases limit with
  | none => exact lines levels (List.Subset.refl levels)
  | some limit =>
      dsimp only
      rw [lines (levels.take limit) (List.take_subset limit levels)]

theorem locate?_withFrame (contains : context.Contains level) (ordinal : Nat) :
    (context.withFrame frame window).locate? level ordinal = context.locate? level ordinal := by
  unfold locate? Level.index?
  cases slot : level.slot with
  | tailCall => rfl
  | active index =>
      change ((context.withFrame frame window).frameAt? index).bind _ =
        (context.frameAt? index).bind _
      rw [frameAt?_withFrame frame window (contains index slot)]

/-- Locals lie on the stack. -/
theorem slot_lt_of_locate? (stacked : context.Stacked) {ordinal : Nat} {place : LocalPlace}
    (found : context.locate? level ordinal = some place) :
    place.slot < context.stack.length := by
  obtain ⟨-, present, _, _, -, -, -, inside, -⟩ := locate?_eq_some.mp found
  have top : place.frame.top ≤ context.stack.length :=
    stacked.tiled.top_le (mem_of_frameAt? present)
  exact Nat.lt_of_lt_of_le inside top

theorem readSlot_withFrame (owner : Frame) {slot : Nat} (below : slot < context.stack.length) :
    (context.withFrame frame window).readSlot owner slot = context.readSlot owner slot := by
  unfold readSlot
  cases owner.cellAt? slot with
  | some cell => rfl
  | none =>
      change (context.stack ++ window)[slot]?.getD .nil = context.stack[slot]?.getD .nil
      rw [List.getElem?_append_left below]

theorem writeSlot_withFrame (owner : Frame) {slot : Nat} (below : slot < context.stack.length)
    (value : Value) :
    (context.withFrame frame window).writeSlot owner slot value =
      (context.writeSlot owner slot value).withFrame frame window := by
  unfold writeSlot
  cases owner.cellAt? slot with
  | some cell => rfl
  | none =>
      change { context.withFrame frame window with
        stack := (context.stack ++ window).set slot value } = _
      rw [List.set_append_left slot value below]
      rfl

theorem getLocal?_withFrame (intact : context.Intact) (contains : context.Contains level)
    (ordinal : Nat) :
    (context.withFrame frame window).getLocal? level ordinal =
      context.getLocal? level ordinal := by
  unfold getLocal?
  rw [locate?_withFrame frame window contains]
  cases found : context.locate? level ordinal with
  | none => rfl
  | some place =>
      have below : place.slot < context.stack.length := slot_lt_of_locate? intact.stacked found
      rw [Option.map_some, Option.map_some, readSlot_withFrame frame window place.frame below]

theorem setLocal_withFrame (intact : context.Intact) (contains : context.Contains level)
    (ordinal : Nat) (value : Value) :
    (context.withFrame frame window).setLocal level ordinal value =
      ((context.setLocal level ordinal value).1,
        (context.setLocal level ordinal value).2.withFrame frame window) := by
  unfold setLocal
  rw [locate?_withFrame frame window contains]
  cases found : context.locate? level ordinal with
  | none => rfl
  | some place =>
      have below : place.slot < context.stack.length := slot_lt_of_locate? intact.stacked found
      dsimp only
      rw [writeSlot_withFrame frame window place.frame below]

theorem setMetatable_withFrame (value metatable : Value) :
    (context.withFrame frame window).setMetatable value metatable =
      ((context.setMetatable value metatable).1,
        (context.setMetatable value metatable).2.withFrame frame window) := by
  have put : ∀ chosen, (context.withFrame frame window).putMetatable value chosen =
      (context.putMetatable value chosen).withFrame frame window := by
    intro chosen
    cases value <;> rfl
  unfold setMetatable
  cases metatableArgument metatable with
  | error fault => rfl
  | ok chosen =>
      dsimp only
      rw [put]
      split <;> rfl

theorem setEnvironment_withFrame (value environment : Value) :
    (context.withFrame frame window).setEnvironment value environment =
      ((context.setEnvironment value environment).1,
        (context.setEnvironment value environment).2.withFrame frame window) := by
  have put : ∀ chosen, (context.withFrame frame window).putEnvironment value chosen =
      (context.putEnvironment value chosen).withFrame frame window := by
    intro chosen
    cases value <;> rfl
  unfold setEnvironment
  cases environmentArgument environment with
  | error fault => rfl
  | ok chosen =>
      dsimp only
      rw [put]
      split <;> rfl

variable {frame}
variable (introspective : frame.isIntrospective = true)
include introspective

theorem levels_withFrame : (context.withFrame frame window).levels = context.levels := by
  have frames : (context.withFrame frame window).frames = frame :: context.frames := rfl
  rw [levels_introspective frames introspective]
  exact levels_congr (config_popFrame _) (frames_popFrame _)

theorem level?_withFrame (number : Nat) :
    (context.withFrame frame window).level? number = context.level? number := by
  rw [level?_eq_getElem?, level?_eq_getElem?, levels_withFrame window introspective]

theorem traceback_withFrame (start : Nat) (message : String) :
    (context.withFrame frame window).traceback start message =
      context.traceback start message := by
  unfold traceback tracebackLines
  have contains : ∀ level ∈ context.levels.drop start, context.Contains level := by
    intro level member
    exact contains_of_mem_levels (List.mem_of_mem_drop member)
  rw [levels_withFrame window introspective, limitedLines_withFrame frame window contains]
  rfl

end Context

end StackScope
