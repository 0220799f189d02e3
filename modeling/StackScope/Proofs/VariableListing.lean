import StackScope.Proofs.LocalRoom
import StackScope.Report

/-!
The listing of the variables of a level. Locals are asked for one ordinal after another, up to the
first that has none, and nothing bounds the search from outside. It ends, because the ordinals that
are answered are those up to the number of live locals or the size of the window, whichever is
smaller, and so it misses none of them.
-/

namespace StackScope

namespace Context

/-- A search for locals from an ordinal on, and what it finds up to its end. -/
inductive Search (context : Context) (level : Level) : (ordinal : Nat) → List NamedValue → Prop
  | ended {ordinal : Nat} :
      context.getLocal? level ordinal = none → Search context level ordinal []
  | next {ordinal : Nat} {slot : NamedValue} {rest : List NamedValue} :
      context.getLocal? level ordinal = some slot → Search context level (ordinal + 1) rest →
        Search context level ordinal (slot :: rest)

/-- What a register of a frame holds: the value of its cell, or that of the stack as long as it has
none. -/
inductive RegisterHolds (context : Context) (frame : Frame) (register : Nat) : Value → Prop
  | captured {cell : CellId} : frame.cellAt? (frame.base + register) = some cell →
      RegisterHolds context frame register (context.heap.cell cell)
  | direct {value : Value} : frame.cellAt? (frame.base + register) = none →
      context.stack[frame.base + register]? = some value →
        RegisterHolds context frame register value

/-- The locals that a script frame has to show: each live local that has a register, under its name
and with the value of the register. -/
structure LocalsShown (context : Context) (frame : Frame) (prototype : Prototype)
    (locals : List NamedValue) : Prop where
  count : locals.length = min (prototype.activeLocals frame.position) prototype.windowSize
  name : ∀ index slot, locals[index]? = some slot →
    (prototype.localAt? (index + 1) frame.position).map LocalScope.name = some slot.name
  value : ∀ index slot, locals[index]? = some slot →
    context.RegisterHolds frame index slot.value

def heldUpvalues (context : Context) (function : FunctionId) : List NamedValue :=
  let object := context.heap.function function
  object.upvalues.zipIdx.map fun entry =>
    ⟨object.code.upvalueName? entry.2, context.heap.cell entry.1⟩

inductive VariablesShown (context : Context) (level : Level) :
    (locals upvalues : List NamedValue) → Prop
  | tailCall : level.slot = .tailCall → VariablesShown context level [] []
  | host {frame : Frame} {host : HostFunction} : context.levelFrame? level = some frame →
      frame.code = .host host →
        VariablesShown context level [] (context.heldUpvalues frame.function)
  | script {frame : Frame} {prototype : Prototype} {locals : List NamedValue} :
      context.levelFrame? level = some frame → frame.code = .script prototype →
        context.LocalsShown frame prototype locals →
          VariablesShown context level locals (context.heldUpvalues frame.function)

variable {context : Context} {level : Level}

theorem Search.unique {ordinal : Nat} {slots others : List NamedValue}
    (first : context.Search level ordinal slots) (second : context.Search level ordinal others) :
    slots = others := by
  induction first generalizing others with
  | ended absent =>
      cases second with
      | ended => rfl
      | next present => cases absent.symm.trans present
  | next present _ ih =>
      cases second with
      | ended absent => cases absent.symm.trans present
      | next again rest =>
          cases present.symm.trans again
          rw [ih rest]

/-- A search finds the locals of successive ordinals, one for each. -/
theorem Search.getElem? {ordinal : Nat} {slots : List NamedValue}
    (search : context.Search level ordinal slots) {index : Nat} {slot : NamedValue}
    (found : slots[index]? = some slot) :
    context.getLocal? level (ordinal + index) = some slot := by
  induction search generalizing index with
  | ended absent => cases found
  | @next ordinal first rest present _ ih =>
      cases index with
      | zero =>
          cases found
          exact present
      | succ index =>
          rw [← Nat.add_assoc, Nat.add_right_comm]
          exact ih found

/-- A search comes to its end at the first ordinal that has no local. -/
theorem Search.absent {ordinal : Nat} {slots : List NamedValue}
    (search : context.Search level ordinal slots) :
    context.getLocal? level (ordinal + slots.length) = none := by
  induction search with
  | ended absent => exact absent
  | next _ _ ih =>
      rw [List.length_cons, ← Nat.add_assoc, Nat.add_right_comm]
      exact ih

/-- The bounded search is a search, if no ordinal beyond the bound has a local. -/
theorem search_localsFrom (bound ordinal : Nat)
    (beyond : context.getLocal? level (ordinal + bound) = none) :
    context.Search level ordinal (context.localsFrom level bound ordinal) := by
  induction bound generalizing ordinal with
  | zero => exact .ended beyond
  | succ bound ih =>
      unfold localsFrom
      split
      · rename_i absent
        exact .ended absent
      · rename_i slot present
        refine .next present (ih (ordinal + 1) ?_)
        rw [Nat.add_assoc, Nat.add_comm 1]
        exact beyond

theorem search_localsOf (context : Context) (level : Level) :
    context.Search level 1 (context.localsOf level) := by
  have outside : ∀ ordinal, ¬ (context.getLocal? level ordinal).isSome →
      context.getLocal? level ordinal = none :=
    fun ordinal absent => Option.not_isSome_iff_eq_none.mp absent
  unfold localsOf
  split
  · rename_i missing
    refine .ended (outside 1 ?_)
    rw [getLocal?_isSome_iff]
    rintro ⟨frame, prototype, present, -⟩
    cases missing.symm.trans present
  · rename_i frame found
    refine search_localsFrom _ 1 (outside _ ?_)
    rw [getLocal?_isSome_iff]
    rintro ⟨other, prototype, present, -, -, -, width⟩
    cases found.symm.trans present
    omega

theorem registerHolds_readSlot (stacked : context.Stacked) {frame : Frame} {register : Nat}
    (member : frame ∈ context.frames) (inside : frame.base + register < frame.top) :
    context.RegisterHolds frame register (context.readSlot frame (frame.base + register)) := by
  have height := stacked.tiled.top_le member
  unfold readSlot
  cases captured : frame.cellAt? (frame.base + register) with
  | some cell => exact .captured captured
  | none =>
      have present := List.getElem?_eq_getElem (Nat.lt_of_lt_of_le inside height)
      dsimp only
      rw [present]
      exact .direct captured present

section Script

variable (reachable : context.Reachable) {frame : Frame} {prototype : Prototype}
  (present : context.levelFrame? level = some frame) (script : frame.code = .script prototype)
include reachable present script

/-- The local of an ordinal has its name from the live scopes and its value from its register. -/
theorem getLocal?_shown {index : Nat} {slot : NamedValue}
    (found : context.getLocal? level (index + 1) = some slot) :
    (prototype.localAt? (index + 1) frame.position).map LocalScope.name = some slot.name ∧
      context.RegisterHolds frame index slot.value := by
  obtain ⟨place, located, rfl⟩ := Option.map_eq_some_iff.mp found
  obtain ⟨active, placed, other, scope, otherScript, live, address, inside, name⟩ :=
    locate?_eq_some.mp located
  have same : frame = place.frame := by
    rw [levelFrame?_of_active active, placed] at present
    exact (Option.some.inj present).symm
  subst same
  cases script.symm.trans otherScript
  rw [← Nat.add_assoc, Nat.add_sub_cancel] at address
  rw [address] at inside
  rw [live, Option.map_some, name, address]
  exact ⟨rfl, registerHolds_readSlot reachable.intact.stacked (mem_of_frameAt? placed) inside⟩

theorem localsShown_of_search {locals : List NamedValue}
    (search : context.Search level 1 locals) : context.LocalsShown frame prototype locals where
  count := by
    have answered := isSome_getLocal?_iff reachable present script
    have last : ¬ (context.getLocal? level (1 + locals.length)).isSome := by
      rw [search.absent]
      exact Bool.false_ne_true
    rw [answered] at last
    rcases Nat.eq_zero_or_pos locals.length with empty | nonempty
    · omega
    · have within : locals.length - 1 < locals.length := by omega
      have found := search.getElem? (List.getElem?_eq_getElem within)
      have bounds := (answered _).mp (Option.isSome_of_eq_some found)
      omega
  name := by
    intro index slot found
    have asked := search.getElem? found
    rw [Nat.add_comm] at asked
    exact (getLocal?_shown reachable present script asked).1
  value := by
    intro index slot found
    have asked := search.getElem? found
    rw [Nat.add_comm] at asked
    exact (getLocal?_shown reachable present script asked).2

end Script

/-- Asking for the items of a list one index after another is going through the list. -/
theorem filterMap_range_length {α β : Type} (items : List α) (view : Nat → α → β) :
    ((List.range items.length).filterMap fun index => items[index]?.map (view index)) =
      items.zipIdx.map fun entry => view entry.2 entry.1 := by
  induction items using List.reverseRecOn with
  | nil => rfl
  | append_singleton items item ih =>
      have earlier : ((List.range items.length).filterMap fun index =>
          (items ++ [item])[index]?.map (view index)) =
          items.zipIdx.map fun entry => view entry.2 entry.1 := by
        rw [← ih]
        apply List.filterMap_congr
        intro index member
        rw [List.getElem?_append_left (List.mem_range.mp member)]
      rw [List.length_append, List.length_singleton, List.range_succ, List.filterMap_append,
        earlier, List.zipIdx_append, List.map_append, List.filterMap_cons,
        List.getElem?_concat_length, Nat.zero_add]
      rfl

theorem upvaluesOf_eq (context : Context) (function : FunctionId) :
    context.upvaluesOf function = context.heldUpvalues function := by
  unfold upvaluesOf heldUpvalues Heap.getUpvalue? Heap.upvalue?
  dsimp only
  rw [← filterMap_range_length _ fun index cell => NamedValue.mk
    ((context.heap.function function).code.upvalueName? index) (context.heap.cell cell)]
  simp only [Option.map_map, Function.comp_def]

/-! ### The listing -/

theorem localsOf_of_host {frame : Frame} {host : HostFunction}
    (found : context.levelFrame? level = some frame) (code : frame.code = .host host) :
    context.localsOf level = [] := by
  have absent : context.getLocal? level 1 = none := by
    rw [← Option.not_isSome_iff_eq_none, getLocal?_isSome_iff]
    rintro ⟨other, prototype, present, script, -⟩
    cases found.symm.trans present
    cases code.symm.trans script
  exact (context.search_localsOf level).unique (.ended absent)

theorem variableLines_of_frame {frame : Frame} (found : context.levelFrame? level = some frame) :
    context.variableLines level =
      (context.localsOf level).map context.variableLine ++
        (context.heldUpvalues frame.function).map
          fun upvalue => "upvalue " ++ context.variableLine upvalue := by
  rw [variableLines, levelFunction?, found, ← upvaluesOf_eq]
  rfl

/-- What the listing asks for is what the level has to show. -/
theorem variablesShown_of_mem_levels (reachable : context.Reachable)
    (member : level ∈ context.levels) :
    ∃ locals upvalues, context.Search level 1 locals ∧
      context.VariablesShown level locals upvalues ∧
      context.variableLines level = locals.map context.variableLine ++
        upvalues.map fun upvalue => "upvalue " ++ context.variableLine upvalue := by
  have search := context.search_localsOf level
  cases place : level.slot with
  | tailCall =>
      have noFrame : context.levelFrame? level = none := by
        rw [levelFrame?, Level.index?, place]
        rfl
      have noLocals : context.localsOf level = [] := by
        rw [localsOf, noFrame]
      rw [noLocals] at search
      refine ⟨[], [], search, .tailCall place, ?_⟩
      rw [variableLines, noLocals, levelFunction?, noFrame]
      rfl
  | active index =>
      obtain ⟨frame, present⟩ := exists_frameAt? (index_lt_of_mem_levels member place)
      have found : context.levelFrame? level = some frame :=
        (levelFrame?_of_active place).trans present
      refine ⟨_, _, search, ?_, variableLines_of_frame found⟩
      cases code : frame.code with
      | host host =>
          rw [localsOf_of_host found code]
          exact .host found code
      | script prototype =>
          exact .script found code (localsShown_of_search reachable found code search)

end Context

/-- The listing fails exactly for levels that are not there. For all others, the search for locals
comes to an end, and the lines are those of the live locals that have registers, in order, and then
those of all upvalues of the function. -/
theorem variable_listing_complete {context : Context} (reachable : context.Reachable)
    (number : Nat) :
    (context.levelCount ≤ number → context.localsReport number = .error (.noLevel number)) ∧
    (number < context.levelCount → ∃ level locals upvalues,
      context.level? number = some level ∧ context.Search level 1 locals ∧
      context.VariablesShown level locals upvalues ∧
      context.localsReport number = .ok (String.intercalate "\n"
        ((locals.map fun slot => slot.name.getD "?" ++ " = " ++ context.heap.valueText slot.value) ++
          upvalues.map fun slot =>
            "upvalue " ++ (slot.name.getD "?" ++ " = " ++ context.heap.valueText slot.value)))) := by
  constructor
  · intro beyond
    unfold Context.localsReport
    rw [(context.level?_eq_none_iff number).mpr beyond]
  · intro within
    cases found : context.level? number with
    | none =>
        have beyond := (context.level?_eq_none_iff number).mp found
        omega
    | some level =>
        have member : level ∈ context.levels := by
          rw [context.level?_eq_getElem?] at found
          exact List.mem_of_getElem? found
        obtain ⟨locals, upvalues, search, shown, lines⟩ :=
          Context.variablesShown_of_mem_levels reachable member
        refine ⟨level, locals, upvalues, rfl, search, shown, ?_⟩
        unfold Context.localsReport
        rw [found]
        dsimp only
        rw [lines]
        rfl

/-- A function with three live locals, the first of which has no name, in a window of two registers,
and with an upvalue. The first register is captured. -/
def crowdedWindow : Context :=
  let script : Prototype :=
    { source := "@sample", lineDefined := 1, parameterCount := 2, instructions := [.«return» 0 0]
      locals := [⟨none, 0, 1⟩, ⟨some "right", 0, 1⟩, ⟨some "third", 0, 1⟩]
      upvalueNames := [some "total"] }
  let (cells, heap) := Heap.empty.addCells [.boolean true]
  let heap := (heap.addFunction { code := .script script, upvalues := cells }).2
  (((Context.create heap {}).call ⟨0⟩ [.text "first", .text "second"]).2.capture 0).2

/-- The local after the one without a name is shown too, and the third has no register. -/
theorem variable_listing_complete_crowded :
    crowdedWindow.Reachable ∧ crowdedWindow.levelCount = 1 ∧
    crowdedWindow.localsReport 0 =
      .ok "? = first\nright = second\nupvalue total = true" ∧
    crowdedWindow.localsReport 1 = .error (.noLevel 1) := by
  have reachable : crowdedWindow.Reachable := .capture (.call _ _ (.create _ _))
  obtain ⟨level, locals, upvalues, found, search, shown, report⟩ :=
    (variable_listing_complete reachable 0).2 (by decide)
  cases Option.some.inj (found.symm.trans (show crowdedWindow.level? 0 = some ⟨0, .active 0⟩ by rfl))
  have expected : crowdedWindow.Search ⟨0, .active 0⟩ 1
      [⟨none, .text "first"⟩, ⟨some "right", .text "second"⟩] :=
    .next rfl (.next rfl (.ended rfl))
  cases search.unique expected
  refine ⟨reachable, rfl, ?_, (variable_listing_complete reachable 1).1 (by decide)⟩
  cases shown with
  | script present code locals =>
      rw [report]
      cases Option.some.inj present
      rfl

end StackScope
