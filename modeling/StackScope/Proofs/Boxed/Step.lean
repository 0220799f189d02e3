import StackScope.Proofs.Boxed.Calls

/-!
One operation of a program on both sides. From states that agree it leads to states that agree, and
the replies are the same. Calls of host functions are left out, since they run programs of their
own.
-/

namespace StackScope

def HandlesAgree (known : List BoxedHandle) (cells : List CellId) (handles : List BoxedHandle) :
    Prop :=
  List.Forall₂ (fun cell handle => known[cell.index]? = some handle) cells handles

theorem HandlesAgree.mono {known later : List BoxedHandle} {cells : List CellId}
    {handles : List BoxedHandle} (agree : HandlesAgree known cells handles)
    (grown : known <+: later) : HandlesAgree later cells handles := by
  obtain ⟨added, rfl⟩ := grown
  refine agree.imp fun cell handle found => ?_
  rw [List.getElem?_append_left (List.getElem?_eq_some_iff.mp found).1]
  exact found

structure StepAgrees {α : Type} (known : List BoxedHandle) (step : α × List CellId × Context)
    (counterpart : α × List BoxedHandle × Boxed) : Prop where
  reply : step.1 = counterpart.1
  cells : HandlesAgree known step.2.1 counterpart.2.1
  state : Agrees known step.2.2 counterpart.2.2

namespace Agrees

variable {known : List BoxedHandle} {context : Context} {boxed : Boxed} {cells : List CellId}
  {handles : List BoxedHandle}

theorem handle_cases (agree : HandlesAgree known cells handles) (handle : Nat) :
    (cells[handle]? = none ∧ handles[handle]? = none) ∨
    ∃ cell held, cells[handle]? = some cell ∧ handles[handle]? = some held ∧
      known[cell.index]? = some held :=
  getElem?_cases agree handle

theorem readCell (agrees : Agrees known context boxed) (agree : HandlesAgree known cells handles)
    (handle : Nat) :
    cells[handle]?.map context.heap.cell =
      handles[handle]?.map fun held => boxed.heap.cell held.cell := by
  rcases handle_cases agree handle with ⟨missing, missingToo⟩ | ⟨cell, held, found, foundToo, same⟩
  · rw [missing, missingToo]
    rfl
  · rw [found, foundToo]
    exact congrArg some (agrees.heap.values (stands same))

theorem sameCell_iff (agrees : Agrees known context boxed) {left right : CellId}
    {leftHeld rightHeld : BoxedHandle} (foundLeft : known[left.index]? = some leftHeld)
    (foundRight : known[right.index]? = some rightHeld) :
    left = right ↔ leftHeld.cell = rightHeld.cell := by
  constructor
  · intro same
    rw [same] at foundLeft
    rw [Option.some.inj (foundLeft.symm.trans foundRight)]
  · intro same
    refine (stands foundLeft).left_unique agrees.heap.distinct ?_
    rw [same]
    exact stands foundRight

theorem sameCell (agrees : Agrees known context boxed)
    (agree : HandlesAgree known cells handles) (left right : Nat) :
    (cells[left]?.isSome && cells[left]? == cells[right]?) =
      Boxed.sameCell handles left right := by
  unfold Boxed.sameCell
  rcases handle_cases agree left with
    ⟨missing, missingToo⟩ | ⟨leftCell, leftHeld, foundLeft, foundLeftToo, sameLeft⟩
  · rw [missing, missingToo]
    rfl
  · rw [foundLeft, foundLeftToo]
    rcases handle_cases agree right with
      ⟨missing, missingToo⟩ | ⟨rightCell, rightHeld, foundRight, foundRightToo, sameRight⟩
    · rw [missing, missingToo]
      rfl
    · rw [foundRight, foundRightToo, Bool.eq_iff_iff]
      simp [agrees.sameCell_iff sameLeft sameRight]

theorem obtained_agree (agree : HandlesAgree known cells handles) (asked : List Nat) :
    List.Forall₂ (Stands (known.map BoxedHandle.cell)) (obtained cells asked)
      (asked.filterMap fun handle => handles[handle]?.map BoxedHandle.cell) := by
  induction asked with
  | nil => exact .nil
  | cons handle rest ih =>
      unfold obtained at ih ⊢
      rw [List.filterMap_cons, List.filterMap_cons]
      rcases handle_cases agree handle with
        ⟨missing, missingToo⟩ | ⟨cell, held, found, foundToo, same⟩
      · rw [missing, missingToo]
        exact ih
      · rw [found, foundToo]
        exact .cons (stands same) ih

theorem live (agrees : Agrees known context boxed) :
    ∀ frame ∈ context.frames, ∀ slot cell, (slot, cell) ∈ frame.captured →
      context.readSlot frame slot = context.heap.cell cell := by
  intro frame member slot cell present
  have captured := Frame.cellAt?_of_mem (agrees.intact.sound frame member).keys present
  unfold Context.readSlot
  rw [captured]

theorem readLocal (agrees : Agrees known context boxed) (arguments : List Value) :
    DebugFunction.readLocal arguments context = boxed.readLocal arguments := by
  have value : context.getLocal? = boxed.getLocal? :=
    funext fun level => funext fun ordinal => agrees.getLocal? level ordinal
  unfold DebugFunction.readLocal Boxed.readLocal
  simp only [agrees.resembles.checkLevel, value]

theorem runSetLocal (agrees : Agrees known context boxed) (arguments : List Value) :
    AgreeAfter known (DebugFunction.runSetLocal arguments context)
      (boxed.runSetLocal arguments) := by
  have query : DebugFunction.writeLocalQuery arguments context =
      DebugFunction.writeLocalQuery arguments boxed.view := by
    unfold DebugFunction.writeLocalQuery
    simp only [agrees.resembles.checkLevel]
  unfold DebugFunction.runSetLocal Boxed.runSetLocal
  rw [query]
  rcases DebugFunction.writeLocalQuery arguments boxed.view with
    fault | ⟨level, missing | ordinal, value⟩
  · exact ⟨rfl, agrees⟩
  · exact ⟨rfl, agrees⟩
  · obtain ⟨name, after⟩ := agrees.setLocal level ordinal value
    refine ⟨?_, after⟩
    simp only [name]

theorem library (agrees : Agrees known context boxed) (function : DebugFunction)
    (arguments : List Value) :
    AgreeAfter known (function.run arguments context) (boxed.runLibrary function arguments) := by
  by_cases reads : function = .getLocal
  · subst reads
    exact ⟨agrees.readLocal arguments, agrees⟩
  by_cases writes : function = .setLocal
  · subst writes
    exact agrees.runSetLocal arguments
  have other : boxed.runLibrary function arguments =
      ((function.run arguments boxed.view).1,
        { boxed with
          heap := (function.run arguments boxed.view).2.heap
          stringMetatable := (function.run arguments boxed.view).2.stringMetatable }) := by
    cases function with
    | getLocal => exact absurd rfl reads
    | setLocal => exact absurd rfl writes
    | _ => rfl
  obtain ⟨answer, left, -, heap, others, stringMetatable⟩ :=
    agrees.resembles.library reads writes arguments
  rw [other]
  refine ⟨answer, ?_⟩
  rw [left, stringMetatable]
  exact agrees.withObjects heap others _

/-! ### One operation -/

/-- A step that answers alike and makes no cell known. -/
theorem step {α : Type} {reply replyToo : α} {later : Context} {laterToo : Boxed}
    (agrees : Agrees known later laterToo) (agree : HandlesAgree known cells handles)
    (answer : reply = replyToo) :
    ∃ grown, known <+: grown ∧
      StepAgrees grown (reply, cells, later) (replyToo, handles, laterToo) :=
  ⟨known, List.prefix_refl known, answer, agree, agrees⟩

theorem execute (agrees : Agrees known context boxed) (agree : HandlesAgree known cells handles)
    {operation : Operation} (other : ∀ function arguments, operation ≠ .callHost function arguments)
    (fits : operation.Fits context) (callHost : HostCaller) (callHostToo : Boxed.Caller) :
    ∃ later, known <+: later ∧
      StepAgrees later (operation.execute callHost cells context)
        (boxed.execute callHostToo handles operation) := by
  cases operation with
  | call function arguments =>
      obtain ⟨answer, after⟩ := agrees.call function arguments
      exact after.step agree answer
  | tailCall function arguments =>
      obtain ⟨answer, after⟩ := agrees.tailCall function arguments
      exact after.step agree answer
  | callHost function arguments => exact absurd rfl (other function arguments)
  | returnFromCall =>
      obtain ⟨answer, after⟩ := agrees.returnFromCall
      exact after.step agree answer
  | unwind => exact agrees.unwind.step agree rfl
  | setPosition position =>
      obtain ⟨answer, after⟩ := agrees.setPosition position
      exact after.step agree answer
  | readRegister register => exact agrees.step agree (agrees.readRegister fits)
  | writeRegister register value =>
      obtain ⟨answer, after⟩ := agrees.setRegister fits value
      exact after.step agree answer
  | capture register =>
      simp only [Operation.execute, Boxed.execute]
      rcases agrees.capture fits with
        ⟨fault, refused, refusedToo⟩ | ⟨cell, held, later, after, made, madeToo, grown, found, next⟩
      · rw [refused, refusedToo]
        exact agrees.step agree rfl
      · rw [made, madeToo]
        refine ⟨later, grown, congrArg Except.ok agree.length_eq, ?_, next⟩
        exact List.rel_append (agree.mono grown) (.cons found .nil)
  | readCell handle => exact agrees.step agree (agrees.readCell agree handle)
  | writeCell handle value =>
      simp only [Operation.execute, Boxed.execute]
      rcases handle_cases agree handle with
        ⟨missing, missingToo⟩ | ⟨cell, held, found, foundToo, same⟩
      · rw [missing, missingToo]
        exact agrees.step agree rfl
      · rw [found, foundToo]
        have after := agrees.withHeap (agrees.heap.setCell (stands same) value)
          (.setCell (stands same) boxed.heap value)
        exact after.step agree rfl
  | sameCell left right => exact agrees.step agree (agrees.sameCell agree left right)
  | makeClosure prototype asked =>
      have object : FunctionAgrees (known.map BoxedHandle.cell)
          { code := .script prototype, upvalues := obtained cells asked }
          { code := .script prototype
            upvalues := asked.filterMap fun handle => handles[handle]?.map BoxedHandle.cell } :=
        ⟨rfl, rfl, rfl, obtained_agree agree asked⟩
      obtain ⟨answer, after⟩ := agrees.heap.addFunction object
      exact (agrees.withHeap after (.ofCells rfl)).step agree answer
  | getLocal level ordinal => exact agrees.step agree (agrees.getLocal? level ordinal)
  | setLocal level ordinal value =>
      obtain ⟨answer, after⟩ := agrees.setLocal level ordinal value
      exact after.step agree answer
  | getUpvalue function ordinal =>
      exact agrees.step agree (agrees.heap.getUpvalue? function ordinal)
  | setUpvalue function ordinal value =>
      obtain ⟨answer, after, others⟩ := agrees.heap.setUpvalue function ordinal value
      exact (agrees.withHeap after others).step agree answer
  | depth => exact agrees.step agree agrees.depth
  | levelCount => exact agrees.step agree agrees.resembles.levelCount
  | lookupLevel number => exact agrees.step agree (agrees.resembles.level? number)
  | traceback start message =>
      exact agrees.step agree (agrees.resembles.traceback start message)
  | setConfig config =>
      refine Agrees.step ?_ agree rfl
      exact { agrees with
        intact := agrees.intact.congr rfl rfl (Nat.le_refl _)
        config := rfl }

end Agrees

end StackScope
