import StackScope.Proofs.Boxed.Step
import StackScope.Proofs.StackIntegrity

/-!
Capturing registers only when they are asked for cannot be told from giving each register a cell of
its own. Whatever a program does, and whatever the host functions do that it calls, every operation
gets the same reply from a context as from the machine with a cell for each register.

It is an induction on how deep host functions nest and, inside, on the program.
-/

namespace StackScope

structure Event.Follows (known : List BoxedHandle) (event : Event) (reference : BoxedEvent) :
    Prop where
  reply : (⟨event.operation, event.reply⟩ : (operation : Operation) × operation.Reply) =
    ⟨reference.operation, reference.reply⟩
  held : HandlesAgree known event.held reference.held
  live : ∀ frame ∈ event.context.frames, ∀ slot cell, (slot, cell) ∈ frame.captured →
    event.context.readSlot frame slot = event.context.heap.cell cell

theorem Event.Follows.mono {known later : List BoxedHandle} {event : Event}
    {reference : BoxedEvent} (follows : event.Follows known reference) (grown : known <+: later) :
    event.Follows later reference :=
  ⟨follows.reply, follows.held.mono grown, follows.live⟩

def RunsAgree {α : Type} (known : List BoxedHandle) (outcome : Outcome α)
    (counterpart : BoxedOutcome α) (events : List Event) (references : List BoxedEvent) : Prop :=
  ∃ later, known <+: later ∧ AgreeAfter later outcome counterpart ∧
    List.Forall₂ (Event.Follows later) events references

def CallersAgree (callHost : HostCaller) (witness : HostWitness) (callHostToo : Boxed.Caller)
    (witnessToo : Boxed.Witness) : Prop :=
  ∀ {known context boxed}, Agrees known context boxed → ∀ function arguments,
    Preserved.Allows Operation.Fits (witness function arguments context) →
      RunsAgree known (callHost function arguments context)
        (callHostToo function arguments boxed) (witness function arguments context)
        (witnessToo function arguments boxed)

namespace Agrees

variable {known : List BoxedHandle} {context : Context} {boxed : Boxed} {cells : List CellId}
  {handles : List BoxedHandle} {callHost : HostCaller} {witness : HostWitness}
  {callHostToo : Boxed.Caller} {witnessToo : Boxed.Witness}

theorem silent {α : Type} {outcome : Outcome α} {counterpart : BoxedOutcome α}
    (after : AgreeAfter known outcome counterpart) : RunsAgree known outcome counterpart [] [] :=
  ⟨known, List.prefix_refl known, after, .nil⟩

theorem performed (callers : CallersAgree callHost witness callHostToo witnessToo)
    (agrees : Agrees known context boxed) (agree : HandlesAgree known cells handles)
    {operation : Operation} (fits : operation.Fits context)
    (inner : Preserved.Allows Operation.Fits (operation.inner witness context)) :
    ∃ later, known <+: later ∧
      StepAgrees later (operation.execute callHost cells context)
        (boxed.execute callHostToo handles operation) ∧
      List.Forall₂ (Event.Follows later) (operation.inner witness context)
        (boxed.inner witnessToo operation) := by
  by_cases isCall : ∃ function arguments, operation = .callHost function arguments
  · obtain ⟨function, arguments, rfl⟩ := isCall
    obtain ⟨later, grown, ⟨answer, after⟩, events⟩ := callers agrees function arguments inner
    exact ⟨later, grown, ⟨answer, agree.mono grown, after⟩, events⟩
  · have other : ∀ function arguments, operation ≠ .callHost function arguments :=
      fun function arguments same => isCall ⟨function, arguments, same⟩
    obtain ⟨later, grown, step⟩ := agrees.execute agree other fits callHost callHostToo
    refine ⟨later, grown, step, ?_⟩
    cases operation with
    | callHost function arguments => exact absurd rfl (other function arguments)
    | _ => exact .nil

theorem program (callers : CallersAgree callHost witness callHostToo witnessToo)
    (program : HostProgram) (agrees : Agrees known context boxed)
    (agree : HandlesAgree known cells handles)
    (fits : Preserved.Allows Operation.Fits (program.events callHost witness cells context)) :
    RunsAgree known (program.run callHost cells context)
      (Boxed.run callHostToo program handles boxed)
      (program.events callHost witness cells context)
      (Boxed.events callHostToo witnessToo program handles boxed) := by
  induction program generalizing known cells handles context boxed with
  | finish result => exact silent ⟨rfl, agrees⟩
  | perform operation next ih =>
      simp only [HostProgram.run, Boxed.run, HostProgram.events, Boxed.events] at fits ⊢
      obtain ⟨first, rest⟩ := List.forall_mem_cons.mp fits
      obtain ⟨inner, remaining⟩ := List.forall_mem_append.mp rest
      obtain ⟨middle, grown, step, nested⟩ := performed callers agrees agree first inner
      have asked : ∀ reply replyToo, reply = replyToo →
          (⟨operation, cells, context, reply⟩ : Event).Follows known
            ⟨operation, handles, replyToo⟩ :=
        fun _ _ same => ⟨congrArg _ same, agree, agrees.live⟩
      -- From here on only the outcome of the operation counts, not which operation it was.
      revert step remaining
      generalize operation.execute callHost cells context = outcome
      generalize boxed.execute callHostToo handles operation = counterpart
      obtain ⟨reply, cellsAfter, contextAfter⟩ := outcome
      obtain ⟨replyToo, handlesAfter, boxedAfter⟩ := counterpart
      rintro remaining ⟨answer, held, after⟩
      cases answer
      obtain ⟨later, grownFurther, ended, events⟩ := ih reply after held remaining
      have grownAll := grown.trans grownFurther
      refine ⟨later, grownAll, ended, .cons ((asked reply reply rfl).mono grownAll) ?_⟩
      exact List.rel_append (nested.imp fun _ _ follows => follows.mono grownFurther) events

theorem body (callers : CallersAgree callHost witness callHostToo witnessToo) (body : HostBody)
    (arguments : List Value) (agrees : Agrees known context boxed)
    (fits : Preserved.Allows Operation.Fits (body.events callHost witness arguments context)) :
    RunsAgree known (body.run callHost arguments context)
      (Boxed.runBody callHostToo body arguments boxed)
      (body.events callHost witness arguments context)
      (Boxed.bodyEvents callHostToo witnessToo body arguments boxed) := by
  cases body with
  | debug function => exact silent (agrees.library function arguments)
  | program start => exact program callers (start arguments) agrees .nil fits

end Agrees

theorem CallersAgree.callHostWith {callHost : HostCaller} {witness : HostWitness}
    {callHostToo : Boxed.Caller} {witnessToo : Boxed.Witness}
    (callers : CallersAgree callHost witness callHostToo witnessToo) :
    CallersAgree (callHostWith callHost) (hostEventsWith callHost witness)
      (Boxed.callHostWith callHostToo) (Boxed.hostEventsWith callHostToo witnessToo) := by
  intro known context boxed agrees function arguments fits
  unfold Boxed.callHostWith Boxed.hostEventsWith
  rw [← agrees.code function]
  rcases callHostWith_cases callHost witness function arguments context with
    ⟨⟨prototype, script⟩, refused, silent⟩ | ⟨⟨host, code⟩, full, refused, silent⟩ |
      ⟨host, code, room, ran, events⟩
  · rw [refused, silent, script]
    exact Agrees.silent ⟨rfl, agrees⟩
  · have refusedToo : boxed.call function arguments =
        (.error (.stackOverflow context.config.maxCallDepth), boxed) := by
      unfold Boxed.call
      rw [← agrees.config, ← agrees.depth, if_pos full]
    rw [refused, silent, code, refusedToo]
    exact Agrees.silent ⟨rfl, agrees⟩
  · have made : boxed.call function arguments =
        (.ok (), boxed.pushFrame function arguments 0) := by
      unfold Boxed.call
      rw [← agrees.config, ← agrees.depth, if_neg (Nat.not_le.mpr room)]
    rw [events] at fits
    rw [ran, events, code, made]
    obtain ⟨later, grown, ⟨answer, after⟩, follows⟩ :=
      (agrees.pushFrame function arguments).body callers host.body arguments fits
    refine ⟨later, grown, ⟨?_, after.popFrame⟩, follows⟩
    exact congrArg (Except.mapError (Fault.inFunction host.name)) answer

theorem callHostWithin_agree (nesting : Nat) :
    CallersAgree (callHostWithin nesting) (hostEventsWithin nesting)
      (Boxed.callHostWithin nesting) (Boxed.hostEventsWithin nesting) := by
  induction nesting with
  | zero =>
      intro known context boxed agrees function arguments _
      refine Agrees.silent ⟨?_, agrees⟩
      change Except.error (Fault.stackOverflow context.config.maxCallDepth) =
        Except.error (Fault.stackOverflow boxed.config.maxCallDepth)
      rw [agrees.config]
  | succ nesting ih => exact ih.callHostWith

/-! ### Runs -/

def olderHandles (heap : Heap) : List BoxedHandle :=
  (List.range heap.cells.size).map fun index => .older ⟨index⟩

theorem olderHandles_agree {heap : Heap} {cells : List CellId}
    (present : ∀ cell ∈ cells, cell.index < heap.cells.size) :
    HandlesAgree (olderHandles heap) cells (cells.map BoxedHandle.older) := by
  refine List.forall₂_map_right_iff.mpr (List.forall₂_same.mpr fun cell member => ?_)
  rw [olderHandles, List.getElem?_map, List.getElem?_range (present cell member)]
  rfl

theorem Agrees.create {heap : Heap} (closed : heap.Closed) (config : Config) :
    Agrees (olderHandles heap) (.create heap config) (.create heap config) where
  intact := .create heap config
  heap := by
    have cells : (olderHandles heap).map BoxedHandle.cell =
        (List.range heap.cells.size).map CellId.mk := by
      rw [olderHandles, List.map_map]
      rfl
    have closedAfter : (Context.create heap config).heap.Closed := closed
    rw [cells]
    exact .refl closedAfter
  frames := .nil
  directory := by
    have older : ∀ handle ∈ olderHandles heap ++ [], ∃ index, index < heap.cells.size ∧
        handle = .older ⟨index⟩ := by
      intro handle member
      rw [List.append_nil] at member
      obtain ⟨index, present, rfl⟩ := List.mem_map.mp member
      exact ⟨index, List.mem_range.mp present, rfl⟩
    refine ⟨List.nodup_nil, ?_, ?_, ?_⟩
    · intro handle member
      obtain ⟨index, present, rfl⟩ := older handle member
      exact present
    · intro handle member
      obtain ⟨index, -, rfl⟩ := older handle member
      trivial
    · intro left leftMember right rightMember
      obtain ⟨index, -, rfl⟩ := older left leftMember
      obtain ⟨other, -, rfl⟩ := older right rightMember
      simp only [BoxedHandle.older, CellName.older.injEq]
  contents := by
    intro slot handle found
    cases found
  thread := rfl
  stringMetatable := rfl
  config := rfl

/-- An operation of a context and the same operation of the machine. The replies are the same,
`nameOf` says which registers the cells are that the program holds, and captured registers that are
live hold what their cells hold. -/
structure Event.Matches (nameOf : CellId → CellName) (event : Event) (reference : BoxedEvent) :
    Prop where
  reply : (⟨event.operation, event.reply⟩ : (operation : Operation) × operation.Reply) =
    ⟨reference.operation, reference.reply⟩
  held : event.held.map nameOf = reference.held.map BoxedHandle.name
  live : ∀ frame ∈ event.context.frames, ∀ slot cell, (slot, cell) ∈ frame.captured →
    event.context.readSlot frame slot = event.context.heap.cell cell

def nameIn (known : List BoxedHandle) (cell : CellId) : CellName :=
  (known[cell.index]?.map BoxedHandle.name).getD (.older cell)

theorem nameIn_of_found {known : List BoxedHandle} {cell : CellId} {handle : BoxedHandle}
    (found : known[cell.index]? = some handle) : nameIn known cell = handle.name := by
  unfold nameIn
  rw [found]
  rfl

theorem HandlesAgree.names {known : List BoxedHandle} {cells : List CellId}
    {handles : List BoxedHandle} (agree : HandlesAgree known cells handles) :
    cells.map (nameIn known) = handles.map BoxedHandle.name := by
  induction agree with
  | nil => rfl
  | cons found _ ih => rw [List.map_cons, List.map_cons, nameIn_of_found found, ih]

/-- A run that starts with a new context has the same result as a run of the machine with a cell for
each register, and operation by operation the same replies. Two cells that programs hold are the
same cell exactly if they are the same register of the same activation, or the same older cell. -/
theorem capture_on_demand_refines {heap : Heap} (closed : heap.Closed) (config : Config)
    {cells : List CellId} (present : ∀ cell ∈ cells, cell.index < heap.cells.size)
    (program : HostProgram)
    (fits : Preserved.Allows Operation.Fits
      ((Context.create heap config).programEvents cells program)) :
    ((Context.create heap config).runProgram cells program).1 =
      ((Boxed.create heap config).runProgram (cells.map .older) program).1 ∧
    ∃ nameOf : CellId → CellName,
      List.Forall₂ (Event.Matches nameOf)
        ((Context.create heap config).programEvents cells program)
        ((Boxed.create heap config).programEvents (cells.map .older) program) ∧
      ∀ first ∈ (Context.create heap config).programEvents cells program,
        ∀ second ∈ (Context.create heap config).programEvents cells program,
          ∀ left ∈ first.held, ∀ right ∈ second.held,
            left = right ↔ nameOf left = nameOf right := by
  obtain ⟨known, -, ⟨answer, after⟩, events⟩ :=
    Agrees.program (callHostWithin_agree nestingLimit) program (.create closed config)
      (olderHandles_agree present) fits
  refine ⟨answer, nameIn known, events.imp fun event reference follows => ?_, ?_⟩
  · exact ⟨follows.reply, follows.held.names, follows.live⟩
  · intro first firstMember second secondMember left leftHeld right rightHeld
    have found : ∀ event ∈ (Context.create heap config).programEvents cells program,
        ∀ cell ∈ event.held, ∃ handle, known[cell.index]? = some handle := by
      intro event member cell held
      obtain ⟨reference, follows⟩ := exists_of_mem_left events member
      exact exists_of_mem_left follows.held held
    obtain ⟨leftHandle, foundLeft⟩ := found first firstMember left leftHeld
    obtain ⟨rightHandle, foundRight⟩ := found second secondMember right rightHeld
    rw [nameIn_of_found foundLeft, nameIn_of_found foundRight,
      after.sameCell_iff foundLeft foundRight]
    exact (after.directory.named leftHandle
      (List.mem_append_left _ (List.mem_of_getElem? foundLeft)) rightHandle
      (List.mem_append_left _ (List.mem_of_getElem? foundRight))).symm

def aliasHeap : Heap := (sampleHeap.addCell (.text "before")).2

/-- Captures the same register of two activations, one after the other in the same window, then runs
the host function and reads the first cell. -/
def aliasProgram : HostProgram :=
  .perform (.call ⟨0⟩ []) fun _ =>
    .perform (.writeRegister 0 (.text "first")) fun _ =>
      .perform (.capture 0) fun _ =>
        .perform .returnFromCall fun _ =>
          .perform (.call ⟨0⟩ []) fun _ =>
            .perform (.capture 0) fun _ =>
              .perform (.sameCell 1 2) fun same =>
                .perform (.callHost ⟨1⟩ []) fun _ =>
                  .perform (.readCell 1) fun value =>
                    .finish (.ok [.boolean same, value.getD .nil])

/-- The two captures are different cells, and the first one outlives its frame. -/
theorem capture_on_demand_refines_alias :
    aliasHeap.Closed ∧ (∀ cell ∈ [CellId.mk 0], cell.index < aliasHeap.cells.size) ∧
    Preserved.Allows Operation.Fits
      ((Context.create aliasHeap {}).programEvents [⟨0⟩] aliasProgram) ∧
    ((Context.create aliasHeap {}).programEvents [⟨0⟩] aliasProgram).length = 12 ∧
    ((Boxed.create aliasHeap {}).runProgram [.older ⟨0⟩] aliasProgram).1 =
      .ok [.boolean false, .text "first"] ∧
    ((Context.create aliasHeap {}).runProgram [⟨0⟩] aliasProgram).1 =
      .ok [.boolean false, .text "first"] := by
  have closed : aliasHeap.Closed := by
    unfold Heap.Closed
    decide
  have present : ∀ cell ∈ [CellId.mk 0], cell.index < aliasHeap.cells.size := by decide
  have permitted : Preserved.Allows Operation.Fits
      ((Context.create aliasHeap {}).programEvents [⟨0⟩] aliasProgram) := by
    unfold Preserved.Allows
    decide
  have boxed : ((Boxed.create aliasHeap {}).runProgram [.older ⟨0⟩] aliasProgram).1 =
      .ok [.boolean false, .text "first"] := rfl
  have same := (capture_on_demand_refines closed {} present aliasProgram permitted).1
  exact ⟨closed, present, permitted, by decide, boxed, same.trans boxed⟩

end StackScope
