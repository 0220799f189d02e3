import StackScope.Proofs.Boxed.Agreement

/-!
Registers and locals, read, written and captured on both sides. Everything goes through the place of
a register: the frame that it belongs to, its position on the stack and its handle.
-/

namespace StackScope

structure Place (context : Context) (boxed : Boxed) (frame : Frame) (slot : Nat)
    (handle : BoxedHandle) : Prop where
  member : frame ∈ context.frames
  inside : frame.base ≤ slot ∧ slot < frame.top
  found : (slots boxed.frames)[slot]? = some handle

theorem Placed.place {context : Context} {boxed : Boxed} {frame : Frame} {current : BoxedFrame}
    (placed : Placed (slots boxed.frames) frame current) (member : frame ∈ context.frames)
    {register : Nat} {cell : CellId} (found : current.registers[register]? = some cell) :
    Place context boxed frame (frame.base + register)
      ⟨.register current.activation register, cell⟩ where
  member := member
  inside := by
    have counted := (List.getElem?_eq_some_iff.mp found).1
    have top := placed.top
    omega
  found := by
    apply placed.registers
    rw [BoxedFrame.getElem?_handles, found]
    rfl

def AgreeAfter {α : Type} (known : List BoxedHandle) (outcome : Outcome α)
    (counterpart : BoxedOutcome α) : Prop :=
  outcome.1 = counterpart.1 ∧ Agrees known outcome.2 counterpart.2

namespace Agrees

variable {known : List BoxedHandle} {context : Context} {boxed : Boxed}

/-- Cells that stand for none hold the values on the stack, so objects may change as long as these
cells do not. -/
theorem withObjects (agrees : Agrees known context boxed) {heap heapToo : Heap}
    (after : HeapAgrees (known.map BoxedHandle.cell) heap heapToo)
    (others : KeepsOthers (known.map BoxedHandle.cell) boxed.heap heapToo)
    (stringMetatable : Option TableId) :
    Agrees known (context.withObjects heap stringMetatable)
      { boxed with heap := heapToo, stringMetatable } where
  intact := by
    refine agrees.intact.congr rfl rfl ?_
    rw [← agrees.heap.count, after.count]
    exact Nat.le_refl _
  heap := after
  frames := agrees.frames
  directory := by
    change Directory known (slots boxed.frames) heapToo.cells.size boxed.activations
    rw [others.size]
    exact agrees.directory
  contents := by
    intro slot handle found
    refine (agrees.contents found).later rfl (List.prefix_refl known) fun free value => ⟨free, ?_⟩
    rw [others.cell handle.cell free]
    exact value
  thread := agrees.thread
  stringMetatable := rfl
  config := agrees.config

theorem withHeap (agrees : Agrees known context boxed) {heap heapToo : Heap}
    (after : HeapAgrees (known.map BoxedHandle.cell) heap heapToo)
    (others : KeepsOthers (known.map BoxedHandle.cell) boxed.heap heapToo) :
    Agrees known { context with heap } { boxed with heap := heapToo } := by
  have changed := agrees.withObjects after others context.stringMetatable
  rw [agrees.stringMetatable] at changed
  exact agrees.stringMetatable ▸ changed

variable {frame : Frame} {slot : Nat} {handle : BoxedHandle}

theorem place_cases (agrees : Agrees known context boxed)
    (place : Place context boxed frame slot handle) :
    (∃ cell, frame.cellAt? slot = some cell ∧ known[cell.index]? = some handle) ∨
    (frame.cellAt? slot = none ∧ handle.cell ∉ known.map BoxedHandle.cell ∧
      context.stack[slot]? = some (boxed.heap.cell handle.cell)) := by
  have shares := agrees.contents place.found
  unfold Shares at shares
  rw [agrees.intact.home?_eq place.member place.inside] at shares
  cases captured : frame.cellAt? slot with
  | some cell =>
      rw [captured] at shares
      exact .inl ⟨cell, rfl, shares⟩
  | none =>
      rw [captured] at shares
      exact .inr ⟨rfl, shares⟩

theorem readSlot (agrees : Agrees known context boxed)
    (place : Place context boxed frame slot handle) :
    context.readSlot frame slot = boxed.heap.cell handle.cell := by
  unfold Context.readSlot
  rcases agrees.place_cases place with ⟨cell, captured, same⟩ | ⟨missing, -, value⟩
  · rw [captured]
    exact agrees.heap.values (stands same)
  · rw [missing, value]
    rfl

/-- A register that is not captured, written on the stack and in its cell. -/
theorem writePlain (agrees : Agrees known context boxed)
    (place : Place context boxed frame slot handle)
    (free : handle.cell ∉ known.map BoxedHandle.cell) (value : Value) :
    Agrees known { context with stack := context.stack.set slot value }
      (boxed.setCell handle.cell value) where
  intact := agrees.intact.congr rfl List.length_set (Nat.le_refl _)
  heap := agrees.heap.setFree free value
  frames := agrees.frames
  directory := by
    have size : (boxed.heap.setCell handle.cell value).cells.size = boxed.heap.cells.size :=
      Pool.size_set _ _ _
    change Directory known (slots boxed.frames)
      (boxed.heap.setCell handle.cell value).cells.size boxed.activations
    rw [size]
    exact agrees.directory
  contents := by
    intro other otherHandle found
    refine (agrees.contents found).later rfl (List.prefix_refl known)
      fun freeOther valueOther => ⟨freeOther, ?_⟩
    change (context.stack.set slot value)[other]? =
      some ((boxed.heap.setCell handle.cell value).cell otherHandle.cell)
    rw [Heap.cell_setCell]
    by_cases same : slot = other
    · subst same
      have sameHandle : handle = otherHandle :=
        Option.some.inj (place.found.symm.trans found)
      subst sameHandle
      have inside : handle.cell.index < boxed.heap.cells.size :=
        agrees.directory.inside handle
          (List.mem_append_right _ (List.mem_of_getElem? found))
      have bound : slot < context.stack.length := by
        rw [agrees.height]
        exact (List.getElem?_eq_some_iff.mp found).1
      rw [if_pos ⟨rfl, inside⟩, List.getElem?_set_self bound]
    · have different := agrees.directory.cell_ne place.found found same
      rw [if_neg (fun both => different both.1), List.getElem?_set_ne same]
      exact valueOther
  thread := agrees.thread
  stringMetatable := agrees.stringMetatable
  config := agrees.config

/-- Only the register at the place changes. -/
theorem writeSlot (agrees : Agrees known context boxed)
    (place : Place context boxed frame slot handle) (value : Value) :
    Agrees known (context.writeSlot frame slot value) (boxed.setCell handle.cell value) := by
  unfold Context.writeSlot
  rcases agrees.place_cases place with ⟨cell, captured, same⟩ | ⟨missing, free, -⟩
  · rw [captured]
    exact agrees.withHeap (agrees.heap.setCell (stands same) value)
      (.setCell (stands same) boxed.heap value)
  · rw [missing]
    exact agrees.writePlain place free value

theorem register_cases (agrees : Agrees known context boxed) {register : Nat}
    (fits : context.Fits register) :
    (context.frames = [] ∧ boxed.frames = []) ∨
    ∃ frame outer current rest, context.frames = frame :: outer ∧
      boxed.frames = current :: rest ∧
      ((Context.slotOf frame register = .ok none ∧ current.registers[register]? = none) ∨
      ∃ cell, Context.slotOf frame register = .ok (some (frame.base + register)) ∧
        current.registers[register]? = some cell ∧
        Place context boxed frame (frame.base + register)
          ⟨.register current.activation register, cell⟩) := by
  rcases agrees.frames.current_cases with
    empty | ⟨frame, outer, current, rest, frames, framesToo, -, -, top, -⟩
  · exact .inl empty
  · refine .inr ⟨frame, outer, current, rest, frames, framesToo, ?_⟩
    have plain : frame.base + register < Word.size64 :=
      fits frame (by rw [Context.currentFrame?, frames]; rfl)
    rw [Context.slotOf_of_lt plain]
    cases found : current.registers[register]? with
    | none =>
        have outside := List.getElem?_eq_none_iff.mp found
        exact .inl ⟨congrArg Except.ok (if_neg (by omega)), rfl⟩
    | some cell =>
        have placed := agrees.frames.placed
        rw [frames, framesToo] at placed
        obtain ⟨here, -⟩ := List.forall₂_cons.mp placed
        rw [← framesToo] at here
        have there := here.place (frames ▸ List.mem_cons_self) found
        exact .inr ⟨cell, congrArg Except.ok (if_pos there.inside.2), rfl, there⟩

theorem readRegister (agrees : Agrees known context boxed) {register : Nat}
    (fits : context.Fits register) :
    context.readRegister register = .ok (boxed.register? register) := by
  unfold Context.readRegister Boxed.register?
  rcases agrees.register_cases fits with
    ⟨empty, emptyToo⟩ | ⟨frame, outer, current, rest, frames, framesToo,
      ⟨outside, outsideToo⟩ | ⟨cell, inside, insideToo, place⟩⟩
  · rw [empty, emptyToo]
  · simp only [frames, framesToo, outside, outsideToo, Except.map, Option.map_none]
  · simp only [frames, framesToo, inside, insideToo, Except.map, Option.map_some]
    exact congrArg (fun value => Except.ok (some value)) (agrees.readSlot place)

theorem setRegister (agrees : Agrees known context boxed) {register : Nat}
    (fits : context.Fits register) (value : Value) :
    AgreeAfter known (context.setRegister register value) (boxed.setRegister register value) := by
  unfold Context.setRegister Boxed.setRegister
  rcases agrees.register_cases fits with
    ⟨empty, emptyToo⟩ | ⟨frame, outer, current, rest, frames, framesToo,
      ⟨outside, outsideToo⟩ | ⟨cell, inside, insideToo, place⟩⟩
  · rw [empty, emptyToo]
    exact ⟨rfl, agrees⟩
  · simp only [frames, framesToo, outside, outsideToo]
    exact ⟨rfl, agrees⟩
  · simp only [frames, framesToo, inside, insideToo]
    exact ⟨rfl, agrees.writeSlot place value⟩

/-! ### Locals -/

theorem local_cases (agrees : Agrees known context boxed) (level : Level) (ordinal : Nat) :
    (context.locate? level ordinal = none ∧ boxed.local? level ordinal = none) ∨
    ∃ place handle, context.locate? level ordinal = some place ∧
      boxed.local? level ordinal = some (handle.cell, place.name) ∧
      Place context boxed place.frame place.slot handle := by
  unfold Context.locate? Boxed.local?
  cases level.index? with
  | none => exact .inl ⟨rfl, rfl⟩
  | some index =>
      simp only [Context.frameAt?, bind, Option.bind_some]
      rcases getElem?_cases (List.rel_reverse agrees.frames.placed) index with
        ⟨missing, missingToo⟩ | ⟨frame, current, found, foundToo, placed⟩
      · rw [missing, missingToo]
        exact .inl ⟨rfl, rfl⟩
      · have code : current.code.prototype? = frame.prototype? :=
          placed.resembles.prototype?.symm
        have position : current.position = frame.position := placed.resembles.position.symm
        simp only [found, foundToo, code, position, Option.bind_some]
        cases frame.prototype? with
        | none => exact .inl ⟨rfl, rfl⟩
        | some prototype =>
            simp only [Option.bind_some]
            cases live : prototype.localAt? ordinal frame.position with
            | none => exact .inl ⟨rfl, rfl⟩
            | some scope =>
                have counted : 1 ≤ ordinal :=
                  ((prototype.localAt?_isSome ordinal frame.position).mp (by rw [live]; rfl)).1
                have top := placed.top
                simp only [Option.bind_some, Nat.add_sub_assoc counted frame.base]
                cases here : current.registers[ordinal - 1]? with
                | none =>
                    have outside := List.getElem?_eq_none_iff.mp here
                    rw [if_neg (by omega)]
                    exact .inl ⟨rfl, rfl⟩
                | some cell =>
                    have there := placed.place (Context.mem_of_frameAt? found) here
                    rw [if_pos there.inside.2]
                    exact .inr ⟨_, _, rfl, rfl, there⟩

theorem getLocal? (agrees : Agrees known context boxed) (level : Level) (ordinal : Nat) :
    context.getLocal? level ordinal = boxed.getLocal? level ordinal := by
  unfold Context.getLocal? Boxed.getLocal?
  rcases agrees.local_cases level ordinal with
    ⟨missing, missingToo⟩ | ⟨place, handle, found, foundToo, there⟩
  · rw [missing, missingToo]
    rfl
  · rw [found, foundToo]
    simp only [Option.map_some, agrees.readSlot there]

theorem setLocal (agrees : Agrees known context boxed) (level : Level) (ordinal : Nat)
    (value : Value) :
    (context.setLocal level ordinal value).1 = (boxed.setLocal level ordinal value).1 ∧
    Agrees known (context.setLocal level ordinal value).2
      (boxed.setLocal level ordinal value).2 := by
  unfold Context.setLocal Boxed.setLocal
  rcases agrees.local_cases level ordinal with
    ⟨missing, missingToo⟩ | ⟨place, handle, found, foundToo, there⟩
  · rw [missing, missingToo]
    exact ⟨rfl, agrees⟩
  · rw [found, foundToo]
    exact ⟨rfl, agrees.writeSlot there value⟩

/-- The next cell of the context gets the next place among the known ones. -/
theorem newest_found (agrees : Agrees known context boxed) {handle : BoxedHandle} :
    (known ++ [handle])[context.heap.cells.size]? = some handle := by
  rw [← agrees.heap.count, List.length_map]
  exact List.getElem?_concat_length

/-- The first capture of a register. The new cell of the context stands for that of the register. -/
theorem attachCell (agrees : Agrees known context boxed) {frame : Frame} {outer : List Frame}
    {slot : Nat} {handle : BoxedHandle} (frames : context.frames = frame :: outer)
    (place : Place context boxed frame slot handle) (missing : frame.cellAt? slot = none) :
    Agrees (known ++ [handle]) (context.attachCell frame outer slot) boxed := by
  rcases agrees.place_cases place with ⟨cell, captured, -⟩ | ⟨-, free, value⟩
  · rw [missing] at captured
    cases captured
  have member : handle ∈ slots boxed.frames := List.mem_of_getElem? place.found
  have home := context.home?_attachCell frames slot
  refine
    { intact := agrees.intact.attachCell frames place.inside missing
      heap := ?_
      frames := ?_
      directory := agrees.directory.learn member
      contents := ?_
      thread := agrees.thread
      stringMetatable := agrees.stringMetatable
      config := agrees.config }
  · unfold Context.attachCell
    rw [List.map_append, value]
    refine agrees.heap.addCell free ?_
    exact agrees.directory.inside handle (List.mem_append_right _ member)
  · rcases agrees.frames.current_cases with
      ⟨empty, -⟩ | ⟨_, _, current, rest, framesAgain, framesToo, resembles, base, top, below⟩
    · rw [frames] at empty
      cases empty
    · rw [frames] at framesAgain
      cases framesAgain
      obtain ⟨function, code, position, tailCalls⟩ := resembles
      rw [framesToo]
      exact .cons ⟨function, code, position, tailCalls⟩ base top below
  · intro other otherHandle found
    by_cases same : other = slot
    · subst same
      have sameHandle : handle = otherHandle := Option.some.inj (place.found.symm.trans found)
      subst sameHandle
      exact .captured ((home other).trans (if_pos rfl)) agrees.newest_found
    · refine (agrees.contents found).later ((home other).trans (if_neg same))
        (List.prefix_append known [handle]) fun freeOther valueOther => ⟨?_, valueOther⟩
      have different := agrees.directory.cell_ne place.found found (Ne.symm same)
      simp only [List.map_append, List.map_cons, List.map_nil, List.mem_append,
        List.mem_singleton, not_or]
      exact ⟨freeOther, Ne.symm different⟩

/-- A capture hands out cells that stand for one another, and the name says which register it is. -/
theorem capture (agrees : Agrees known context boxed) {register : Nat}
    (fits : context.Fits register) :
    (∃ fault, context.capture register = (.error fault, context) ∧
      boxed.capture register = .error fault) ∨
    ∃ cell handle later after, context.capture register = (.ok cell, after) ∧
      boxed.capture register = .ok handle ∧ known <+: later ∧
      later[cell.index]? = some handle ∧ Agrees later after boxed := by
  unfold Boxed.capture
  rcases agrees.register_cases fits with
    ⟨empty, emptyToo⟩ | ⟨frame, outer, current, rest, frames, framesToo,
      ⟨outside, outsideToo⟩ | ⟨cell, inside, insideToo, place⟩⟩
  · unfold Context.capture
    rw [empty, emptyToo]
    exact .inl ⟨_, rfl, rfl⟩
  · unfold Context.capture
    simp only [frames, framesToo, outside, outsideToo]
    exact .inl ⟨_, rfl, rfl⟩
  · simp only [framesToo, insideToo]
    rcases agrees.place_cases place with ⟨old, captured, same⟩ | ⟨missing, -, -⟩
    · refine .inr ⟨old, _, known, context, ?_, rfl, List.prefix_refl known, same, agrees⟩
      unfold Context.capture
      simp only [frames, inside, captured]
    · refine .inr ⟨⟨context.heap.cells.size⟩, _, known ++ [_], context.attachCell frame outer _,
        ?_, rfl, List.prefix_append known _, agrees.newest_found,
        agrees.attachCell frames place missing⟩
      unfold Context.capture
      simp only [frames, inside, missing]
      rfl

end Agrees

end StackScope
