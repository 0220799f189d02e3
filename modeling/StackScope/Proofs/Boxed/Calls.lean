import StackScope.Proofs.Boxed.Access

/-!
Frames pushed, replaced and removed on both sides. A pushed frame has a position and a new cell for
each of its registers, with the same values to begin with. The positions of a removed frame are the
last ones, so nothing is left of it.
-/

namespace StackScope

theorem initialWindow_eq (code : Code) (arguments : List Value) :
    Context.initialWindow code arguments =
      (List.range (registerCount code arguments)).map (initialRegister code arguments) := by
  refine List.ext_getElem? fun register => ?_
  rw [List.getElem?_map]
  cases code with
  | host host =>
      simp only [Context.initialWindow, registerCount]
      rcases Nat.lt_or_ge register arguments.length with inside | outside
      · rw [List.getElem?_range inside, Option.map_some, initialRegister,
          List.getElem?_eq_getElem inside]
        rfl
      · rw [List.getElem?_eq_none outside, List.getElem?_eq_none (by simpa using outside)]
        rfl
  | script prototype =>
      rcases Nat.lt_or_ge register prototype.windowSize with inside | outside
      · have counted : register < registerCount (.script prototype) arguments := inside
        rw [List.getElem?_range counted]
        simp only [Context.initialWindow, initialRegister, Option.map_some]
        rcases Nat.lt_or_ge register (arguments.take prototype.parameterCount).length with
          passed | missing
        · have bounds : register < prototype.parameterCount ∧ register < arguments.length := by
            rw [List.length_take] at passed
            omega
          rw [List.getElem?_append_left passed, List.getElem?_take_of_lt bounds.1,
            if_pos bounds.1, List.getElem?_eq_getElem bounds.2]
          rfl
        · rw [List.getElem?_append_right missing, List.getElem?_replicate_of_lt (by omega)]
          split
          · rw [List.length_take] at missing
            rw [List.getElem?_eq_none (by omega)]
            rfl
          · rfl
      · have counted : registerCount (.script prototype) arguments ≤ register := outside
        rw [List.getElem?_eq_none, List.getElem?_eq_none (by simpa using counted)]
        · rfl
        · rw [Context.length_initialWindow_script]
          exact outside

def freshHandles (activation cells count : Nat) : List BoxedHandle :=
  (List.range count).map fun register => ⟨.register activation register, ⟨cells + register⟩⟩

theorem getElem?_freshHandles {activation cells count register : Nat} {handle : BoxedHandle}
    (found : (freshHandles activation cells count)[register]? = some handle) :
    register < count ∧ handle = ⟨.register activation register, ⟨cells + register⟩⟩ := by
  have bound := (List.getElem?_eq_some_iff.mp found).1
  rw [freshHandles, List.length_map, List.length_range] at bound
  rw [freshHandles, List.getElem?_map, List.getElem?_range bound] at found
  exact ⟨bound, (Option.some.inj found).symm⟩

theorem mem_freshHandles {activation cells count : Nat} {handle : BoxedHandle}
    (member : handle ∈ freshHandles activation cells count) :
    ∃ register, register < count ∧
      handle = ⟨.register activation register, ⟨cells + register⟩⟩ := by
  obtain ⟨register, counted, rfl⟩ := List.mem_map.mp member
  exact ⟨register, List.mem_range.mp counted, rfl⟩

theorem CellName.Before.mono {name : CellName} {activations later : Nat}
    (before : name.Before activations) (grown : activations ≤ later) : name.Before later := by
  cases name with
  | older cell => trivial
  | register activation register => exact Nat.lt_of_lt_of_le before grown

namespace Directory

variable {known positions : List BoxedHandle} {cells activations : Nat}

/-- A cell that is there is none of the new ones, and its name is none of the new names. -/
theorem apart (directory : Directory known positions cells activations) {handle : BoxedHandle}
    (member : handle ∈ known ++ positions) (register : Nat) :
    handle.name ≠ .register activations register ∧ handle.cell ≠ ⟨cells + register⟩ := by
  constructor
  · intro same
    have before := directory.past handle member
    rw [same] at before
    exact Nat.lt_irrefl activations before
  · intro same
    have inside := directory.inside handle member
    rw [same] at inside
    exact Nat.not_lt_of_le (Nat.le_add_right cells register) inside

theorem push (directory : Directory known positions cells activations) (count : Nat) :
    Directory known (positions ++ freshHandles activations cells count) (cells + count)
      (activations + 1) := by
  have members : ∀ handle ∈ known ++ (positions ++ freshHandles activations cells count),
      handle ∈ known ++ positions ∨ ∃ register, register < count ∧
        handle = ⟨.register activations register, ⟨cells + register⟩⟩ := by
    intro handle member
    rw [← List.append_assoc] at member
    rcases List.mem_append.mp member with old | fresh
    · exact .inl old
    · exact .inr (mem_freshHandles fresh)
  refine ⟨?_, ?_, ?_, ?_⟩
  · rw [List.map_append]
    refine List.nodup_append.mpr ⟨directory.distinct, ?_, ?_⟩
    · rw [freshHandles, List.map_map]
      refine List.Pairwise.map _ ?_ List.nodup_range
      intro left right different same
      exact different (Nat.add_left_cancel (congrArg CellId.index same))
    · intro cell old other fresh same
      obtain ⟨handle, member, rfl⟩ := List.mem_map.mp old
      obtain ⟨added, addedMember, rfl⟩ := List.mem_map.mp fresh
      obtain ⟨register, -, rfl⟩ := mem_freshHandles addedMember
      exact (directory.apart (List.mem_append_right known member) register).2 same
  · intro handle member
    rcases members handle member with old | ⟨register, counted, rfl⟩
    · exact Nat.lt_add_right count (directory.inside handle old)
    · exact Nat.add_lt_add_left counted cells
  · intro handle member
    rcases members handle member with old | ⟨register, -, rfl⟩
    · exact (directory.past handle old).mono (Nat.le_succ activations)
    · exact Nat.lt_succ_self activations
  · intro left leftMember right rightMember
    rcases members left leftMember with oldLeft | ⟨register, -, rfl⟩
    · rcases members right rightMember with oldRight | ⟨other, -, rfl⟩
      · exact directory.named left oldLeft right oldRight
      · obtain ⟨name, cell⟩ := directory.apart oldLeft other
        exact iff_of_false name cell
    · rcases members right rightMember with oldRight | ⟨other, -, rfl⟩
      · obtain ⟨name, cell⟩ := directory.apart oldRight register
        exact iff_of_false (Ne.symm name) (Ne.symm cell)
      · simp only [CellName.register.injEq, CellId.mk.injEq, true_and, Nat.add_left_cancel_iff]

end Directory

def newValues (boxed : Boxed) (function : FunctionId) (arguments : List Value) : List Value :=
  let code := (boxed.heap.function function).code
  (List.range (registerCount code arguments)).map (initialRegister code arguments)

def newFrame (boxed : Boxed) (function : FunctionId) (arguments : List Value) : BoxedFrame where
  function := function
  code := (boxed.heap.function function).code
  activation := boxed.activations
  registers := (boxed.heap.addCells (newValues boxed function arguments)).1

theorem handles_newFrame (boxed : Boxed) (function : FunctionId) (arguments : List Value) :
    (newFrame boxed function arguments).handles =
      freshHandles boxed.activations boxed.heap.cells.size
        (newValues boxed function arguments).length := by
  refine List.ext_getElem? fun register => ?_
  rw [BoxedFrame.getElem?_handles, freshHandles, newFrame, Heap.addCells_cells,
    List.getElem?_map, List.getElem?_map, Option.map_map]
  rcases Nat.lt_or_ge register (newValues boxed function arguments).length with inside | outside
  · rw [List.getElem?_range inside]
    rfl
  · rw [List.getElem?_eq_none (by simpa using outside)]
    rfl

theorem Boxed.pushFrame_eq (boxed : Boxed) (function : FunctionId) (arguments : List Value)
    (tailCalls : Nat) :
    boxed.pushFrame function arguments tailCalls =
      { boxed with
        heap := (boxed.heap.addCells (newValues boxed function arguments)).2
        frames := { newFrame boxed function arguments with tailCalls } :: boxed.frames
        activations := boxed.activations + 1 } := rfl

namespace Agrees

variable {known : List BoxedHandle} {context : Context} {boxed : Boxed}

/-! ### Pushing and removing frames -/

theorem window_eq (agrees : Agrees known context boxed) (function : FunctionId)
    (arguments : List Value) :
    Context.initialWindow (context.heap.function function).code arguments =
      newValues boxed function arguments := by
  rw [agrees.code, initialWindow_eq]
  rfl

/-- Registers of outer frames are as before, and those of the new frame are not captured. -/
theorem pushedContents (agrees : Agrees known context boxed) (function : FunctionId)
    {values : List Value} (arguments : List Value) {slot : Nat} {handle : BoxedHandle}
    (found : (slots boxed.frames ++ freshHandles boxed.activations boxed.heap.cells.size
      values.length)[slot]? = some handle) :
    Shares known (context.pushFrame function arguments).frames (context.stack ++ values)
      (boxed.heap.addCells values).2 slot handle := by
  have home : home? (context.pushFrame function arguments).frames slot =
      home? context.frames slot := by
    change home? (_ :: context.frames) slot = _
    rw [home?_cons]
    exact Option.none_or
  rcases Nat.lt_or_ge slot (slots boxed.frames).length with old | new
  · rw [List.getElem?_append_left old] at found
    refine (agrees.contents found).later home (List.prefix_refl known) fun free value => ?_
    refine ⟨free, ?_⟩
    have inside : handle.cell.index < boxed.heap.cells.size :=
      agrees.directory.inside handle (List.mem_append_right _ (List.mem_of_getElem? found))
    rw [List.getElem?_append_left (by rw [agrees.height]; exact old),
      Heap.cell_addCells_of_lt inside]
    exact value
  · rw [List.getElem?_append_right new] at found
    obtain ⟨counted, rfl⟩ := getElem?_freshHandles found
    have beyond : context.stack.length ≤ slot := by rw [agrees.height]; exact new
    have value := List.getElem?_eq_getElem counted
    refine .plain (home.trans (agrees.intact.home?_eq_none beyond)) ?_ ?_
    · intro member
      exact Nat.not_lt_of_le (Nat.le_add_right _ _) (agrees.heap.inside _ member)
    · rw [List.getElem?_append_right beyond, agrees.height, value,
        Heap.cell_addCells boxed.heap value]

theorem pushFrame (agrees : Agrees known context boxed) (function : FunctionId)
    (arguments : List Value) :
    Agrees known (context.pushFrame function arguments)
      (boxed.pushFrame function arguments 0) := by
  rw [Boxed.pushFrame_eq]
  have window := agrees.window_eq function arguments
  have positions : slots (newFrame boxed function arguments :: boxed.frames) =
      slots boxed.frames ++ freshHandles boxed.activations boxed.heap.cells.size
        (newValues boxed function arguments).length := by
    rw [slots, handles_newFrame]
  refine
    { intact := agrees.intact.pushFrame function arguments
      heap := agrees.heap.addCells _
      frames := ?_
      directory := ?_
      contents := ?_
      thread := agrees.thread
      stringMetatable := agrees.stringMetatable
      config := agrees.config }
  · refine .cons ⟨rfl, agrees.code function, rfl, rfl⟩ agrees.height ?_ agrees.frames
    change (context.stack ++ Context.initialWindow _ arguments).length =
      context.stack.length + (boxed.heap.addCells (newValues boxed function arguments)).1.length
    rw [List.length_append, window, Heap.addCells_cells, List.length_map, List.length_range]
  · change Directory known (slots (newFrame boxed function arguments :: boxed.frames))
      (boxed.heap.addCells (newValues boxed function arguments)).2.cells.size _
    rw [positions, Heap.size_addCells]
    exact agrees.directory.push _
  · intro slot handle found
    change (slots (newFrame boxed function arguments :: boxed.frames))[slot]? = some handle
      at found
    rw [positions] at found
    have shares := agrees.pushedContents function arguments found
    rw [← window] at shares
    change Shares known _ (context.stack ++ Context.initialWindow _ arguments)
      (boxed.heap.addCells (newValues boxed function arguments)).2 slot handle
    rw [← window]
    exact shares

theorem popFrame (agrees : Agrees known context boxed) :
    Agrees known context.popFrame boxed.popFrame := by
  have intact := agrees.intact
  rcases agrees.frames.current_cases with
    ⟨empty, emptyToo⟩ | ⟨frame, outer, current, rest, frames, framesToo, -, base, -, below⟩
  · have same : boxed.popFrame = boxed := by
      unfold Boxed.popFrame
      rw [emptyToo, List.tail_nil, ← emptyToo]
    rw [Context.popFrame_nil empty, same]
    exact agrees
  · have positions : slots boxed.frames = slots rest ++ current.handles := by
      rw [framesToo, slots]
    have popped : boxed.popFrame = { boxed with frames := rest } := by
      unfold Boxed.popFrame
      rw [framesToo, List.tail_cons]
    have intactAfter := intact.popFrame
    rw [Context.popFrame_cons frames] at intactAfter ⊢
    rw [popped]
    refine
      { intact := intactAfter
        heap := agrees.heap
        frames := below
        directory := ?_
        contents := ?_
        thread := agrees.thread
        stringMetatable := agrees.stringMetatable
        config := agrees.config }
    · refine agrees.directory.mono ?_ ?_
      · have distinct := agrees.directory.distinct
        rw [positions, List.map_append] at distinct
        exact (List.nodup_append.mp distinct).1
      · intro handle member
        rw [positions, ← List.append_assoc]
        exact List.mem_append_left _ member
    · intro slot handle found
      have before : slot < frame.base := by
        rw [base]
        exact (List.getElem?_eq_some_iff.mp found).1
      have earlier : (slots boxed.frames)[slot]? = some handle := by
        rw [positions, List.getElem?_append_left (by rw [← base]; exact before)]
        exact found
      -- Below the window nothing has changed, neither in the stack nor in what the frames captured.
      refine (agrees.contents earlier).later (intact.home?_outer frames before)
        (List.prefix_refl known) fun free value => ⟨free, ?_⟩
      change (context.stack.take frame.base)[slot]? = _
      rw [List.getElem?_take_of_lt before]
      exact value

theorem unwind (agrees : Agrees known context boxed) :
    Agrees known context.unwind boxed.unwind where
  intact := .unwind context
  heap := agrees.heap
  frames := .nil
  directory := by
    refine agrees.directory.mono List.nodup_nil ?_
    intro handle member
    rcases List.mem_append.mp member with old | none
    · exact List.mem_append_left _ old
    · cases none
  contents := by
    intro slot handle found
    cases found
  thread := agrees.thread
  stringMetatable := agrees.stringMetatable
  config := agrees.config

/-- A change of the current frame on both sides that leaves its registers where they are. -/
theorem replaceHead (agrees : Agrees known context boxed) {frame changed : Frame}
    {outer : List Frame} {current changedToo : BoxedFrame} {rest : List BoxedFrame}
    (frames : context.frames = frame :: outer) (framesToo : boxed.frames = current :: rest)
    (intact : ({ context with frames := changed :: outer } : Context).Intact)
    (base : changed.base = frame.base) (top : changed.top = frame.top)
    (captured : changed.captured = frame.captured)
    (handles : changedToo.handles = current.handles)
    (resembles : changed.Resembles changedToo.view) :
    Agrees known { context with frames := changed :: outer }
      { boxed with frames := changedToo :: rest } := by
  have positions : slots (changedToo :: rest) = slots boxed.frames := by
    rw [framesToo, slots, slots, handles]
  have registers : changedToo.registers.length = current.registers.length := by
    rw [← BoxedFrame.length_handles, ← BoxedFrame.length_handles, handles]
  refine
    { intact := intact
      heap := agrees.heap
      frames := ?_
      directory := ?_
      contents := ?_
      thread := agrees.thread
      stringMetatable := agrees.stringMetatable
      config := agrees.config }
  · have agree := agrees.frames
    rw [frames, framesToo] at agree
    cases agree with
    | cons _ baseAgrees topAgrees below =>
        refine .cons resembles (base.trans baseAgrees) ?_ below
        rw [top, base, registers]
        exact topAgrees
  · change Directory known (slots (changedToo :: rest)) _ _
    rw [positions]
    exact agrees.directory
  · intro slot handle found
    change (slots (changedToo :: rest))[slot]? = some handle at found
    rw [positions] at found
    have home : home? (changed :: outer) slot = home? context.frames slot := by
      rw [frames, home?_cons, home?_cons]
      unfold Frame.cellAt?
      rw [captured]
    exact (agrees.contents found).later home (List.prefix_refl known)
      fun free value => ⟨free, value⟩

theorem call (agrees : Agrees known context boxed) (function : FunctionId)
    (arguments : List Value) :
    AgreeAfter known (context.call function arguments) (boxed.call function arguments) := by
  unfold Boxed.call
  rw [← agrees.config, ← agrees.depth]
  rcases context.call_cases function arguments with ⟨full, refused⟩ | ⟨room, made⟩
  · rw [refused, if_pos full]
    exact ⟨rfl, agrees⟩
  · rw [made, if_neg (Nat.not_le.mpr room)]
    exact ⟨rfl, agrees.pushFrame function arguments⟩

theorem replaceFrame (agrees : Agrees known context boxed) {function : FunctionId}
    (target : (context.heap.function function).code.isHost = false) (arguments : List Value)
    (collapsed : Nat) :
    Agrees known (context.replaceFrame function arguments collapsed)
      (boxed.popFrame.pushFrame function arguments collapsed) := by
  have pushed := agrees.popFrame.pushFrame function arguments
  refine pushed.replaceHead rfl rfl (agrees.intact.replaceFrame target) rfl rfl rfl rfl ?_
  exact ⟨rfl, agrees.popFrame.code function, rfl, rfl⟩

theorem tailCall (agrees : Agrees known context boxed) (function : FunctionId)
    (arguments : List Value) :
    AgreeAfter known (context.tailCall function arguments)
      (boxed.tailCall function arguments) := by
  unfold Context.tailCall Boxed.tailCall
  rcases agrees.frames.current_cases with
    ⟨empty, emptyToo⟩ | ⟨frame, outer, current, rest, frames, framesToo, resembles, -, -, below⟩
  · rw [empty, emptyToo]
    exact ⟨rfl, agrees⟩
  · have host : current.code.isHost = frame.isHost := resembles.isHost.symm
    have collapsed : current.tailCalls = frame.tailCalls := resembles.tailCalls.symm
    have depthAfter : context.popFrame.depth = outer.length := by
      unfold Context.depth
      rw [Context.frames_popFrame, frames, List.tail_cons]
    simp only [frames, framesToo, host, collapsed, ← agrees.code, ← agrees.config,
      ← below.length_eq]
    by_cases fromHost : frame.isHost = true
    · rw [if_pos fromHost, if_pos fromHost]
      exact ⟨rfl, agrees⟩
    · rw [if_neg fromHost, if_neg fromHost]
      by_cases toHost : (context.heap.function function).code.isHost = true
      · rw [if_pos toHost, if_pos toHost]
        exact ⟨rfl, agrees⟩
      · rw [if_neg toHost, if_neg toHost]
        rcases context.popFrame.call_cases function arguments with
          ⟨full, refused⟩ | ⟨room, made⟩
        · rw [depthAfter, Context.config_popFrame] at full
          rw [refused, Context.config_popFrame, if_pos full]
          exact ⟨rfl, agrees.popFrame⟩
        · rw [depthAfter, Context.config_popFrame] at room
          rw [made, if_neg (Nat.not_le.mpr room)]
          exact ⟨rfl, agrees.replaceFrame (Bool.eq_false_iff.mpr toHost) arguments _⟩

theorem returnFromCall (agrees : Agrees known context boxed) :
    AgreeAfter known context.returnFromCall boxed.returnFromCall := by
  unfold Boxed.returnFromCall
  rcases agrees.frames.current_cases with
    ⟨empty, emptyToo⟩ | ⟨frame, outer, current, rest, frames, framesToo, -, -, -, -⟩
  · rcases context.returnFromCall_cases with ⟨-, refused⟩ | ⟨present, -⟩
    · rw [refused, emptyToo]
      exact ⟨rfl, agrees⟩
    · exact absurd empty present
  · rcases context.returnFromCall_cases with ⟨empty, -⟩ | ⟨-, made⟩
    · rw [frames] at empty
      cases empty
    · rw [made, framesToo]
      exact ⟨rfl, agrees.popFrame⟩

theorem setPosition (agrees : Agrees known context boxed) (position : Nat) :
    AgreeAfter known (context.setPosition position) (boxed.setPosition position) := by
  have intact := agrees.intact.effect (context.setPosition_effect position)
  unfold Context.setPosition Boxed.setPosition at *
  rcases agrees.frames.current_cases with
    ⟨empty, emptyToo⟩ | ⟨frame, outer, current, rest, frames, framesToo, resembles, -, -, -⟩
  · rw [empty, emptyToo]
    exact ⟨rfl, agrees⟩
  · have code : current.code = frame.code := resembles.code.symm
    simp only [frames, framesToo, code] at intact ⊢
    cases script : frame.code with
    | host host => exact ⟨rfl, agrees⟩
    | script prototype =>
        rw [script] at intact
        dsimp only at intact ⊢
        split
        · rename_i inside
          rw [if_pos inside, Context.modifyCurrent_cons frames] at intact
          rw [Context.modifyCurrent_cons frames]
          obtain ⟨function, -, -, tailCalls⟩ := resembles
          refine ⟨rfl, agrees.replaceHead frames framesToo intact rfl rfl rfl rfl ?_⟩
          exact ⟨function, script, rfl, tailCalls⟩
        · exact ⟨rfl, agrees⟩

end Agrees

end StackScope
