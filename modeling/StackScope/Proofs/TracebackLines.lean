import StackScope.Proofs.FrameFunctions
import StackScope.Proofs.Levels
import StackScope.Traceback

/-!
The lines of a traceback, said frame by frame. Every level of a context can be described, so the
question mark that stands for one that cannot is never printed; a limit leaves out the outer levels
and counts them.
-/

namespace StackScope

namespace Context

/-- The line for the frame at an index: where it stands and what it runs. The name by which it was
called goes before all that is known of the function itself. -/
def frameLine (context : Context) (index : Nat) (frame : Frame) : String :=
  let called := (context.callerName? index).map ValueName.name
  match frame.code with
  | .host host =>
      context.config.hostPlaceholder ++ ": in " ++ ("function '" ++ called.getD host.name ++ "'")
  | .script prototype =>
      let source := chunkName prototype.source
      let place := match prototype.lineAt? frame.position with
        | some line => source ++ ":" ++ decimalText line
        | none => source
      let what := match called with
        | some name => "function '" ++ name ++ "'"
        | none =>
            if prototype.lineDefined = 0 then "main chunk"
            else "function <" ++ source ++ ":" ++ decimalText prototype.lineDefined ++ ">"
      place ++ ": in " ++ what

inductive Renders (context : Context) : Level → String → Prop
  | tailCall (number : Nat) : Renders context ⟨number, .tailCall⟩ "(tail call): in ?"
  | frame (number : Nat) {index : Nat} {frame : Frame} :
      context.frameAt? index = some frame →
        Renders context ⟨number, .active index⟩ (context.frameLine index frame)

variable {context : Context} {level : Level}

/-- A level has one line at most. -/
theorem Renders.unique {line other : String} (first : context.Renders level line)
    (second : context.Renders level other) : line = other := by
  cases first with
  | tailCall number =>
      cases second
      rfl
  | frame number present =>
      cases second with
      | frame _ same =>
          cases Option.some.inj (present.symm.trans same)
          rfl

theorem lines_unique {levels : List Level} {lines others : List String}
    (first : List.Forall₂ context.Renders levels lines)
    (second : List.Forall₂ context.Renders levels others) : lines = others := by
  have unique : Relator.RightUnique context.Renders := fun _ _ _ => Renders.unique
  exact List.right_unique_forall₂' unique first second

theorem renders_of_frameLine (number : Nat) {index : Nat} {line : String}
    (written : (context.frameAt? index).map (context.frameLine index) = some line) :
    context.Renders ⟨number, .active index⟩ line := by
  obtain ⟨frame, present, rfl⟩ := Option.map_eq_some_iff.mp written
  exact .frame number present

theorem resolve_frame {number index : Nat} {frame : Frame}
    (present : context.frameAt? index = some frame) :
    context.resolve lineMask (.level ⟨number, .active index⟩) =
      .ok { Record.ofFunction context.heap lineMask frame.function with
        currentLine := frame.currentLine?
        name := (context.callerName? index).map ValueName.name
        nameKind := (context.callerName? index).map ValueName.kind } := by
  change context.resolveLevel lineMask ⟨number, .active index⟩ = _
  unfold resolveLevel
  dsimp only
  rw [present]
  rfl

structure Summary (context : Context) (index : Nat) (frame : Frame) (record : Record) : Prop where
  name : record.name = (context.callerName? index).map ValueName.name
  kind : record.kind = some (match frame.code with
    | .host _ => .host
    | .script prototype => if prototype.lineDefined = 0 then .main else .script)
  line : record.currentLine = frame.currentLine?
  script : ∀ prototype, frame.code = .script prototype →
    record.shortSource = some (chunkName prototype.source) ∧
      record.lineDefined = some prototype.lineDefined

theorem summary_of_linked {index : Nat} {frame : Frame}
    (same : (context.heap.function frame.function).code = frame.code) :
    Summary context index frame
      { Record.ofFunction context.heap lineMask frame.function with
        currentLine := frame.currentLine?
        name := (context.callerName? index).map ValueName.name
        nameKind := (context.callerName? index).map ValueName.kind } where
  name := rfl
  kind := by
    unfold Record.ofFunction
    dsimp only
    rw [same]
    cases frame.code with
    | host host => rfl
    | script prototype =>
        change some (if prototype.isMain = true then CodeKind.main else .script) = _
        simp [Prototype.isMain]
  line := rfl
  script := by
    intro prototype code
    unfold Record.ofFunction
    dsimp only
    rw [same, code]
    exact ⟨rfl, rfl⟩

theorem describe_eq_frameLine {number index : Nat} {frame : Frame} {record : Record}
    (present : context.frameAt? index = some frame) (summary : Summary context index frame record) :
    context.describe ⟨number, .active index⟩ record = context.frameLine index frame := by
  obtain ⟨name, kind, line, script⟩ := summary
  have levelFrame : context.levelFrame? ⟨number, .active index⟩ = some frame := present
  unfold describe placeText functionText frameLine
  rw [levelFrame, name, kind, line]
  cases code : frame.code with
  | host host =>
      dsimp only
      rw [if_pos rfl, Option.bind_some, code]
      cases context.callerName? index <;> rfl
  | script prototype =>
      obtain ⟨source, defined⟩ := script prototype code
      have executed : frame.currentLine? = prototype.lineAt? frame.position := by
        unfold Frame.currentLine? Frame.prototype?
        rw [code]
        rfl
      have notHost : some (if prototype.lineDefined = 0 then CodeKind.main else .script) ≠
          some .host := by
        split <;> decide
      dsimp only
      rw [source, defined, executed, if_neg notHost]
      cases context.callerName? index with
      | some called => cases prototype.lineAt? frame.position <;> rfl
      | none =>
          by_cases main : prototype.lineDefined = 0
          · rw [if_pos main]
            cases prototype.lineAt? frame.position <;> simp [main]
          · rw [if_neg main]
            cases prototype.lineAt? frame.position <;> simp [main]

/-- Every level can be described, and its line is the one to be expected. -/
theorem renders_of_mem_levels (linked : context.Linked) (member : level ∈ context.levels) :
    ∃ record, context.resolve lineMask (.level level) = .ok record ∧
      context.Renders level (context.describe level record) := by
  obtain ⟨number, slot⟩ := level
  cases slot with
  | tailCall => exact ⟨.ofTailCall lineMask, rfl, .tailCall number⟩
  | active index =>
      obtain ⟨frame, present⟩ := exists_frameAt? (index_lt_of_mem_levels member rfl)
      obtain ⟨-, same⟩ := linked _ (mem_of_frameAt? present)
      refine ⟨_, resolve_frame present, ?_⟩
      rw [describe_eq_frameLine present (summary_of_linked same)]
      exact .frame number present

theorem renders_tracebackLine (linked : context.Linked) (member : level ∈ context.levels) :
    context.Renders level (context.tracebackLine level) := by
  obtain ⟨record, resolved, renders⟩ := renders_of_mem_levels linked member
  unfold tracebackLine
  rw [resolved]
  exact renders

def messageLines (message : String) : List String := if message = "" then [] else [message]

theorem messageLines_eq (message : String) :
    messageLines message = if message.isEmpty then [] else [message] := by
  unfold messageLines
  by_cases empty : message = "" <;> simp [empty]

def omittedLine (count : Nat) : String := "... (" ++ decimalText count ++ " more frames)"

theorem tracebackLines_eq (context : Context) (start : Nat) (message : String) :
    context.tracebackLines start message =
      messageLines message ++
        match context.config.tracebackLimit with
        | none => (context.levels.map context.tracebackLine).drop start
        | some limit =>
            let lines := (context.levels.map context.tracebackLine).drop start
            if limit < lines.length then
              lines.take limit ++ [omittedLine (lines.length - limit)]
            else lines := by
  unfold tracebackLines limitedLines
  rw [messageLines_eq]
  congr 1
  cases context.config.tracebackLimit with
  | none => exact List.map_drop
  | some limit =>
      dsimp only
      rw [← List.map_drop, List.length_map, ← List.map_take]
      split
      · rfl
      · rename_i short
        rw [List.take_of_length_le (Nat.le_of_not_lt short)]

/-- The lines of all levels, and what each traceback takes of them. -/
structure TracebackLaws (context : Context) (lines : List String) : Prop where
  renders : List.Forall₂ context.Renders context.levels lines
  unlimited : context.config.tracebackLimit = none → ∀ start message,
    context.traceback start message =
      String.intercalate "\n" (messageLines message ++ lines.drop start)
  within : ∀ limit, context.config.tracebackLimit = some limit → ∀ start message,
    lines.length - start ≤ limit → context.traceback start message =
      String.intercalate "\n" (messageLines message ++ lines.drop start)
  beyond : ∀ limit, context.config.tracebackLimit = some limit → ∀ start message omitted,
    0 < omitted → omitted + limit = lines.length - start → context.traceback start message =
      String.intercalate "\n"
        (messageLines message ++ ((lines.drop start).take limit ++ [omittedLine omitted]))
  /-- Without a limit, a traceback from an outer level is the end of one from an inner level. -/
  outward : context.config.tracebackLimit = none → ∀ start skipped,
    context.tracebackLines (start + skipped) "" = (context.tracebackLines start "").drop skipped

theorem tracebackLaws (linked : context.Linked) :
    context.TracebackLaws (context.levels.map context.tracebackLine) where
  renders := by
    rw [List.forall₂_map_right_iff, List.forall₂_same]
    exact fun level member => renders_tracebackLine linked member
  unlimited := by
    intro unlimited start message
    unfold traceback
    rw [tracebackLines_eq, unlimited]
  within := by
    intro limit limited start message short
    unfold traceback
    rw [tracebackLines_eq, limited]
    dsimp only
    rw [List.length_drop, if_neg (by omega)]
  beyond := by
    intro limit limited start message omitted remains count
    have rest : (context.levels.map context.tracebackLine).length - start - limit = omitted := by
      omega
    unfold traceback
    rw [tracebackLines_eq, limited]
    dsimp only
    rw [List.length_drop, if_pos (by omega), rest]
  outward := by
    intro unlimited start skipped
    rw [tracebackLines_eq, tracebackLines_eq, unlimited]
    exact List.drop_drop.symm

end Context

/-- Every level of a context can be described, so no line of a traceback falls back on a question
mark for want of a record, and a traceback is the lines of the levels as far as the limit allows. -/
theorem traceback_complete {context : Context} (established : context.Established) :
    (∀ level ∈ context.levels, ∃ record,
      context.resolve Context.lineMask (.level level) = .ok record ∧
        context.tracebackLine level = context.describe level record) ∧
    ∃ lines, context.TracebackLaws lines := by
  refine ⟨?_, _, Context.tracebackLaws established.linked⟩
  intro level member
  obtain ⟨record, resolved, -⟩ := Context.renders_of_mem_levels established.linked member
  refine ⟨record, resolved, ?_⟩
  unfold Context.tracebackLine
  rw [resolved]

def tracedHeap : Heap :=
  let main : Prototype :=
    { source := "@sample", stackSize := 1, instructions := [.getGlobal 0 0, .call 0 0 0],
      constants := [.text "visit"], lines := [1, 2] }
  let visit : Prototype :=
    { source := "@sample", lineDefined := 3, instructions := [.«return» 0 0], lines := [4] }
  let heap := (Heap.empty.addFunction { code := .script main }).2
  let heap := (heap.addFunction { code := .script visit }).2
  (heap.addFunction { code := .host { name := "emit", body := default } }).2

/-- The host function runs above the second call of `visit`, and two levels may be shown. -/
def tracedCaller : Context :=
  let main := ((Context.create tracedHeap { tracebackLimit := some 2 }).call ⟨0⟩ []).2
  let visit := ((main.setPosition 1).2.call ⟨1⟩ []).2
  ((visit.tailCall ⟨1⟩ []).2.call ⟨2⟩ []).2

theorem traceback_complete_limited :
    tracedCaller.Established ∧
    tracedCaller.Renders ⟨1, .active 1⟩ "sample:4: in function <sample:3>" ∧
    tracedCaller.traceback 0 "stop" = "stop\n[native code]: in function 'emit'\n" ++
      "sample:4: in function <sample:3>\n... (2 more frames)" ∧
    tracedCaller.traceback 2 "" = "(tail call): in ?\nsample:2: in main chunk" := by
  have present : ∀ index < 3, tracedHeap.Holds (.function ⟨index⟩) := fun _ below => below
  have main := (Context.Established.create tracedHeap { tracebackLimit := some 2 }).call
    (present 0 (by decide)) []
  have visit := (main.setPosition 1).call (present 1 (by decide)) []
  have established : tracedCaller.Established :=
    (visit.tailCall (present 1 (by decide)) []).call (present 2 (by decide)) []
  obtain ⟨-, lines, laws⟩ := traceback_complete established
  have called : tracedCaller.Renders ⟨1, .active 1⟩ "sample:4: in function <sample:3>" :=
    Context.renders_of_frameLine 1 (by decide +kernel)
  have expected : List.Forall₂ tracedCaller.Renders tracedCaller.levels
      ["[native code]: in function 'emit'", "sample:4: in function <sample:3>",
        "(tail call): in ?", "sample:2: in main chunk"] :=
    .cons (Context.renders_of_frameLine 0 (by decide +kernel)) (.cons called
      (.cons (.tailCall 2) (.cons (Context.renders_of_frameLine 3 (by decide +kernel)) .nil)))
  have same := Context.lines_unique laws.renders expected
  subst same
  refine ⟨established, called, ?_, ?_⟩
  · rw [laws.beyond 2 rfl 0 "stop" 2 (by decide) rfl]
    rfl
  · rw [laws.within 2 rfl 2 "" (by decide)]
    rfl

end StackScope
