import StackScope.Proofs.ShortNames
import StackScope.Proofs.TracebackLines

/-!
The lines of a traceback as a terminal shows them. The lines of the levels are joined by line feeds,
and a line feed inside of one of them breaks it in two. The texts in them come from sources, from
the code of callers and from host functions, and only quoted source text is cut at its end of line.
-/

namespace StackScope

def HasLineFeed (text : String) : Prop := '\n' ∈ text.toList

instance (text : String) : Decidable (HasLineFeed text) :=
  inferInstanceAs (Decidable ('\n' ∈ text.toList))

theorem hasLineFeed_append {left right : String} :
    HasLineFeed (left ++ right) ↔ HasLineFeed left ∨ HasLineFeed right := by
  simp [HasLineFeed]

@[simp] theorem not_hasLineFeed_decimalText (value : Nat) : ¬ HasLineFeed (decimalText value) := by
  unfold HasLineFeed decimalText
  rw [String.toList_ofList]
  intro member
  exact absurd (Nat.isDigit_of_mem_toDigits (by decide) (by decide) member) (by decide)

theorem hasLineFeed_line (place what : String) :
    HasLineFeed (place ++ ": in " ++ what) ↔ HasLineFeed place ∨ HasLineFeed what := by
  have between : ¬ HasLineFeed ": in " := by decide
  simp [hasLineFeed_append, between]

theorem hasLineFeed_place (source : String) (line : Nat) :
    HasLineFeed (source ++ ":" ++ decimalText line) ↔ HasLineFeed source := by
  have colon : ¬ HasLineFeed ":" := by decide
  simp [hasLineFeed_append, colon]

theorem hasLineFeed_called (name : String) :
    HasLineFeed ("function '" ++ name ++ "'") ↔ HasLineFeed name := by
  have opening : ¬ HasLineFeed "function '" := by decide
  have closing : ¬ HasLineFeed "'" := by decide
  simp [hasLineFeed_append, opening, closing]

theorem hasLineFeed_defined (source : String) (line : Nat) :
    HasLineFeed ("function <" ++ source ++ ":" ++ decimalText line ++ ">") ↔
      HasLineFeed source := by
  have opening : ¬ HasLineFeed "function <" := by decide
  have colon : ¬ HasLineFeed ":" := by decide
  have closing : ¬ HasLineFeed ">" := by decide
  simp [hasLineFeed_append, opening, colon, closing]

def physicalLines (text : String) : List String := (text.toList.splitOn '\n').map String.ofList

theorem physicalLines_ne_nil (text : String) : physicalLines text ≠ [] := by
  unfold physicalLines
  rw [Ne, List.map_eq_nil_iff]
  exact List.splitOn_ne_nil '\n' text.toList

theorem physicalLines_of_not_hasLineFeed {text : String} (unbroken : ¬ HasLineFeed text) :
    physicalLines text = [text] := by
  unfold physicalLines
  rw [List.splitOn_eq_singleton unbroken, List.map_singleton, String.ofList_toList]

/-- Everything about joined texts follows from this: their lines come one after another. -/
theorem physicalLines_append (left right : String) :
    physicalLines (left ++ "\n" ++ right) = physicalLines left ++ physicalLines right := by
  have joined : (left ++ "\n" ++ right).toList = left.toList ++ '\n' :: right.toList := by simp
  unfold physicalLines
  rw [joined, List.splitOn_append_cons_self, List.map_append]

theorem physicalLines_intercalate {lines : List String} (present : lines ≠ []) :
    physicalLines (String.intercalate "\n" lines) = lines.flatMap physicalLines := by
  induction lines with
  | nil => exact absurd rfl present
  | cons line rest ih =>
      by_cases last : rest = []
      · subst last
        rw [String.intercalate_singleton, List.flatMap_singleton]
      · rw [String.intercalate_cons_of_ne_nil last, physicalLines_append, ih last,
          List.flatMap_cons]

theorem one_lt_length_physicalLines {text : String} (broken : HasLineFeed text) :
    1 < (physicalLines text).length := by
  obtain ⟨before, after, parts⟩ := List.append_of_mem broken
  have first := List.length_pos_iff.mpr (List.splitOn_ne_nil '\n' before)
  have second := List.length_pos_iff.mpr (List.splitOn_ne_nil '\n' after)
  unfold physicalLines
  rw [List.length_map, parts, List.splitOn_append_cons_self, List.length_append]
  omega

theorem flatMap_physicalLines {lines : List String}
    (unbroken : ∀ line ∈ lines, ¬ HasLineFeed line) : lines.flatMap physicalLines = lines := by
  induction lines with
  | nil => rfl
  | cons line rest ih =>
      rw [List.flatMap_cons, ih fun other member => unbroken other (List.mem_cons_of_mem line member),
        physicalLines_of_not_hasLineFeed (unbroken line List.mem_cons_self), List.singleton_append]

theorem length_le_flatMap_physicalLines (lines : List String) :
    lines.length ≤ (lines.flatMap physicalLines).length := by
  induction lines with
  | nil => exact Nat.le_refl 0
  | cons line rest ih =>
      have first := List.length_pos_iff.mpr (physicalLines_ne_nil line)
      rw [List.flatMap_cons, List.length_append, List.length_cons]
      omega

theorem length_lt_flatMap_physicalLines {lines : List String} {line : String}
    (member : line ∈ lines) (broken : HasLineFeed line) :
    lines.length < (lines.flatMap physicalLines).length := by
  obtain ⟨before, after, rfl⟩ := List.append_of_mem member
  have inner := length_le_flatMap_physicalLines before
  have outer := length_le_flatMap_physicalLines after
  have two := one_lt_length_physicalLines broken
  rw [List.flatMap_append, List.flatMap_cons]
  simp only [List.length_append, List.length_cons]
  omega

namespace ChunkName

/-- The part of the source that its short name shows has a line feed, and is not quoted. -/
inductive KeepsLineFeed : (source : List Char) → Prop
  | label {label : List Char} : '\n' ∈ label.take 59 → KeepsLineFeed ('=' :: label)
  | path {path : List Char} : path.length ≤ 59 → '\n' ∈ path → KeepsLineFeed ('@' :: path)
  | longPath {lost kept : List Char} : 59 < (lost ++ kept).length → kept.length = 56 →
      '\n' ∈ kept → KeepsLineFeed ('@' :: (lost ++ kept))

theorem Shows.keepsLineFeed {source short : List Char} (shows : Shows source short)
    (member : '\n' ∈ short) : KeepsLineFeed source := by
  cases shows with
  | label longest =>
      rw [longest.unique (longestStart_ofLabel _)] at member
      exact .label member
  | path within => exact .path within member
  | longPath long width =>
      have kept := (List.mem_append.mp member).resolve_left (by decide)
      exact .longPath long width kept
  | text label path quotes =>
      refine absurd member ?_
      simp [quotes.unbroken]

theorem KeepsLineFeed.exists_shows {source : List Char} (keeps : KeepsLineFeed source) :
    ∃ short, Shows source short ∧ '\n' ∈ short := by
  cases keeps with
  | label member => exact ⟨_, .label (longestStart_ofLabel _), member⟩
  | path within member => exact ⟨_, .path within, member⟩
  | longPath long width member =>
      exact ⟨_, .longPath long width, List.mem_append_right _ member⟩

end ChunkName

theorem hasLineFeed_chunkName {source : String} :
    HasLineFeed (chunkName source) ↔ ChunkName.KeepsLineFeed source.toList := by
  constructor
  · exact (ChunkName.shows_chunkName source).keepsLineFeed
  · intro keeps
    obtain ⟨short, shows, member⟩ := keeps.exists_shows
    rw [shows.eq_chunkName] at member
    exact member

namespace Context

/-! ### Levels with line feeds -/

/-- A text in the line of a level has a line feed: the name by which its function was called, the
name of a host function for want of such a name, or the short name of a source. -/
inductive Breaks (context : Context) : Level → Prop
  | called {number index : Nat} {name : ValueName} : context.callerName? index = some name →
      HasLineFeed name.name → Breaks context ⟨number, .active index⟩
  | host {number index : Nat} {frame : Frame} {host : HostFunction} :
      context.frameAt? index = some frame → frame.code = .host host →
        context.callerName? index = none → HasLineFeed host.name →
          Breaks context ⟨number, .active index⟩
  | source {number index : Nat} {frame : Frame} {prototype : Prototype} :
      context.frameAt? index = some frame → frame.code = .script prototype →
        ChunkName.KeepsLineFeed prototype.source.toList → Breaks context ⟨number, .active index⟩

variable {context : Context} {level : Level}

theorem hasLineFeed_frameLine_host {index : Nat} {frame : Frame} {host : HostFunction}
    (code : frame.code = .host host) (placeholder : ¬ HasLineFeed context.config.hostPlaceholder) :
    HasLineFeed (context.frameLine index frame) ↔
      HasLineFeed (((context.callerName? index).map ValueName.name).getD host.name) := by
  unfold frameLine
  rw [code]
  dsimp only
  rw [hasLineFeed_line, hasLineFeed_called, or_iff_right placeholder]

theorem hasLineFeed_frameLine_script {index : Nat} {frame : Frame} {prototype : Prototype}
    (code : frame.code = .script prototype) :
    HasLineFeed (context.frameLine index frame) ↔
      HasLineFeed (chunkName prototype.source) ∨
        ∃ name ∈ context.callerName? index, HasLineFeed name.name := by
  have main : ¬ HasLineFeed "main chunk" := by decide
  unfold frameLine
  rw [code]
  dsimp only
  rw [hasLineFeed_line]
  refine (or_congr_left (?_ : _ ↔ HasLineFeed (chunkName prototype.source))).trans ?_
  · cases prototype.lineAt? frame.position with
    | none => exact Iff.rfl
    | some line => exact hasLineFeed_place _ line
  · cases context.callerName? index with
    | none =>
        by_cases defined : prototype.lineDefined = 0
        · simp [defined, main]
        · simp [defined, hasLineFeed_defined]
    | some name => simp [hasLineFeed_called]

theorem breaks_host {number index : Nat} {frame : Frame} {host : HostFunction}
    (present : context.frameAt? index = some frame) (code : frame.code = .host host) :
    context.Breaks ⟨number, .active index⟩ ↔
      HasLineFeed (((context.callerName? index).map ValueName.name).getD host.name) := by
  constructor
  · rintro (⟨name, broken⟩ | ⟨found, other, unnamed, broken⟩ | ⟨found, other, -⟩)
    · rw [name]
      exact broken
    · cases present.symm.trans found
      cases code.symm.trans other
      rw [unnamed]
      exact broken
    · cases present.symm.trans found
      cases code.symm.trans other
  · intro broken
    cases name : context.callerName? index with
    | none =>
        rw [name] at broken
        exact .host present code name broken
    | some caller =>
        rw [name] at broken
        exact .called name broken

theorem breaks_script {number index : Nat} {frame : Frame} {prototype : Prototype}
    (present : context.frameAt? index = some frame) (code : frame.code = .script prototype) :
    context.Breaks ⟨number, .active index⟩ ↔
      HasLineFeed (chunkName prototype.source) ∨
        ∃ name ∈ context.callerName? index, HasLineFeed name.name := by
  rw [hasLineFeed_chunkName]
  constructor
  · rintro (⟨name, broken⟩ | ⟨found, other, -, -⟩ | ⟨found, other, keeps⟩)
    · exact .inr ⟨_, name, broken⟩
    · cases present.symm.trans found
      cases code.symm.trans other
    · cases present.symm.trans found
      cases code.symm.trans other
      exact .inl keeps
  · rintro (keeps | ⟨name, called, broken⟩)
    · exact .source present code keeps
    · exact .called called broken

/-- The line of a level has a line feed exactly if one of the texts in it does. -/
theorem Renders.hasLineFeed_iff {line : String} (renders : context.Renders level line)
    (placeholder : ¬ HasLineFeed context.config.hostPlaceholder) :
    HasLineFeed line ↔ context.Breaks level := by
  cases renders with
  | tailCall number =>
      refine iff_of_false (by decide) ?_
      rintro ⟨⟩
  | @frame number index frame present =>
      cases code : frame.code with
      | host host => rw [hasLineFeed_frameLine_host code placeholder, breaks_host present code]
      | script prototype => rw [hasLineFeed_frameLine_script code, breaks_script present code]

def shownLevels (context : Context) (start : Nat) : List Level :=
  match context.config.tracebackLimit with
  | none => context.levels.drop start
  | some limit => (context.levels.drop start).take limit

/-- One line for each level as far as the limit allows, and one more if it leaves out any. -/
def reportLength (limit : Option Nat) (remaining : Nat) : Nat :=
  match limit with
  | none => remaining
  | some limit => min limit remaining + if limit < remaining then 1 else 0

theorem length_levels (context : Context) : context.levels.length = context.levelCount :=
  length_levelsFrom _ _ _

theorem reportLength_pos (limit : Option Nat) {remaining : Nat} (positive : 0 < remaining) :
    0 < reportLength limit remaining := by
  unfold reportLength
  split
  · exact positive
  · split <;> omega

theorem not_hasLineFeed_omittedLine (count : Nat) : ¬ HasLineFeed (omittedLine count) := by
  have opening : ¬ HasLineFeed "... (" := by decide
  have closing : ¬ HasLineFeed " more frames)" := by decide
  unfold omittedLine
  simp [hasLineFeed_append, opening, closing]

/-- A traceback has the lines of the levels that are shown, and no line feed in what follows
them. -/
theorem tracebackLines_shown (context : Context) (start : Nat) :
    ∃ counted, context.tracebackLines start "" =
        (context.shownLevels start).map context.tracebackLine ++ counted ∧
      (∀ line ∈ counted, ¬ HasLineFeed line) ∧
      (context.tracebackLines start "").length =
        reportLength context.config.tracebackLimit (context.levelCount - start) := by
  unfold tracebackLines limitedLines shownLevels reportLength
  rw [← length_levels, ← List.length_drop]
  cases context.config.tracebackLimit with
  | none => exact ⟨[], by simp⟩
  | some limit =>
      dsimp only
      by_cases beyond : limit < (context.levels.drop start).length
      · refine ⟨[omittedLine ((context.levels.drop start).length - limit)], ?_, ?_, ?_⟩
        · rw [if_pos beyond]
          rfl
        · intro line member
          rw [List.mem_singleton.mp member]
          exact not_hasLineFeed_omittedLine _
        · rw [if_pos beyond, if_pos beyond]
          simp
      · refine ⟨[], ?_, by simp, ?_⟩
        · rw [if_neg beyond, List.append_nil]
          rfl
        · rw [if_neg beyond, if_neg beyond]
          simp

theorem mem_levels_of_mem_shownLevels {start : Nat} (shown : level ∈ context.shownLevels start) :
    level ∈ context.levels := by
  unfold shownLevels at shown
  split at shown
  · exact List.mem_of_mem_drop shown
  · exact List.mem_of_mem_drop (List.mem_of_mem_take shown)

/-- No line of a traceback has a line feed exactly if none of the shown levels breaks its line. -/
theorem unbroken_iff (linked : context.Linked)
    (placeholder : ¬ HasLineFeed context.config.hostPlaceholder) (start : Nat) :
    (∀ line ∈ context.tracebackLines start "", ¬ HasLineFeed line) ↔
      ∀ level ∈ context.shownLevels start, ¬ context.Breaks level := by
  have broken : ∀ level ∈ context.shownLevels start,
      HasLineFeed (context.tracebackLine level) ↔ context.Breaks level := by
    intro level shown
    have renders := renders_tracebackLine linked (mem_levels_of_mem_shownLevels shown)
    exact renders.hasLineFeed_iff placeholder
  obtain ⟨counted, lines, whole, -⟩ := context.tracebackLines_shown start
  rw [lines]
  constructor
  · intro unbroken level shown
    rw [← broken level shown]
    exact unbroken _ (List.mem_append_left _ (List.mem_map_of_mem shown))
  · intro unbroken line member
    rcases List.mem_append.mp member with ofLevel | counting
    · obtain ⟨level, shown, rfl⟩ := List.mem_map.mp ofLevel
      rw [broken level shown]
      exact unbroken level shown
    · exact whole line counting

end Context

/-- A traceback has at least one physical line for each level that is shown and one for the count of
those left out. It has no more exactly if no shown level breaks its line, and then its physical
lines are the lines of the levels. -/
theorem physical_lines_of_levels {context : Context} (established : context.Established)
    (placeholder : ¬ HasLineFeed context.config.hostPlaceholder) {start : Nat}
    (remains : start < context.levelCount) :
    let expected :=
      Context.reportLength context.config.tracebackLimit (context.levelCount - start)
    let lines := physicalLines (context.traceback start "")
    expected ≤ lines.length ∧
    (lines.length = expected ↔ ∀ level ∈ context.shownLevels start, ¬ context.Breaks level) ∧
    ((∀ level ∈ context.shownLevels start, ¬ context.Breaks level) →
      lines = context.tracebackLines start "") := by
  intro expected lines
  obtain ⟨-, -, -, length⟩ := context.tracebackLines_shown start
  have positive : 0 < expected := Context.reportLength_pos _ (Nat.sub_pos_of_lt remains)
  have joined : lines = (context.tracebackLines start "").flatMap physicalLines := by
    refine physicalLines_intercalate ?_
    intro empty
    rw [empty] at length
    exact absurd length (Nat.ne_of_lt positive)
  have least := length_le_flatMap_physicalLines (context.tracebackLines start "")
  rw [← joined, length] at least
  have unbroken := Context.unbroken_iff established.linked placeholder start
  have whole : (∀ line ∈ context.tracebackLines start "", ¬ HasLineFeed line) →
      lines = context.tracebackLines start "" := by
    intro clean
    rw [joined]
    exact flatMap_physicalLines clean
  rw [← unbroken]
  refine ⟨least, ⟨?_, ?_⟩, whole⟩
  · intro same line member broken
    have more := length_lt_flatMap_physicalLines member broken
    rw [← joined, length] at more
    exact absurd same (Nat.ne_of_gt more)
  · intro clean
    rw [whole clean]
    exact length

/-- A main chunk of two lines that loads a global function by a name, and the function. -/
def namingHeap (name : String) : Heap :=
  let main : Prototype :=
    { source := "visit()\nvisit()", stackSize := 1, instructions := [.getGlobal 0 0, .call 0 0 0],
      constants := [.text name], lines := [2, 2] }
  let visit : Prototype :=
    { source := "@lib.lua", lineDefined := 3, instructions := [.«return» 0 0], lines := [4] }
  let heap := (Heap.empty.addFunction { code := .script main }).2
  (heap.addFunction { code := .script visit }).2

def namedCall (name : String) : Context :=
  ((((Context.create (namingHeap name) {}).call ⟨0⟩ []).2.setPosition 1).2.call ⟨1⟩ []).2

theorem namedCall_established (name : String) : (namedCall name).Established := by
  have main : (namingHeap name).Holds (.function ⟨0⟩) := Nat.zero_lt_two
  have visit : (namingHeap name).Holds (.function ⟨1⟩) := Nat.one_lt_two
  have running := (Context.Established.create (namingHeap name) {}).call main []
  exact (running.setPosition 1).call visit []

/-- The source of the main chunk is quoted, and its line feed is not shown. -/
theorem physical_lines_of_levels_visit :
    (namedCall "visit").Established ∧ ¬ HasLineFeed (namedCall "visit").config.hostPlaceholder ∧
    0 < (namedCall "visit").levelCount ∧
    (∀ level ∈ (namedCall "visit").shownLevels 0, ¬ (namedCall "visit").Breaks level) ∧
    physicalLines ((namedCall "visit").traceback 0 "") =
      ["lib.lua:4: in function 'visit'", "[string \"visit()...\"]:2: in main chunk"] := by
  have established := namedCall_established "visit"
  have placeholder : ¬ HasLineFeed (namedCall "visit").config.hostPlaceholder := by decide
  have remains : 0 < (namedCall "visit").levelCount := by decide
  obtain ⟨-, same, whole⟩ := physical_lines_of_levels established placeholder remains
  have unbroken := same.mp (by decide +kernel)
  refine ⟨established, placeholder, remains, unbroken, ?_⟩
  rw [whole unbroken]
  decide +kernel

/-- The name of a call has a line feed, and two levels have three lines. -/
theorem call_name_breaks_line :
    (namedCall "x\ny").Established ∧ ¬ HasLineFeed (namedCall "x\ny").config.hostPlaceholder ∧
    (namedCall "x\ny").config.tracebackLimit = none ∧ (namedCall "x\ny").levelCount = 2 ∧
    physicalLines ((namedCall "x\ny").traceback 0 "") =
      ["lib.lua:4: in function 'x", "y'", "[string \"visit()...\"]:2: in main chunk"] :=
  ⟨namedCall_established _, by decide, by decide, by decide, by decide +kernel⟩

end StackScope
