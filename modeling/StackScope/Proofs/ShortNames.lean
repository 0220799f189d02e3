import Mathlib.Data.List.TakeWhile
import StackScope.ChunkName

/-!
What short names keep of their sources. A label is shown as far as there is room for it, a file name
without its beginning if there is no room for it, and of other text the first line, or what there is
room for of it. Dots stand for what a file name or a text has lost.
-/

namespace StackScope

namespace ChunkName

/-- The first line of a text ends at the first line feed, and a carriage return directly before the
line feed is not part of the line. -/
inductive FirstLine : (text line : List Char) → Prop
  | whole {text : List Char} : '\n' ∉ text → FirstLine text text
  | lineFeed {line rest : List Char} : '\n' ∉ line → line.getLast? ≠ some '\r' →
      FirstLine (line ++ '\n' :: rest) line
  | carriageReturn {line rest : List Char} : '\n' ∉ line →
      FirstLine (line ++ '\r' :: '\n' :: rest) line

variable {text line : List Char}

theorem kept_of_not_mem (unbroken : '\n' ∉ line) : ∀ char ∈ line, (char != '\n') = true := by
  intro char member
  rw [bne_iff_ne]
  rintro rfl
  exact unbroken member

theorem firstLine_of_not_mem (unbroken : '\n' ∉ text) : firstLine text = text := by
  simp [firstLine, unbroken, List.takeWhile_eq_self_iff.mpr (kept_of_not_mem unbroken)]

theorem firstLine_lineFeed {rest : List Char} (unbroken : '\n' ∉ line) :
    firstLine (line ++ '\n' :: rest) =
      if line.getLast? = some '\r' then line.dropLast else line := by
  have before : (line ++ '\n' :: rest).takeWhile (· != '\n') = line := by
    rw [List.takeWhile_append_of_pos (kept_of_not_mem unbroken),
      List.takeWhile_cons_of_neg (by decide), List.append_nil]
  simp [firstLine, before]

theorem FirstLine.eq (first : FirstLine text line) : line = firstLine text := by
  cases first with
  | whole unbroken => exact (firstLine_of_not_mem unbroken).symm
  | lineFeed unbroken plain => rw [firstLine_lineFeed unbroken, if_neg plain]
  | @carriageReturn _ rest unbroken =>
      have unbroken : '\n' ∉ line ++ ['\r'] := by simp [unbroken]
      have moved : line ++ '\r' :: '\n' :: rest = (line ++ ['\r']) ++ '\n' :: rest := by simp
      rw [moved, firstLine_lineFeed unbroken, if_pos List.getLast?_concat, List.dropLast_concat]

theorem exists_firstLine (text : List Char) : ∃ line, FirstLine text line := by
  by_cases broken : '\n' ∈ text
  · obtain ⟨line, rest, rfl, unbroken⟩ := List.eq_append_cons_of_mem broken
    by_cases closed : line.getLast? = some '\r'
    · obtain ⟨before, rfl⟩ := List.getLast?_eq_some_iff.mp closed
      rw [List.append_assoc, List.singleton_append]
      exact ⟨before, .carriageReturn fun member => unbroken (List.mem_append_left _ member)⟩
    · exact ⟨line, .lineFeed unbroken closed⟩
  · exact ⟨text, .whole broken⟩

theorem FirstLine.unbroken (first : FirstLine text line) : '\n' ∉ line := by
  cases first with
  | whole unbroken => exact unbroken
  | lineFeed unbroken => exact unbroken
  | carriageReturn unbroken => exact unbroken

/-! ### What is shown -/

/-- What is quoted of source text: the text itself, if it is short and one line, and else the first
45 characters of its first line, or all if there are fewer, and dots. -/
inductive Quotes (text : List Char) : (quoted : List Char) → Prop
  | whole : '\n' ∉ text → text.length ≤ 45 → Quotes text text
  | cut {line : List Char} : '\n' ∈ text ∨ 45 < text.length → FirstLine text line →
      Quotes text (line.take (min 45 line.length) ++ "...".toList)

structure LongestStart (room : Nat) (text kept : List Char) : Prop where
  start : kept <+: text
  fits : kept.length ≤ room
  longest : ∀ other, other <+: text → other.length ≤ room → other <+: kept

inductive Shows : (source short : List Char) → Prop
  | label {label short : List Char} : LongestStart 59 label short → Shows ('=' :: label) short
  | path {path : List Char} : path.length ≤ 59 → Shows ('@' :: path) path
  | longPath {lost kept : List Char} : 59 < (lost ++ kept).length → kept.length = 56 →
      Shows ('@' :: (lost ++ kept)) ("...".toList ++ kept)
  | text {text quoted : List Char} : text.head? ≠ some '=' → text.head? ≠ some '@' →
      Quotes text quoted → Shows text ("[string \"".toList ++ quoted ++ "\"]".toList)

theorem longestStart_ofLabel (label : List Char) : LongestStart 59 label (ofLabel label) where
  start := List.take_prefix _ label
  fits := length_ofLabel label
  longest := fun _ start fits => List.prefix_take_iff.mpr ⟨start, fits⟩

theorem LongestStart.unique {room : Nat} {kept other : List Char}
    (first : LongestStart room text kept) (second : LongestStart room text other) :
    kept = other := by
  have within := first.longest _ second.start second.fits
  have around := second.longest _ first.start first.fits
  exact around.eq_of_length_le within.length_le

theorem Quotes.unbroken {quoted : List Char} (quotes : Quotes text quoted) : '\n' ∉ quoted := by
  cases quotes with
  | whole unbroken => exact unbroken
  | cut _ first =>
      rw [List.mem_append]
      rintro (member | dot)
      · exact first.unbroken (List.mem_of_mem_take member)
      · revert dot
        decide

theorem Quotes.ofText_eq {quoted : List Char} (quotes : Quotes text quoted) :
    ofText text = "[string \"".toList ++ quoted ++ "\"]".toList := by
  unfold ofText sizeLimit
  cases quotes with
  | whole unbroken short => simp [firstLine_of_not_mem unbroken, unbroken, Nat.not_lt.mpr short]
  | @cut line long first =>
      have cut : '\n' ∈ text ∨ 45 < line.length := by
        by_cases broken : '\n' ∈ text
        · exact .inl broken
        · rw [first.eq, firstLine_of_not_mem broken]
          exact long
      rw [← first.eq]
      simp [cut]

theorem exists_quotes (text : List Char) : ∃ quoted, Quotes text quoted := by
  by_cases long : '\n' ∈ text ∨ 45 < text.length
  · obtain ⟨line, first⟩ := exists_firstLine text
    exact ⟨_, .cut long first⟩
  · rw [not_or, Nat.not_lt] at long
    exact ⟨text, .whole long.1 long.2⟩

theorem ofPath_of_short {path : List Char} (short : path.length ≤ 59) : ofPath path = path :=
  if_pos (Nat.lt_succ_of_le short)

theorem ofPath_append {lost kept : List Char} (long : 59 < (lost ++ kept).length)
    (width : kept.length = 56) : ofPath (lost ++ kept) = "...".toList ++ kept := by
  have start : (lost ++ kept).length - (sizeLimit - 4) = lost.length := by
    rw [List.length_append, width, sizeLimit, Nat.add_sub_cancel]
  unfold ofPath
  rw [start, List.drop_left]
  exact if_neg (Nat.not_lt.mpr long)

theorem shows_ofPath (path : List Char) : Shows ('@' :: path) (ofPath path) := by
  rcases Nat.lt_or_ge 59 path.length with long | short
  · obtain ⟨lost, kept, rfl, width⟩ : ∃ lost kept, path = lost ++ kept ∧ kept.length = 56 := by
      refine ⟨_, _, (List.take_append_drop (path.length - 56) path).symm, ?_⟩
      rw [List.length_drop]
      omega
    rw [ofPath_append long width]
    exact .longPath long width
  · rw [ofPath_of_short short]
    exact .path short

end ChunkName

section Forms

variable {source : String}

theorem chunkName_label {label : List Char} (form : source.toList = '=' :: label) :
    (chunkName source).toList = ChunkName.ofLabel label := by
  simp [chunkName, form]

theorem chunkName_path {path : List Char} (form : source.toList = '@' :: path) :
    (chunkName source).toList = ChunkName.ofPath path := by
  simp [chunkName, form]

theorem chunkName_text (label : source.toList.head? ≠ some '=')
    (path : source.toList.head? ≠ some '@') :
    (chunkName source).toList = ChunkName.ofText source.toList := by
  unfold chunkName
  split
  · rename_i form
    rw [form] at label
    exact absurd rfl label
  · rename_i form
    rw [form] at path
    exact absurd rfl path
  · exact String.toList_ofList

end Forms

/-- A source is a label, a path or a text. -/
theorem chunkName_cases (source : String) :
    (∃ label, source.toList = '=' :: label ∧
      (chunkName source).toList = ChunkName.ofLabel label) ∨
    (∃ path, source.toList = '@' :: path ∧ (chunkName source).toList = ChunkName.ofPath path) ∨
    (source.toList.head? ≠ some '=' ∧ source.toList.head? ≠ some '@' ∧
      (chunkName source).toList = ChunkName.ofText source.toList) := by
  by_cases label : source.toList.head? = some '='
  · obtain ⟨rest, form⟩ := List.head?_eq_some_iff.mp label
    exact .inl ⟨rest, form, chunkName_label form⟩
  · by_cases path : source.toList.head? = some '@'
    · obtain ⟨rest, form⟩ := List.head?_eq_some_iff.mp path
      exact .inr (.inl ⟨rest, form, chunkName_path form⟩)
    · exact .inr (.inr ⟨label, path, chunkName_text label path⟩)

namespace ChunkName

theorem shows_chunkName (source : String) : Shows source.toList (chunkName source).toList := by
  rcases chunkName_cases source with ⟨label, form, name⟩ | ⟨path, form, name⟩ | ⟨label, path, name⟩
  · rw [form, name]
    exact .label (longestStart_ofLabel label)
  · rw [form, name]
    exact shows_ofPath path
  · obtain ⟨quoted, quotes⟩ := exists_quotes source.toList
    rw [name, quotes.ofText_eq]
    exact .text label path quotes

theorem Shows.eq_chunkName {source : String} {short : List Char}
    (shows : Shows source.toList short) : short = (chunkName source).toList := by
  generalize form : source.toList = chars at shows
  cases shows with
  | label longest =>
      rw [chunkName_label form]
      exact longest.unique (longestStart_ofLabel _)
  | path within => rw [chunkName_path form, ofPath_of_short within]
  | longPath long width => rw [chunkName_path form, ofPath_append long width]
  | text label path quotes =>
      subst form
      rw [chunkName_text label path, quotes.ofText_eq]

theorem length_chunkName (source : String) : (chunkName source).length ≤ 59 := by
  rw [← String.length_toList]
  rcases chunkName_cases source with ⟨label, -, name⟩ | ⟨path, -, name⟩ | ⟨-, -, name⟩
  · rw [name]
    exact length_ofLabel label
  · rw [name]
    exact length_ofPath path
  · rw [name]
    exact length_ofText source.toList

end ChunkName

/-- No short name is longer than 59 characters. It shows what is to be shown of its source, and
nothing else does; what is quoted of a source never holds a line feed. -/
theorem short_name_faithful (source : String) :
    (chunkName source).length ≤ 59 ∧
    (∀ short, ChunkName.Shows source.toList short ↔ short = (chunkName source).toList) ∧
    (∀ quoted, ChunkName.Quotes source.toList quoted → '\n' ∉ quoted) := by
  refine ⟨ChunkName.length_chunkName source, fun short => ⟨ChunkName.Shows.eq_chunkName, ?_⟩,
    fun quoted => ChunkName.Quotes.unbroken⟩
  rintro rfl
  exact ChunkName.shows_chunkName source

example : chunkName "print(1)\r\nprint(2)" = "[string \"print(1)...\"]" := by decide +kernel

end StackScope
