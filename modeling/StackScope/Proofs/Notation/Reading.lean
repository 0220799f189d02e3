import StackScope.Proofs.Notation.Literals
import StackScope.Ron.Reader

/-!
Which texts a reader of structured data takes to which values. A statement about a reader holds
whatever follows its text and however much deeper the data may nest, so that statements about parts
add up to statements about records and whole documents.
-/

namespace StackScope

namespace Ron

def Solid (characters : List Char) : Prop :=
  characters.head?.any (fun first => !isBlank first && first != '/') = true

instance (characters : List Char) : Decidable (Solid characters) :=
  inferInstanceAs (Decidable (_ = _))

theorem solid_cons {first : Char} {rest : List Char} :
    Solid (first :: rest) ↔ isBlank first = false ∧ first ≠ '/' := by
  simp [Solid]

theorem Solid.append {characters : List Char} (solid : Solid characters) (rest : List Char) :
    Solid (characters ++ rest) := by
  cases characters with
  | nil => cases solid
  | cons first characters => exact solid

theorem solid_of_continuesIdentifier {first : Char} {rest : List Char}
    (continues : continuesIdentifier first) : Solid (first :: rest) := by
  refine solid_cons.mpr ⟨Bool.eq_false_iff.mpr fun blank => ?_, ?_⟩
  · unfold isBlank at blank
    simp only [Bool.or_eq_true, beq_iff_eq] at blank
    rcases blank with ((rfl | rfl) | rfl) | rfl <;> exact absurd continues (by decide)
  · rintro rfl
    exact absurd continues (by decide)

theorem skipBlanks_of_solid {characters : List Char} (solid : Solid characters) :
    skipBlanks characters = some characters := by
  cases characters with
  | nil => cases solid
  | cons first characters =>
      obtain ⟨notBlank, notSlash⟩ := solid_cons.mp solid
      unfold skipBlanks
      rw [skipGap]
      · simp [notBlank]
      all_goals
        intros
        exact absurd ‹_› notSlash

theorem skipBlanks_cons {blank : Char} (isBlank : isBlank blank = true) (rest : List Char) :
    skipBlanks (blank :: rest) = skipBlanks rest := by
  have notSlash : blank ≠ '/' := by
    rintro rfl
    exact absurd isBlank (by decide)
  unfold skipBlanks
  rw [skipGap]
  · rw [if_pos isBlank]
  all_goals
    intros
    exact absurd ‹_› notSlash

theorem skipBlanks_append {blanks : List Char} (blank : Blank blanks) (rest : List Char) :
    skipBlanks (blanks ++ rest) = skipBlanks rest := by
  induction blanks with
  | nil => rfl
  | cons first others ih =>
      obtain ⟨here, further⟩ := Bool.and_eq_true_iff.mp blank
      rw [List.cons_append, skipBlanks_cons here]
      exact ih further

theorem skipBlanks_to_solid {blanks rest : List Char} (blank : Blank blanks) (solid : Solid rest) :
    skipBlanks (blanks ++ rest) = some rest := by
  rw [skipBlanks_append blank, skipBlanks_of_solid solid]

/-- Blanks end a word, and so does a mark behind them. -/
theorem Blank.separate {blanks rest : List Char} (blank : Blank blanks) (separate : Separate rest) :
    Separate (blanks ++ rest) := by
  cases blanks with
  | nil => exact separate
  | cons first others =>
      have here : isBlank first = true := (Bool.and_eq_true_iff.mp blank).1
      unfold isBlank at here
      simp only [Bool.or_eq_true, beq_iff_eq] at here
      rcases here with ((rfl | rfl) | rfl) | rfl <;> exact separate_cons.mpr (by decide)

theorem solid_of_skipGap {gap : Gap} {characters rest : List Char}
    (skipped : skipGap gap characters = some rest) : rest = [] ∨ Solid rest := by
  fun_induction skipGap gap characters with
  | case5 first others _ _ notSlash notBlank =>
      cases Option.some.inj skipped
      exact .inr (solid_cons.mpr ⟨Bool.eq_false_iff.mpr notBlank, notSlash⟩)
  | case6 | case9 => exact .inl (Option.some.inj skipped).symm
  | case3 | case14 => cases skipped
  | _ =>
      rename_i ih
      exact ih skipped

/-- Nothing is left to skip after skipping. -/
theorem skipBlanks_skipBlanks {characters rest : List Char}
    (skipped : skipBlanks characters = some rest) : skipBlanks rest = some rest := by
  rcases solid_of_skipGap skipped with rfl | solid
  · rfl
  · exact skipBlanks_of_solid solid

theorem comma_blanks {blanks rest : List Char} (blank : Blank blanks) :
    comma (blanks ++ ',' :: rest) = (skipBlanks rest).map fun rest => (true, rest) := by
  have solid : Solid (',' :: rest) := solid_cons.mpr (by decide)
  simp only [comma, skipBlanks_to_solid blank solid, Option.bind_eq_bind, Option.bind_some]
  cases skipBlanks rest <;> rfl

theorem comma_of_ne {blanks rest : List Char} {next : Char} (blank : Blank blanks)
    (solid : Solid (next :: rest)) (other : next ≠ ',') :
    comma (blanks ++ next :: rest) = some (false, next :: rest) := by
  unfold comma
  rw [skipBlanks_to_solid blank solid]
  simp [other]

theorem symbol_cons (expected : Char) (rest : List Char) :
    symbol expected (expected :: rest) = some rest := after?_append [expected] rest

/-- The reader takes what is written to a value and stops where that ends, if the data may nest so
much deeper and nothing follows that would belong to the last word. -/
structure Reads {α : Type} (depth : Nat) (reader : Reader α) (written : List Char) (value : α) :
    Prop where
  solid : Solid written
  takes : ∀ (settings : Settings) (rest : List Char), depth ≤ settings.depth → Separate rest →
    reader settings (written ++ rest) = some (value, rest)

section

variable {α β σ : Type} {depth : Nat} {written : List Char}

/-- One step deeper there is still room for what needs one step less. -/
theorem nested_eq {reader : Reader α} {settings : Settings} {characters : List Char}
    {answer : Option (α × List Char)} (enough : depth + 1 ≤ settings.depth)
    (inner : ∀ deeper : Settings, depth ≤ deeper.depth → reader deeper characters = answer) :
    nested reader settings characters = answer := by
  obtain ⟨further, limit⟩ : ∃ further, settings.depth = further + 1 :=
    ⟨settings.depth - 1, by omega⟩
  have within : depth ≤ further := by omega
  unfold nested
  rw [limit]
  exact inner { settings with depth := further } within

theorem Reads.nested {reader : Reader α} {value : α} (reads : Reads depth reader written value) :
    Reads (depth + 1) (Ron.nested reader) written value := by
  refine ⟨reads.solid, fun settings rest enough separate => nested_eq enough ?_⟩
  exact fun deeper within => reads.takes deeper rest within separate

theorem Reads.map {reader : Reader α} {value : α} (reads : Reads depth reader written value)
    (change : α → β) : Reads depth (Ron.map change reader) written (change value) := by
  refine ⟨reads.solid, fun settings rest enough separate => ?_⟩
  unfold Ron.map
  rw [reads.takes settings rest enough separate]
  rfl

theorem reads_text {content : String} {written : List Char}
    (spelled : (Item.text content).Spelled written) :
    Reads depth (ofToken text) written content := by
  cases spelled with
  | text spells =>
      refine ⟨solid_cons.mpr (by decide), fun settings rest _ _ => ?_⟩
      simp only [ofToken, List.cons_append, List.append_assoc, List.nil_append]
      exact spells.text rest

theorem reads_natural {limit value : Nat} (fits : value ≤ limit) {digits : List Char}
    (spelled : (Item.count value).Spelled digits) :
    Reads depth (ofToken (natural limit)) digits value := by
  cases spelled with
  | count numeral =>
      refine ⟨?_, fun _ rest _ separate => numeral.natural fits separate⟩
      cases digits with
      | nil => exact absurd rfl numeral.ne_nil
      | cons first others =>
          have digit := isAlphanum_of_hexDigit? (numeral.isSome_of_mem List.mem_cons_self)
          exact solid_of_continuesIdentifier (by simp [continuesIdentifier, digit])

/-- A plain identifier that cannot be taken for a raw one. -/
def PlainName (name : List Char) : Prop :=
  (name.head?.any (fun first => startsIdentifier first && first != 'r') &&
    name.all continuesIdentifier) = true

instance (name : List Char) : Decidable (PlainName name) := inferInstanceAs (Decidable (_ = _))

theorem reads_identifier {name : String} (plain : PlainName name.toList) :
    Reads depth (ofToken identifier) name.toList name := by
  obtain ⟨starts, all⟩ := Bool.and_eq_true_iff.mp plain
  have continues := List.all_eq_true.mp all
  cases form : name.toList with
  | nil =>
      rw [form] at starts
      cases starts
  | cons first others =>
      rw [form] at starts continues
      have parts : startsIdentifier first = true ∧ first ≠ 'r' := by simpa using starts
      refine ⟨solid_of_continuesIdentifier (continues first List.mem_cons_self), ?_⟩
      intro settings rest _ separate
      have span := spanOf_append continues
        (separate.ends fun _ continues => by simp [continuesRawIdentifier, continues])
      have ends : rest.head?.any continuesRawIdentifier = false := separate
      unfold ofToken identifier
      rw [List.cons_append] at span ⊢
      -- Only the letter of the mark for raw identifiers would lead elsewhere.
      split
      case h_1 same => exact absurd (List.cons.inj same).1 parts.2
      case h_2 same => exact absurd (List.cons.inj same).1 parts.2
      case h_4 same => exact absurd same (List.cons_ne_nil _ _)
      case h_3 same =>
        obtain ⟨rfl, rfl⟩ := List.cons.inj same
        simp only [span]
        rw [if_pos parts.1, ends, Bool.and_false, if_neg Bool.false_ne_true, ← form,
          String.ofList_toList]

theorem reads_absent (reader : Reader α) : Reads depth (optional reader) "None".toList none := by
  refine ⟨by decide, fun settings rest _ _ => ?_⟩
  unfold optional
  rw [after?_append]

theorem Reads.present {reader : Reader α} {value : α} (reads : Reads depth reader written value)
    {opened before after : List Char} (opens : Blank opened) (leads : Blank before)
    (trails : Blank after) :
    Reads (depth + 1) (optional reader)
      ("Some".toList ++ (opened ++ '(' :: (before ++ (written ++ (after ++ [')'])))))
      (some value) := by
  refine ⟨solid_cons.mpr (by decide), fun settings rest enough separate => ?_⟩
  have closing : Solid (')' :: rest) := solid_cons.mpr (by decide)
  have content := reads.nested.takes settings (after ++ ')' :: rest) enough
    (trails.separate (separate_cons.mpr (by decide)))
  have form : "Some".toList ++ (opened ++ '(' :: (before ++ (written ++ (after ++ [')'])))) ++
      rest = "Some".toList ++
        (opened ++ '(' :: (before ++ (written ++ (after ++ ')' :: rest)))) := by simp
  have absent : after? "None".toList ("Some".toList ++
      (opened ++ '(' :: (before ++ (written ++ (after ++ ')' :: rest))))) = none := rfl
  have opening : Solid ('(' :: (before ++ (written ++ (after ++ ')' :: rest)))) :=
    solid_cons.mpr (by decide)
  unfold optional
  rw [form, absent, after?_append]
  simp only [skipBlanks_to_solid opens opening,
    skipBlanks_to_solid leads (reads.solid.append _), content,
    comma_of_ne trails closing (by decide), symbol_cons, Option.bind_eq_bind, Option.bind_some,
    Option.pure_def]

theorem reads_optional {reader : Reader Nat} {value : Option Nat}
    (spelled : (Item.ofCount? value).Spelled written)
    (content : ∀ count ∈ value, ∀ digits, (Item.count count).Spelled digits →
      Reads depth reader digits count) :
    Reads (depth + 1) (optional reader) written value := by
  cases value with
  | none =>
      cases spelled
      exact reads_absent reader
  | some count =>
      cases spelled with
      | present inner opens leads trails =>
          exact (content count rfl _ inner).present opens leads trails

theorem reads_variant {content : String → Option (Reader α)} {name : String} {value : α}
    (plain : PlainName name.toList) (known : content name = some (bare value)) :
    Reads 2 (variant content) name.toList value := by
  have named : Reads 1 (Ron.nested (ofToken identifier)) name.toList name :=
    (reads_identifier plain).nested
  refine Reads.nested ⟨named.solid, fun settings rest enough separate => ?_⟩
  rw [named.takes settings rest enough separate]
  simp only [known, bare, Option.bind_eq_bind, Option.bind_some]

/-! ### Records -/

theorem Reads.field {present : σ → Option α} {store : σ → α → σ} {reader : Reader α} {value : α}
    {draft : σ} (reads : Reads depth reader written value) (first : present draft = none) :
    Reads (depth + 1) (Ron.field present store reader draft) written (store draft value) := by
  have stored := reads.nested.map (store draft)
  refine ⟨stored.solid, fun settings rest enough separate => ?_⟩
  unfold Ron.field
  rw [first]
  exact stored.takes settings rest enough separate

theorem Reads.entry {fields : Fields σ} {name : String} {reader : σ → Reader σ} {draft next : σ}
    (reads : Reads (depth + 1) (reader draft) written next) (plain : PlainName name.toList)
    (known : fields name = some reader) {before after : List Char} (leads : Blank before)
    (trails : Blank after) :
    Reads (depth + 1) (Ron.entry fields draft)
      (name.toList ++ (before ++ ':' :: (after ++ written))) next := by
  have named : Reads 1 (Ron.nested (ofToken identifier)) name.toList name :=
    (reads_identifier plain).nested
  refine ⟨named.solid.append _, fun settings rest enough separate => ?_⟩
  have form : name.toList ++ (before ++ ':' :: (after ++ written)) ++ rest =
      name.toList ++ (before ++ ':' :: (after ++ (written ++ rest))) := by simp
  have colon : Solid (':' :: (after ++ (written ++ rest))) := solid_cons.mpr (by decide)
  have key := named.takes settings (before ++ ':' :: (after ++ (written ++ rest))) (by omega)
    (leads.separate (separate_cons.mpr (by decide)))
  have value := reads.takes settings rest enough separate
  unfold Ron.entry
  rw [form, key]
  simp only [skipBlanks_to_solid leads colon, symbol_cons,
    skipBlanks_to_solid trails (reads.solid.append rest), known, value, Option.bind_eq_bind,
    Option.bind_some]

/-- Items that are read one after another, each into what the earlier ones left, with commas between
them. None of them begins as what closes them all. -/
inductive ReadsAll (depth : Nat) (closing : Char) (item : σ → Reader σ) :
    σ → List Char → σ → Prop
  | nothing {state : σ} {blanks : List Char} :
      Blank blanks → ReadsAll depth closing item state blanks state
  | last {state final : σ} {written before after : List Char} :
      Reads depth (item state) written final → written.head? ≠ some closing →
      Blank before → Blank after →
        ReadsAll depth closing item state (before ++ (written ++ after)) final
  | further {state middle final : σ} {written before after others : List Char} :
      Reads depth (item state) written middle → written.head? ≠ some closing →
      Blank before → Blank after → ReadsAll depth closing item middle others final →
        ReadsAll depth closing item state (before ++ (written ++ (after ++ ',' :: others))) final

theorem PlainName.head?_ne {name : List Char} (plain : PlainName name) {closing : Char}
    (other : startsIdentifier closing = false) (rest : List Char) :
    (name ++ rest).head? ≠ some closing := by
  have starts := (Bool.and_eq_true_iff.mp plain).1
  cases name with
  | nil => cases starts
  | cons first others =>
      intro same
      cases Option.some.inj same
      simp [other] at starts

inductive Fills (depth : Nat) (fields : Fields σ) : σ → Entries → σ → Prop
  | nothing (draft : σ) : Fills depth fields draft [] draft
  | further {name : String} {item : Item} {reader : σ → Reader σ} {draft next final : σ}
      {entries : Entries} : PlainName name.toList → fields name = some reader →
      (∀ written, item.Spelled written → Reads (depth + 1) (reader draft) written next) →
      Fills depth fields next entries final →
        Fills depth fields draft ((name, item) :: entries) final

theorem Fills.readsAll {fields : Fields σ} {draft final : σ} {entries : Entries}
    (fills : Fills depth fields draft entries final) (spelled : FieldsSpelled entries written) :
    ReadsAll (depth + 1) ')' (Ron.entry fields) draft written final := by
  induction fills generalizing written with
  | nothing draft =>
      cases spelled with
      | none blank => exact .nothing blank
  | further plain known reads rest ih =>
      cases spelled with
      | last field leads trails =>
          cases field with
          | intro value before after =>
              cases rest
              exact .last ((reads _ value).entry plain known before after)
                (plain.head?_ne (by decide) _) leads trails
      | further field leads trails others =>
          cases field with
          | intro value before after =>
              exact .further ((reads _ value).entry plain known before after)
                (plain.head?_ne (by decide) _) leads trails (ih others)

theorem bind_items {closing : Char} {item : σ → Reader σ} {settings : Settings} {bound : Nat}
    {mayFollow : Bool} {state : σ} (characters : List Char) :
    (skipBlanks characters).bind (items closing item settings bound mayFollow state) =
      items closing item settings bound mayFollow state characters := by
  cases bound with
  | zero => cases skipBlanks characters <;> rfl
  | succ bound =>
      cases skipped : skipBlanks characters with
      | none => simp [items, skipped]
      | some rest => simp [items, skipped, skipBlanks_skipBlanks skipped]

/-- Where the closing character comes next, there are no more items. -/
theorem items_closed {closing : Char} {item : σ → Reader σ} {settings : Settings} {bound : Nat}
    {mayFollow : Bool} {state : σ} {characters rest : List Char}
    (skipped : skipBlanks characters = some (closing :: rest)) :
    items closing item settings (bound + 1) mayFollow state characters =
      some (state, closing :: rest) := by
  simp [items, skipped]

theorem Reads.length_pos {reader : Reader α} {value : α} (reads : Reads depth reader written value) :
    0 < written.length := by
  cases written with
  | nil => exact absurd reads.solid (by decide)
  | cons => exact Nat.succ_pos _

theorem items_of_reads {closing : Char} {item : σ → Reader σ} {state middle : σ}
    {before rest : List Char} {settings : Settings} (bound : Nat)
    (reads : Reads depth (item state) written middle) (notClosing : written.head? ≠ some closing)
    (leads : Blank before) (enough : depth ≤ settings.depth) (separate : Separate rest) :
    items closing item settings (bound + 1) true state (before ++ (written ++ rest)) =
      (comma rest).bind fun (hadComma, rest) =>
        items closing item settings bound hadComma middle rest := by
  have skipped := skipBlanks_to_solid leads (reads.solid.append rest)
  have taken := reads.takes settings rest enough separate
  cases written with
  | nil => exact absurd reads.solid (by decide)
  | cons next more =>
      have goesOn : next ≠ closing := fun same => notClosing (congrArg some same)
      rw [List.cons_append] at skipped taken ⊢
      rw [items, skipped]
      simp only [Option.bind_eq_bind, Option.bind_some, List.head?_cons, if_neg goesOn, taken]
      rfl

/-- By induction on the items: a comma brings the reader to the next one. -/
theorem ReadsAll.items {closing : Char} {item : σ → Reader σ} {state final : σ}
    (reads : ReadsAll depth closing item state written final) {rest : List Char}
    (solid : Solid (closing :: rest)) (separate : Separate (closing :: rest))
    (notComma : closing ≠ ',') {settings : Settings} (enough : depth ≤ settings.depth)
    {bound : Nat} (room : written.length < bound) :
    Ron.items closing item settings bound true state (written ++ closing :: rest) =
      some (final, closing :: rest) := by
  obtain ⟨less, rfl⟩ : ∃ less, bound = less + 1 := ⟨bound - 1, by omega⟩
  induction reads generalizing less with
  | nothing blank => exact items_closed (skipBlanks_to_solid blank solid)
  | last reads notClosing leads trails =>
      -- An item has a character, so the bound leaves another round, in which the closing is seen.
      have positive := reads.length_pos
      simp only [List.length_append] at room
      obtain ⟨fewer, rfl⟩ : ∃ fewer, less = fewer + 1 := ⟨less - 1, by omega⟩
      rw [List.append_assoc, List.append_assoc,
        items_of_reads _ reads notClosing leads enough (trails.separate separate),
        comma_of_ne trails solid notComma]
      exact items_closed (skipBlanks_of_solid solid)
  | @further _ _ _ _ _ after others reads notClosing leads trails _ ih =>
      have positive := reads.length_pos
      simp only [List.length_append, List.length_cons] at room
      obtain ⟨fewer, rfl⟩ : ∃ fewer, less = fewer + 1 := ⟨less - 1, by omega⟩
      have separated : Separate (',' :: (others ++ closing :: rest)) :=
        separate_cons.mpr (by decide)
      have first := items_of_reads (fewer + 1) reads notClosing leads enough
        (trails.separate separated)
      simp only [List.append_assoc, List.cons_append]
      rw [first, comma_blanks trails, ← ih fewer (by omega), ← bind_items]
      cases skipBlanks (others ++ closing :: rest) <;> rfl

theorem ReadsAll.enclosed {opening closing : Char} {item : σ → Reader σ} {start final : σ}
    (reads : ReadsAll depth closing item start written final) (opens : Solid [opening])
    (closes : Solid [closing]) (ends : Separate [closing]) (notComma : closing ≠ ',') :
    Reads (depth + 1) (Ron.enclosed opening closing item start)
      (opening :: (written ++ [closing])) final := by
  refine ⟨opens.append _, fun settings rest enough _ => ?_⟩
  have closed : Solid (closing :: rest) := closes.append rest
  have form : opening :: (written ++ [closing]) ++ rest =
      opening :: (written ++ closing :: rest) := by simp
  have room : written.length < (written ++ closing :: rest).length + 1 := by
    rw [List.length_append]
    omega
  have inside : Ron.nested (fun settings characters =>
      Ron.items closing item settings (characters.length + 1) true start characters) settings
      (written ++ closing :: rest) = some (final, closing :: rest) :=
    nested_eq enough fun deeper within => reads.items closed ends notComma within room
  have closesHere : comma (closing :: rest) = some (false, closing :: rest) :=
    comma_of_ne (rfl : Blank []) closed notComma
  unfold Ron.enclosed
  simp only [form, symbol_cons, inside, closesHere, Option.bind_eq_bind, Option.bind_some,
    Option.pure_def]

theorem ReadsAll.record {fields : Fields σ} {start final : σ}
    (reads : ReadsAll depth ')' (Ron.entry fields) start written final) (name : String) :
    Reads (depth + 1) (Ron.record name fields start) ('(' :: (written ++ [')'])) final := by
  have read : Reads (depth + 1) (fieldsOf fields start) ('(' :: (written ++ [')'])) final :=
    reads.enclosed (by decide) (by decide) (by decide) (by decide)
  refine ⟨read.solid, fun settings rest enough separate => ?_⟩
  have unnamed : continuing ('(' :: (written ++ [')']) ++ rest) = false := rfl
  unfold Ron.record
  rw [unnamed, if_neg Bool.false_ne_true, skipBlanks_of_solid (read.solid.append rest)]
  exact read.takes settings rest enough separate

/-! ### Whole texts -/

theorem header_of_ne {bound : Nat} {settings : Settings} {characters : List Char}
    (plain : characters.head? ≠ some '#') :
    header (bound + 1) settings characters = some (settings, characters) := by
  unfold header
  split
  case h_1 => exact absurd rfl plain
  case h_2 => rfl

/-- A document without a header is what its reader takes the text between blanks for. -/
theorem Reads.document {reader : Reader α} {value : α} (reads : Reads depth reader written value)
    (shallow : depth ≤ 128) (plain : written.head? ≠ some '#') {before after : List Char}
    (leads : Blank before) (trails : Blank after) :
    Ron.document reader (String.ofList (before ++ (written ++ after))) = some value := by
  have separate : Separate (after ++ []) := trails.separate rfl
  have ended : skipBlanks (after ++ []) = some [] := skipBlanks_append trails []
  rw [List.append_nil] at separate ended
  have whole := reads.takes {} after shallow separate
  have noHeader : (written ++ after).head? ≠ some '#' := by
    cases written with
    | nil => exact absurd reads.solid (by decide)
    | cons first others => exact plain
  unfold Ron.document
  rw [String.toList_ofList]
  simp only [skipBlanks_to_solid leads (reads.solid.append after), header_of_ne noHeader, whole,
    ended, Option.bind_eq_bind, Option.bind_some]

end

end Ron

end StackScope
