import StackScope.Proofs.LibraryTransparency
import StackScope.Proofs.OptionLetters
import StackScope.Proofs.RecordSelection

/-!
The table that shows a record to scripts. Each field of it has a key of its own and is selected by a
letter. The table holds the selected fields of the full record, and no other keys.
-/

namespace StackScope

namespace Table

def keys (table : Table) : List String := table.entries.map Prod.fst

def Tidy (table : Table) : Prop := ∀ key, key ∈ table.keys ↔ table.get key ≠ .nil

theorem mem_keys_insertEntry (key other : String) (value : Value)
    (entries : List (String × Value)) :
    other ∈ (insertEntry key value entries).map Prod.fst ↔
      other = key ∨ other ∈ entries.map Prod.fst := by
  induction entries with
  | nil => simp [insertEntry]
  | cons entry rest ih =>
      obtain ⟨present, old⟩ := entry
      unfold insertEntry
      split
      · rename_i same
        subst same
        simp
      · split
        · simp
        · rw [List.map_cons, List.map_cons, List.mem_cons, List.mem_cons, ih]
          exact or_left_comm

theorem mem_keys_set (table : Table) (key other : String) (value : Value) :
    other ∈ (table.set key value).keys ↔
      if other = key then value ≠ .nil else other ∈ table.keys := by
  unfold keys set
  by_cases absent : value = .nil
  · subst absent
    by_cases here : other = key <;> simp [Value.isNil, here]
  · have present : value.isNil = false := by cases value <;> simp_all [Value.isNil]
    rw [present, if_neg Bool.false_ne_true, mem_keys_insertEntry]
    by_cases here : other = key <;> simp [here, absent]

theorem tidy_empty : ({} : Table).Tidy := by
  intro key
  simp [keys, get]

theorem Tidy.set {table : Table} (tidy : table.Tidy) (key : String) (value : Value) :
    (table.set key value).Tidy := by
  intro other
  rw [mem_keys_set, get_set]
  split
  · rfl
  · exact tidy other

end Table

namespace DebugFunction

def setFields (table : Table) (fields : List (String × Option Value)) : Table :=
  fields.foldl (fun table field => setField? table field.1 field.2) table

section SetFields

variable {table : Table} {fields : List (String × Option Value)}

theorem tidy_setField? (tidy : table.Tidy) (key : String) (value : Option Value) :
    (setField? table key value).Tidy := by
  cases value with
  | none => exact tidy
  | some value => exact tidy.set key value

theorem tidy_setFields (tidy : table.Tidy) : (setFields table fields).Tidy := by
  induction fields generalizing table with
  | nil => exact tidy
  | cons field rest ih => exact ih (tidy_setField? tidy field.1 field.2)

/-- Only entries are set. -/
theorem entries_setFields :
    setFields table fields = { table with entries := (setFields table fields).entries } := by
  induction fields generalizing table with
  | nil => rfl
  | cons field rest ih =>
      obtain ⟨key, value⟩ := field
      have later : setFields (setField? table key value) rest =
          { setField? table key value with
            entries := (setFields (setField? table key value) rest).entries } := ih
      cases value with
      | none => exact later
      | some value => exact later

theorem get_setFields_of_notMem {key : String} (absent : key ∉ fields.map Prod.fst) :
    (setFields table fields).get key = table.get key := by
  induction fields generalizing table with
  | nil => rfl
  | cons field rest ih =>
      rw [List.map_cons, List.mem_cons, not_or] at absent
      have later : (setFields (setField? table field.1 field.2) rest).get key =
          (setField? table field.1 field.2).get key := ih absent.2
      rw [get_setField?, if_neg absent.1] at later
      exact later

theorem get_setFields_of_mem (distinct : (fields.map Prod.fst).Nodup) {key : String}
    {value : Option Value} (member : (key, value) ∈ fields) :
    (setFields table fields).get key = value.getD (table.get key) := by
  induction fields generalizing table with
  | nil => cases member
  | cons field rest ih =>
      rw [List.map_cons, List.nodup_cons] at distinct
      change (setFields (setField? table field.1 field.2) rest).get key = _
      rcases List.mem_cons.mp member with same | member
      · subst same
        rw [get_setFields_of_notMem distinct.1, get_setField?, if_pos rfl]
      · have other : key ≠ field.1 := by
          rintro rfl
          exact distinct.1 (List.mem_map.mpr ⟨_, member, rfl⟩)
        rw [ih distinct.2 member, get_setField?, if_neg other]

end SetFields

end DebugFunction

inductive InfoField where
  | name
  | nameKind
  | kind
  | source
  | shortSource
  | lineDefined
  | lastLineDefined
  | currentLine
  | upvalueCount
  | function
  | activeLines
deriving DecidableEq

namespace InfoField

def key : InfoField → String
  | name => "name"
  | nameKind => "namewhat"
  | kind => "what"
  | source => "source"
  | shortSource => "short_src"
  | lineDefined => "linedefined"
  | lastLineDefined => "lastlinedefined"
  | currentLine => "currentline"
  | upvalueCount => "nups"
  | function => "func"
  | activeLines => "activelines"

def letter : InfoField → Char
  | name | nameKind => 'n'
  | kind | source | shortSource | lineDefined | lastLineDefined => 'S'
  | currentLine => 'l'
  | upvalueCount => 'u'
  | function => 'f'
  | activeLines => 'L'

def all : List InfoField :=
  [name, nameKind, kind, source, shortSource, lineDefined, lastLineDefined, currentLine,
    upvalueCount, function, activeLines]

theorem mem_all (field : InfoField) : field ∈ all := by
  cases field <;> decide

theorem nodup_keys : (all.map key).Nodup := by decide

theorem letter_known (field : InfoField) : field.letter ∈ Mask.knownLetters := by
  cases field <;> decide

/-- What the table holds for a field of the full record. The active lines have a table of their
own. -/
def shown? (record : Record) (lines : TableId) : InfoField → Option Value
  | name => record.name.map .text
  | nameKind => some (.text ((record.nameKind.map NameKind.text).getD ""))
  | kind => record.kind.map fun kind => .text kind.text
  | source => record.source.map .text
  | shortSource => record.shortSource.map .text
  | lineDefined => some (DebugFunction.lineValue record.lineDefined)
  | lastLineDefined => some (DebugFunction.lineValue record.lastLineDefined)
  | currentLine => some (DebugFunction.lineValue record.currentLine)
  | upvalueCount => record.upvalueCount.map fun count => .number (.ofNat count)
  | function => record.function
  | activeLines => record.activeLines.map fun _ => .table lines

def entry (mask : Mask) (record : Record) (lines : TableId) (field : InfoField) :
    String × Option Value :=
  (field.key, if mask.has field.letter then field.shown? record lines else none)

end InfoField

def infoTable (mask : Mask) (record : Record) (lines : TableId) : Table :=
  DebugFunction.setFields {} (InfoField.all.map (InfoField.entry mask record lines))

section InfoTable

variable (mask : Mask) (record : Record) (lines : TableId)

theorem keys_entries :
    (InfoField.all.map (InfoField.entry mask record lines)).map Prod.fst =
      InfoField.all.map InfoField.key := by
  rw [List.map_map]
  rfl

theorem tidy_infoTable : (infoTable mask record lines).Tidy :=
  DebugFunction.tidy_setFields Table.tidy_empty

theorem get_infoTable (field : InfoField) :
    (infoTable mask record lines).get field.key =
      (if mask.has field.letter then field.shown? record lines else none).getD .nil := by
  refine DebugFunction.get_setFields_of_mem ?_ ?_
  · rw [keys_entries]
    exact InfoField.nodup_keys
  · exact List.mem_map_of_mem field.mem_all

theorem mem_keys_infoTable (key : String) :
    key ∈ (infoTable mask record lines).keys ↔ ∃ field : InfoField, field.key = key ∧
      mask.has field.letter = true ∧ (field.shown? record lines).getD .nil ≠ .nil := by
  rw [tidy_infoTable mask record lines key]
  constructor
  · intro found
    by_cases member : key ∈ InfoField.all.map InfoField.key
    · obtain ⟨field, -, rfl⟩ := List.mem_map.mp member
      rw [get_infoTable] at found
      cases selected : mask.has field.letter with
      | false => simp [selected] at found
      | true => exact ⟨field, rfl, selected, by simpa [selected] using found⟩
    · rw [← keys_entries mask record lines] at member
      exact absurd (DebugFunction.get_setFields_of_notMem member) found
  · rintro ⟨field, rfl, selected, found⟩
    rw [get_infoTable, if_pos selected]
    exact found

theorem entries_infoTable :
    infoTable mask record lines = { entries := (infoTable mask record lines).entries } :=
  DebugFunction.entries_setFields

end InfoTable

/-! ### New tables -/

namespace Heap

def Adds (before after : Heap) (table : TableId) : Prop :=
  before.tables.size ≤ table.index ∧ table.index < after.tables.size

/-- Tables were added, and nothing else is different. -/
structure AddsTables (before after : Heap) : Prop where
  rest : after = { before with tables := after.tables }
  size : before.tables.size ≤ after.tables.size
  kept : ∀ id, id.index < before.tables.size → after.table id = before.table id

theorem AddsTables.refl (heap : Heap) : heap.AddsTables heap where
  rest := rfl
  size := Nat.le_refl _
  kept _ _ := rfl

theorem AddsTables.addTable {before after : Heap} (adds : before.AddsTables after)
    (object : Table) : before.AddsTables (after.addTable object).2 where
  rest := by
    change { after with tables := after.tables.add object } = _
    rw [adds.rest]
    rfl
  size := by
    change _ ≤ (after.tables.add object).size
    rw [Pool.size_add]
    exact Nat.le_succ_of_le adds.size
  kept := by
    intro id present
    rw [← adds.kept id present]
    exact Pool.get_add_of_lt (Nat.lt_of_lt_of_le present adds.size) object

theorem AddsTables.adds_addTable {before after : Heap} (adds : before.AddsTables after)
    (object : Table) : before.Adds (after.addTable object).2 (after.addTable object).1 := by
  refine ⟨adds.size, ?_⟩
  change after.tables.size < (after.tables.add object).size
  rw [Pool.size_add]
  exact Nat.lt_succ_self _

/-- A new table stays as it is when a further one is added. -/
theorem Adds.addTable {before after : Heap} {table : TableId} (new : before.Adds after table)
    (object : Table) : before.Adds (after.addTable object).2 table ∧
      table ≠ (after.addTable object).1 ∧
      (after.addTable object).2.table table = after.table table := by
  have added := (AddsTables.refl after).addTable object
  refine ⟨⟨new.1, Nat.lt_of_lt_of_le new.2 added.size⟩, ?_, added.kept table new.2⟩
  rintro rfl
  exact Nat.lt_irrefl _ new.2

end Heap

namespace DebugFunction

theorem recordFields_eq (mask : Mask) (record : Record) (lines : TableId) :
    infoTable mask record lines =
      setField? (recordFields mask (record.select mask)) "activelines"
        ((record.select mask).activeLines.map fun _ => .table lines) := by
  obtain ⟨source, currentLine, upvalues, name, function, activeLines, fromFunction⟩ := mask
  cases source <;> cases currentLine <;> cases upvalues <;> cases name <;> cases function <;>
    cases activeLines <;> rfl

/-- A table is added for the record, after one for its active lines where these are shown. -/
theorem recordTable_eq (heap : Heap) (mask : Mask) (record : Record) :
    ∃ lines before, heap.AddsTables before ∧
      recordTable heap mask (record.select mask) =
        before.addTable (infoTable mask record lines) ∧
      ∀ numbers, mask.activeLines = true → record.activeLines = some numbers →
        heap.Adds before lines ∧
        before.table lines = { sequence := numbers.map fun line => .number (.ofNat line) } := by
  unfold recordTable
  cases active : (record.select mask).activeLines with
  | none =>
      refine ⟨⟨0⟩, heap, .refl heap, ?_, ?_⟩
      · rw [recordFields_eq, active]
        rfl
      · intro numbers selected present
        rw [Record.select] at active
        dsimp only at active
        rw [selected, if_pos rfl, present] at active
        cases active
  | some numbers =>
      let shown : Table := { sequence := numbers.map fun line => .number (.ofNat line) }
      refine ⟨⟨heap.tables.size⟩, (heap.addTable shown).2,
        (Heap.AddsTables.refl heap).addTable shown, ?_, ?_⟩
      · rw [recordFields_eq, active]
        rfl
      · intro others selected present
        rw [Record.select] at active
        dsimp only at active
        rw [selected, if_pos rfl, present] at active
        cases active
        exact ⟨(Heap.AddsTables.refl heap).adds_addTable shown, Heap.table_addTable heap shown⟩

end DebugFunction

def Target.code? (context : Context) : Target → Option Code
  | .value (.function id) => some (context.heap.function id).code
  | .value _ => none
  | .level found => (context.levelFunction? found).map fun id => (context.heap.function id).code

/-- The target has something to show in the field. -/
def InfoField.Present (context : Context) (target : Target) : InfoField → Prop
  | name => ∃ level index, target = .level level ∧ level.slot = .active index ∧
      context.callerName? index ≠ none
  | function => ∀ level, target = .level level → level.slot ≠ .tailCall
  | activeLines => ∃ prototype, target.code? context = some (.script prototype)
  | _ => True

namespace DebugFunction

variable {context : Context}

/-- The targets that have a record, and what their full records are. -/
theorem resolve_all_cases {target : Target} {record : Record}
    (full : context.resolve .all target = .ok record) :
    (∃ id, target = .value (.function id) ∧
      record = .ofFunction context.heap .all id) ∨
    (∃ level index frame, target = .level level ∧ level.slot = .active index ∧
      context.frameAt? index = some frame ∧
      record = { Record.ofFunction context.heap .all frame.function with
        currentLine := frame.currentLine?
        name := (context.callerName? index).map ValueName.name
        nameKind := (context.callerName? index).map ValueName.kind }) ∨
    ∃ level, target = .level level ∧ level.slot = .tailCall ∧ record = .ofTailCall .all := by
  cases target with
  | value value =>
      cases value with
      | function id => exact .inl ⟨id, rfl, (Except.ok.inj full).symm⟩
      | _ => cases full
  | level level =>
      cases slot : level.slot with
      | active index =>
          cases present : context.frameAt? index with
          | some frame =>
              rw [Context.resolve_active slot present] at full
              exact .inr (.inl ⟨level, index, frame, rfl, slot, present,
                (Except.ok.inj full).symm⟩)
          | none =>
              rw [Context.resolve_stale slot present] at full
              cases full
      | tailCall =>
          rw [Context.resolve_tailCall slot] at full
          exact .inr (.inr ⟨level, rfl, slot, (Except.ok.inj full).symm⟩)

theorem lineValue_ne_nil (line : Option Nat) : lineValue line ≠ .nil := by
  cases line <;> exact Value.noConfusion

theorem code?_active {level : Level} {index : Nat} {frame : Frame}
    (active : level.slot = .active index) (present : context.frameAt? index = some frame) :
    (Target.level level).code? context = some (context.heap.function frame.function).code := by
  obtain ⟨number, slot⟩ := level
  subst active
  change ((context.frameAt? index).map Frame.function).map _ = _
  rw [present]
  rfl

theorem code?_tailCall {level : Level} (tail : level.slot = .tailCall) :
    (Target.level level).code? context = none := by
  obtain ⟨number, slot⟩ := level
  subst tail
  rfl

theorem activeLines_eq {target : Target} {record : Record}
    (full : context.resolve .all target = .ok record) :
    record.activeLines =
      (target.code? context).bind fun code => (Record.describeCode .all code).activeLines := by
  rcases resolve_all_cases full with ⟨id, rfl, rfl⟩ |
    ⟨level, index, frame, rfl, active, present, rfl⟩ | ⟨level, rfl, tail, rfl⟩
  · rfl
  · rw [code?_active active present]
    rfl
  · rw [code?_tailCall tail]
    rfl

theorem describeCode_source (code : Code) :
    ∃ kind source shortSource, (Record.describeCode .all code).kind = some kind ∧
      (Record.describeCode .all code).source = some source ∧
      (Record.describeCode .all code).shortSource = some shortSource := by
  cases code <;> exact ⟨_, _, _, rfl, rfl, rfl⟩

section Full

variable {target : Target} {record : Record} (full : context.resolve .all target = .ok record)
include full

/-- The fields that every target has. -/
theorem constant_fields : ∃ kind source shortSource count, record.kind = some kind ∧
    record.source = some source ∧ record.shortSource = some shortSource ∧
    record.upvalueCount = some count := by
  rcases resolve_all_cases full with ⟨id, rfl, rfl⟩ |
    ⟨level, index, frame, rfl, active, present, rfl⟩ | ⟨level, rfl, tail, rfl⟩
  · obtain ⟨kind, source, shortSource, known⟩ :=
      describeCode_source (context.heap.function id).code
    exact ⟨kind, source, shortSource, _, known.1, known.2.1, known.2.2, rfl⟩
  · obtain ⟨kind, source, shortSource, known⟩ :=
      describeCode_source (context.heap.function frame.function).code
    exact ⟨kind, source, shortSource, _, known.1, known.2.1, known.2.2, rfl⟩
  · exact ⟨_, _, _, _, rfl, rfl, rfl, rfl⟩

theorem name_iff_present : record.name ≠ none ↔ InfoField.name.Present context target := by
  rcases resolve_all_cases full with ⟨id, rfl, rfl⟩ |
    ⟨level, index, frame, rfl, active, present, rfl⟩ | ⟨level, rfl, tail, rfl⟩
  · have unnamed := (Record.describeCode_call .all (context.heap.function id).code).2.1
    refine iff_of_false (fun named => named unnamed) ?_
    rintro ⟨level, index, same, -⟩
    cases same
  · constructor
    · intro named
      exact ⟨level, index, rfl, active, mt Option.map_eq_none_iff.mpr named⟩
    · rintro ⟨level, other, same, elsewhere, named⟩
      cases same
      rw [active] at elsewhere
      cases elsewhere
      exact mt Option.map_eq_none_iff.mp named
  · refine iff_of_false (fun named => named rfl) ?_
    rintro ⟨level, index, same, active, -⟩
    cases same
    rw [tail] at active
    cases active

theorem function_iff_present : record.function.getD .nil ≠ .nil ↔
    InfoField.function.Present context target := by
  rcases resolve_all_cases full with ⟨id, rfl, rfl⟩ |
    ⟨level, index, frame, rfl, active, present, rfl⟩ | ⟨level, rfl, tail, rfl⟩
  · exact iff_of_true Value.noConfusion nofun
  · refine iff_of_true Value.noConfusion ?_
    intro level same tail
    cases same
    rw [active] at tail
    cases tail
  · exact iff_of_false (fun known => known rfl) fun known => known level rfl tail

theorem activeLines_iff_present : record.activeLines ≠ none ↔
    InfoField.activeLines.Present context target := by
  rw [activeLines_eq full]
  change _ ↔ ∃ prototype, target.code? context = some (.script prototype)
  cases target.code? context with
  | none => exact iff_of_false (fun known => known rfl) nofun
  | some code =>
      cases code with
      | script prototype => exact iff_of_true (Option.some_ne_none _) ⟨prototype, rfl⟩
      | host function => exact iff_of_false (fun known => known rfl) nofun

theorem shown?_iff_present (lines : TableId) (field : InfoField) :
    (field.shown? record lines).getD .nil ≠ .nil ↔ field.Present context target := by
  obtain ⟨kind, source, shortSource, count, kinds, sources, shortSources, counts⟩ :=
    constant_fields full
  cases field with
  | name =>
      rw [← name_iff_present full]
      unfold InfoField.shown?
      cases record.name with
      | none => exact iff_of_false (fun known => known rfl) fun known => known rfl
      | some name => exact iff_of_true Value.noConfusion (Option.some_ne_none _)
  | function =>
      rw [← function_iff_present full]
      rfl
  | activeLines =>
      rw [← activeLines_iff_present full]
      unfold InfoField.shown?
      cases record.activeLines with
      | none => exact iff_of_false (fun known => known rfl) fun known => known rfl
      | some numbers => exact iff_of_true Value.noConfusion (Option.some_ne_none _)
  | kind | source | shortSource | upvalueCount =>
      simp only [InfoField.shown?, kinds, sources, shortSources, counts]
      exact iff_of_true Value.noConfusion trivial
  | nameKind => exact iff_of_true Value.noConfusion trivial
  | lineDefined => exact iff_of_true (lineValue_ne_nil _) trivial
  | lastLineDefined => exact iff_of_true (lineValue_ne_nil _) trivial
  | currentLine => exact iff_of_true (lineValue_ne_nil _) trivial

end Full

end DebugFunction

end StackScope
