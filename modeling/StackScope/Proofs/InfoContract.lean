import StackScope.Proofs.InfoTable

/-!
What a script gets from `getinfo`. Options and subject are judged in this order. What passed is
answered with nil or with a new table. The options decide which of the target's fields the table
has, and only through the letters that occur in them.
-/

namespace StackScope

namespace DebugFunction

def OptionsRefused (arguments : List Value) : Prop :=
  ∃ value, Arguments.passed? arguments 2 = some value ∧ value.category ≠ .nil ∧
    value.category ≠ .text ∧ value.category ≠ .number

def optionText (arguments : List Value) : String :=
  match Arguments.passed? arguments 2 with
  | some (.text options) => options
  | some (.number number) => number.text
  | _ => Mask.defaultOptions

def SubjectRefused (subject : Value) : Prop :=
  subject.category ≠ .function ∧ ∀ number, subject = .number number → number.isIntegral = false

def subjectFault : Value → ArgumentFault
  | .number _ => .notAnInteger
  | other => .expected .functionOrNumber (some other.category)

/-- There is no such level, or the options do not apply. -/
def Undescribed (context : Context) (subject : Value) (options : String) : Prop :=
  ¬ Mask.Readable options ∨ ∃ number, subject = .number number ∧
    (number.toSignedWord < 0 ∨ context.levelCount ≤ number.toSignedWord ∨
      Mask.isMarked options = true)

def subjectTarget? (context : Context) : Value → Option Target
  | .function id => some (.value (.function id))
  | .number number => ((Arguments.count? number.toSignedWord).bind context.level?).map .level
  | _ => none

/-- The mask for some letters. A function is marked in any case, and a level never is. -/
def targetMask (letters : List Char) : Target → Mask
  | .value _ => Mask.withLetters { fromFunction := true } letters
  | .level _ => Mask.withLetters {} letters

/-- Options that can be read, and that are not marked where the target is a level. -/
def Applies (options : String) (target : Target) : Prop :=
  Mask.Readable options ∧ ∀ level, target = .level level → Mask.isMarked options = false

variable {context : Context} {arguments : List Value}

theorem textOr_of_refused (default : String) (refused : OptionsRefused arguments) :
    Arguments.textOr default arguments 2 =
      .error (.argument 2 none (.expected .text (some (Arguments.get arguments 2).category))) := by
  obtain ⟨value, passed, notNil, notText, notNumber⟩ := refused
  unfold Arguments.textOr Arguments.get
  rw [passed]
  cases value with
  | nil => exact absurd rfl notNil
  | text value => exact absurd rfl notText
  | number number => exact absurd rfl notNumber
  | _ => rfl

theorem textOr_of_not_refused (accepted : ¬ OptionsRefused arguments) :
    Arguments.textOr Mask.defaultOptions arguments 2 = .ok (optionText arguments) := by
  unfold Arguments.textOr optionText
  cases passed : Arguments.passed? arguments 2 with
  | none => rfl
  | some value =>
      cases value with
      | nil | text _ | number _ => rfl
      | _ =>
          refine absurd ⟨_, passed, ?_, ?_, ?_⟩ accepted
          · exact Category.noConfusion
          · exact Category.noConfusion
          · exact Category.noConfusion

theorem integer_of_get {number : Number} (given : Arguments.get arguments 1 = .number number) :
    Arguments.integer arguments 1 =
      if number.isIntegral then .ok number.toSignedWord
      else .error (.argument 1 none .notAnInteger) := by
  have passed : Arguments.passed? arguments 1 = some (.number number) := by
    unfold Arguments.get at given
    cases passed : Arguments.passed? arguments 1 with
    | none =>
        rw [passed] at given
        cases given
    | some value =>
        rw [passed] at given
        exact congrArg some given
  unfold Arguments.integer
  rw [passed]
  rfl

theorem infoTarget_of_refused (refused : SubjectRefused (Arguments.get arguments 1)) :
    infoTarget context arguments =
      .error (.argument 1 none (subjectFault (Arguments.get arguments 1))) := by
  obtain ⟨notFunction, notWhole⟩ := refused
  unfold infoTarget
  cases subject : Arguments.get arguments 1 with
  | function id =>
      rw [subject] at notFunction
      exact absurd rfl notFunction
  | number number =>
      dsimp only
      rw [integer_of_get subject, notWhole number subject]
      rfl
  | _ => rfl

theorem infoTarget_of_not_refused (accepted : ¬ SubjectRefused (Arguments.get arguments 1)) :
    infoTarget context arguments = .ok (subjectTarget? context (Arguments.get arguments 1)) := by
  unfold infoTarget
  cases subject : Arguments.get arguments 1 with
  | function id => rfl
  | number number =>
      have whole : number.isIntegral = true := by
        refine Bool.not_eq_false _ ▸ fun fractional => accepted ?_
        rw [subject]
        refine ⟨Category.noConfusion, ?_⟩
        intro other same
        cases same
        exact fractional
      dsimp only
      rw [integer_of_get subject, whole]
      rfl
  | _ =>
      rw [subject] at accepted
      exact absurd ⟨Category.noConfusion, nofun⟩ accepted

theorem subjectTarget?_number (number : Number) :
    subjectTarget? context (.number number) = none ↔
      number.toSignedWord < 0 ∨ context.levelCount ≤ number.toSignedWord := by
  change ((Arguments.count? number.toSignedWord).bind context.level?).map Target.level = none ↔ _
  rw [Option.map_eq_none_iff]
  unfold Arguments.count?
  by_cases nonnegative : 0 ≤ number.toSignedWord
  · rw [if_pos nonnegative, Option.bind_some, Context.level?_eq_none_iff]
    omega
  · rw [if_neg nonnegative]
    exact ⟨fun _ => .inl (Int.not_le.mp nonnegative), fun _ => rfl⟩

/-- A level that is found has a record. -/
theorem resolve_of_level? {number : Nat} {level : Level}
    (found : context.level? number = some level) :
    ∃ record, context.resolve .all (.level level) = .ok record := by
  cases slot : level.slot with
  | tailCall => exact ⟨.ofTailCall .all, Context.resolve_tailCall slot⟩
  | active index =>
      have inside := Context.contains_of_level? found index slot
      obtain ⟨frame, present⟩ := Context.exists_frameAt? inside
      exact ⟨_, Context.resolve_active slot present⟩

theorem resolve_of_subjectTarget? {subject : Value} {target : Target}
    (found : subjectTarget? context subject = some target) :
    ∃ record, context.resolve .all target = .ok record := by
  cases subject with
  | function id =>
      cases found
      exact ⟨_, rfl⟩
  | number number =>
      obtain ⟨level, counted, rfl⟩ := Option.map_eq_some_iff.mp found
      obtain ⟨number, -, inside⟩ := Option.bind_eq_some_iff.mp counted
      exact resolve_of_level? inside
  | _ => cases found

/-! ### Options for a target -/

theorem letters_infoOptions (options : String) (target : Target) :
    Mask.letters (infoOptions options target) = Mask.letters options := by
  cases target with
  | level level => rfl
  | value value =>
      change Mask.letters (functionOptions options) = _
      unfold functionOptions
      by_cases marked : options.toList.head? = some '>'
      · rw [if_pos marked]
      · rw [if_neg marked]
        unfold Mask.letters
        rw [String.toList_append]
        change options.toList = _
        split
        · rename_i rest first
          rw [first] at marked
          exact absurd rfl marked
        · rfl

theorem isMarked_functionOptions (options : String) :
    Mask.isMarked (functionOptions options) = true := by
  unfold functionOptions Mask.isMarked
  by_cases marked : options.toList.head? = some '>'
  · rw [if_pos marked, marked]
    rfl
  · rw [if_neg marked, String.toList_append]
    rfl

theorem parse_infoOptions {options : String} {target : Target} (applies : Applies options target) :
    Mask.parse (infoOptions options target) =
      .ok (targetMask (Mask.letters options) target) := by
  obtain ⟨readable, unmarked⟩ := applies
  have still : Mask.Readable (infoOptions options target) := by
    unfold Mask.Readable
    rw [letters_infoOptions]
    exact readable
  rw [Mask.parse_of_readable still, letters_infoOptions]
  cases target with
  | value value =>
      change Except.ok (Mask.withLetters
        { fromFunction := Mask.isMarked (functionOptions options) } _) = _
      rw [isMarked_functionOptions]
      rfl
  | level level =>
      change Except.ok (Mask.withLetters { fromFunction := Mask.isMarked options } _) = _
      rw [unmarked level rfl]
      rfl

theorem resolve_targetMask (letters : List Char) (target : Target) :
    context.resolve (targetMask letters target) target =
      (context.resolve .all target).map (Record.select (targetMask letters target)) := by
  cases target with
  | value value => exact Context.resolve_value_select _ value
  | level level => exact Context.resolve_select rfl (.level level)

theorem describe_of_applies {options : String} {target : Target} {record : Record}
    (applies : Applies options target) (full : context.resolve .all target = .ok record) :
    describe context options target =
      .ok (targetMask (Mask.letters options) target,
        record.select (targetMask (Mask.letters options) target)) := by
  unfold describe
  rw [parse_infoOptions applies]
  change (context.resolve _ target >>= _) = _
  rw [resolve_targetMask, full]
  rfl

theorem describe_of_not_applies {options : String} {target : Target}
    (other : ¬ Applies options target) :
    ∃ fault, describe context options target = .error fault := by
  unfold describe
  by_cases readable : Mask.Readable (infoOptions options target)
  · rw [Mask.parse_of_readable readable]
    unfold Mask.Readable at readable
    rw [letters_infoOptions] at readable
    cases target with
    | value value => exact absurd ⟨readable, nofun⟩ other
    | level level =>
        have marked : Mask.isMarked options = true := by
          refine Bool.not_eq_false _ ▸ fun unmarked => other ⟨readable, ?_⟩
          intro _ _
          exact unmarked
        refine ⟨.invalidOption '>', ?_⟩
        change (context.resolve (Mask.withLetters { fromFunction := Mask.isMarked options } _)
          (.level level) >>= _) = _
        rw [marked]
        rfl
  · obtain ⟨letter, refused⟩ := Mask.parse_of_not_readable readable
    rw [refused]
    exact ⟨.invalidOption letter, rfl⟩

def ListsLines (prototype : Prototype) (object : Table) : Prop :=
  ∃ numbers : List Nat, object = { sequence := numbers.map fun line => .number (.ofNat line) } ∧
    numbers.Pairwise (· < ·) ∧ ∀ line, line ∈ numbers ↔ line ∈ prototype.lines

/-- New tables show the fields that some letters select of a target. -/
structure Describes (context later : Context) (letters : List Char) (target : Target)
    (record : Record) (table : TableId) : Prop where
  rest : later = { context with heap := later.heap }
  added : context.heap.AddsTables later.heap
  fresh : context.heap.Adds later.heap table
  plain : later.heap.table table = { entries := (later.heap.table table).entries }
  keys : ∀ key, key ∈ (later.heap.table table).keys ↔
    ∃ field : InfoField, field.key = key ∧ field.letter ∈ letters ∧ field.Present context target
  values : ∃ lines, ∀ field : InfoField, field.letter ∈ letters →
    (later.heap.table table).get field.key = (field.shown? record lines).getD .nil
  lines : 'L' ∈ letters → ∀ prototype, target.code? context = some (.script prototype) →
    ∃ lines, (later.heap.table table).get "activelines" = .table lines ∧
      context.heap.Adds later.heap lines ∧ lines ≠ table ∧
      ListsLines prototype (later.heap.table lines)

theorem has_targetMask {letter : Char} (known : letter ∈ Mask.knownLetters) (letters : List Char)
    (target : Target) : (targetMask letters target).has letter = decide (letter ∈ letters) := by
  cases target with
  | value value => exact Mask.has_withLetters known true letters
  | level level => exact Mask.has_withLetters known false letters

def described (context : Context) (letters : List Char) (target : Target) (record : Record) :
    Outcome (List Value) :=
  let mask := targetMask letters target
  let (table, heap) := recordTable context.heap mask (record.select mask)
  (.ok [.table table], { context with heap })

theorem targetMask_congr {letters others : List Char}
    (same : ∀ letter, letter ∈ letters ↔ letter ∈ others) (target : Target) :
    targetMask letters target = targetMask others target := by
  cases target with
  | value value => exact Mask.withLetters_congr _ same
  | level level => exact Mask.withLetters_congr _ same

section Described

variable {target : Target} {record : Record} {letters : List Char}

theorem get_targetTable (record : Record) (lines : TableId) {field : InfoField}
    (member : field.letter ∈ letters) :
    (infoTable (targetMask letters target) record lines).get field.key =
      (field.shown? record lines).getD .nil := by
  rw [get_infoTable, has_targetMask field.letter_known, decide_eq_true member, if_pos rfl]

theorem mem_keys_targetTable (full : context.resolve .all target = .ok record) (lines : TableId)
    (key : String) :
    key ∈ (infoTable (targetMask letters target) record lines).keys ↔
      ∃ field : InfoField, field.key = key ∧ field.letter ∈ letters ∧
        field.Present context target := by
  rw [mem_keys_infoTable]
  simp only [has_targetMask (InfoField.letter_known _), decide_eq_true_iff,
    shown?_iff_present full]

theorem activeLines_of_script (full : context.resolve .all target = .ok record)
    {prototype : Prototype} (script : target.code? context = some (.script prototype)) :
    record.activeLines = some (distinctLines prototype.lines) := by
  rw [activeLines_eq full, script]
  rfl

theorem described_describes (full : context.resolve .all target = .ok record)
    (letters : List Char) :
    ∃ table later, described context letters target record = (.ok [.table table], later) ∧
      Describes context later letters target record table := by
  obtain ⟨lines, before, adds, made, active⟩ :=
    recordTable_eq context.heap (targetMask letters target) record
  unfold described
  dsimp only
  rw [made]
  refine ⟨_, _, rfl, ?_⟩
  have held : (before.addTable (infoTable (targetMask letters target) record lines)).2.table
      (before.addTable (infoTable (targetMask letters target) record lines)).1 =
        infoTable (targetMask letters target) record lines := Heap.table_addTable before _
  constructor
  · rfl
  · exact adds.addTable _
  · exact adds.adds_addTable _
  · dsimp only
    rw [held]
    exact entries_infoTable _ record lines
  · dsimp only
    rw [held]
    exact mem_keys_targetTable full lines
  · refine ⟨lines, ?_⟩
    dsimp only
    rw [held]
    exact fun field => get_targetTable record lines
  · intro selected prototype script
    have mask : (targetMask letters target).activeLines = true := by
      have chosen : (targetMask letters target).has 'L' = decide ('L' ∈ letters) :=
        has_targetMask (by decide) letters target
      exact chosen.trans (decide_eq_true selected)
    have known := activeLines_of_script full script
    obtain ⟨new, content⟩ := active _ mask known
    obtain ⟨later, other, kept⟩ :=
      new.addTable (infoTable (targetMask letters target) record lines)
    refine ⟨lines, ?_, later, other, distinctLines prototype.lines, kept.trans content, ?_, ?_⟩
    · have shown : (infoTable (targetMask letters target) record lines).get
          InfoField.activeLines.key =
            (InfoField.activeLines.shown? record lines).getD .nil :=
        get_targetTable record lines selected
      unfold InfoField.shown? at shown
      rw [known] at shown
      dsimp only
      rw [held]
      exact shown
    · exact pairwise_distinctLines prototype.lines
    · exact fun line => mem_distinctLines

end Described

/-! ### Checks and answer together -/

theorem infoQuery_eq (options : ¬ OptionsRefused arguments)
    (subject : ¬ SubjectRefused (Arguments.get arguments 1)) :
    infoQuery context arguments =
      .ok (optionText arguments, subjectTarget? context (Arguments.get arguments 1)) := by
  unfold infoQuery
  rw [textOr_of_not_refused options, infoTarget_of_not_refused subject]
  rfl

theorem runGetInfo_of_options (refused : OptionsRefused arguments) :
    runGetInfo arguments context =
      (.error (.argument 2 none (.expected .text (some (Arguments.get arguments 2).category))),
        context) := by
  have asked : infoQuery context arguments =
      .error (.argument 2 none (.expected .text (some (Arguments.get arguments 2).category))) := by
    unfold infoQuery
    rw [textOr_of_refused Mask.defaultOptions refused]
    rfl
  unfold runGetInfo
  rw [asked]

theorem runGetInfo_of_subject (options : ¬ OptionsRefused arguments)
    (refused : SubjectRefused (Arguments.get arguments 1)) :
    runGetInfo arguments context =
      (.error (.argument 1 none (subjectFault (Arguments.get arguments 1))), context) := by
  have asked : infoQuery context arguments =
      .error (.argument 1 none (subjectFault (Arguments.get arguments 1))) := by
    unfold infoQuery
    rw [textOr_of_not_refused options, infoTarget_of_refused refused]
    rfl
  unfold runGetInfo
  rw [asked]

theorem runGetInfo_of_applies (options : ¬ OptionsRefused arguments)
    (subject : ¬ SubjectRefused (Arguments.get arguments 1)) {target : Target} {record : Record}
    (found : subjectTarget? context (Arguments.get arguments 1) = some target)
    (full : context.resolve .all target = .ok record)
    (applies : Applies (optionText arguments) target) :
    runGetInfo arguments context =
      described context (Mask.letters (optionText arguments)) target record := by
  unfold runGetInfo
  rw [infoQuery_eq options subject, found]
  dsimp only
  rw [describe_of_applies applies full]
  rfl

theorem runGetInfo_of_not_applies (options : ¬ OptionsRefused arguments)
    (subject : ¬ SubjectRefused (Arguments.get arguments 1))
    (nothing : ¬ ∃ target, subjectTarget? context (Arguments.get arguments 1) = some target ∧
      Applies (optionText arguments) target) :
    runGetInfo arguments context = (.ok [.nil], context) := by
  unfold runGetInfo
  rw [infoQuery_eq options subject]
  cases found : subjectTarget? context (Arguments.get arguments 1) with
  | none => rfl
  | some target =>
      have other : ¬ Applies (optionText arguments) target := fun applies =>
        nothing ⟨target, found, applies⟩
      obtain ⟨fault, refused⟩ : ∃ fault, describe context (optionText arguments) target =
          .error fault := describe_of_not_applies other
      dsimp only
      rw [refused]

theorem undescribed_iff {subject : Value} (accepted : ¬ SubjectRefused subject)
    (options : String) : Undescribed context subject options ↔
      ¬ ∃ target, subjectTarget? context subject = some target ∧ Applies options target := by
  cases subject with
  | function id =>
      constructor
      · rintro (unreadable | ⟨number, same, -⟩) ⟨target, -, applies⟩
        · exact unreadable applies.1
        · cases same
      · intro nothing
        exact .inl fun readable => nothing ⟨_, rfl, readable, nofun⟩
  | number number =>
      have missing : subjectTarget? context (.number number) = none ↔ _ :=
        subjectTarget?_number number
      constructor
      · rintro (unreadable | ⟨other, same, outside⟩) ⟨target, found, applies⟩
        · exact unreadable applies.1
        · cases same
          obtain ⟨level, -, rfl⟩ := Option.map_eq_some_iff.mp found
          rcases outside with negative | beyond | marked
          · rw [missing.mpr (.inl negative)] at found
            cases found
          · rw [missing.mpr (.inr beyond)] at found
            cases found
          · rw [applies.2 level rfl] at marked
            cases marked
      · intro nothing
        by_cases readable : Mask.Readable options
        · refine .inr ⟨number, rfl, ?_⟩
          cases found : subjectTarget? context (.number number) with
          | none =>
              rcases missing.mp found with negative | beyond
              · exact .inl negative
              · exact .inr (.inl beyond)
          | some target =>
              refine .inr (.inr ?_)
              refine Bool.not_eq_false _ ▸ fun unmarked => nothing ⟨target, found, readable, ?_⟩
              intro _ _
              exact unmarked
        · exact .inl readable
  | _ => exact absurd ⟨Category.noConfusion, nofun⟩ accepted

theorem runGetInfo_of_described (options : ¬ OptionsRefused arguments)
    (subject : ¬ SubjectRefused (Arguments.get arguments 1))
    (something : ¬ Undescribed context (Arguments.get arguments 1) (optionText arguments)) :
    ∃ target record table later,
      subjectTarget? context (Arguments.get arguments 1) = some target ∧
      context.resolve .all target = .ok record ∧
      runGetInfo arguments context = (.ok [.table table], later) ∧
      Describes context later (Mask.letters (optionText arguments)) target record table := by
  rw [undescribed_iff subject, Classical.not_not] at something
  obtain ⟨target, found, applies⟩ := something
  obtain ⟨record, full⟩ := resolve_of_subjectTarget? found
  obtain ⟨table, later, answer, describes⟩ :=
    described_describes full (Mask.letters (optionText arguments))
  refine ⟨target, record, table, later, found, full, ?_, describes⟩
  rw [runGetInfo_of_applies options subject found full applies]
  exact answer

theorem runGetInfo_nothing_iff (options : ¬ OptionsRefused arguments)
    (subject : ¬ SubjectRefused (Arguments.get arguments 1)) :
    runGetInfo arguments context = (.ok [.nil], context) ↔
      Undescribed context (Arguments.get arguments 1) (optionText arguments) := by
  constructor
  · intro answered
    refine Classical.byContradiction fun something => ?_
    obtain ⟨target, record, table, later, -, -, answer, -⟩ :=
      runGetInfo_of_described options subject something
    rw [answered] at answer
    cases answer
  · intro undescribed
    exact runGetInfo_of_not_applies options subject ((undescribed_iff subject _).mp undescribed)

theorem runGetInfo_refuses_iff :
    (∃ fault, (runGetInfo arguments context).1 = .error fault) ↔
      OptionsRefused arguments ∨ SubjectRefused (Arguments.get arguments 1) := by
  by_cases options : OptionsRefused arguments
  · exact iff_of_true ⟨_, congrArg Prod.fst (runGetInfo_of_options options)⟩ (.inl options)
  · by_cases subject : SubjectRefused (Arguments.get arguments 1)
    · have failed : runGetInfo arguments context = _ := runGetInfo_of_subject options subject
      exact iff_of_true ⟨_, congrArg Prod.fst failed⟩ (.inr subject)
    · refine iff_of_false ?_ (not_or.mpr ⟨options, subject⟩)
      rintro ⟨fault, failed⟩
      by_cases nothing : Undescribed context (Arguments.get arguments 1) (optionText arguments)
      · rw [(runGetInfo_nothing_iff options subject).mpr nothing] at failed
        cases failed
      · obtain ⟨target, record, table, later, -, -, answer, -⟩ :=
          runGetInfo_of_described options subject nothing
        rw [answer] at failed
        cases failed

section Letters

variable {subject : Value} {options others : String}
  (letters : ∀ letter, letter ∈ Mask.letters others ↔ letter ∈ Mask.letters options)
include letters

theorem described_congr (target : Target) (record : Record) :
    described context (Mask.letters others) target record =
      described context (Mask.letters options) target record := by
  unfold described
  rw [targetMask_congr letters]

theorem applies_congr
    (mark : subject.category = .function ∨ Mask.isMarked others = Mask.isMarked options)
    {target : Target} (found : subjectTarget? context subject = some target) :
    Applies others target ↔ Applies options target := by
  have readable : Mask.Readable others ↔ Mask.Readable options := by
    unfold Mask.Readable
    simp only [letters]
  refine and_congr readable (forall_congr' fun level => forall_congr' fun same => ?_)
  subst same
  rcases mark with function | marked
  · cases subject with
    | function id => cases found
    | _ => cases function
  · rw [marked]

end Letters

/-- The answer depends on the letters that occur in the options, and on a mark in front of them only
where the subject is a level. -/
theorem runGetInfo_congr {others : List Value} (options : ¬ OptionsRefused arguments)
    (otherOptions : ¬ OptionsRefused others)
    (subject : Arguments.get others 1 = Arguments.get arguments 1)
    (letters : ∀ letter, letter ∈ Mask.letters (optionText others) ↔
      letter ∈ Mask.letters (optionText arguments))
    (mark : (Arguments.get arguments 1).category = .function ∨
      Mask.isMarked (optionText others) = Mask.isMarked (optionText arguments)) :
    runGetInfo others context = runGetInfo arguments context := by
  by_cases refused : SubjectRefused (Arguments.get arguments 1)
  · rw [runGetInfo_of_subject options refused, ← subject]
    rw [← subject] at refused
    exact runGetInfo_of_subject otherOptions refused
  · have accepted : ¬ SubjectRefused (Arguments.get others 1) := by
      rw [subject]
      exact refused
    by_cases something : ∃ target,
        subjectTarget? context (Arguments.get arguments 1) = some target ∧
        Applies (optionText arguments) target
    · obtain ⟨target, found, applies⟩ := something
      obtain ⟨record, full⟩ := resolve_of_subjectTarget? found
      have otherApplies := (applies_congr letters mark found).mpr applies
      rw [runGetInfo_of_applies options refused found full applies, ← described_congr letters]
      rw [← subject] at found
      exact runGetInfo_of_applies otherOptions accepted found full otherApplies
    · rw [runGetInfo_of_not_applies options refused something]
      refine runGetInfo_of_not_applies otherOptions accepted ?_
      rintro ⟨target, found, applies⟩
      rw [subject] at found
      exact something ⟨target, found, (applies_congr letters mark found).mp applies⟩

end DebugFunction

section MapError

variable {α : Type} {outcome : Outcome α} {rename : Fault → Fault}

theorem mapError_eq_error_iff :
    (∃ fault, outcome.1.mapError rename = .error fault) ↔ ∃ fault, outcome.1 = .error fault := by
  obtain ⟨answer, later⟩ := outcome
  cases answer with
  | error fault => exact iff_of_true ⟨_, rfl⟩ ⟨_, rfl⟩
  | ok results => exact iff_of_false nofun nofun

theorem mapError_eq_ok_iff {results : α} {context : Context} :
    (outcome.1.mapError rename, outcome.2) = (.ok results, context) ↔
      outcome = (.ok results, context) := by
  obtain ⟨answer, later⟩ := outcome
  cases answer with
  | error fault => exact iff_of_false nofun nofun
  | ok given => rfl

end MapError

open DebugFunction in
/-- What a call of `getinfo` with some arguments does. -/
structure InfoContract (context : Context) (id : FunctionId) (arguments : List Value) : Prop where
  refuses : (∃ fault, (context.callHost id arguments).1 = .error fault) ↔
    OptionsRefused arguments ∨ SubjectRefused (Arguments.get arguments 1)
  /-- Options are judged first. -/
  options : OptionsRefused arguments → context.callHost id arguments =
    (.error (.argument 2 (some "getinfo")
      (.expected .text (some (Arguments.get arguments 2).category))), context)
  subject : ¬ OptionsRefused arguments → SubjectRefused (Arguments.get arguments 1) →
    context.callHost id arguments =
      (.error (.argument 1 (some "getinfo") (subjectFault (Arguments.get arguments 1))), context)
  nothing : ¬ OptionsRefused arguments → ¬ SubjectRefused (Arguments.get arguments 1) →
    (context.callHost id arguments = (.ok [.nil], context) ↔
      Undescribed context (Arguments.get arguments 1) (optionText arguments))
  table : ¬ OptionsRefused arguments → ¬ SubjectRefused (Arguments.get arguments 1) →
    ¬ Undescribed context (Arguments.get arguments 1) (optionText arguments) →
    ∃ target record table later,
      subjectTarget? context (Arguments.get arguments 1) = some target ∧
      context.resolve .all target = .ok record ∧
      context.callHost id arguments = (.ok [.table table], later) ∧
      Describes context later (Mask.letters (optionText arguments)) target record table
  /-- Neither the order of letters nor their repetition matters, nor a mark before a function's. -/
  letters : ∀ others, ¬ OptionsRefused arguments → ¬ OptionsRefused others →
    Arguments.get others 1 = Arguments.get arguments 1 →
    (∀ letter, letter ∈ Mask.letters (optionText others) ↔
      letter ∈ Mask.letters (optionText arguments)) →
    ((Arguments.get arguments 1).category = .function ∨
      Mask.isMarked (optionText others) = Mask.isMarked (optionText arguments)) →
    context.callHost id others = context.callHost id arguments
  /-- Numbers that exceed a word exceed the levels as well. -/
  wholeLevel : context.levelCount < Number.signWeight → ∀ number : Number,
    (number.toSignedWord < 0 ∨ context.levelCount ≤ number.toSignedWord ↔
      number.truncate < 0 ∨ context.levelCount ≤ number.truncate)

open DebugFunction in
/-- Below the limit on nested calls, `getinfo` refuses arguments of other kinds, answers nil where
there is nothing to describe, and otherwise answers a new table with the fields that the option
letters select and the target has. -/
theorem getInfo_contract {context : Context} (reachable : context.Reachable)
    (room : context.depth < context.config.maxCallDepth) {id : FunctionId}
    (registered : context.Registered .getInfo id) (arguments : List Value) :
    InfoContract context id arguments := by
  have called : ∀ arguments, context.callHost id arguments =
      ((runGetInfo arguments context).1.mapError (Fault.inFunction "getinfo"),
        (runGetInfo arguments context).2) := fun arguments =>
    Context.callHost_registered reachable room registered arguments
  constructor
  · rw [called]
    exact mapError_eq_error_iff.trans runGetInfo_refuses_iff
  · intro refused
    rw [called, runGetInfo_of_options refused]
    rfl
  · intro accepted refused
    rw [called, runGetInfo_of_subject accepted refused]
    rfl
  · intro accepted whole
    rw [called]
    exact mapError_eq_ok_iff.trans (runGetInfo_nothing_iff accepted whole)
  · intro accepted whole something
    obtain ⟨target, record, table, later, found, full, answer, describes⟩ :=
      runGetInfo_of_described accepted whole something
    refine ⟨target, record, table, later, found, full, ?_, describes⟩
    rw [called]
    exact mapError_eq_ok_iff.mpr answer
  · intro others accepted otherAccepted same sameLetters mark
    rw [called, called, runGetInfo_congr accepted otherAccepted same sameLetters mark]
  · intro few number
    unfold Number.toSignedWord
    omega

/-- Name and lines of level zero with letters in two orders, a level that does not exist, options
that cannot be read, and a table as options. -/
theorem getInfo_contract_sample :
    visitCaller.Reachable ∧ visitCaller.depth < visitCaller.config.maxCallDepth ∧
    visitCaller.Registered .getInfo ⟨3⟩ ∧
    (∃ target record table later,
      visitCaller.callHost ⟨3⟩ [.number ⟨0⟩, .text "nL"] = (.ok [.table table], later) ∧
      visitCaller.callHost ⟨3⟩ [.number ⟨0⟩, .text "LnLn"] = (.ok [.table table], later) ∧
      DebugFunction.Describes visitCaller later ['n', 'L'] target record table ∧
      "name" ∈ (later.heap.table table).keys ∧ "func" ∉ (later.heap.table table).keys) ∧
    visitCaller.callHost ⟨3⟩ [.number ⟨0x4000000000000000⟩] = (.ok [.nil], visitCaller) ∧
    visitCaller.callHost ⟨3⟩ [.function ⟨1⟩, .text "Sx"] = (.ok [.nil], visitCaller) ∧
    visitCaller.callHost ⟨3⟩ [.function ⟨1⟩, .table ⟨0⟩] =
      (.error (.argument 2 (some "getinfo") (.expected .text (some .table))), visitCaller) := by
  have reachable : visitCaller.Reachable :=
    .call _ _ (.setPosition 1 (.call _ _ (.openDebug (.create visitHeap {}))))
  have room : visitCaller.depth < visitCaller.config.maxCallDepth := by decide
  have registered : visitCaller.Registered .getInfo ⟨3⟩ := rfl
  have contract := getInfo_contract reachable room registered
  have levels : visitCaller.levelCount = 2 := by decide +kernel
  have textOptions : ∀ subject options,
      ¬ DebugFunction.OptionsRefused [subject, .text options] := by
    rintro subject options ⟨value, passed, -, notText, -⟩
    cases passed
    exact notText rfl
  have function : ¬ DebugFunction.SubjectRefused (.function ⟨1⟩) := fun refused => refused.1 rfl
  refine ⟨reachable, room, registered, ?_, ?_, ?_, ?_⟩
  · have zero : (⟨0⟩ : Number).toSignedWord = 0 := by decide +kernel
    have whole : ¬ DebugFunction.SubjectRefused (.number ⟨0⟩) := by
      rintro ⟨-, fractional⟩
      have integral : (⟨0⟩ : Number).isIntegral = true := by decide +kernel
      rw [fractional ⟨0⟩ rfl] at integral
      cases integral
    have letters : Mask.letters "nL" = ['n', 'L'] := by decide +kernel
    have others : Mask.letters "LnLn" = ['L', 'n', 'L', 'n'] := by decide +kernel
    have something : ¬ DebugFunction.Undescribed visitCaller (.number ⟨0⟩) "nL" := by
      rintro (unreadable | ⟨number, same, outside⟩)
      · refine unreadable ?_
        unfold Mask.Readable
        rw [letters]
        simp [Mask.knownLetters]
      · cases same
        have unmarked : Mask.isMarked "nL" = false := by decide +kernel
        rw [zero, levels, unmarked] at outside
        revert outside
        decide
    have innermost : DebugFunction.subjectTarget? visitCaller (.number ⟨0⟩) =
        some (.level ⟨0, .active 1⟩) := by decide +kernel
    have named : visitCaller.callerName? 1 ≠ none := by decide +kernel
    obtain ⟨target, record, table, later, found, -, answer, describes⟩ :=
      (contract [.number ⟨0⟩, .text "nL"]).table (textOptions _ _) whole something
    cases innermost.symm.trans found
    have same : visitCaller.callHost ⟨3⟩ [.number ⟨0⟩, .text "LnLn"] =
        visitCaller.callHost ⟨3⟩ [.number ⟨0⟩, .text "nL"] := by
      refine (contract [.number ⟨0⟩, .text "nL"]).letters _ (textOptions _ _) (textOptions _ _)
        rfl ?_ (.inr (by decide +kernel))
      intro letter
      change letter ∈ Mask.letters "LnLn" ↔ letter ∈ Mask.letters "nL"
      rw [letters, others]
      grind
    change DebugFunction.Describes _ later (Mask.letters "nL") _ record table at describes
    rw [letters] at describes
    refine ⟨_, record, table, later, answer, same.trans answer, describes, ?_, ?_⟩
    · exact (describes.keys "name").mpr ⟨.name, rfl, by decide, _, 1, rfl, rfl, named⟩
    · intro present
      obtain ⟨field, key, letter, -⟩ := (describes.keys "func").mp present
      revert key letter
      cases field <;> decide
  · have two : (⟨0x4000000000000000⟩ : Number).toSignedWord = 2 := by decide +kernel
    have whole : ¬ DebugFunction.SubjectRefused (.number ⟨0x4000000000000000⟩) := by
      rintro ⟨-, fractional⟩
      have integral : (⟨0x4000000000000000⟩ : Number).isIntegral = true := by decide +kernel
      rw [fractional _ rfl] at integral
      cases integral
    refine ((contract [.number ⟨0x4000000000000000⟩]).nothing nofun whole).mpr ?_
    refine .inr ⟨_, rfl, .inr (.inl ?_)⟩
    rw [two, levels]
    decide
  · refine ((contract [.function ⟨1⟩, .text "Sx"]).nothing (textOptions _ _) function).mpr ?_
    refine .inl fun readable => ?_
    have known : 'x' ∈ Mask.knownLetters := readable 'x' (by decide +kernel)
    revert known
    decide
  · refine (contract [.function ⟨1⟩, .table ⟨0⟩]).options ⟨.table ⟨0⟩, rfl, ?_, ?_, ?_⟩
    · decide
    · decide
    · decide

end StackScope
