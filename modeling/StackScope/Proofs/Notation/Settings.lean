import StackScope.Config.Text
import StackScope.Proofs.Notation.Reading
import StackScope.Word

/-!
Settings that are written and read again. The library that writes and reads texts is a parameter,
and what is relied on is what it documents: how values are laid out, and the grammar of the texts
that it reads. The layout of settings is in the grammar, whatever characters the placeholder for
host functions has and however large the limits are, and only the checks that follow reading can
refuse what was written.
-/

namespace StackScope

namespace Config

def InWords (config : Config) : Prop :=
  config.maxCallDepth < Word.size64 ∧ ∀ limit ∈ config.tracebackLimit, limit < Word.size64

instance (config : Config) : Decidable config.InWords := inferInstanceAs (Decidable (_ ∧ _))

/-- What a library documents of data that do not nest too deeply: it writes settings in the usual
layout, and it reads every text that spells all fields of settings as these. -/
structure Documented (codec : Ron.Codec Config) : Prop where
  writes : ∀ config, config.InWords → Ron.nesting config.entries ≤ Ron.depthLimit →
    codec.toText config = .ok (Ron.layout config.entries)
  reads : ∀ config, config.InWords → Ron.nesting config.entries ≤ Ron.depthLimit →
    ∀ text, Ron.Spelled config.entries text → codec.ofText text = .ok config

/-- The first check of the limits that fails, the depth of calls being looked at first. -/
inductive FirstFailing (config : Config) : ConfigFault → Prop
  | callDepth (zero : config.maxCallDepth = 0) : FirstFailing config .noCallDepth
  | tracebackLines (positive : 0 < config.maxCallDepth) (zero : config.tracebackLimit = some 0) :
      FirstFailing config .noTracebackLines

theorem validate_eq_error {config : Config} {fault : ConfigFault} :
    config.validate = .error fault ↔ config.FirstFailing fault := by
  constructor
  · intro failed
    unfold validate at failed
    split at failed
    case isTrue zero =>
      cases failed
      exact .callDepth zero
    case isFalse positive =>
      split at failed
      case isTrue zero =>
        cases failed
        exact .tracebackLines (Nat.pos_of_ne_zero positive) zero
      case isFalse => cases failed
  · intro failing
    unfold validate
    cases failing with
    | callDepth zero => rw [if_pos zero]
    | tracebackLines positive zero => rw [if_neg (Nat.ne_of_gt positive), if_pos zero]

theorem reads_policy {policy : MainChunkPolicy} {written : List Char}
    (spelled : (Ron.Item.name (policyText policy)).Spelled written) :
    Ron.Reads 2 policyReader written policy := by
  cases spelled
  cases policy with
  | expose => exact Ron.reads_variant (by decide) rfl
  | hide => exact Ron.reads_variant (by decide) rfl

theorem reads_count {depth count : Nat} (fits : count < Word.size64) {digits : List Char}
    (spelled : (Ron.Item.count count).Spelled digits) :
    Ron.Reads depth countReader digits count :=
  Ron.reads_natural (Nat.le_of_lt_succ fits) spelled

/-- From an empty draft, each field fills in its part. -/
theorem fills_entries {config : Config} (words : config.InWords) :
    Ron.Fills 2 fields {} config.entries
      { mainChunk := some config.mainChunk, hostPlaceholder := some config.hostPlaceholder,
        tracebackLimit := some config.tracebackLimit,
        maxCallDepth := some config.maxCallDepth } := by
  have limit {written : List Char}
      (spelled : (Ron.Item.ofCount? config.tracebackLimit).Spelled written) :
      Ron.Reads 2 (Ron.optional countReader) written config.tracebackLimit :=
    Ron.reads_optional spelled fun count member _ => reads_count (words.2 count member)
  refine .further (by decide) rfl (fun _ spelled => (reads_policy spelled).field rfl) ?_
  refine .further (by decide) rfl (fun _ spelled => (Ron.reads_text spelled).field rfl) ?_
  refine .further (by decide) rfl (fun _ spelled => (limit spelled).field rfl) ?_
  refine .further (by decide) rfl (fun _ spelled => (reads_count words.1 spelled).field rfl) ?_
  exact .nothing _

theorem standardCodec_documented : Documented standardCodec where
  writes := fun _ _ _ => rfl
  reads := by
    rintro config words - _ ⟨spelled, leads, trails⟩
    have record := ((fills_entries words).readsAll spelled).record "DebugConfig"
    have whole := (record.map Draft.finish).document (by decide) (by simp) leads trails
    simp only [List.cons_append, List.append_assoc, List.nil_append] at whole
    have found : Ron.document reader _ = some config := whole
    simp only [standardCodec, found]

example : toRon standardCodec { hostPlaceholder := "\"\n\u0301'", tracebackLimit := some 5 } =
    .ok ("(\n    main_chunk: Expose,\n    native_placeholder: \"\\\"\\n\\u\x7b301\x7d\\'\",\n" ++
      "    traceback_limit: Some(5),\n    max_call_depth: 200,\n)") := by
  decide +kernel

/-- Settings have a text. Accepted ones are read back from it as they were, and of rejected ones the
reader tells the first check that fails. -/
structure SurvivesWriting (codec : Ron.Codec Config) (config : Config) (text : String) : Prop where
  written : config.toRon codec = .ok text
  accepted : config.validate = .ok () → fromRon codec text = .ok config
  rejected : ∀ fault, config.validate = .error fault →
    config.FirstFailing fault ∧ fromRon codec text = .error fault

/-- Settings are flat, but for the mark of a limit that is there. -/
theorem nesting_entries (config : Config) : Ron.nesting config.entries ≤ Ron.depthLimit := by
  cases limit : config.tracebackLimit with
  | none => simp [entries, limit, Ron.Item.ofCount?, Ron.nesting, Ron.Item.nesting, Ron.depthLimit]
  | some count =>
      simp [entries, limit, Ron.Item.ofCount?, Ron.nesting, Ron.Item.nesting, Ron.depthLimit]

theorem toRon_layout {codec : Ron.Codec Config} (documented : Documented codec) {config : Config}
    (words : config.InWords) : config.toRon codec = .ok (Ron.layout config.entries) := by
  unfold toRon
  rw [documented.writes config words config.nesting_entries]
  rfl

/-- The layout of settings is one of the spellings that a library reads as them. -/
theorem fromRon_layout {codec : Ron.Codec Config} (documented : Documented codec) {config : Config}
    (words : config.InWords) :
    fromRon codec (Ron.layout config.entries) = config.validate.map fun _ => config := by
  have spelled := Ron.spelled_layout config.entries
  unfold fromRon
  rw [documented.reads config words config.nesting_entries _ spelled]
  rfl

theorem settings_survive_writing {codec : Ron.Codec Config} (documented : Documented codec)
    {config : Config} (words : config.InWords) : ∃ text, SurvivesWriting codec config text := by
  have read := fromRon_layout documented words
  refine ⟨_, toRon_layout documented words, fun valid => ?_, fun fault failed => ?_⟩
  · rw [read, valid]
    rfl
  · rw [read, failed]
    exact ⟨validate_eq_error.mp failed, rfl⟩

def oddSettings : Config :=
  { mainChunk := .hide, hostPlaceholder := "\"[C]\\'\x00\n\u0301é",
    tracebackLimit := some 1, maxCallDepth := 0xffffffffffffffff }

def zeroSettings : Config := { oddSettings with tracebackLimit := some 0, maxCallDepth := 0 }

theorem settings_survive_writing_odd :
    Documented standardCodec ∧
    (oddSettings.InWords ∧ oddSettings.validate = .ok () ∧
      ∃ text, oddSettings.toRon standardCodec = .ok text ∧
        fromRon standardCodec text = .ok oddSettings) ∧
    (zeroSettings.InWords ∧ zeroSettings.validate = .error .noCallDepth ∧
      ∃ text, zeroSettings.toRon standardCodec = .ok text ∧
        fromRon standardCodec text = .error .noCallDepth) := by
  have documented := standardCodec_documented
  have words : oddSettings.InWords := by decide
  have valid : oddSettings.validate = .ok () := by rfl
  obtain ⟨text, kept⟩ := settings_survive_writing documented words
  have zeros : zeroSettings.InWords := by decide
  have failed : zeroSettings.validate = .error .noCallDepth := by rfl
  obtain ⟨zeroText, told⟩ := settings_survive_writing documented zeros
  exact ⟨documented, ⟨words, valid, text, kept.written, kept.accepted valid⟩, zeros, failed,
    zeroText, told.written, (told.rejected _ failed).2⟩

end Config

end StackScope
