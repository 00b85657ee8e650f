import Guidebook.Proofs.Settings.Sizes
import Guidebook.Proofs.Toml.Reading

namespace Guidebook

/-!
# Shown settings are read back

Settings are written as lines under the names of the fields, and the lines are read
back as an overlay that says everything, whatever stands in the texts.  Only a size
that fits no signed word of sixty-four bits is not written.  Loaded settings have no
such size: what a file says was read as a word, and so was what a variable says.
-/

namespace Settings

theorem isWritable_iff {size : Nat} : isWritable size = true ↔ (size : Int) ≤ Numeral.wordGreatest := by
  rw [isWritable, decide_eq_true_eq]

/-- The text of the settings is written exactly if their sizes fit a word. -/
theorem toml_eq_ok_iff {settings : Settings} {text : String} :
    settings.toml = .ok text ↔
      settings.FitsWords ∧ text = String.ofList settings.characters := by
  have scanDepth : settings.scanDepth.all isWritable = true ↔ Fits settings.scanDepth := by
    rw [Option.all_eq_true]
    exact forall_congr' fun levels => imp_congr_right fun _ => isWritable_iff
  have fits : (isWritable settings.maxDepth && settings.scanDepth.all isWritable) = true ↔
      settings.FitsWords := by
    rw [Bool.and_eq_true, isWritable_iff, scanDepth]
    exact ⟨fun both => ⟨both.1, both.2⟩, fun both => ⟨both.maxDepth, both.scanDepth⟩⟩
  unfold toml toml?
  by_cases small : settings.FitsWords
  · rw [if_pos (fits.mpr small)]
    simp [small, eq_comm]
  · rw [if_neg (fun impossible => small (fits.mp impossible))]
    simp [small]

/-! ## Lines -/

/-- The lines of the settings: one for each field that is set. -/
def lines (settings : Settings) : List Toml.Line :=
  [⟨"format", Toml.writeText settings.format.name, .text settings.format.name⟩,
    ⟨"color", (toString settings.color).toList, .boolean settings.color⟩,
    ⟨"max_depth", (toString settings.maxDepth).toList, .integer settings.maxDepth⟩]
  ++ (settings.scanDepth.map fun levels =>
      ⟨"scan_depth", (toString levels).toList, .integer levels⟩).toList
  ++ [⟨"extensions", Toml.writeTexts settings.extensions, .list (settings.extensions.map .text)⟩]
  ++ (settings.guidebookDir.map fun dir =>
      ⟨"guidebook_dir", Toml.writeText dir, .text dir⟩).toList

theorem characters_eq_flatMap (settings : Settings) :
    settings.characters = settings.lines.flatMap Toml.Line.write := by
  rcases settings with ⟨format, color, maxDepth, scanDepth, extensions, guidebookDir⟩
  cases scanDepth <;> cases guidebookDir <;>
    simp [characters, lines, Toml.Line.write, writeSize]

/-- The names of the fields. -/
def keys : List String :=
  ["format", "color", "max_depth", "scan_depth", "extensions", "guidebook_dir"]

theorem nodup_keys_lines (settings : Settings) : (settings.lines.map Toml.Line.key).Nodup := by
  rcases settings with ⟨format, color, maxDepth, scanDepth, extensions, guidebookDir⟩
  cases scanDepth <;> cases guidebookDir <;> simp [lines]

theorem isReadable_of_mem_keys {key : String} (member : key ∈ keys) {characters : List Char}
    {value : Toml.Value} (reads : Toml.Reads Toml.nestingLimit characters value) :
    Toml.Line.IsReadable ⟨key, characters, value⟩ := by
  have bare : forall key, key ∈ keys ->
      key.toList ≠ [] ∧ key.toList.all Toml.isBare = true := by
    decide
  exact ⟨(bare key member).1, List.all_eq_true.mp (bare key member).2, reads⟩

theorem size_reads {size : Nat} (small : (size : Int) ≤ Numeral.wordGreatest) :
    Toml.Reads Toml.nestingLimit (toString size).toList (.integer size) :=
  Toml.integer_reads _ small

theorem isReadable_of_mem_lines {settings : Settings} (fits : settings.FitsWords) :
    forall line, line ∈ settings.lines -> line.IsReadable := by
  intro line member
  simp only [lines, List.mem_append, List.mem_cons, List.not_mem_nil, or_false, Option.mem_toList,
    Option.map_eq_some_iff] at member
  rcases member with (((rfl | rfl | rfl) | ⟨levels, set, rfl⟩) | rfl) | ⟨dir, set, rfl⟩
  · exact isReadable_of_mem_keys (by decide) (Toml.text_reads _ _)
  · exact isReadable_of_mem_keys (by decide) (Toml.boolean_reads _ _)
  · exact isReadable_of_mem_keys (by decide) (size_reads fits.maxDepth)
  · exact isReadable_of_mem_keys (by decide) (size_reads (fits.scanDepth levels set))
  · exact isReadable_of_mem_keys (by decide) (Toml.texts_reads _ _)
  · exact isReadable_of_mem_keys (by decide) (Toml.text_reads _ _)

/-! ## The overlay of the lines -/

/-- Settings as an overlay, which leaves out only what is not set. -/
def asOverlay (settings : Settings) : Overlay :=
  ⟨some settings.format, some settings.color, some settings.maxDepth, settings.scanDepth,
    some settings.extensions, settings.guidebookDir⟩

theorem replace_asOverlay (settings : Settings) : default.replace settings.asOverlay = settings := by
  rcases settings with ⟨format, color, maxDepth, scanDepth, extensions, guidebookDir⟩
  cases scanDepth <;> cases guidebookDir <;> rfl

theorem ofText_name (format : OutputFormat) : OutputFormat.ofText format.name = .ok format := by
  rw [OutputFormat.ofText, Environment.ofName?_eq_some_iff.mpr rfl]

theorem asSize_size (size : Nat) : (Toml.Value.integer size).asSize = .ok size := by
  rw [Toml.Value.asSize, if_pos (Int.natCast_nonneg size), Int.toNat_natCast]

theorem asTexts_texts (texts : List String) :
    (Toml.Value.list (texts.map .text)).asTexts = .ok texts := by
  rw [Toml.Value.asTexts]
  induction texts with
  | nil => rfl
  | cons first rest inductionHypothesis =>
      rw [List.map_cons, List.mapM_cons, inductionHypothesis]
      rfl

theorem ofEntries_lines (settings : Settings) :
    Overlay.ofEntries .empty (settings.lines.map fun line => (line.key, line.value)) =
      .ok settings.asOverlay := by
  rcases settings with ⟨format, color, maxDepth, scanDepth, extensions, guidebookDir⟩
  cases scanDepth <;> cases guidebookDir <;>
    simp [lines, Overlay.ofEntries, Overlay.setEntry, OutputFormat.ofToml, ofText_name, asSize_size,
      asTexts_texts, Toml.Value.asText, Toml.Value.asBoolean, Except.mapError, bind, Except.bind,
      pure, Except.pure, asOverlay, Overlay.empty]

/-- The lines of settings are read back as the overlay that says all of them. -/
theorem ofToml_characters {settings : Settings} (fits : settings.FitsWords) :
    Overlay.ofToml (String.ofList settings.characters) = .ok settings.asOverlay := by
  unfold Overlay.ofToml
  rw [characters_eq_flatMap, Toml.document_lines (isReadable_of_mem_lines fits)
    settings.nodup_keys_lines]
  exact settings.ofEntries_lines

/-- Settings whose sizes fit a word are written, and what is written is read as an overlay
that gives the settings back when it is laid over the default ones.  All loaded settings
are such settings. -/
theorem toml_reads_back :
    (forall settings : Settings, settings.FitsWords ->
      Exists fun text => Exists fun overlay =>
        settings.toml = .ok text ∧ Overlay.ofToml text = .ok overlay ∧
          default.replace overlay = settings) ∧
    forall environment storage folder settings,
      load environment storage folder = .ok settings ->
        settings.FitsWords ∧ Exists fun text => settings.toml = .ok text := by
  constructor
  · intro settings fits
    exact ⟨_, settings.asOverlay, toml_eq_ok_iff.mpr ⟨fits, rfl⟩, ofToml_characters fits,
      replace_asOverlay settings⟩
  · intro environment storage folder settings loaded
    have fits := fitsWords_of_load loaded
    exact ⟨fits, _, toml_eq_ok_iff.mpr ⟨fits, rfl⟩⟩

/-- Settings with the greatest size, and with quotes, a line break and control characters
in their texts. -/
def quotedSettings : Settings :=
  ⟨.json, false, 9223372036854775807, some 0, ["a\"b", "'\n\"\"\"", "!\x01\\"], some "~/'''\t\""⟩

theorem toml_reads_back_quoted :
    quotedSettings.FitsWords ∧
      (Exists fun text => Exists fun overlay =>
        quotedSettings.toml = .ok text ∧ Overlay.ofToml text = .ok overlay ∧
          default.replace overlay = quotedSettings) ∧
      load ⟨[], none⟩ (Storage.empty []) none = .ok default ∧ default.FitsWords := by
  have fits : quotedSettings.FitsWords := ⟨by decide, fits_some (by decide)⟩
  have loaded : load ⟨[], none⟩ (Storage.empty []) none = .ok default := by rfl
  exact ⟨fits, toml_reads_back.1 _ fits, loaded, (toml_reads_back.2 _ _ _ _ loaded).1⟩

end Settings
end Guidebook
