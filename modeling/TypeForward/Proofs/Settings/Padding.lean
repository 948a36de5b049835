import TypeForward.Proofs.Settings.Preset
import TypeForward.Proofs.Settings.Provenance
import TypeForward.Proofs.Settings.Reordering
import TypeForward.Proofs.Text.Letters

/-! White space around the text of a variable for a flag. Of the two readers of flags the first trims and the second
does not, so white space makes a difference around the words that only the second knows, and around no others. -/
namespace TypeForward

namespace Environment
open Entries

/-- Whether a variable can be set does not depend on the others. -/
private theorem assign_cases (name value : String) :
    (∃ fault, ∀ env, assign env name value = .error fault) ∨
      ∀ env, assign env name value = .ok (put name value env) := by
  unfold assign
  split
  · exact .inl ⟨_, fun _ => rfl⟩
  · split
    · exact .inl ⟨_, fun _ => rfl⟩
    · exact .inr fun _ => rfl

/-- Environments that differ in the text of one variable for a field. -/
inductive Reworded (f : Field) (text text' : String) : Environment → Environment → Prop where
  | here {name : String} (own : settingOf? name = some f.name) (rest : Environment) :
      Reworded f text text' ((name, text) :: rest) ((name, text') :: rest)
  | there (entry : String × String) {env env' : Environment} (later : Reworded f text text' env env') :
      Reworded f text text' (entry :: env) (entry :: env')

namespace Reworded

variable {f : Field} {text text' : String} {env env' : Environment}

theorem append (reworded : Reworded f text text' env env') (more : Environment) :
    Reworded f text text' (env ++ more) (env' ++ more) := by
  induction reworded with
  | here own rest => exact .here own (rest ++ more)
  | there entry _ ih => exact .there entry ih

private theorem keys_eq (reworded : Reworded f text text' env env') : keys env' = keys env := by
  induction reworded with
  | here => rfl
  | there entry _ ih => exact congrArg (entry.1 :: ·) ih

/-- Variables that are not for the field are the same. -/
private theorem get?_eq (reworded : Reworded f text text' env env') {name : String}
    (other : settingOf? name ≠ some f.name) : get? name env' = get? name env := by
  induction reworded with
  | @here changed own rest =>
    have unlike : changed ≠ name := by
      rintro rfl
      exact other own
    rw [get?, get?, if_neg unlike, if_neg unlike]
  | there entry _ ih => rw [get?, get?, ih]

private theorem last?_eq (reworded : Reworded f text text' env env') {g : Field} (other : g ≠ f) :
    last? (settingOf? · = some g.name) env' = last? (settingOf? · = some g.name) env := by
  induction reworded with
  | here own rest =>
    have unlike : f.name ≠ g.name := Field.name_ne (Ne.symm other)
    simp [last?_cons, own, unlike]
  | there entry _ ih => rw [last?_cons, last?_cons, ih]

/-- The text that counts for the field is the same, or it is the one that was changed. -/
private theorem last?_own (reworded : Reworded f text text' env env') :
    last? (settingOf? · = some f.name) env' = last? (settingOf? · = some f.name) env ∨
      last? (settingOf? · = some f.name) env = some text ∧ last? (settingOf? · = some f.name) env' = some text' := by
  induction reworded with
  | here own rest =>
    rw [last?_cons, last?_cons]
    cases last? (settingOf? · = some f.name) rest with
    | some later => exact .inl rfl
    | none => exact .inr (by simp [own])
  | there entry _ ih =>
    rw [last?_cons, last?_cons]
    rcases ih with same | ⟨before, after⟩
    · exact .inl (by rw [same])
    · exact .inr (by rw [before, after]; exact ⟨rfl, rfl⟩)

/-- The settings in the environment have the same names in the same order. -/
theorem keys_settings (reworded : Reworded f text text' env env') : keys env'.settings.1 = keys env.settings.1 := by
  have named (env : Environment) : keys (env.filterMap settingFor?) =
      (keys env).filterMap fun name => (settingOf? name).filter fun setting => (Field.ofName? setting).isSome := by
    rw [keys, keys, List.map_filterMap, List.filterMap_map]
    refine List.filterMap_congr fun entry _ => ?_
    rw [settingFor?, Function.comp_apply]
    cases settingOf? entry.1 with
    | none => rfl
    | some setting => cases found : Field.ofName? setting <;> simp [Option.filter, found]
  rw [settings_eq, settings_eq]
  refine keys_putAll_congr ?_ rfl
  rw [named, named, reworded.keys_eq]

/-- The same presets are set behind both, or the same preset cannot be set. -/
theorem preset (reworded : Reworded f text text' env env') (entries : List (String × Option String)) :
    (EnvFile.preset entries env').1 = (EnvFile.preset entries env).1 ∧
      Reworded f text text' (EnvFile.preset entries env).2 (EnvFile.preset entries env').2 := by
  induction entries generalizing env env' with
  | nil => exact ⟨rfl, reworded⟩
  | cons entry rest ih =>
    obtain ⟨name, given⟩ := entry
    have known : name ∈ keys env' ↔ name ∈ keys env := by rw [reworded.keys_eq]
    cases given with
    | none => exact ih reworded
    | some value =>
      by_cases set : name ∈ keys env
      · obtain ⟨old, found⟩ := Option.isSome_iff_exists.mp (get?_isSome_iff.mpr set)
        obtain ⟨old', found'⟩ := Option.isSome_iff_exists.mp (get?_isSome_iff.mpr (known.mpr set))
        simp only [EnvFile.preset, found, found']
        exact ih reworded
      · have unset := get?_eq_none_iff.mpr set
        have unset' := get?_eq_none_iff.mpr (mt known.mp set)
        simp only [EnvFile.preset, unset, unset']
        rcases assign_cases name value with ⟨fault, refused⟩ | assigned
        · rw [refused, refused]
          exact ⟨rfl, reworded⟩
        · rw [assigned, assigned, put_of_not_mem set, put_of_not_mem (mt known.mp set)]
          exact ih (reworded.append [(name, value)])

end Reworded

end Environment

namespace Settings
open Entries

namespace Sources

/-- The same sources with another environment. -/
def withEnvironment (s : Sources) (env : Environment) : Sources :=
  { s with environment := env }

variable {s : Sources} {f : Field} {text text' : String} {env' : Environment}

section Reworded

variable (reworded : Environment.Reworded f text text' s.environment env')
include reworded

private theorem winner_reworded_of_ne {g : Field} (other : g ≠ f) : (s.withEnvironment env').winner g = s.winner g := by
  rw [winner, winner, given?, given?, withEnvironment, reworded.last?_eq other]

/-- What wins for the field is the same, or it is what the variable means. -/
private theorem winner_reworded :
    (s.withEnvironment env').winner f = s.winner f ∨
      f.name ∉ keys s.overrides ∧ last? (Environment.settingOf? · = some f.name) env' = some text' ∧
        s.winner f = (Environment.valueFor f text, .environment f.name) ∧
        (s.withEnvironment env').winner f = (Environment.valueFor f text', .environment f.name) := by
  rcases reworded.last?_own with same | ⟨before, after⟩
  · exact .inl (by rw [winner, winner, given?, given?, withEnvironment, same])
  · rw [← last?_key_eq_none_iff]
    unfold winner given? withEnvironment
    cases last? (· = f.name) s.overrides with
    | some v => exact .inl rfl
    | none =>
      refine .inr ⟨rfl, after, ?_, ?_⟩
      · rw [before]
        rfl
      · rw [after]
        rfl

private theorem provenance_reworded (g : Field) : ((s.withEnvironment env').winner g).2 = (s.winner g).2 := by
  by_cases own : g = f
  · obtain rfl := own
    rcases winner_reworded reworded with same | ⟨-, -, before, after⟩
    · rw [same]
    · rw [before, after]
  · rw [winner_reworded_of_ne reworded own]

/-- The text makes no difference where the check of the field answers the same. -/
theorem resolve_reworded
    (same : validField f ((s.withEnvironment env').winner f).1 = validField f (s.winner f).1) :
    (s.withEnvironment env').layers.resolve = s.layers.resolve := by
  have fields (g : Field) :
      validSetting (s.withEnvironment env').layers.settings g = validSetting s.layers.settings g := by
    rw [validSetting_eq, validSetting_eq]
    by_cases own : g = f
    · obtain rfl := own
      exact same
    · rw [winner_reworded_of_ne reworded own]
  have unknown : firstUnknown? (s.withEnvironment env').layers.settings = firstUnknown? s.layers.settings := by
    have named (settings : List (String × Value)) :
        firstUnknown? settings = (keys settings).find? fun key => (Field.ofName? key).isNone := by
      rw [firstUnknown?, keys, List.find?_map]
      rfl
    have merged : keys (s.withEnvironment env').layers.merged = keys s.layers.merged :=
      keys_overlay_congr rfl (keys_overlay_congr reworded.keys_settings rfl)
    rw [named, named, keys_settings, keys_settings, merged]
  rw [Layers.resolve, Layers.resolve, validate_congr fields unknown]

end Reworded

end Sources

/-- Text with white space put around it. -/
def Pads (text padded : String) : Prop :=
  ∃ before after, Text.Blank before ∧ Text.Blank after ∧ padded.toList = before ++ text.toList ++ after

/-- The words that only the second reader knows. -/
def shortWords : List String := ["t", "y", "f", "n"]

variable {text padded : String}

private theorem Pads.trim_eq (pads : Pads text padded) : Text.trim padded = Text.trim text := by
  obtain ⟨before, after, blank, blank', split⟩ := pads
  rw [Text.trim, split, Text.trimmed_padded blank blank', Text.trim]

/-- What is trimmed has no white space put around it. -/
private theorem Pads.eq_of_trim (pads : Pads text padded) (trimmed : Text.trim padded = padded) : padded = text := by
  have same : Text.trimmed text.toList = padded.toList := by rw [← Text.toList_trim, ← pads.trim_eq, trimmed]
  have short := Text.length_trimmed_le text.toList
  obtain ⟨before, after, -, -, split⟩ := pads
  rw [same, split, List.length_append, List.length_append] at short
  obtain rfl : before = [] := List.length_eq_zero_iff.mp (by omega)
  obtain rfl : after = [] := List.length_eq_zero_iff.mp (by omega)
  rw [List.nil_append, List.append_nil] at split
  exact String.toList_inj.mp split

/-- No word for a flag has white space in it. -/
private theorem trim_of_flagWord (word : Text.lower text ∈ flagTrue ++ flagFalse) : Text.trim text = text := by
  have solid : ∀ word ∈ flagTrue ++ flagFalse, word.toList.any Text.isBlank = false := by decide
  have own : (text.toList.map Char.toLower).any Text.isBlank = false := by
    rw [← Text.toList_lower]
    exact solid _ word
  rw [Text.trim, Text.trimmed_of_solid (Text.solid_of_map_toLower own), String.ofList_toList]

private theorem flagOfWord_of_not_mem (other : Text.lower text ∉ flagTrue ++ flagFalse) :
    flagOfWord text = .error .unreadableFlag := by
  rw [List.mem_append, not_or] at other
  simp [flagOfWord, other]

theorem Pads.refused (pads : Pads text padded) (other : padded ≠ text) :
    flagOfWord padded = .error .unreadableFlag := by
  apply flagOfWord_of_not_mem
  intro word
  exact other (pads.eq_of_trim (trim_of_flagWord word))

/-- White space around a text makes no difference, except for the words that only the second reader knows. -/
private theorem Pads.validFlag_eq (pads : Pads text padded) (fine : padded = text ∨ Text.lower text ∉ shortWords) :
    validFlag (coerceFlag padded) = validFlag (coerceFlag text) := by
  have known : ∀ word ∈ flagTrue ++ flagFalse, trueWords.contains word = true ∨ falseWords.contains word = true ∨
      word ∈ shortWords := by decide
  by_cases same : padded = text
  · rw [same]
  · rw [coerceFlag, coerceFlag, pads.trim_eq]
    split
    · rfl
    · next noTrue =>
      split
      · rfl
      · next noFalse =>
        -- The second reader refuses the padded text. It takes the other only if that is one of its own words.
        refine (pads.refused same).trans (flagOfWord_of_not_mem ?_).symm
        intro word
        rw [trim_of_flagWord word] at noTrue noFalse
        rcases known _ word with h | h | h
        · exact noTrue h
        · exact noFalse h
        · exact fine.resolve_left same h

/-- With white space around it, such a word is not read. -/
private theorem Pads.validFlag_short (pads : Pads text padded) (other : padded ≠ text)
    (short : Text.lower text ∈ shortWords) : validFlag (coerceFlag padded) = .error .unreadableFlag := by
  have unknown : ∀ word ∈ shortWords, trueWords.contains word = false ∧ falseWords.contains word = false ∧
      word ∈ flagTrue ++ flagFalse := by decide
  obtain ⟨noTrue, noFalse, word⟩ := unknown _ short
  rw [coerceFlag, pads.trim_eq, trim_of_flagWord word, noTrue, noFalse]
  exact pads.refused other

/-- The text of the variable is the one that counts for the flag, and it is a word that only the second reader knows,
with white space put around it. -/
structure Spoils (env : Environment) (overrides : List (String × Value)) (f : Flag) (text padded : String) : Prop where
  short : Text.lower text ∈ shortWords
  changed : padded ≠ text
  counts : last? (Environment.settingOf? · = some f.name) env = some padded
  free : f.name ∉ keys overrides

namespace Sources

variable {s : Sources} {f : Flag} {env' : Environment}
  (reworded : Environment.Reworded (.flag f) text padded s.environment env') (pads : Pads text padded)
include reworded pads

private theorem resolve_of_not_spoils (fine : ¬ Spoils env' s.overrides f text padded) :
    (s.withEnvironment env').layers.resolve = s.layers.resolve := by
  apply resolve_reworded reworded
  rcases winner_reworded reworded with same | ⟨free, counts, before, after⟩
  · rw [same]
  · have harmless : padded = text ∨ Text.lower text ∉ shortWords := by
      by_cases changed : padded = text
      · exact .inl changed
      · exact .inr fun short => fine ⟨short, changed, counts, free⟩
    rw [before, after]
    simp only [validField, Environment.valueFor, pads.validFlag_eq harmless]

private theorem resolve_of_spoils (spoils : Spoils env' s.overrides f text padded) (acceptable : s.Acceptable) :
    (s.withEnvironment env').layers.resolve = .error (complain f.name none .unreadableFlag) := by
  have wins : (s.withEnvironment env').winner (.flag f) = (coerceFlag padded, .environment f.name) := by
    have unset : last? (· = (Field.flag f).name) s.overrides = none := last?_key_eq_none_iff.mpr spoils.free
    have counts : last? (Environment.settingOf? · = some (Field.flag f).name) env' = some padded := spoils.counts
    unfold winner given? withEnvironment
    rw [unset, counts]
    rfl
  have refused : validField (.flag f) ((s.withEnvironment env').winner (.flag f)).1 =
      .error (complain f.name none .unreadableFlag) := by
    rw [wins, validField, pads.validFlag_short spoils.changed spoils.short]
    rfl
  apply resolve_of_refused refused
  intro g other
  rw [winner_reworded_of_ne reworded other]
  exact acceptable.valid g

end Sources

end Settings

namespace Workspace
open Settings Entries

/-- The same workspace with another environment. -/
def withEnvironment (w : Workspace) (env : Environment) : Workspace :=
  { w with environment := env }

/-- The file of presets, if it is still to be read, presets the same in either environment. -/
def HasSamePresets (w : Workspace) (env' : Environment) : Prop :=
  w.isPreset = false → ∀ content, presetText w.disk = .ok content →
    EnvFile.presets content env' = EnvFile.presets content w.environment

section Reworded

variable {w : Workspace} {f : Field} {text text' : String} {env' : Environment}

private theorem load_reworded (reworded : Environment.Reworded f text text' w.environment env')
    (fixed : w.HasSamePresets env') (unread : w.isPreset = false) :
    (w.withEnvironment env').load.1 = w.load.1 ∧
      Environment.Reworded f text text' w.load.2 (w.withEnvironment env').load.2 := by
  unfold load withEnvironment
  cases read : presetText w.disk with
  | error fault => exact ⟨rfl, reworded⟩
  | ok content =>
    dsimp only
    rw [fixed unread content read]
    exact reworded.preset _

/-- Behind the presets nothing else differs either. -/
private theorem preset_reworded (reworded : Environment.Reworded f text text' w.environment env')
    (fixed : w.HasSamePresets env') :
    ∃ env, (w.withEnvironment env').preset = (w.preset.1, w.preset.2.withEnvironment env) ∧
      Environment.Reworded f text text' w.preset.2.environment env := by
  rcases Bool.eq_false_or_eq_true w.isPreset with read | read
  · have read' : (w.withEnvironment env').isPreset = true := read
    rw [preset_of_isPreset read, preset_of_isPreset read']
    exact ⟨env', rfl, reworded⟩
  · have read' : (w.withEnvironment env').isPreset = false := read
    obtain ⟨same, behind⟩ := load_reworded reworded fixed read
    rw [preset_of_not read, preset_of_not read', same]
    exact ⟨_, rfl, behind⟩

private theorem projectPath_reworded (reworded : Environment.Reworded f text text' w.environment env') :
    (w.withEnvironment env').projectPath = w.projectPath :=
  projectPath_congr (reworded.get?_eq (settingOf?_projectFileVariable f))

private theorem sources_reworded (reworded : Environment.Reworded f text text' w.environment env')
    (table overrides : List (String × Value)) :
    (w.withEnvironment env').sources table overrides = (w.sources table overrides).withEnvironment env' := by
  rw [sources, projectPath_reworded reworded]
  rfl

/-- Behind the presets the same project file is loaded, and the provenance is the same. -/
theorem resolve_reworded {v : Workspace} (preset : w.preset = (.ok (), v.withEnvironment env'))
    (reworded : Environment.Reworded f text text' v.environment env') (overrides : List (String × Value)) :
    (w.resolve overrides).1 = (Project.tableAt v.disk v.projectPath).bind fun table =>
      ((v.sources table overrides).withEnvironment env').layers.resolve.map fun o =>
        ⟨o, fun g => ((v.sources table overrides).winner g).2⟩ := by
  have same (table : List (String × Value)) (g : Field) :
      (((v.sources table overrides).withEnvironment env').winner g).2 = ((v.sources table overrides).winner g).2 :=
    Sources.provenance_reworded (s := v.sources table overrides) reworded g
  rw [resolve_eq_tableAt preset, projectPath_reworded reworded]
  simp only [sources_reworded reworded, same]
  rfl

end Reworded

/-- White space put around the text of a variable for a flag, where the presets stay the same. Resolution comes to the
same, options, provenance or fault, unless the text is one of four short words and it counts. Then what was resolved
without the white space is refused with it, for that flag. -/
theorem resolve_padded (w : Workspace) (env' : Environment) (overrides : List (String × Value)) (f : Flag)
    (text padded : String) (reworded : Environment.Reworded (.flag f) text padded w.environment env')
    (pads : Pads text padded) (fixed : w.HasSamePresets env') :
    let w' := w.withEnvironment env'
    (¬ Spoils w'.preset.2.environment overrides f text padded → (w'.resolve overrides).1 = (w.resolve overrides).1) ∧
      (Spoils w'.preset.2.environment overrides f text padded → ∀ r, (w.resolve overrides).1 = .ok r →
        (w'.resolve overrides).1 = .error (complain f.name none .unreadableFlag)) := by
  intro w'
  obtain ⟨env, preset', behind⟩ := preset_reworded reworded fixed
  rw [show w'.preset = _ from preset']
  rcases preset : w.preset with ⟨fault | ⟨⟩, v⟩
  · rw [preset] at preset'
    have failed : (w.resolve overrides).1 = .error fault := resolve_of_error (congrArg Prod.fst preset)
    have failed' : (w'.resolve overrides).1 = .error fault := resolve_of_error (congrArg Prod.fst preset')
    refine ⟨fun _ => failed'.trans failed.symm, ?_⟩
    intro _ r resolved
    cases failed.symm.trans resolved
  · rw [preset] at preset' behind
    have resolved := resolve_eq_tableAt preset overrides
    have resolved' := resolve_reworded preset' behind overrides
    cases loads : Project.tableAt v.disk v.projectPath with
    | error fault =>
      rw [loads] at resolved resolved'
      refine ⟨fun _ => resolved'.trans resolved.symm, ?_⟩
      intro _ r found
      cases resolved.symm.trans found
    | ok table =>
      rw [loads] at resolved resolved'
      constructor
      · intro fine
        have same := Sources.resolve_of_not_spoils (s := v.sources table overrides) behind pads fine
        rw [resolved', Except.bind, same]
        exact resolved.symm
      · intro spoils r found
        have accepted := resolved.symm.trans found
        -- What was resolved had winners that all pass, and for the other fields these still do.
        rcases (v.sources table overrides).resolve_cases with ⟨acceptable, -⟩ | ⟨-, cause, failed⟩
        · have refused := Sources.resolve_of_spoils (s := v.sources table overrides) behind pads spoils acceptable
          rw [resolved', Except.bind, refused]
          rfl
        · rw [Except.bind, failed] at accepted
          cases accepted

/-- A variable for one of the flags. -/
def accessibilityVariable : String := "FORWARDGEN_USE_PUBLIC_ACCESSIBILITY_FOR_GENERATED_TYPES"

/-- Only that variable is set, and presets are still to be read. There is no file of them. -/
def accessible (text : String) : Workspace :=
  ⟨[(accessibilityVariable, text)], .fresh, false⟩

private theorem settingOf?_accessibilityVariable :
    Environment.settingOf? accessibilityVariable = some (Field.flag .publicTypes).name := by decide

private theorem preset_accessible (text : String) :
    (accessible text).preset = (.ok (), alone accessibilityVariable text) := by
  rfl

private theorem hasSamePresets_accessible (text : String) (env : Environment) :
    (accessible text).HasSamePresets env := by
  intro _ content read
  have absent : presetText (accessible text).disk = .ok "" := by rfl
  obtain rfl : "" = content := Except.ok.inj (absent.symm.trans read)
  rfl

private theorem resolve_accessible (text : String) :
    ((accessible text).resolve []).1 = ((alone accessibilityVariable text).sources [] []).layers.resolve.map fun o =>
      ⟨o, fun f => (((alone accessibilityVariable text).sources [] []).winner f).2⟩ :=
  resolve_eq_layers (preset_accessible text) (tableAt_alone settingOf?_accessibilityVariable) []

private theorem resolve_accessible_ok (text : String)
    (built : ((alone accessibilityVariable text).sources [] []).layers.resolve = .ok ⟨false, true, [], []⟩) :
    ∃ r, ((accessible text).resolve []).1 = .ok r ∧ r.options.publicTypes = true := by
  have resolved := resolve_accessible text
  rw [built] at resolved
  exact ⟨_, resolved, rfl⟩

/-- A word that the first reader knows may have white space around it, one that only the second knows may not. -/
theorem resolve_padded_words :
    (∃ r, ((accessible " Yes\n").resolve []).1 = .ok r ∧ r.options.publicTypes = true) ∧
      ((accessible "\tT").resolve []).1 = .error (complain Flag.publicTypes.name none .unreadableFlag) := by
  obtain ⟨r, resolved, raised⟩ := resolve_accessible_ok "Yes" rfl
  obtain ⟨r', resolved', -⟩ := resolve_accessible_ok "T" rfl
  have pads : Pads "Yes" " Yes\n" := ⟨[' '], ['\n'], by decide, by decide, by decide⟩
  have pads' : Pads "T" "\tT" := ⟨['\t'], [], by decide, by decide, by decide⟩
  obtain ⟨same, -⟩ := (accessible "Yes").resolve_padded _ [] .publicTypes "Yes" " Yes\n"
    (.here settingOf?_accessibilityVariable []) pads (hasSamePresets_accessible _ _)
  obtain ⟨-, refused⟩ := (accessible "T").resolve_padded _ [] .publicTypes "T" "\tT"
    (.here settingOf?_accessibilityVariable []) pads' (hasSamePresets_accessible _ _)
  constructor
  · have other : Text.lower "Yes" ∉ shortWords := by decide
    exact ⟨r, (same fun spoils => other spoils.short).trans resolved, raised⟩
  · refine refused ⟨by decide, by decide, ?_, by decide⟩ r' resolved'
    rfl

/-- The same letter, accepted alone and refused with a space on either side. -/
theorem unlike_with_spaces :
    (∃ r, ((accessible "t").resolve []).1 = .ok r ∧ r.options.publicTypes = true) ∧
      ((accessible " t ").resolve []).1 = .error (complain Flag.publicTypes.name none .unreadableFlag) ∧
      ¬ ∀ text padded, Pads text padded →
        ((∃ r, ((accessible padded).resolve []).1 = .ok r) ↔ ∃ r, ((accessible text).resolve []).1 = .ok r) := by
  have accepted := resolve_accessible_ok "t" rfl
  have refused : ((accessible " t ").resolve []).1 =
      .error (complain Flag.publicTypes.name none .unreadableFlag) := by
    rw [resolve_accessible]
    rfl
  refine ⟨accepted, refused, ?_⟩
  intro alike
  obtain ⟨r, resolved, -⟩ := accepted
  obtain ⟨r', resolved'⟩ := (alike "t" " t " ⟨[' '], [' '], by decide, by decide, by decide⟩).mpr ⟨r, resolved⟩
  cases refused.symm.trans resolved'

end Workspace

end TypeForward
