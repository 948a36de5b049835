import TypeForward.Proofs.Settings.Agreement
import TypeForward.Proofs.Settings.Provenance

/-! Options written to the environment and read back: each field in its own variable, flags as words and lists of names
joined by separators. What is read are the same options, whatever a project file sets under them. -/
namespace TypeForward

namespace Settings

/-- White space does not separate names. -/
private theorem isSeparator_of_isBlank {c : Char} (blank : Text.isBlank c = true) : isSeparator c = false := by
  by_cases separates : isSeparator c = true
  · have signs : c = ';' ∨ c = ',' := by simpa [isSeparator] using separates
    have none : Text.isBlank c = false := by rcases signs with rfl | rfl <;> decide
    rw [blank] at none
    cases none
  · simpa using separates

/-- A separator cuts a text of names in two. -/
theorem nameChars_append_separator (front : List Char) {c : Char} (cuts : isSeparator c = true) (back : List Char) :
    nameChars (front ++ c :: back) = nameChars front ++ nameChars back := by
  rw [nameChars, Text.pieces_append_separator front cuts, List.map_append, List.filter_append]
  rfl

/-- White space before the first name is no part of it. -/
theorem nameChars_append_blank {gap : List Char} (blank : Text.Blank gap) (cs : List Char) :
    nameChars (gap ++ cs) = nameChars cs := by
  have whole : ∀ c ∈ gap, isSeparator c = false := fun c mem => isSeparator_of_isBlank (blank c mem)
  obtain ⟨piece, rest, split, split'⟩ := Text.pieces_append whole cs
  rw [nameChars, nameChars, split, split', List.map_cons, List.map_cons, Text.trimmed_append_left blank]

/-- A name that can stand in a text of names. -/
structure IsListable (name : String) : Prop where
  trimmed : Text.trim name = name
  some : Text.isBlankText name = false
  whole : ∀ c ∈ name.toList, isSeparator c = false

/-- White space behind a name is no part of it either. -/
theorem IsListable.nameChars_append {name : String} (listable : IsListable name) {gap : List Char}
    (blank : Text.Blank gap) : nameChars (name.toList ++ gap) = [name.toList] := by
  have whole : ∀ c ∈ name.toList ++ gap, isSeparator c = false := by
    intro c mem
    rcases List.mem_append.mp mem with mem | mem
    · exact listable.whole c mem
    · exact isSeparator_of_isBlank (blank c mem)
  have same : Text.trimmed (name.toList ++ gap) = name.toList := by
    rw [Text.trimmed_append_right blank, ← Text.toList_trim, listable.trimmed]
  have some : name.toList ≠ [] := by
    intro none
    have blank : Text.isBlankText name = true := by rw [Text.isBlankText, none]; rfl
    rw [listable.some] at blank
    cases blank
  rw [nameChars, Text.pieces_of_whole whole, List.map_singleton, same]
  simp [some]

/-- Names joined by separators, with any white space around these. No name gives the empty text. -/
inductive Joined : List String → List Char → Prop where
  | nil : Joined [] []
  | single (name : String) : Joined [name] name.toList
  | cons (name : String) (before : List Char) (c : Char) (after : List Char) {next : String} {rest : List String}
      {cs : List Char} :
      Text.Blank before → isSeparator c = true → Text.Blank after → Joined (next :: rest) cs →
        Joined (name :: next :: rest) (name.toList ++ before ++ c :: (after ++ cs))

/-- White space behind the last name is no part of it. -/
theorem Joined.nameChars_append {names : List String} {cs : List Char} (joined : Joined names cs)
    (listable : ∀ n ∈ names, IsListable n) {gap : List Char} (blank : Text.Blank gap) :
    nameChars (cs ++ gap) = names.map String.toList := by
  induction joined with
  | nil =>
    have none := nameChars_append_blank blank []
    rwa [List.append_nil] at none
  | single name => exact (listable name List.mem_cons_self).nameChars_append blank
  | @cons name front c back _ _ cs before cuts after _ ih =>
    obtain ⟨first, others⟩ := List.forall_mem_cons.mp listable
    have last : name.toList ++ front ++ c :: (back ++ cs) ++ gap =
        name.toList ++ front ++ c :: (back ++ (cs ++ gap)) := by simp
    rw [last, nameChars_append_separator _ cuts, first.nameChars_append before, nameChars_append_blank after, ih others]
    rfl

private theorem Joined.nameChars_eq {names : List String} {cs : List Char} (joined : Joined names cs)
    (listable : ∀ n ∈ names, IsListable n) : nameChars cs = names.map String.toList := by
  simpa using joined.nameChars_append listable Text.blank_nil

/-- Joining and telling apart. -/
theorem Joined.namesIn_eq {names : List String} {text : String} (joined : Joined names text.toList)
    (listable : ∀ n ∈ names, IsListable n) : namesIn text = names := by
  rw [namesIn, joined.nameChars_eq listable, List.map_map]
  simp

/-- Joining without white space. -/
theorem joined_intercalate {c : Char} (cuts : isSeparator c = true) (names : List String) :
    Joined names (List.intercalate [c] (names.map String.toList)) := by
  induction names with
  | nil => exact .nil
  | cons name rest ih =>
    cases rest with
    | nil =>
      have alone : List.intercalate [c] ([name].map String.toList) = name.toList := by simp [List.intercalate]
      rw [alone]
      exact .single name
    | cons next rest =>
      have joined := Joined.cons name [] c [] Text.blank_nil cuts Text.blank_nil ih
      simpa [List.intercalate] using joined

/-- A text for the value that options have in a field. -/
def Encodes (o : Options) : Field → String → Prop
  | .flag g, text => text = if o.flag g then "true" else "false"
  | .names l, text => Joined (o.names l) text.toList

/-- Of the variables for fields those in capitals are set and no others, each to a text for its value. -/
structure Encoded (env : Environment) (o : Options) : Prop where
  distinct : (Entries.keys env).Nodup
  given : ∀ f : Field, ∃ text, Entries.get? (variableFor f.name) env = some text ∧ Encodes o f text
  only : ∀ entry ∈ env, ∀ f : Field, Environment.settingOf? entry.1 = some f.name → entry.1 = variableFor f.name

variable {o : Options}

private theorem variableFor_injective {f g : Field} (same : variableFor f.name = variableFor g.name) : f = g := by
  have settings : some f.name = some g.name := by rw [← settingOf?_variableFor, same, settingOf?_variableFor]
  exact Field.name_injective (Option.some.inj settings)

/-- Variables that are for no field may stand before those of the fields. -/
private theorem encoded_of_texts {others : Environment} {text : Field → String} (distinct : (Entries.keys others).Nodup)
    (unset : ∀ entry ∈ others, ∀ f : Field, Environment.settingOf? entry.1 ≠ some f.name)
    (encodes : ∀ f, Encodes o f (text f)) :
    Encoded (others ++ Field.all.map fun f => (variableFor f.name, text f)) o := by
  have free (f : Field) : variableFor f.name ∉ Entries.keys others := by
    intro mem
    obtain ⟨entry, mem, same⟩ := List.mem_map.mp mem
    exact unset entry mem f (same ▸ settingOf?_variableFor f)
  refine ⟨?_, ?_, ?_⟩
  · have fields : (Field.all.map fun f => variableFor f.name).Nodup :=
      List.Pairwise.map _ (fun f g other same => other (variableFor_injective same)) (by decide : Field.all.Nodup)
    rw [Entries.keys, List.map_append, List.map_map]
    refine List.nodup_append.mpr ⟨distinct, fields, ?_⟩
    rintro _ mem _ field rfl
    obtain ⟨f, -, rfl⟩ := List.mem_map.mp field
    exact free f mem
  · intro f
    refine ⟨text f, ?_, encodes f⟩
    rw [Entries.get?_append, Entries.get?_eq_none_iff.mpr (free f), Option.none_or]
    exact Entries.get?_map_of_mem variableFor_injective text f.mem_all
  · intro entry mem f own
    rcases List.mem_append.mp mem with mem | mem
    · exact absurd own (unset entry mem f)
    · obtain ⟨g, -, rfl⟩ := List.mem_map.mp mem
      rw [settingOf?_variableFor] at own
      rw [Option.some.inj own]

/-- Words for flags, and names joined by semicolons. -/
def textFor (o : Options) : Field → String
  | .flag g => if o.flag g then "true" else "false"
  | .names l => String.ofList (List.intercalate [';'] ((o.names l).map String.toList))

private theorem encodes_textFor (o : Options) (f : Field) : Encodes o f (textFor o f) := by
  cases f with
  | flag g => rfl
  | names l =>
    have joined := joined_intercalate (c := ';') rfl (o.names l)
    simpa [Encodes, textFor] using joined

/-- All options can be written to an environment. -/
theorem exists_encoded (o : Options) : ∃ env, Encoded env o :=
  ⟨[] ++ Field.all.map fun f => (variableFor f.name, textFor o f),
    encoded_of_texts List.nodup_nil (by simp) (encodes_textFor o)⟩

/-- The values of options, as they are read from the environment. -/
def listed (o : Options) : Options.Arguments
  | .flag g => .bool (o.flag g)
  | .names l => .list ((o.names l).map .text)

private theorem build_listed (listable : ∀ l, ∀ n ∈ o.names l, IsListable n) : Options.build (listed o) = .ok o := by
  have same : Options.build (listed o) = Options.build o.value := rfl
  rw [same]
  exact Options.build_value fun l n mem => ⟨(listable l n mem).trimmed, (listable l n mem).some⟩

/-- The text of a variable means the value that it is written for. -/
private theorem Encodes.valueFor_eq {f : Field} {text : String} (encodes : Encodes o f text)
    (listable : ∀ l, ∀ n ∈ o.names l, IsListable n) : Environment.valueFor f text = listed o f := by
  cases f with
  | flag g =>
    obtain rfl : text = if o.flag g then "true" else "false" := encodes
    rw [listed, Environment.valueFor]
    cases o.flag g <;> rfl
  | names l =>
    have joined : Joined (o.names l) text.toList := encodes
    rw [listed, Environment.valueFor, splitNames_text, joined.namesIn_eq (listable l)]

theorem Encoded.winner_eq {s : Sources} (encoded : Encoded s.environment o) (empty : s.overrides = [])
    (listable : ∀ l, ∀ n ∈ o.names l, IsListable n) (f : Field) :
    s.winner f = (listed o f, .environment f.name) := by
  obtain ⟨text, found, encodes⟩ := encoded.given f
  have last : Entries.last? (Environment.settingOf? · = some f.name) s.environment = some text := by
    calc
      Entries.last? (Environment.settingOf? · = some f.name) s.environment =
          Entries.last? (· = variableFor f.name) s.environment := by
        apply Entries.last?_congr
        intro entry mem
        exact ⟨encoded.only entry mem f, fun same => same ▸ settingOf?_variableFor f⟩
      _ = some text := (Entries.last?_eq_get? encoded.distinct _).trans found
  rw [Sources.winner, Sources.given?, empty, last, Option.map_some, encodes.valueFor_eq listable]
  rfl

end Settings

namespace Workspace
open Settings Entries

/-- Options without a separator in their names, written to the environment, each field to its variable and with any
white space around the separators, are read from there without overrides, whatever settings the project file has for
fields; all provenance is that of the environment. -/
theorem resolve_encoded (w w' : Workspace) (table : List (String × Value)) (o : Options)
    (preset : w.preset = (.ok (), w')) (loads : Project.tableAt w'.disk w'.projectPath = .ok table)
    (fields : ∀ key ∈ keys table, ∃ f : Field, f.name = settingOf key) (isBuilt : o.IsBuilt)
    (whole : ∀ l, ∀ n ∈ o.names l, ';' ∉ n.toList ∧ ',' ∉ n.toList) (encoded : Encoded w'.environment o) :
    ∃ r, (w.resolve []).1 = .ok r ∧ r.options = o ∧ ∀ f, r.provenance f = .environment f.name := by
  have listable (l : NameList) (n : String) (mem : n ∈ o.names l) : IsListable n := by
    obtain ⟨trimmed, some⟩ := Options.isBuilt_iff.mp isBuilt l n mem
    obtain ⟨semicolon, comma⟩ := whole l n mem
    refine ⟨trimmed, some, ?_⟩
    intro c mem
    have other : c ≠ ';' ∧ c ≠ ',' := ⟨fun same => semicolon (same ▸ mem), fun same => comma (same ▸ mem)⟩
    simp [isSeparator, other]
  have winner := Encoded.winner_eq (s := w'.sources table []) encoded rfl listable
  have known : (w'.sources table []).OnlyFields := ⟨by simp [sources, keys], fields⟩
  refine ⟨_, resolve_of_build preset loads known (build_listed listable) ?_ fun _ => rfl, rfl, ?_⟩
  · intro f
    rw [winner]
  · intro f
    exact congrArg Prod.snd (winner f)

/-- Texts for each field, with white space around separators of both kinds and nothing for an empty list. -/
def spacedText : Field → String
  | .flag .excludeForwards => "false"
  | .flag .publicTypes => "true"
  | .names .included => "System.Index ;\n System.Range,A"
  | .names .excluded => ""

def spaced : Workspace :=
  { mixed with environment := [("PATH", "/bin")] ++ Field.all.map fun f => (variableFor f.name, spacedText f) }

private theorem encoded_spaced :
    Encoded spaced.environment ⟨false, true, ["System.Index", "System.Range", "A"], []⟩ := by
  apply encoded_of_texts (by decide)
  · intro entry mem f own
    obtain rfl := List.mem_singleton.mp mem
    have none : Environment.settingOf? "PATH" = none := by decide
    rw [none] at own
    cases own
  · intro f
    cases f with
    | flag g => cases g <;> rfl
    | names l => cases l with
      | included =>
        have rest : Joined ["System.Range", "A"] "System.Range,A".toList :=
          .cons "System.Range" [] ',' [] Text.blank_nil rfl Text.blank_nil (.single "A")
        exact .cons "System.Index" [' '] ';' ['\n', ' '] (by decide) rfl (by decide) rest
      | excluded => exact .nil

/-- An empty list in the environment hides the list in the project file. -/
theorem resolve_encoded_spaced :
    ∃ r, (spaced.resolve []).1 = .ok r ∧
      r.options = ⟨false, true, ["System.Index", "System.Range", "A"], []⟩ ∧
      ∀ f, r.provenance f = .environment f.name := by
  let o : Options := ⟨false, true, ["System.Index", "System.Range", "A"], []⟩
  have isBuilt : o.IsBuilt := ⟨o.value, rfl⟩
  have whole : ∀ l, ∀ n ∈ o.names l, ';' ∉ n.toList ∧ ',' ∉ n.toList := by
    intro l
    cases l <;> decide
  exact spaced.resolve_encoded spaced mixedTable _ rfl tableAt_mixed fields_mixed isBuilt whole encoded_spaced

end Workspace

end TypeForward
