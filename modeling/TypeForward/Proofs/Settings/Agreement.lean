import TypeForward.Proofs.Settings.Precedence

/-! Resolution and construction agree. What options can be built from passes the more lenient checks of settings as
well and means the same there, so it resolves to the same options as overrides. -/
namespace TypeForward

namespace Settings

theorem validTexts_texts (start : Nat) (texts : List String) : validTexts start (texts.map .text) = .ok texts := by
  induction texts generalizing start with
  | nil => rfl
  | cons text rest ih =>
    rw [List.map_cons, validTexts, validText]
    simp only [ih]
    rfl

/-- The texts that are not blank, trimmed. -/
def namesAmong (texts : List String) : List String :=
  (texts.filter fun t => !Text.isBlankText t).map Text.trim

theorem namesAmong_of_fine {texts : List String} (fine : ∀ t ∈ texts, Text.isBlankText t = false) :
    namesAmong texts = texts.map Text.trim := by
  rw [namesAmong, List.filter_eq_self.mpr fun t mem => by rw [fine t mem]; rfl]

theorem normalizeNames_texts (texts : List String) :
    ((texts.map Value.text).filter fun x => !isBlankEntry x).map trimText = (namesAmong texts).map .text := by
  rw [namesAmong, List.filter_map, List.map_map, List.map_map]
  rfl

/-- A collection of texts that are not blank is valid. A list or tuple is trimmed at once, others are left as they
are. -/
private theorem validNames_texts {v : Value} {texts : List String} (collection : collection? v = some (texts.map .text))
    (fine : ∀ t ∈ texts, Text.isBlankText t = false) :
    ∃ names, validNames v = .ok names ∧ (∀ n ∈ names, Text.isBlankText n = false) ∧
      names.map Text.trim = texts.map Text.trim := by
  have trimmed : ∀ n ∈ texts.map Text.trim, Text.isBlankText n = false := by
    refine List.forall_mem_map.mpr ?_
    intro t mem
    rw [Text.isBlankText_trim, fine t mem]
  have same : (texts.map Text.trim).map Text.trim = texts.map Text.trim := by
    rw [List.map_map]
    exact List.map_congr_left fun t _ => Text.trim_trim t
  cases v with
  | list xs | tuple xs =>
    obtain rfl := Option.some.inj collection
    refine ⟨texts.map Text.trim, ?_, trimmed, same⟩
    simp only [validNames, normalizeNames, splitNames, normalizeNames_texts, namesAmong_of_fine fine, collection?,
      validTexts_texts]
  | stream xs | set xs | frozenSet xs =>
    obtain rfl := Option.some.inj collection
    refine ⟨texts, ?_, fine, rfl⟩
    simp only [validNames, normalizeNames, splitNames, collection?, validTexts_texts]
  | none | bool | int | version | real | text | octets | moment | table => cases collection

private theorem elements?_of_collection {v : Value} {xs : List Value} (collection : collection? v = some xs) :
    v.elements? = some xs := by
  cases v with
  | list | tuple | stream | set | frozenSet => exact collection
  | none | bool | int | version | real | text | octets | moment | table => cases collection

variable {s : Sources} {a : Options.Arguments} {o : Options}

/-- Where the winners are arguments that options are built from, their lists being collections, they mean these
options. -/
private theorem Sources.acceptable_of_build (known : s.OnlyFields) (built : Options.build a = .ok o)
    (winners : ∀ f, (s.winner f).1 = a f) (collections : ∀ l, (collection? (a (.names l))).isSome = true) :
    s.Acceptable ∧ s.Means o := by
  obtain ⟨flags, lists⟩ := Options.build_ok built
  have flag (g : Flag) : validFlag (s.winner (.flag g)).1 = .ok (o.flag g) := by
    rw [winners, flags]
    rfl
  have names (l : NameList) : ∃ names, validNames (s.winner (.names l)).1 = .ok names ∧
      (∀ n ∈ names, Text.isBlankText n = false) ∧ o.names l = names.map Text.trim := by
    obtain ⟨xs, collection⟩ := Option.isSome_iff_exists.mp (collections l)
    obtain ⟨-, entries, walked, read⟩ := Options.readNames_ok (lists l)
    cases (elements?_of_collection collection).symm.trans walked
    obtain ⟨texts, rfl, same, fine⟩ := Options.readEntries_ok read
    obtain ⟨names, valid, fine', same'⟩ := validNames_texts collection fine
    exact ⟨names, by rw [winners, valid], fine', same.trans same'.symm⟩
  refine ⟨⟨known, fun g => ⟨_, flag g⟩, ?_⟩, flag, ?_⟩
  · intro l
    obtain ⟨names, valid, fine, -⟩ := names l
    exact ⟨names, valid, fine⟩
  · intro l
    obtain ⟨names, valid, -, same⟩ := names l
    exact ⟨names, valid, same⟩

/-- Overrides alone decide where they have all fields, and over nothing but defaults. -/
private theorem Sources.winner_of_override {f : Field} (given : f.name ∈ Entries.keys s.overrides)
    (distinct : (Entries.keys s.overrides).Nodup) :
    s.winner f = ((Entries.get? f.name s.overrides).getD (Options.defaults f), .overrides) := by
  obtain ⟨v, found⟩ := Option.isSome_iff_exists.mp (Entries.get?_isSome_iff.mpr given)
  rw [winner, given?, Entries.last?_eq_get? distinct, found]
  rfl

private theorem Sources.winner_over_defaults {f : Field} (distinct : (Entries.keys s.overrides).Nodup)
    (unset : ∀ entry ∈ s.environment, Environment.settingOf? entry.1 ≠ some f.name) (empty : s.table = []) :
    (s.winner f).1 = (Entries.get? f.name s.overrides).getD (Options.defaults f) := by
  rw [winner, given?, Entries.last?_eq_get? distinct, Entries.last?_eq_none_iff.mpr unset, empty]
  cases Entries.get? f.name s.overrides <;> rfl

end Settings

/-- The fields with their values. -/
def Options.fields (o : Options) : List (String × Value) :=
  Field.all.map fun f => (f.name, o.value f)

private theorem Options.get?_fields (o : Options) (f : Field) : Entries.get? f.name o.fields = some (o.value f) :=
  Entries.get?_map_of_mem Field.name_injective o.value f.mem_all

private theorem Options.mem_keys_fields (o : Options) {key : String} :
    key ∈ Entries.keys o.fields ↔ ∃ f : Field, f.name = key := by
  rw [fields, Entries.keys, List.map_map, List.mem_map]
  constructor
  · rintro ⟨f, -, same⟩
    exact ⟨f, same⟩
  · rintro ⟨f, same⟩
    exact ⟨f, f.mem_all, same⟩

private theorem Options.nodup_keys_fields (o : Options) : (Entries.keys o.fields).Nodup := by
  show (Field.all.map Field.name).Nodup
  decide

namespace Workspace
open Settings Entries

variable {w w' : Workspace} {table overrides : List (String × Value)} {a : Options.Arguments} {o : Options}

theorem resolve_of_build (preset : w.preset = (.ok (), w'))
    (loads : Project.tableAt w'.disk w'.projectPath = .ok table)
    (known : (w'.sources table overrides).OnlyFields) (built : Options.build a = .ok o)
    (winners : ∀ f, ((w'.sources table overrides).winner f).1 = a f)
    (collections : ∀ l, (collection? (a (.names l))).isSome = true) :
    (w.resolve overrides).1 = .ok ⟨o, fun f => ((w'.sources table overrides).winner f).2⟩ := by
  obtain ⟨acceptable, means⟩ := Sources.acceptable_of_build known built winners collections
  rw [resolve_eq_layers preset loads, Sources.resolve_of_means acceptable means]
  rfl

/-- With overrides for all fields it does not matter what lies under them. -/
private theorem resolve_of_all (preset : w.preset = (.ok (), w'))
    (loads : Project.tableAt w'.disk w'.projectPath = .ok table)
    (fields : ∀ key ∈ keys table, ∃ f : Field, f.name = settingOf key) (distinct : (keys overrides).Nodup)
    (all : ∀ key, key ∈ keys overrides ↔ ∃ f : Field, f.name = key) (built : Options.build a = .ok o)
    (values : ∀ f, a f = (get? f.name overrides).getD (Options.defaults f))
    (collections : ∀ l, (collection? (a (.names l))).isSome = true) :
    ∃ r, (w.resolve overrides).1 = .ok r ∧ r.options = o ∧ ∀ f, r.provenance f = .overrides := by
  have winner (f : Field) :=
    Sources.winner_of_override (s := w'.sources table overrides) ((all f.name).mpr ⟨f, rfl⟩) distinct
  have known : (w'.sources table overrides).OnlyFields := ⟨fun key => (all key).mp, fields⟩
  refine ⟨_, resolve_of_build preset loads known built ?_ collections, rfl, ?_⟩
  · intro f
    rw [winner, values]
    rfl
  · intro f
    exact congrArg Prod.snd (winner f)

/-- Resolution after the preset variables were read, with a project file that loads. If options can be built from values
by name, the lists among them given as collections, they resolve to the same options as overrides: in any case where
neither a variable nor the project file sets anything, and with all fields given whatever these set, as long as the
project file has settings for fields only; then all provenance is that of overrides. The values of options that there
are resolve to them in the same way. A stream among the values is a new one wherever it is mentioned, since one that was
walked to build options would give a resolution nothing. -/
theorem resolve_eq_build (w w' : Workspace) (table : List (String × Value)) (preset : w.preset = (.ok (), w'))
    (loads : Project.tableAt w'.disk w'.projectPath = .ok table) :
    (∀ m o, (keys m).Nodup → (∀ (l : NameList) v, get? l.name m = some v → (collection? v).isSome = true) →
      Options.ofPairs m = .ok o →
        ((∀ entry ∈ w'.environment, ∀ f : Field, Environment.settingOf? entry.1 ≠ some f.name) → table = [] →
          ∃ r, (w.resolve m).1 = .ok r ∧ r.options = o) ∧
        ((∀ f : Field, f.name ∈ keys m) → (∀ key ∈ keys table, ∃ f : Field, f.name = settingOf key) →
          ∃ r, (w.resolve m).1 = .ok r ∧ r.options = o ∧ ∀ f, r.provenance f = .overrides)) ∧
    ∀ o : Options, o.IsBuilt → (∀ key ∈ keys table, ∃ f : Field, f.name = settingOf key) →
      ∃ r, (w.resolve o.fields).1 = .ok r ∧ r.options = o ∧ ∀ f, r.provenance f = .overrides := by
  constructor
  · intro m o distinct lists given
    obtain ⟨known, a, values, built⟩ := Options.ofPairs_ok given
    have collections (l : NameList) : (collection? (a (.names l))).isSome = true := by
      rw [values]
      cases found : get? (Field.names l).name m with
      | none => rfl
      | some v => exact lists l v found
    constructor
    · intro unset empty
      have fields : (w'.sources table m).OnlyFields := ⟨known, by simp [sources, empty, keys]⟩
      refine ⟨_, resolve_of_build preset loads fields built ?_ collections, rfl⟩
      intro f
      have winner := Sources.winner_over_defaults (s := w'.sources table m) (f := f) distinct
        (fun entry mem => unset entry mem f) empty
      exact winner.trans (values f).symm
    · intro all fields
      have all : ∀ key, key ∈ keys m ↔ ∃ f : Field, f.name = key := by
        intro key
        refine ⟨known key, ?_⟩
        rintro ⟨f, rfl⟩
        exact all f
      exact resolve_of_all preset loads fields distinct all built values collections
  · intro o isBuilt fields
    have built := Options.build_value (Options.isBuilt_iff.mp isBuilt)
    refine resolve_of_all preset loads fields o.nodup_keys_fields (fun _ => o.mem_keys_fields) built ?_ ?_
    · intro f
      rw [o.get?_fields]
      rfl
    · intro l
      rfl

/-- Over a project file with a list of names and a variable that is no flag: names with separators in them, in a set and
in a stream, and without anything below them in a set alone. -/
theorem resolve_eq_build_mixed :
    let m := [(Flag.publicTypes.name, .bool true), (NameList.excluded.name, .stream [.text "C,D", .text "C,D"]),
      (NameList.included.name, .set [.text " A;B "]), (Flag.excludeForwards.name, .bool false)]
    let o : Options := ⟨false, true, ["A;B"], ["C,D", "C,D"]⟩
    (∃ r, (mixed.resolve m).1 = .ok r ∧ r.options = o ∧ ∀ f, r.provenance f = .overrides) ∧
      (∃ r, (mixed.resolve o.fields).1 = .ok r ∧ r.options = o ∧ ∀ f, r.provenance f = .overrides) ∧
      ∃ r, (fresh.resolve [(NameList.included.name, .frozenSet [.text " A;B"])]).1 = .ok r ∧
        r.options = ⟨false, false, ["A;B"], []⟩ := by
  intro m o
  have built : Options.ofPairs m = .ok o := by rfl
  have collections : ∀ (l : NameList) v, get? l.name m = some v → (collection? v).isSome = true := by
    intro l v found
    cases l with
    | included => cases found; rfl
    | excluded => cases found; rfl
  have all : ∀ f : Field, f.name ∈ keys m := by
    intro f
    exact get?_isSome_iff.mp (by cases f with | flag g => cases g <;> rfl | names l => cases l <;> rfl)
  obtain ⟨given, own⟩ := mixed.resolve_eq_build mixed mixedTable rfl tableAt_mixed
  obtain ⟨alone, -⟩ := fresh.resolve_eq_build ⟨[], .fresh, true⟩ [] rfl rfl
  refine ⟨(given m o (by decide) collections built).2 all fields_mixed, own o ⟨o.value, rfl⟩ fields_mixed, ?_⟩
  refine (alone _ _ (by decide) ?_ rfl).1 (by simp) rfl
  intro l v found
  cases l with
  | included => cases found; rfl
  | excluded => cases found

end Workspace

end TypeForward
