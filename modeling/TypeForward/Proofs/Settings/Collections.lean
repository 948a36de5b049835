import TypeForward.Proofs.Settings.Agreement
import TypeForward.Proofs.Settings.Provenance

/-! Names given as an override in a collection of one kind or another. From lists and tuples blank texts are dropped. In
other collections they are kept, and the first of them is what the options then refuse. -/
namespace TypeForward

namespace Options

variable {o : Options} {a : Arguments}

/-- Options with other names in one of the lists. -/
def withNames (o : Options) (list : NameList) (names : List String) : Options :=
  match list with
  | .included => { o with included := names }
  | .excluded => { o with excluded := names }

@[simp] theorem flag_withNames (list : NameList) (names : List String) (g : Flag) :
    (o.withNames list names).flag g = o.flag g := by
  cases list <;> cases g <;> rfl

@[simp] theorem names_withNames_self (list : NameList) (names : List String) :
    (o.withNames list names).names list = names := by
  cases list <;> rfl

private theorem names_withNames_of_ne {list other : NameList} (h : other ≠ list) (names : List String) :
    (o.withNames list names).names other = o.names other := by
  cases list <;> cases other <;> first | rfl | exact absurd rfl h

/-- The first blank one of some texts is refused. -/
private theorem readEntries_blank (list : NameList) {front back : List String} {t : String}
    (fine : ∀ u ∈ front, Text.isBlankText u = false) (blank : Text.isBlankText t = true) :
    readEntries list ((front ++ t :: back).map .text) = .error (.configuration (.badName list (.text t))) := by
  induction front with
  | nil =>
    rw [List.nil_append, List.map_cons, readEntries, if_pos blank]
    rfl
  | cons first rest ih =>
    obtain ⟨own, others⟩ := List.forall_mem_cons.mp fine
    rw [List.cons_append, List.map_cons, readEntries, own, ih others]
    rfl

/-- What is wrong with one list is what building fails with, if all else can be read. -/
private theorem build_error {list : NameList} {fault : Fault} (failed : readNames list (a (.names list)) = .error fault)
    (flags : ∀ g, ∃ b, readFlag g (a (.flag g)) = .ok b)
    (others : ∀ other, other ≠ list → ∃ names, readNames other (a (.names other)) = .ok names) :
    build a = .error fault := by
  obtain ⟨excludeForwards, h₁⟩ := flags .excludeForwards
  obtain ⟨publicTypes, h₂⟩ := flags .publicTypes
  unfold build
  rw [h₁, h₂]
  cases list with
  | included =>
    rw [failed]
    rfl
  | excluded =>
    obtain ⟨names, read⟩ := others .included nofun
    rw [read, failed]
    rfl

end Options

namespace Settings
open Entries

variable {l : NameList} {v : Value} {texts : List String}

theorem fine_of_mem_namesAmong {n : String} (mem : n ∈ namesAmong texts) : Text.isBlankText n = false := by
  obtain ⟨t, kept, rfl⟩ := List.mem_map.mp mem
  rw [Text.isBlankText_trim]
  simpa using (List.mem_filter.mp kept).2

theorem trim_namesAmong (texts : List String) : (namesAmong texts).map Text.trim = namesAmong texts := by
  rw [namesAmong, List.map_map]
  exact List.map_congr_left fun t _ => Text.trim_trim t

/-- From lists and tuples blank texts are dropped. -/
theorem validNames_of_ordered (ordered : v = .list (texts.map .text) ∨ v = .tuple (texts.map .text)) :
    validNames v = .ok (namesAmong texts) := by
  have same : normalizeNames v = .tuple ((namesAmong texts).map .text) := by
    rcases ordered with rfl | rfl
    · exact congrArg Value.tuple (normalizeNames_texts texts)
    · exact congrArg Value.tuple (normalizeNames_texts texts)
  rw [validNames, same]
  simp only [collection?, validTexts_texts]

/-- Other collections are taken as they are. -/
def IsOther (v : Value) (xs : List Value) : Prop :=
  v = .stream xs ∨ v = .set xs ∨ v = .frozenSet xs

private theorem validNames_of_isOther (other : IsOther v (texts.map .text)) : validNames v = .ok texts := by
  rcases other with rfl | rfl | rfl
  all_goals simp only [validNames, normalizeNames, splitNames, collection?, validTexts_texts]

namespace Sources

variable {s s' : Sources} {o : Options}

/-- Where each winner passes the checks of its field and there are no other settings, all pass together. -/
private theorem validate_of_valid (known : s.OnlyFields) (valid : ∀ f, ∃ v, validField f (s.winner f).1 = .ok v) :
    ∃ a, validate s.layers.settings = .ok a ∧ ∀ f, validField f (s.winner f).1 = .ok (a f) := by
  rcases validate_cases s.layers.settings with ⟨a, validated, taken, -⟩ | ⟨-, ⟨f, fault, refused⟩ | ⟨entry, mem, other⟩⟩
  · exact ⟨a, validated, fun f => (s.validSetting_eq f).symm.trans (taken f)⟩
  · obtain ⟨v, passes⟩ := valid f
    rw [s.validSetting_eq, passes] at refused
    cases refused
  · exact absurd other (s.known_iff.mpr known entry mem)

section One

variable {l : NameList} (known : s'.OnlyFields) (acceptable : s.Acceptable)
  (others : ∀ f, f ≠ .names l → (s'.winner f).1 = (s.winner f).1)
include known acceptable others

/-- Of sources that differ in one list at most: where that passes with names none of which is blank, these are taken,
trimmed. -/
theorem resolve_withNames {names : List String} (means : s.Means o)
    (valid : validNames (s'.winner (.names l)).1 = .ok names) (fine : ∀ n ∈ names, Text.isBlankText n = false) :
    s'.layers.resolve = .ok (o.withNames l (names.map Text.trim)) := by
  have flag (g : Flag) := others (.flag g) nofun
  have other {k : NameList} (h : k ≠ l) := others (.names k) fun same => h (Field.names.inj same)
  apply resolve_of_means
  · refine ⟨known, ?_, ?_⟩
    · intro g
      rw [flag]
      exact acceptable.flags g
    · intro k
      by_cases same : k = l
      · obtain rfl := same
        exact ⟨names, valid, fine⟩
      · rw [other same]
        exact acceptable.names k
  · constructor
    · intro g
      rw [flag, Options.flag_withNames]
      exact means.1 g
    · intro k
      by_cases same : k = l
      · obtain rfl := same
        exact ⟨names, valid, Options.names_withNames_self k _⟩
      · rw [other same, Options.names_withNames_of_ne same]
        exact means.2 k

/-- Where it passes with a blank name in it, the first such name is refused. -/
private theorem resolve_blank {front back : List String} {t : String}
    (valid : validNames (s'.winner (.names l)).1 = .ok (front ++ t :: back))
    (fine : ∀ u ∈ front, Text.isBlankText u = false) (blank : Text.isBlankText t = true) :
    s'.layers.resolve = .error (.configuration (.badName l (.text t))) := by
  have own : validField (.names l) (s'.winner (.names l)).1 = .ok (.tuple ((front ++ t :: back).map .text)) := by
    rw [validField, valid]
  have passes (f : Field) : ∃ v, validField f (s'.winner f).1 = .ok v := by
    by_cases same : f = .names l
    · exact ⟨_, same ▸ own⟩
    · rw [others f same]
      exact acceptable.valid f
  obtain ⟨a, validated, taken⟩ := validate_of_valid known passes
  have failed : Options.readNames l (a (.names l)) = .error (.configuration (.badName l (.text t))) := by
    rw [← Except.ok.inj (own.symm.trans (taken (.names l))), Options.readNames_tuple]
    exact Options.readEntries_blank l fine blank
  rw [Layers.resolve, validated]
  apply Options.build_error failed
  · intro g
    obtain ⟨b, -, same⟩ := validField_flag (taken (.flag g))
    exact ⟨b, by rw [same]; rfl⟩
  · intro k other
    obtain ⟨texts, valid, fine⟩ := acceptable.names k
    obtain ⟨texts', valid', same⟩ := validField_names (taken (.names k))
    rw [others _ fun h => other (Field.names.inj h), valid] at valid'
    obtain rfl := Except.ok.inj valid'
    rw [same, Options.readNames_tuple]
    rcases Options.readEntries_texts k texts with ⟨read, -⟩ | ⟨-, n, mem, blank⟩
    · exact ⟨_, read⟩
    · cases (fine n mem).symm.trans blank

end One

/-- The same sources with an override for one list. -/
def give (s : Sources) (l : NameList) (v : Value) : Sources :=
  { s with overrides := put l.name v s.overrides }

section Give

variable (distinct : (keys s.overrides).Nodup)
include distinct

private theorem winner_give (l : NameList) (v : Value) (f : Field) :
    (s.give l v).winner f = if f = .names l then (v, .overrides) else s.winner f := by
  have single : (keys (put l.name v s.overrides)).Nodup := nodup_keys_putAll [(l.name, v)] distinct
  have own : f.name = l.name ↔ f = .names l := ⟨fun same => Field.name_injective same, fun same => same ▸ rfl⟩
  rw [winner, given?, give, last?_eq_get? single, get?_put, winner, given?, last?_eq_get? distinct]
  by_cases same : f = .names l
  · rw [if_pos (own.mpr same), if_pos same]
    rfl
  · rw [if_neg (mt own.mp same), if_neg same]

private theorem winner_give_self (l : NameList) (v : Value) : (s.give l v).winner (.names l) = (v, .overrides) := by
  rw [winner_give distinct, if_pos rfl]

/-- For other fields it makes no difference what the override is. -/
private theorem winner_give_congr {l : NameList} {f : Field} (other : f ≠ .names l) (v v' : Value) :
    (s.give l v).winner f = (s.give l v').winner f := by
  rw [winner_give distinct, winner_give distinct, if_neg other, if_neg other]

end Give

private theorem onlyFields_give (l : NameList) (v v' : Value) : (s.give l v).OnlyFields ↔ (s.give l v').OnlyFields := by
  simp only [OnlyFields, give, mem_keys_put]

end Sources

end Settings

namespace Workspace
open Settings Entries

/-- Names given as an override for one of the lists, where all else is as it should be. From a list and from a tuple the
blank ones are dropped and the others are taken, trimmed. A collection of another kind comes to the same only if no
text in it is blank; otherwise it is refused for the first one that is. -/
theorem resolve_collected (w : Workspace) (overrides : List (String × Value)) (l : NameList) (texts : List String)
    {r : Resolution} (distinct : (keys overrides).Nodup)
    (rest : (w.resolve (put l.name (.list []) overrides)).1 = .ok r) :
    let given v := (w.resolve (put l.name v overrides)).1
    let found : Resolution := ⟨r.options.withNames l (namesAmong texts), r.provenance⟩
    given (.list (texts.map .text)) = .ok found ∧ given (.tuple (texts.map .text)) = .ok found ∧
      ∀ v, IsOther v (texts.map .text) →
        ((∀ t ∈ texts, Text.isBlankText t = false) → given v = .ok found) ∧
        ∀ front t back, texts = front ++ t :: back → (∀ u ∈ front, Text.isBlankText u = false) →
          Text.isBlankText t = true → given v = .error (.configuration (.badName l (.text t))) := by
  intro given found
  obtain ⟨table, preset, loads⟩ := sources_of_resolve rest
  let s := w.preset.2.sources table overrides
  have nodup : (keys s.overrides).Nodup := distinct
  have layered (v : Value) : given v =
      (s.give l v).layers.resolve.map fun o => ⟨o, fun f => ((s.give l v).winner f).2⟩ :=
    resolve_eq_layers preset loads (put l.name v overrides)
  have empty := (layered (.list [])).symm.trans rest
  rcases (s.give l (.list [])).resolve_cases with ⟨acceptable, o, resolved, means⟩ | ⟨-, cause, failed⟩
  · rw [resolved] at empty
    obtain rfl := Except.ok.inj empty
    have provenance (v : Value) :
        (fun f => ((s.give l v).winner f).2) = fun f => ((s.give l (.list [])).winner f).2 := by
      funext f
      by_cases own : f = .names l
      · rw [own, Sources.winner_give_self nodup, Sources.winner_give_self nodup]
      · rw [Sources.winner_give_congr nodup own v (.list [])]
    have known (v : Value) : (s.give l v).OnlyFields := (Sources.onlyFields_give l v (.list [])).mpr acceptable.known
    have others (v : Value) (f : Field) (other : f ≠ .names l) :
        ((s.give l v).winner f).1 = ((s.give l (.list [])).winner f).1 :=
      congrArg Prod.fst (Sources.winner_give_congr nodup other v (.list []))
    have passes {v : Value} {names : List String} (valid : validNames v = .ok names) :
        validNames ((s.give l v).winner (.names l)).1 = .ok names := by
      rw [Sources.winner_give_self nodup, valid]
    have taken {v : Value} {names : List String} (valid : validNames v = .ok names)
        (fine : ∀ n ∈ names, Text.isBlankText n = false) (same : names.map Text.trim = namesAmong texts) :
        given v = .ok found := by
      have resolved := Sources.resolve_withNames (known v) acceptable (others v) means (passes valid) fine
      rw [layered, resolved, provenance, same]
      rfl
    have kept (n : String) (mem : n ∈ namesAmong texts) : Text.isBlankText n = false := fine_of_mem_namesAmong mem
    refine ⟨taken (validNames_of_ordered (.inl rfl)) kept (trim_namesAmong texts),
      taken (validNames_of_ordered (.inr rfl)) kept (trim_namesAmong texts), ?_⟩
    intro v other
    constructor
    · intro fine
      exact taken (validNames_of_isOther other) fine (namesAmong_of_fine fine).symm
    · rintro front t back rfl fine blank
      have valid := passes (validNames_of_isOther other)
      rw [layered, Sources.resolve_blank (known v) acceptable (others v) valid fine blank]
      rfl
  · rw [failed] at empty
    cases empty

/-- With a blank name and a padded one: a tuple gives the other one and the padded one trimmed, a set of the padded one
alone gives that, and a stream of them is refused. -/
theorem resolve_collected_blank :
    ∃ r, (fresh.resolve [(NameList.included.name, .list [])]).1 = .ok r ∧
      (fresh.resolve [(NameList.included.name, .tuple [.text "A", .text " ", .text " B"])]).1 =
        .ok ⟨r.options.withNames .included ["A", "B"], r.provenance⟩ ∧
      (fresh.resolve [(NameList.included.name, .set [.text " B"])]).1 =
        .ok ⟨r.options.withNames .included ["B"], r.provenance⟩ ∧
      (fresh.resolve [(NameList.included.name, .stream [.text "A", .text " ", .text " B"])]).1 =
        .error (.configuration (.badName .included (.text " "))) := by
  have rest := resolve_eq_layers (w := fresh) rfl rfl [(NameList.included.name, .list [])]
  obtain ⟨-, tuple, stream⟩ := fresh.resolve_collected [] .included ["A", " ", " B"] (by decide) rest
  obtain ⟨-, -, set⟩ := fresh.resolve_collected [] .included [" B"] (by decide) rest
  refine ⟨_, rest, tuple, (set _ (.inr (.inl rfl))).1 (by decide), ?_⟩
  exact (stream _ (.inl rfl)).2 ["A"] " " [" B"] rfl (by decide) (by decide)

/-- The same names, once in a list and once in a stream. -/
theorem refused_from_stream :
    (∃ r, (fresh.resolve [(NameList.included.name, .list [.text "A", .text " "])]).1 = .ok r ∧
        r.options = ⟨false, false, ["A"], []⟩) ∧
      (fresh.resolve [(NameList.included.name, .stream [.text "A", .text " "])]).1 =
        .error (.configuration (.badName .included (.text " "))) := by
  have taken := resolve_eq_layers (w := fresh) rfl rfl [(NameList.included.name, .list [.text "A", .text " "])]
  refine ⟨⟨_, taken, rfl⟩, ?_⟩
  rw [resolve_eq_layers (w := fresh) rfl rfl]
  rfl

end Workspace

end TypeForward
