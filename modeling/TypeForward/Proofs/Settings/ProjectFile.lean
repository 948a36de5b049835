import TypeForward.Proofs.Settings.Precedence
import TypeForward.Proofs.Text.Utf8

/-! What loading the project file comes to, for any disk and any path. A file that is of no use mostly gives no
settings, as if there were none, but there are four ways in which one breaks loading, and with it every resolution.
There would be a fifth below a directory that may not be searched, and a disk has none such. -/
namespace TypeForward.Project
open Entries

variable {d : Disk} {path : FilePath} {document : List (String × Value)} {fault : Fault}

/-- There is a file at a path, with this content. -/
def HasFile (d : Disk) (path : FilePath) (content : List UInt8) : Prop :=
  path.hasNul = false ∧ ∃ place, d.find path = .ok (place, .file content)

/-- The table of this tool in a document that has one. -/
def IsTable (document table : List (String × Value)) : Prop :=
  ∃ tools, get? "tool" document = some (.table tools) ∧ get? toolName tools = some (.table table)

/-- What stands for the tables of all tools is no table. -/
def IsUntabled (document : List (String × Value)) : Prop :=
  ∃ v, get? "tool" document = some v ∧ ∀ tools, v ≠ .table tools

/-- No settings can be had from the path: nothing is found there, or a directory, or the octets are no text, or the text
is no document, or the document has no table of this tool. -/
inductive IsUnusable (d : Disk) (path : FilePath) : Prop where
  | nul (nul : path.hasNul = true)
  | unreachable (obstacle : Obstacle) (stops : d.find path = .error obstacle)
  | directory (place : Location) (leads : d.find path = .ok (place, .directory))
  | unencoded (content : List UInt8) (file : HasFile d path content)
      (none : ∀ text, content ≠ Text.Utf8.encode text)
  | invalid (text : String) (file : HasFile d path (Text.Utf8.encode text)) (error : Toml.Error)
      (refused : Toml.parse text = .error error)
  | tableless (text : String) (file : HasFile d path (Text.Utf8.encode text)) (document : List (String × Value))
      (parsed : Toml.parse text = .ok document) (none : ∀ table, ¬ IsTable document table)

/-- What breaks loading, with the fault that it breaks with. -/
inductive Breaks (d : Disk) (path : FilePath) : Fault → Prop where
  | tooLong (plain : path.hasNul = false) (stops : d.find path = .error .tooLong) : Breaks d path .system
  | unencoded (content : List UInt8) (file : HasFile d path content)
      (none : ∀ text, content ≠ Text.Utf8.encode text) : Breaks d path .undecodable
  | tooManyDigits (text : String) (file : HasFile d path (Text.Utf8.encode text))
      (refused : Toml.parse text = .error .tooManyDigits) : Breaks d path .badValue
  | untabled (text : String) (file : HasFile d path (Text.Utf8.encode text)) (document : List (String × Value))
      (parsed : Toml.parse text = .ok document) (other : IsUntabled document) : Breaks d path .missingAttribute

private theorem IsTable.table_eq {entries : List (String × Value)} (isTable : IsTable document entries) :
    table document = .ok entries := by
  obtain ⟨tools, there, own⟩ := isTable
  simp only [table, there, own]

private theorem IsUntabled.table_eq (untabled : IsUntabled document) : table document = .error .missingAttribute := by
  obtain ⟨v, there, other⟩ := untabled
  cases v with
  | table tools => exact absurd rfl (other tools)
  | _ => simp only [table, there]

/-- Without a table of this tool there are no settings, unless something else stands where the tables should. -/
private theorem table_eq_nil (none : ∀ entries, ¬ IsTable document entries) (tabled : ¬ IsUntabled document) :
    table document = .ok [] := by
  rw [table]
  cases there : get? "tool" document with
  | none => rfl
  | some v =>
    cases v with
    | table tools =>
      cases own : get? toolName tools with
      | none => simp only [own]
      | some w =>
        cases w with
        | table entries => exact absurd ⟨tools, there, own⟩ (none entries)
        | _ => simp only [own]
    | _ => exact absurd ⟨_, there, fun _ => Value.noConfusion⟩ tabled

theorem IsTable.not_untabled {entries : List (String × Value)} (isTable : IsTable document entries) :
    ¬ IsUntabled document := by
  intro untabled
  cases isTable.table_eq.symm.trans untabled.table_eq

private theorem HasFile.tableAt_eq {text : String} (file : HasFile d path (Text.Utf8.encode text)) :
    tableAt d path = tableOfText text := by
  obtain ⟨plain, place, found⟩ := file
  rw [tableAt, plain, found]
  simp only [Text.Utf8.decode_encode]
  rfl

private theorem HasFile.tableAt_of_unencoded {content : List UInt8} (file : HasFile d path content)
    (none : ∀ text, content ≠ Text.Utf8.encode text) : tableAt d path = .error .undecodable := by
  obtain ⟨plain, place, found⟩ := file
  rw [tableAt, plain, found]
  simp only [Text.Utf8.decode_eq_none_iff.mpr none]
  rfl

private theorem Breaks.tableAt_eq (breaks : Breaks d path fault) : tableAt d path = .error fault := by
  cases breaks with
  | tooLong plain stops =>
    rw [tableAt, plain, stops]
    rfl
  | unencoded content file none => exact file.tableAt_of_unencoded none
  | tooManyDigits text file refused => rw [file.tableAt_eq, tableOfText, refused]
  | untabled text file document parsed other =>
    rw [file.tableAt_eq, tableOfText, parsed]
    exact other.table_eq

private theorem Breaks.isUnusable (breaks : Breaks d path fault) : IsUnusable d path := by
  cases breaks with
  | tooLong plain stops => exact .unreachable _ stops
  | unencoded content file none => exact .unencoded content file none
  | tooManyDigits text file refused => exact .invalid text file _ refused
  | untabled text file document parsed other =>
    exact .tableless text file document parsed fun entries isTable => isTable.not_untabled other

/-- A file of no use breaks loading or gives nothing. -/
private theorem IsUnusable.breaks_or_nil (unusable : IsUnusable d path) :
    (∃ fault, Breaks d path fault) ∨ tableAt d path = .ok [] := by
  cases unusable with
  | nul nul => exact .inr (by rw [tableAt, if_pos nul])
  | unreachable obstacle stops =>
    cases nul : path.hasNul with
    | true => exact .inr (by rw [tableAt, if_pos nul])
    | false =>
      cases obstacle with
      | tooLong => exact .inl ⟨_, .tooLong nul stops⟩
      | missing | notADirectory | circle => exact .inr (by rw [tableAt, nul, stops]; rfl)
  | directory place leads =>
    right
    rw [tableAt, leads]
    split <;> rfl
  | unencoded content file none => exact .inl ⟨_, .unencoded content file none⟩
  | invalid text file error refused =>
    cases error with
    | malformed => exact .inr (by rw [file.tableAt_eq, tableOfText, refused])
    | tooManyDigits => exact .inl ⟨_, .tooManyDigits text file refused⟩
  | tableless text file document parsed none =>
    by_cases untabled : IsUntabled document
    · exact .inl ⟨_, .untabled text file document parsed untabled⟩
    · right
      rw [file.tableAt_eq, tableOfText, parsed]
      exact table_eq_nil none untabled

/-- A file that is of use has a table of this tool, and that is loaded. -/
private theorem exists_table (usable : ¬ IsUnusable d path) :
    ∃ text document entries, HasFile d path (Text.Utf8.encode text) ∧ Toml.parse text = .ok document ∧
      IsTable document entries ∧ tableAt d path = .ok entries := by
  have plain : path.hasNul = false := by simpa using mt IsUnusable.nul usable
  rcases found : d.find path with obstacle | ⟨place, _ | content⟩
  · exact absurd (.unreachable obstacle found) usable
  · exact absurd (.directory place found) usable
  · have file : HasFile d path content := ⟨plain, place, found⟩
    by_cases encoded : ∃ text, content = Text.Utf8.encode text
    · obtain ⟨text, rfl⟩ := encoded
      cases parsed : Toml.parse text with
      | error error => exact absurd (.invalid text file error parsed) usable
      | ok document =>
        by_cases isTable : ∃ entries, IsTable document entries
        · obtain ⟨entries, isTable⟩ := isTable
          refine ⟨text, document, entries, file, parsed, isTable, ?_⟩
          rw [file.tableAt_eq, tableOfText, parsed]
          exact isTable.table_eq
        · exact absurd (.tableless text file document parsed fun entries h => isTable ⟨entries, h⟩) usable
    · exact absurd (.unencoded content file fun text same => encoded ⟨text, same⟩) usable

private theorem tableAt_error_iff : tableAt d path = .error fault ↔ Breaks d path fault := by
  constructor
  · intro failed
    by_cases unusable : IsUnusable d path
    · rcases unusable.breaks_or_nil with ⟨fault', breaks⟩ | loaded
      · cases failed.symm.trans breaks.tableAt_eq
        exact breaks
      · cases failed.symm.trans loaded
    · obtain ⟨_, _, _, -, -, -, loaded⟩ := exists_table unusable
      cases failed.symm.trans loaded
  · exact Breaks.tableAt_eq

/-- For any path and any disk, where all directories can be searched. Loading fails exactly where something breaks it,
which is one of four things about a file that is of no use. Where nothing does, a file of no use gives no settings, and
any other gives those of its table. A resolution with this project file fails with what breaks the loading, whatever the
overrides, and with a file of no use that breaks nothing it goes on with an empty table. -/
theorem load_unless_breaks (d : Disk) (path : FilePath) :
    (∀ fault, (load d path).1 = .error fault ↔ Breaks d path fault) ∧
      (∀ fault, Breaks d path fault → IsUnusable d path) ∧
      (IsUnusable d path → (∀ fault, ¬ Breaks d path fault) → (load d path).1 = .ok []) ∧
      (¬ IsUnusable d path → ∃ text document entries, HasFile d path (Text.Utf8.encode text) ∧
        Toml.parse text = .ok document ∧ IsTable document entries ∧ (load d path).1 = .ok (settingsIn entries)) ∧
      ∀ (w w' : Workspace) (overrides : List (String × Value)), w.preset = (.ok (), w') → w'.disk = d →
        w'.projectPath = path →
        (∀ fault, Breaks d path fault → (w.resolve overrides).1 = .error fault) ∧
        (IsUnusable d path → (∀ fault, ¬ Breaks d path fault) → (w.resolve overrides).1 =
          (w'.sources [] overrides).layers.resolve.map fun o =>
            ⟨o, fun f => ((w'.sources [] overrides).winner f).2⟩) := by
  have nothing (unusable : IsUnusable d path) (whole : ∀ fault, ¬ Breaks d path fault) : tableAt d path = .ok [] :=
    unusable.breaks_or_nil.resolve_left fun ⟨fault, breaks⟩ => whole fault breaks
  refine ⟨?_, fun _ => Breaks.isUnusable, ?_, ?_, ?_⟩
  · intro fault
    rw [load_eq, ← tableAt_error_iff]
    cases tableAt d path <;> simp [Except.map]
  · intro unusable whole
    rw [load_eq, nothing unusable whole]
    rfl
  · intro usable
    obtain ⟨text, document, entries, file, parsed, isTable, loaded⟩ := exists_table usable
    exact ⟨text, document, entries, file, parsed, isTable, by rw [load_eq, loaded]; rfl⟩
  · rintro w w' overrides preset rfl rfl
    constructor
    · intro fault breaks
      rw [Workspace.resolve_eq_tableAt preset, breaks.tableAt_eq]
      rfl
    · intro unusable whole
      exact Workspace.resolve_eq_layers preset (nothing unusable whole) overrides

private theorem hasFile_ofProject (environment : Environment) (text : String) (isPreset : Bool)
    (path : get? Environment.projectFileVariable environment = none) :
    let w := Workspace.ofProject environment text isPreset
    HasFile w.disk w.projectPath (Text.Utf8.encode text) := by
  intro w
  have home : w.projectPath = ⟨.home, ["pyproject.toml"]⟩ := by
    rw [Workspace.projectPath, show w.environment = environment from rfl, path]
    rfl
  rw [home]
  exact ⟨by decide, _, rfl⟩

/-- The table of this tool is a number: nothing is loaded, and a resolution gives the defaults. -/
theorem load_unless_breaks_numbered :
    let w := Workspace.ofProject [] "[tool]\nforwardgen = 1" true
    (load w.disk w.projectPath).1 = .ok [] ∧
      ∃ r, (w.resolve []).1 = .ok r ∧ r.options = ⟨false, false, [], []⟩ := by
  intro w
  have file := hasFile_ofProject [] "[tool]\nforwardgen = 1" true rfl
  have parsed : Toml.parse "[tool]\nforwardgen = 1" = .ok [("tool", .table [("forwardgen", .int 1)])] := by cbv
  have none (entries : List (String × Value)) : ¬ IsTable [("tool", .table [("forwardgen", .int 1)])] entries := by
    rintro ⟨tools, there, own⟩
    cases there
    cases own
  have unusable : IsUnusable w.disk w.projectPath := .tableless _ file _ parsed none
  have whole (fault : Fault) : ¬ Breaks w.disk w.projectPath fault := by
    intro breaks
    have loaded : tableAt w.disk w.projectPath = .ok [] := by rw [file.tableAt_eq, tableOfText, parsed]; rfl
    cases breaks.tableAt_eq.symm.trans loaded
  obtain ⟨-, -, nothing, -, resolution⟩ := load_unless_breaks w.disk w.projectPath
  obtain ⟨-, resolved⟩ := resolution w w [] rfl rfl rfl
  exact ⟨nothing unusable whole, _, resolved unusable whole, rfl⟩

/-- A number that stands for the tables of all tools, and an octet that begins no character, make files of no use, but
loading them fails, and so does each resolution with the first. -/
theorem broken_by_number :
    let w := Workspace.ofProject [] "tool = 1" true
    let work := Location.root.child "work"
    let d : Disk := ⟨work, [(work.child "pyproject.toml", .file [0xFF])], []⟩
    let path : FilePath := ⟨.home, ["pyproject.toml"]⟩
    (IsUnusable w.disk w.projectPath ∧ (load w.disk w.projectPath).1 = .error .missingAttribute ∧
      ∀ overrides, (w.resolve overrides).1 = .error .missingAttribute) ∧
      IsUnusable d path ∧ (load d path).1 = .error .undecodable := by
  intro w work d path
  have file := hasFile_ofProject [] "tool = 1" true rfl
  have parsed : Toml.parse "tool = 1" = .ok [("tool", .int 1)] := by cbv
  have other : IsUntabled [("tool", .int 1)] := ⟨_, rfl, fun _ => Value.noConfusion⟩
  have breaks : Breaks w.disk w.projectPath .missingAttribute := .untabled _ file _ parsed other
  have failed : tableAt d path = .error .undecodable := by rfl
  have breaks' := tableAt_error_iff.mp failed
  refine ⟨⟨breaks.isUnusable, ?_, ?_⟩, breaks'.isUnusable, ?_⟩
  · rw [load_eq, breaks.tableAt_eq]
    rfl
  · intro overrides
    rw [Workspace.resolve_eq_tableAt (w := w) rfl, breaks.tableAt_eq]
    rfl
  · rw [load_eq, failed]
    rfl

end TypeForward.Project
