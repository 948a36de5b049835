/-! The language versions that a compilation can have. Their codes are those of the compiler, so that the order
of codes is the order of the language. -/
namespace TypeForward

inductive LanguageVersion where
  | csharp1 | csharp2 | csharp3 | csharp4 | csharp5 | csharp6
  | csharp7 | csharp7_1 | csharp7_2 | csharp7_3
  | csharp8 | csharp9 | csharp10 | csharp11 | csharp12 | csharp13
  | preview
  deriving DecidableEq

namespace LanguageVersion

def all : List LanguageVersion :=
  [csharp1, csharp2, csharp3, csharp4, csharp5, csharp6, csharp7, csharp7_1, csharp7_2, csharp7_3,
   csharp8, csharp9, csharp10, csharp11, csharp12, csharp13, preview]

/-- From 7.1 on a hundred times the major number plus the minor one. -/
def code : LanguageVersion → Nat
  | csharp1 => 1 | csharp2 => 2 | csharp3 => 3 | csharp4 => 4 | csharp5 => 5 | csharp6 => 6
  | csharp7 => 7 | csharp7_1 => 701 | csharp7_2 => 702 | csharp7_3 => 703
  | csharp8 => 800 | csharp9 => 900 | csharp10 => 1000 | csharp11 => 1100 | csharp12 => 1200 | csharp13 => 1300
  | preview => 2147483646

def name : LanguageVersion → String
  | csharp1 => "CSHARP1" | csharp2 => "CSHARP2" | csharp3 => "CSHARP3" | csharp4 => "CSHARP4"
  | csharp5 => "CSHARP5" | csharp6 => "CSHARP6" | csharp7 => "CSHARP7" | csharp7_1 => "CSHARP7_1"
  | csharp7_2 => "CSHARP7_2" | csharp7_3 => "CSHARP7_3" | csharp8 => "CSHARP8" | csharp9 => "CSHARP9"
  | csharp10 => "CSHARP10" | csharp11 => "CSHARP11" | csharp12 => "CSHARP12" | csharp13 => "CSHARP13"
  | preview => "PREVIEW"

/-- The newest released version. -/
def latest : LanguageVersion := csharp13

def ofCode? (code : Int) : Option LanguageVersion :=
  all.find? fun v => decide ((v.code : Int) = code)

def ofName? (name : String) : Option LanguageVersion :=
  all.find? fun v => v.name == name

/-- The major and the minor number; for the preview they have no meaning. -/
def numbers (v : LanguageVersion) : Nat × Nat :=
  if 100 < v.code then (v.code / 100, v.code % 100) else (v.code, 0)

def label (v : LanguageVersion) : String :=
  if v = preview then "preview" else toString v.numbers.1 ++ "." ++ toString v.numbers.2

theorem mem_all (v : LanguageVersion) : v ∈ all := by
  cases v <;> decide

theorem code_injective {v w : LanguageVersion} (h : v.code = w.code) : v = w := by
  cases v <;> cases w <;> first | rfl | (exact absurd h (by decide))

theorem ofCode?_eq_some_iff {n : Int} {v : LanguageVersion} : ofCode? n = some v ↔ (v.code : Int) = n := by
  constructor
  · intro h
    simpa using List.find?_some h
  · intro h
    cases found : ofCode? n with
    | none =>
      have := List.find?_eq_none.1 found v (mem_all v)
      simp [h] at this
    | some w =>
      have hw : (w.code : Int) = n := by simpa using List.find?_some found
      rw [code_injective (v := w) (w := v) (by omega)]

end LanguageVersion

end TypeForward
