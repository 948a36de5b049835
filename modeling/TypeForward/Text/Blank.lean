import TypeForward.Text.Ranges

/-! White space of every script, and trimming. The information separators U+001C to U+001F count; the zero width
space U+200B and the byte order mark do not. -/
namespace TypeForward.Text

def blankRanges : Ranges :=
  [(0x09, 0x0D), (0x1C, 0x20), (0x85, 0x85), (0xA0, 0xA0), (0x1680, 0x1680), (0x2000, 0x200A),
   (0x2028, 0x2029), (0x202F, 0x202F), (0x205F, 0x205F), (0x3000, 0x3000)]

def isBlank (c : Char) : Bool :=
  blankRanges.holds c

/-- All characters are white space; the empty text is blank too. -/
def Blank (cs : List Char) : Prop :=
  ∀ c ∈ cs, isBlank c = true

def trimStart (cs : List Char) : List Char :=
  cs.dropWhile isBlank

def trimEnd (cs : List Char) : List Char :=
  (trimStart cs.reverse).reverse

/-- The characters without white space at either end. -/
def trimmed (cs : List Char) : List Char :=
  trimEnd (trimStart cs)

def trim (s : String) : String :=
  String.ofList (trimmed s.toList)

/-- A text with nothing but white space, or nothing at all. -/
def isBlankText (s : String) : Bool :=
  s.toList.all isBlank

@[simp] theorem toList_trim (s : String) : (trim s).toList = trimmed s.toList := by
  simp [trim]

theorem isBlankText_iff {s : String} : isBlankText s = true ↔ Blank s.toList := by
  simp [isBlankText, Blank]

private theorem dropWhile_of_blank {cs : List Char} (h : Blank cs) : cs.dropWhile isBlank = [] := by
  induction cs with
  | nil => rfl
  | cons c cs ih =>
    simp only [Blank, List.mem_cons, forall_eq_or_imp] at h
    simp [h.1, ih h.2]

theorem trimmed_of_blank {cs : List Char} (h : Blank cs) : trimmed cs = [] := by
  simp [trimmed, trimStart, trimEnd, dropWhile_of_blank h]

end TypeForward.Text
