import TypeForward.Text.Utf8

/-! Decoding undoes encoding and accepts nothing else: octets have a text exactly if they are the encoding of one, and
then of this one alone. -/
namespace TypeForward.Text.Utf8

variable {c : Char} {cs : List Char} {b : UInt8} {octets rest : List UInt8} {least n x : Nat}

private theorem toNat_lt (c : Char) : c.toNat < 0x110000 := by
  have valid : c.toNat.isValidChar := c.valid
  unfold Nat.isValidChar at valid
  omega

private theorem toNat_ofNat_of_valid (valid : n.isValidChar) : (Char.ofNat n).toNat = n := by
  rw [Char.ofNat, dif_pos valid]
  rfl

private theorem continuation?_eq_some_iff : continuation? b = some x ↔ x < 64 ∧ b.toNat = x + 0x80 := by
  unfold continuation?
  split
  · rw [Option.some.injEq]
    omega
  · simp only [reduceCtorEq, false_iff]
    omega

private theorem scalar?_eq_some_iff : scalar? least n = some c ↔ least ≤ n ∧ c.toNat = n := by
  unfold scalar?
  split
  · next valid =>
    have same := toNat_ofNat_of_valid valid.2
    rw [Option.some.injEq]
    constructor
    · rintro rfl
      exact ⟨valid.1, same⟩
    · rintro ⟨-, rfl⟩
      exact Char.ofNat_toNat c
  · next refused =>
    simp only [reduceCtorEq, false_iff]
    rintro ⟨atLeast, rfl⟩
    exact refused ⟨atLeast, c.valid⟩

/-- The octets that stand for a character: of its number six bits each, the highest first, but for the first octet. -/
inductive StandFor (c : Char) : List UInt8 → Prop where
  | one {a : UInt8} (small : c.toNat < 0x80) (first : a.toNat = c.toNat) : StandFor c [a]
  | two {a b : UInt8} (atLeast : 0x80 ≤ c.toNat) (small : c.toNat < 0x800) (first : a.toNat = c.toNat / 64 + 0xC0)
      (second : b.toNat = c.toNat % 64 + 0x80) : StandFor c [a, b]
  | three {a b b' : UInt8} (atLeast : 0x800 ≤ c.toNat) (small : c.toNat < 0x10000)
      (first : a.toNat = c.toNat / 4096 + 0xE0) (second : b.toNat = c.toNat / 64 % 64 + 0x80)
      (third : b'.toNat = c.toNat % 64 + 0x80) : StandFor c [a, b, b']
  | four {a b b' b'' : UInt8} (atLeast : 0x10000 ≤ c.toNat) (first : a.toNat = c.toNat / 262144 + 0xF0)
      (second : b.toNat = c.toNat / 4096 % 64 + 0x80) (third : b'.toNat = c.toNat / 64 % 64 + 0x80)
      (fourth : b''.toNat = c.toNat % 64 + 0x80) : StandFor c [a, b, b', b'']

private theorem exists_standFor (c : Char) : ∃ octets, StandFor c octets := by
  have octet {n : Nat} (small : n < 256) : (UInt8.ofNat n).toNat = n := UInt8.toNat_ofNat_of_lt' small
  have bound := toNat_lt c
  by_cases one : c.toNat < 0x80
  · exact ⟨_, .one one (octet (by omega))⟩
  · by_cases two : c.toNat < 0x800
    · exact ⟨_, .two (by omega) two (octet (by omega)) (octet (by omega))⟩
    · by_cases three : c.toNat < 0x10000
      · exact ⟨_, .three (by omega) three (octet (by omega)) (octet (by omega)) (octet (by omega))⟩
      · exact ⟨_, .four (by omega) (octet (by omega)) (octet (by omega)) (octet (by omega)) (octet (by omega))⟩

private theorem StandFor.encodeChar_eq (stand : StandFor c octets) : String.utf8EncodeChar c = octets := by
  have octet {a : UInt8} {n : Nat} (same : a.toNat = n) : UInt8.ofNat n = a := by rw [← same, UInt8.ofNat_toNat]
  have bound := toNat_lt c
  have value : c.val.toNat = c.toNat := rfl
  simp only [String.utf8EncodeChar, value]
  cases stand with
  | one small first => rw [if_pos (by omega), octet first]
  | two atLeast small first second =>
    rw [if_neg (by omega), if_pos (by omega), Nat.mod_eq_of_lt (by omega), octet first, octet second]
  | three atLeast small first second third =>
    rw [if_neg (by omega), if_neg (by omega), if_pos (by omega), Nat.mod_eq_of_lt (by omega), octet first,
      octet second, octet third]
  | four atLeast first second third fourth =>
    rw [if_neg (by omega), if_neg (by omega), if_neg (by omega), Nat.mod_eq_of_lt (by omega), octet first,
      octet second, octet third, octet fourth]

private theorem StandFor.decodeChars_append (stand : StandFor c octets) (rest : List UInt8) :
    decodeChars (octets ++ rest) = (decodeChars rest).map (c :: ·) := by
  have bound := toNat_lt c
  cases stand with
  | one small first =>
    rw [List.singleton_append, decodeChars.eq_def]
    simp only [first, if_pos small, Char.ofNat_toNat]
  | @two a b atLeast small first second =>
    have x : continuation? b = some (c.toNat % 64) := continuation?_eq_some_iff.mpr (by omega)
    have scalar : scalar? 0x80 ((a.toNat - 0xC0) * 64 + c.toNat % 64) = some c := scalar?_eq_some_iff.mpr (by omega)
    rw [List.cons_append, List.singleton_append, decodeChars.eq_def]
    simp only [if_neg (show ¬ a.toNat < 0x80 by omega), if_neg (show ¬ a.toNat < 0xC0 by omega),
      if_pos (show a.toNat < 0xE0 by omega), x, scalar, Option.bind_eq_bind, Option.bind_some]
  | @three a b b' atLeast small first second third =>
    have x : continuation? b = some (c.toNat / 64 % 64) := continuation?_eq_some_iff.mpr (by omega)
    have y : continuation? b' = some (c.toNat % 64) := continuation?_eq_some_iff.mpr (by omega)
    have scalar : scalar? 0x800 (((a.toNat - 0xE0) * 64 + c.toNat / 64 % 64) * 64 + c.toNat % 64) = some c :=
      scalar?_eq_some_iff.mpr (by omega)
    rw [List.cons_append, List.cons_append, List.singleton_append, decodeChars.eq_def]
    simp only [if_neg (show ¬ a.toNat < 0x80 by omega), if_neg (show ¬ a.toNat < 0xC0 by omega),
      if_neg (show ¬ a.toNat < 0xE0 by omega), if_pos (show a.toNat < 0xF0 by omega), x, y, scalar,
      Option.bind_eq_bind, Option.bind_some]
  | @four a b b' b'' atLeast first second third fourth =>
    have x : continuation? b = some (c.toNat / 4096 % 64) := continuation?_eq_some_iff.mpr (by omega)
    have y : continuation? b' = some (c.toNat / 64 % 64) := continuation?_eq_some_iff.mpr (by omega)
    have z : continuation? b'' = some (c.toNat % 64) := continuation?_eq_some_iff.mpr (by omega)
    have scalar : scalar? 0x10000 ((((a.toNat - 0xF0) * 64 + c.toNat / 4096 % 64) * 64 + c.toNat / 64 % 64) * 64 +
        c.toNat % 64) = some c := scalar?_eq_some_iff.mpr (by omega)
    rw [List.cons_append, List.cons_append, List.cons_append, List.singleton_append, decodeChars.eq_def]
    simp only [if_neg (show ¬ a.toNat < 0x80 by omega), if_neg (show ¬ a.toNat < 0xC0 by omega),
      if_neg (show ¬ a.toNat < 0xE0 by omega), if_neg (show ¬ a.toNat < 0xF0 by omega),
      if_pos (show a.toNat < 0xF8 by omega), x, y, z, scalar, Option.bind_eq_bind, Option.bind_some]

theorem decodeChars_encode (cs : List Char) : decodeChars (cs.flatMap String.utf8EncodeChar) = some cs := by
  induction cs with
  | nil => rfl
  | cons c rest ih =>
    obtain ⟨octets, stand⟩ := exists_standFor c
    rw [List.flatMap_cons, stand.encodeChar_eq, stand.decodeChars_append, ih, Option.map_some]

private theorem eq_of_decodeChars (h : decodeChars octets = some cs) : octets = cs.flatMap String.utf8EncodeChar := by
  have put {c : Char} {octets rest : List UInt8} {others : List Char} (stand : StandFor c octets)
      (same : rest = others.flatMap String.utf8EncodeChar) :
      octets ++ rest = (c :: others).flatMap String.utf8EncodeChar := by
    rw [List.flatMap_cons, stand.encodeChar_eq, same]
  fun_induction decodeChars octets generalizing cs with
  | case1 =>
    cases h
    rfl
  | case2 a rest one ih =>
    obtain ⟨others, read, rfl⟩ := Option.map_eq_some_iff.mp h
    have first : (Char.ofNat a.toNat).toNat = a.toNat := toNat_ofNat_of_valid (.inl (by omega))
    exact put (.one (by omega) first.symm) (ih read)
  | case4 a _ _ two b rest ih =>
    obtain ⟨x, hx, h⟩ := Option.bind_eq_some_iff.mp h
    obtain ⟨c, hc, h⟩ := Option.bind_eq_some_iff.mp h
    obtain ⟨others, read, rfl⟩ := Option.map_eq_some_iff.mp h
    rw [continuation?_eq_some_iff] at hx
    rw [scalar?_eq_some_iff] at hc
    exact put (.two (by omega) (by omega) (by omega) (by omega)) (ih read)
  | case6 a _ _ _ three b b' rest ih =>
    obtain ⟨x, hx, h⟩ := Option.bind_eq_some_iff.mp h
    obtain ⟨y, hy, h⟩ := Option.bind_eq_some_iff.mp h
    obtain ⟨c, hc, h⟩ := Option.bind_eq_some_iff.mp h
    obtain ⟨others, read, rfl⟩ := Option.map_eq_some_iff.mp h
    rw [continuation?_eq_some_iff] at hx hy
    rw [scalar?_eq_some_iff] at hc
    exact put (.three (by omega) (by omega) (by omega) (by omega) (by omega)) (ih read)
  | case8 a _ _ _ _ four b b' b'' rest ih =>
    obtain ⟨x, hx, h⟩ := Option.bind_eq_some_iff.mp h
    obtain ⟨y, hy, h⟩ := Option.bind_eq_some_iff.mp h
    obtain ⟨z, hz, h⟩ := Option.bind_eq_some_iff.mp h
    obtain ⟨c, hc, h⟩ := Option.bind_eq_some_iff.mp h
    obtain ⟨others, read, rfl⟩ := Option.map_eq_some_iff.mp h
    rw [continuation?_eq_some_iff] at hx hy hz
    rw [scalar?_eq_some_iff] at hc
    exact put (.four (by omega) (by omega) (by omega) (by omega) (by omega)) (ih read)
  | _ => cases h

/-- Octets are read as a text exactly if they are its encoding. -/
theorem decode_eq_some_iff {s : String} : decode octets = some s ↔ octets = encode s := by
  rw [decode, Option.map_eq_some_iff, encode]
  constructor
  · rintro ⟨cs, read, rfl⟩
    rw [String.toList_ofList]
    exact eq_of_decodeChars read
  · rintro rfl
    exact ⟨s.toList, decodeChars_encode s.toList, String.ofList_toList⟩

theorem decode_encode (s : String) : decode (encode s) = some s :=
  decode_eq_some_iff.mpr rfl

theorem decode_eq_none_iff : decode octets = none ↔ ∀ s, octets ≠ encode s := by
  simp only [Option.eq_none_iff_forall_ne_some, ne_eq, decode_eq_some_iff]

end TypeForward.Text.Utf8
