/-! Text as octets and back. Decoding accepts exactly the shortest forms of Unicode scalar values, so what is
decoded encodes to the octets it came from. -/
namespace TypeForward.Text.Utf8

def encode (s : String) : List UInt8 :=
  s.toList.flatMap String.utf8EncodeChar

/-- The payload of an octet that continues a character. -/
def continuation? (b : UInt8) : Option Nat :=
  if 0x80 ≤ b.toNat ∧ b.toNat < 0xC0 then some (b.toNat - 0x80) else none

/-- The scalar value `n`, if it is one and is not below the least value that needs so many octets. -/
def scalar? (least n : Nat) : Option Char :=
  if least ≤ n ∧ n.isValidChar then some (Char.ofNat n) else none

/-- The characters of well-formed octets. -/
def decodeChars : List UInt8 → Option (List Char)
  | [] => some []
  | a :: rest =>
    if a.toNat < 0x80 then
      (decodeChars rest).map (Char.ofNat a.toNat :: ·)
    else if a.toNat < 0xC0 then
      none
    else if a.toNat < 0xE0 then
      match rest with
      | b :: rest => do
        let x ← continuation? b
        let c ← scalar? 0x80 ((a.toNat - 0xC0) * 64 + x)
        (decodeChars rest).map (c :: ·)
      | _ => none
    else if a.toNat < 0xF0 then
      match rest with
      | b :: b' :: rest => do
        let x ← continuation? b
        let y ← continuation? b'
        let c ← scalar? 0x800 (((a.toNat - 0xE0) * 64 + x) * 64 + y)
        (decodeChars rest).map (c :: ·)
      | _ => none
    else if a.toNat < 0xF8 then
      match rest with
      | b :: b' :: b'' :: rest => do
        let x ← continuation? b
        let y ← continuation? b'
        let z ← continuation? b''
        let c ← scalar? 0x10000 ((((a.toNat - 0xF0) * 64 + x) * 64 + y) * 64 + z)
        (decodeChars rest).map (c :: ·)
      | _ => none
    else
      none

def decode (octets : List UInt8) : Option String :=
  (decodeChars octets).map String.ofList

end TypeForward.Text.Utf8
