/-!
# Text.Utf8 -- characters from bytes

`decode?` reads bytes as UTF-8 and refuses anything else. A character is one byte below 0x80, or a
lead byte and one to three bytes that go on with it. The bounds of the second byte keep out long
forms, surrogates and what lies beyond the last code point.
-/

set_option autoImplicit false

namespace HamlTree.Text

/-- What is known in the middle of a character: the bits so far, the bounds of the next byte, and
the number of bytes after that. -/
structure Utf8Part where
  bits : Nat
  low : Nat
  high : Nat
  more : Nat
deriving DecidableEq, Repr

/-- What a byte that starts a character of several bytes says. -/
def leadByte? (byte : UInt8) : Option Utf8Part :=
  let n := byte.toNat
  if 0xC2 ≤ n && n ≤ 0xDF then some ⟨n - 0xC0, 0x80, 0xBF, 0⟩
  else if n == 0xE0 then some ⟨0, 0xA0, 0xBF, 1⟩
  else if n == 0xED then some ⟨0xD, 0x80, 0x9F, 1⟩
  else if 0xE1 ≤ n && n ≤ 0xEF then some ⟨n - 0xE0, 0x80, 0xBF, 1⟩
  else if n == 0xF0 then some ⟨0, 0x90, 0xBF, 2⟩
  else if n == 0xF4 then some ⟨4, 0x80, 0x8F, 2⟩
  else if 0xF1 ≤ n && n ≤ 0xF3 then some ⟨n - 0xF0, 0x80, 0xBF, 2⟩
  else none

/-- The characters of the bytes, from between two characters or from within one. -/
def decodeFrom : Option Utf8Part → List UInt8 → Option (List Char)
  | none, [] => some []
  | some _, [] => none
  | none, byte :: rest =>
    if byte.toNat < 0x80 then (decodeFrom none rest).map (Char.ofNat byte.toNat :: ·)
    else
      match leadByte? byte with
      | some part => decodeFrom (some part) rest
      | none => none
  | some part, byte :: rest =>
    if part.low ≤ byte.toNat && byte.toNat ≤ part.high then
      let bits := part.bits * 64 + (byte.toNat - 0x80)
      match part.more with
      | 0 => (decodeFrom none rest).map (Char.ofNat bits :: ·)
      | more + 1 => decodeFrom (some ⟨bits, 0x80, 0xBF, more⟩) rest
    else none

/-- The text that the bytes are the UTF-8 form of. -/
def decode? (bytes : List UInt8) : Option (List Char) :=
  decodeFrom none bytes

end HamlTree.Text
