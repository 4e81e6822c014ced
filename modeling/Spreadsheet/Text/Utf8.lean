/-!
UTF-8 as bytes.

`encode` writes each character in one to four bytes.  `decode?` reads bytes back, or tells where and
why they are no UTF-8: the first byte of the offending sequence, how many bytes of it belong
together, and one of three reasons.
-/

namespace Spreadsheet.Text.Utf8

/-- One character in one to four bytes. -/
def encodeChar (c : Char) : List UInt8 :=
  let n := c.toNat
  if n < 0x80 then [n.toUInt8]
  else if n < 0x800 then [(0xC0 + n / 64).toUInt8, (0x80 + n % 64).toUInt8]
  else if n < 0x10000 then
    [(0xE0 + n / 4096).toUInt8, (0x80 + n / 64 % 64).toUInt8, (0x80 + n % 64).toUInt8]
  else
    [(0xF0 + n / 262144).toUInt8, (0x80 + n / 4096 % 64).toUInt8, (0x80 + n / 64 % 64).toUInt8,
      (0x80 + n % 64).toUInt8]

/-- A text as bytes. -/
def encode (s : String) : List UInt8 :=
  s.toList.flatMap encodeChar

/-- Why a sequence of bytes is refused. -/
inductive Reason where
  /-- No character begins with this byte. -/
  | startByte
  /-- A byte that cannot come next in its sequence. -/
  | continuationByte
  /-- The bytes end within a sequence. -/
  | endOfData
deriving DecidableEq, Repr

/-- Bytes that are no UTF-8: the position of the offending sequence, its first byte, how many bytes
of it were read, and the reason. -/
structure Malformed where
  position : Nat
  first : UInt8
  size : Nat
  reason : Reason
deriving DecidableEq, Repr

/-- The wording of a reason. -/
def Reason.message : Reason → String
  | .startByte => "invalid start byte"
  | .continuationByte => "invalid continuation byte"
  | .endOfData => "unexpected end of data"

/-- The message names the byte, or the positions if several bytes belong together. -/
def Malformed.message (e : Malformed) : String :=
  let reason := e.reason.message
  if e.size ≤ 1 then
    let byte :=
      String.ofList [Nat.digitChar (e.first.toNat / 16), Nat.digitChar (e.first.toNat % 16)]
    let position := e.position
    s!"'utf-8' codec can't decode byte 0x{byte} in position {position}: {reason}"
  else
    let position := e.position
    let last := e.position + e.size - 1
    s!"'utf-8' codec can't decode bytes in position {position}-{last}: {reason}"

/-- What a first byte announces: how many bytes follow it, the bits that it contributes, and the
least and greatest value of the byte after it. -/
structure Lead where
  following : Nat
  bits : Nat
  least : Nat
  greatest : Nat

/-- The first bytes of characters of two and more bytes.  The bounds on the second byte keep out
overlong forms, surrogates and code points beyond U+10FFFF. -/
def lead? (b : Nat) : Option Lead :=
  if 0xC2 ≤ b ∧ b ≤ 0xDF then some ⟨1, b - 0xC0, 0x80, 0xBF⟩
  else if b = 0xE0 then some ⟨2, 0, 0xA0, 0xBF⟩
  else if b = 0xED then some ⟨2, 0xD, 0x80, 0x9F⟩
  else if 0xE1 ≤ b ∧ b ≤ 0xEF then some ⟨2, b - 0xE0, 0x80, 0xBF⟩
  else if b = 0xF0 then some ⟨3, 0, 0x90, 0xBF⟩
  else if b = 0xF4 then some ⟨3, 4, 0x80, 0x8F⟩
  else if 0xF1 ≤ b ∧ b ≤ 0xF3 then some ⟨3, b - 0xF0, 0x80, 0xBF⟩
  else none

/-- Reads `count` further bytes of a sequence, the first of them within the given bounds and the
others within 80 to BF.  `code` holds the bits so far and `size` the bytes so far. -/
def continuation (code size : Nat) (least greatest : Nat) :
    (count : Nat) → List UInt8 → Except (Nat × Reason) (Nat × List UInt8)
  | 0, rest => .ok (code, rest)
  | _ + 1, [] => .error (size, .endOfData)
  | count + 1, b :: rest =>
    if least ≤ b.toNat ∧ b.toNat ≤ greatest then
      continuation (code * 64 + b.toNat % 64) (size + 1) 0x80 0xBF count rest
    else .error (size, .continuationByte)

/-- Reads the first character, given its first byte, or refuses. -/
def decodeChar (b : UInt8) (rest : List UInt8) : Except (Nat × Reason) (Char × List UInt8) :=
  if b.toNat < 0x80 then .ok (Char.ofNat b.toNat, rest) else
  match lead? b.toNat with
  | none => .error (1, .startByte)
  | some l =>
    (continuation l.bits 1 l.least l.greatest l.following rest).map fun (code, rest) =>
      (Char.ofNat code, rest)

/-- Reads at most `fuel` characters, the first of them at the given position. -/
def decodeFrom (position : Nat) (seen : List Char) :
    (fuel : Nat) → List UInt8 → Except Malformed (List Char)
  | 0, _ => .ok seen.reverse
  | _ + 1, [] => .ok seen.reverse
  | fuel + 1, b :: rest =>
    match decodeChar b rest with
    | .error (size, reason) => .error ⟨position, b, size, reason⟩
    | .ok (c, rest') =>
      decodeFrom (position + c.utf8Size) (c :: seen) fuel rest'

/-- The text that the bytes encode. -/
def decode? (bytes : List UInt8) : Except Malformed String :=
  (decodeFrom 0 [] bytes.length bytes).map String.ofList

end Spreadsheet.Text.Utf8
