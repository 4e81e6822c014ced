/-!
Runs of decimal digits.

A run of digits denotes a natural number, but one of more than `maxDigits` digits, leading zeros
counted, is not read: `readNatural` then tells how long the run is.
-/

namespace Spreadsheet.Number

/-- The number that a run of digits denotes. -/
def digitsValue (digits : List Char) : Nat :=
  Nat.ofDigitChars 10 digits 0

/-- How many decimal digits a number has. -/
def digitCount (n : Nat) : Nat :=
  (Nat.toDigits 10 n).length

/-- The longest run of digits that is read as a whole number. -/
def maxDigits : Nat := 4300

/-- A run of digits that is too long to be read. -/
structure TooManyDigits where
  digits : Nat
deriving DecidableEq, Repr

/-- The message gives the limit and the length of the run. -/
def TooManyDigits.message (e : TooManyDigits) : String :=
  let digits := e.digits
  s!"Exceeds the limit ({maxDigits} digits) for integer string conversion: " ++
    s!"value has {digits} digits; use sys.set_int_max_str_digits() to increase the limit"

/-- Reads a run of digits of bounded length. -/
def readNatural (digits : List Char) : Except TooManyDigits Nat :=
  if maxDigits < digits.length then .error ⟨digits.length⟩ else .ok (digitsValue digits)

@[simp]
theorem digitsValue_toDigits (n : Nat) : digitsValue (Nat.toDigits 10 n) = n :=
  Nat.ofDigitChars_ten_toDigits

theorem readNatural_of_length_le {digits : List Char} (h : digits.length ≤ maxDigits) :
    readNatural digits = .ok (digitsValue digits) := by
  simp [readNatural, Nat.not_lt.mpr h]

theorem readNatural_of_lt_length {digits : List Char} (h : maxDigits < digits.length) :
    readNatural digits = .error ⟨digits.length⟩ := by
  simp [readNatural, h]

end Spreadsheet.Number
