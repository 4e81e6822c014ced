/-!
Double precision numbers as whole numbers.

A finite double without its sign is a *code*, its 63 lower bits read as a number.  Codes count the
doubles from zero upwards, and every one of them is a whole multiple of the least, so that
`units code` gives its exact value as a natural number.  `nearestCode` rounds a fraction to the
nearest double, a tie going to the even code; `infinityCode` stands above the finite ones.
-/

namespace Spreadsheet.Number

/-- The code of infinity, the first that is not finite. -/
def infinityCode : Nat := 0x7FF0000000000000

/-- How many halvings of one make the least double. -/
def unitBits : Nat := 1074

/-- The value of a code as a multiple of the least double. -/
def units (code : Nat) : Nat :=
  if code / Nat.pow 2 52 = 0 then code
  else (Nat.pow 2 52 + code % Nat.pow 2 52) * Nat.pow 2 (code / Nat.pow 2 52 - 1)

/-- The whole number nearest to a fraction; of two, the even one. -/
def roundDiv (num den : Nat) : Nat :=
  let q := num / den
  let r := num % den
  if 2 * r < den then q
  else if den < 2 * r then q + 1
  else q + q % 2

/-- The code of the double nearest to a fraction. -/
def nearestCode (num den : Nat) : Nat :=
  let scaled := num * Nat.pow 2 unitBits
  let shift := (scaled / den).log2 - 52
  min (shift * Nat.pow 2 52 + roundDiv scaled (den * Nat.pow 2 shift)) infinityCode

/-- A double taken apart. -/
inductive Parts where
  | notANumber
  | infinite (negative : Bool)
  | finite (negative : Bool) (code : Nat)
deriving DecidableEq, Repr

/-- The parts of a double: the top bit is the sign, the others are the code. -/
def Parts.ofFloat (x : Float) : Parts :=
  let bits := x.toBits.toNat
  let negative := decide (Nat.pow 2 63 ≤ bits)
  let code := bits % Nat.pow 2 63
  if code < infinityCode then .finite negative code
  else if code = infinityCode then .infinite negative
  else .notANumber

/-- The double with the given sign and code. -/
def ofCode (negative : Bool) (code : Nat) : Float :=
  Float.ofBits ((if negative then Nat.pow 2 63 else 0) + code).toUInt64

theorem roundDiv_one (n : Nat) : roundDiv n 1 = n := by
  simp [roundDiv, Nat.mod_one]

theorem nearestCode_le (num den : Nat) : nearestCode num den ≤ infinityCode :=
  Nat.min_le_right _ _

end Spreadsheet.Number
