import DocTag.Text.Blank

/-!
# Numerals

An integer is read from a text that holds an optional sign and decimal digits, with blank characters
around it. The digits may be those of any script, since every one of them has a decimal value in the
Unicode character database, and a single underscore may stand between two digits to group them. A
numeral of more than `maxDigits` digits is refused before its value is computed.
-/

namespace DocTag

/-- The zeros of all scripts: a decimal digit is one of these or one of the nine characters after
it. The table lists general category Nd of the Unicode character database, version 14.0. -/
def decimalZeros : List Nat := [
  0x30, 0x660, 0x6F0, 0x7C0, 0x966, 0x9E6, 0xA66, 0xAE6, 0xB66, 0xBE6, 0xC66, 0xCE6, 0xD66, 0xDE6,
  0xE50, 0xED0, 0xF20, 0x1040, 0x1090, 0x17E0, 0x1810, 0x1946, 0x19D0, 0x1A80, 0x1A90, 0x1B50,
  0x1BB0, 0x1C40, 0x1C50, 0xA620, 0xA8D0, 0xA900, 0xA9D0, 0xA9F0, 0xAA50, 0xABF0, 0xFF10, 0x104A0,
  0x10D30, 0x11066, 0x110F0, 0x11136, 0x111D0, 0x112F0, 0x11450, 0x114D0, 0x11650, 0x116C0,
  0x11730, 0x118E0, 0x11950, 0x11C50, 0x11D50, 0x11DA0, 0x16A60, 0x16AC0, 0x16B50, 0x1D7CE,
  0x1D7D8, 0x1D7E2, 0x1D7EC, 0x1D7F6, 0x1E140, 0x1E2F0, 0x1E950, 0x1FBF0
]

/-- The value of a decimal digit of any script. -/
def digitValue? (c : Char) : Option Nat :=
  (decimalZeros.find? fun z => z ≤ c.toNat && c.toNat ≤ z + 9).map (c.toNat - ·)

/-! ## Reading integers -/

namespace Numeral

/-- The number of digits up to which numerals are read and written. -/
def maxDigits : Nat := 4300

/-- Why a text is not read as an integer. -/
inductive Fault
  /-- The text is not a numeral. -/
  | malformed
  /-- The numeral has more digits than are read; how many it has. -/
  | tooLong (digits : Nat)
  deriving DecidableEq, Repr

/-- The blank characters that may surround a numeral: all but the four information separators. -/
def isPadding (c : Char) : Bool := isBlank c && !(0x1C ≤ c.toNat && c.toNat ≤ 0x1F)

/-- Whether a text starts with a decimal digit. -/
def startsWithDigit : Text → Bool
  | [] => false
  | c :: _ => (digitValue? c).isSome

/-- The values of the digits at the start of a text, and what follows them. Fails when an underscore
there does not stand between two digits; `grouped` says that one may come first. -/
def takeDigits (grouped : Bool) : Text → Option (List Nat × Text)
  | [] => some ([], [])
  | c :: rest =>
    if c = '_' then
      if grouped && startsWithDigit rest then takeDigits false rest else none
    else
      match digitValue? c with
      | some value => (takeDigits true rest).map fun (values, after) => (value :: values, after)
      | none => some ([], c :: rest)

/-- The number with these digits, the most significant one first. -/
def ofDigits (values : List Nat) : Nat := values.foldl (fun n value => 10 * n + value) 0

/-- Takes the sign off a numeral; true for a minus. -/
def takeSign : Text → Bool × Text
  | '-' :: rest => (true, rest)
  | '+' :: rest => (false, rest)
  | t => (false, t)

/-- Reads an integer. The digits are counted before the rest of the text is looked at. -/
def read (t : Text) : Except Fault Int :=
  let (negative, body) := takeSign (t.dropWhile isPadding)
  match takeDigits false body with
  | none => .error .malformed
  | some (values, after) =>
    if maxDigits < values.length then .error (.tooLong values.length)
    else if values = [] ∨ ¬ after.all isPadding then .error .malformed
    else .ok (if negative then -(ofDigits values : Int) else ofDigits values)

example : read " -1_٢\n".toList = .ok (-12) := by rfl
example : read "1__0".toList = .error .malformed := by rfl

end Numeral

end DocTag
