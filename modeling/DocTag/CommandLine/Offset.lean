import DocTag.Text.Numeral
import DocTag.Text.Digits
import DocTag.Text.Quoted

/-!
# Offsets

The offset of a part in its source is given as a numeral that is not negative.

The main statement says which offsets are read: the numerals of integers from zero up.
-/

namespace DocTag.Offset

/-- Why a text is no offset. -/
inductive Fault
  /-- The text is no numeral. -/
  | malformed (given : Text)
  /-- The numeral has more digits than are read; how many it has. -/
  | tooLong (digits : Nat)
  /-- The integer is negative. -/
  | negative (value : Int)
  deriving DecidableEq, Repr

/-- The number of characters of the quoted text that a message shows. -/
def quotedWidth : Nat := 200

def Fault.message : Fault → Text
  | .malformed given =>
    "invalid literal for int() with base 10: ".toList ++ (Text.quote given).take quotedWidth
  | .tooLong digits =>
    "Exceeds the limit (".toList ++ Text.ofNat Numeral.maxDigits ++
      " digits) for integer string conversion: value has ".toList ++ Text.ofNat digits ++
      " digits; use sys.set_int_max_str_digits() to increase the limit".toList
  | .negative value => "offset must be non-negative, got ".toList ++ Text.ofInt value

def read (t : Text) : Except Fault Nat :=
  match Numeral.read t with
  | .error .malformed => .error (.malformed t)
  | .error (.tooLong digits) => .error (.tooLong digits)
  | .ok value => if value < 0 then .error (.negative value) else .ok value.toNat

/-- An offset is read exactly when the text is a numeral of an integer that is not negative. -/
theorem read_eq_ok_iff {t : Text} {n : Nat} : read t = .ok n ↔ Numeral.read t = .ok (n : Int) := by
  unfold read
  cases h : Numeral.read t with
  | error fault => cases fault <;> simp
  | ok value =>
    by_cases hv : value < 0
    · simp only [hv, if_true, reduceCtorEq, Except.ok.injEq, false_iff]
      omega
    · simp only [hv, if_false, Except.ok.injEq]
      omega

end DocTag.Offset
