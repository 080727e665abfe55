import DocTag.Proofs.Text.Spelling
import Mathlib.Logic.Relation

/-!
# Which texts are offsets

A text is an offset exactly when it is a numeral of few enough digits whose integer is not negative;
a negative integer is refused with its own decimal text, and everything else as no numeral that is
read (`Offset.FollowsGrammar`). The decimal text of every number of few enough digits is an offset,
and one that is spelled otherwise is the same offset (`Offset.read_follows_grammar`).

The characters that may surround a numeral are the blank ones but for the four information
separators, and whether one of these may does not depend on what else the text holds
(`Offset.separator_refused`).
-/

namespace DocTag.Offset

open Numeral (Spells Respelled maxDigits ofDigits signed)

/-! ## Padding -/

/-- Of the characters of ASCII, padding is those that move the carriage and the space; of all
others, the blank ones. -/
theorem isPadding_iff (c : Char) : Numeral.isPadding c = true ↔
    if c.toNat < 0x80 then (0x09 ≤ c.toNat ∧ c.toNat ≤ 0x0D) ∨ c.toNat = 0x20
    else isBlank c = true := by
  simp only [Numeral.isPadding, isBlank, CodeRanges.contains, blankRanges, List.any_cons,
    List.any_nil, Bool.or_false, Bool.and_eq_true, Bool.or_eq_true, Bool.not_eq_true',
    Bool.and_eq_false_iff, decide_eq_true_eq, decide_eq_false_iff_not]
  split <;> omega

/-! ## Offsets -/

theorem read_eq_negative_iff {t : Text} {value : Int} :
    read t = .error (.negative value) ↔ Numeral.read t = .ok value ∧ value < 0 := by
  unfold read
  cases h : Numeral.read t with
  | error fault => cases fault <;> simp
  | ok found =>
    by_cases hnegative : found < 0
    · simp only [hnegative, if_true, Except.error.injEq, Fault.negative.injEq, Except.ok.injEq]
      exact ⟨fun heq => ⟨heq, heq ▸ hnegative⟩, And.left⟩
    · simp only [hnegative, if_false, reduceCtorEq, Except.ok.injEq, false_iff]
      rintro ⟨rfl, hless⟩
      exact hnegative hless

/-- A text that is no integer is refused as no numeral, or as one of too many digits. -/
theorem read_of_not_ok {t : Text} (h : ∀ value, Numeral.read t ≠ .ok value) :
    read t = .error (.malformed t) ∨ ∃ digits, read t = .error (.tooLong digits) := by
  unfold read
  cases hread : Numeral.read t with
  | error fault =>
    cases fault with
    | malformed => exact .inl rfl
    | tooLong digits => exact .inr ⟨digits, rfl⟩
  | ok value => exact absurd hread (h value)

/-- **What reading a text as an offset comes to.** -/
structure FollowsGrammar (t : Text) : Prop where
  /-- An offset is read from a numeral of few enough digits without a minus sign, or of zero. -/
  accepted : ∀ {n}, read t = .ok n ↔ ∃ negative values, Spells negative values t ∧
    values.length ≤ maxDigits ∧ ofDigits values = n ∧ (negative = true → n = 0)
  /-- A negative integer is refused as such. -/
  negative : ∀ {value}, read t = .error (.negative value) ↔ ∃ values, Spells true values t ∧
    values.length ≤ maxDigits ∧ 0 < ofDigits values ∧ value = -(ofDigits values : Int)
  /-- The message then gives its decimal text. -/
  message : ∀ {value}, read t = .error (.negative value) → (Fault.negative value).message =
    "offset must be non-negative, got -".toList ++ Text.ofNat value.natAbs
  /-- Everything else is refused as no numeral, or as one of too many digits. -/
  other : (read t = .error (.malformed t) ∨ ∃ digits, read t = .error (.tooLong digits)) ↔
    ¬ ∃ negative values, Spells negative values t ∧ values.length ≤ maxDigits

theorem followsGrammar (t : Text) : FollowsGrammar t := by
  constructor
  case accepted =>
    intro n
    rw [read_eq_ok_iff, Numeral.read_eq_ok_iff_spells]
    refine exists_congr fun negative => exists_congr fun values =>
      and_congr_right fun _ => and_congr_right fun _ => ?_
    cases negative with
    | false =>
      have hsigned : signed false values = ofDigits values := rfl
      rw [hsigned]
      exact ⟨fun h => ⟨(Int.ofNat.inj h).symm, fun hminus => absurd hminus Bool.false_ne_true⟩,
        fun h => congrArg Int.ofNat h.1.symm⟩
    | true =>
      have hsigned : signed true values = -(ofDigits values : Int) := rfl
      rw [hsigned]
      constructor
      · exact fun h => ⟨by omega, fun _ => by omega⟩
      · rintro ⟨h, hzero⟩
        have := hzero rfl
        omega
  case negative =>
    intro value
    rw [read_eq_negative_iff, Numeral.read_eq_ok_iff_spells]
    constructor
    · rintro ⟨⟨negative, values, hspells, hfits, rfl⟩, hless⟩
      cases negative with
      | false => exact absurd hless (Int.not_lt.2 (Int.natCast_nonneg _))
      | true => exact ⟨values, hspells, hfits, by simp only [signed] at hless; omega, rfl⟩
    · rintro ⟨values, hspells, hfits, hpositive, rfl⟩
      exact ⟨⟨true, values, hspells, hfits, rfl⟩, by omega⟩
  case message =>
    intro value h
    obtain ⟨-, hless⟩ := read_eq_negative_iff.1 h
    obtain ⟨k, rfl⟩ := Int.eq_negSucc_of_lt_zero hless
    have hquoted : "offset must be non-negative, got -".toList =
        "offset must be non-negative, got ".toList ++ ['-'] := by decide +kernel
    rw [hquoted, List.append_assoc]
    rfl
  case other =>
    have hok : (∃ negative values, Spells negative values t ∧ values.length ≤ maxDigits) ↔
        ∃ value, Numeral.read t = .ok value := by
      simp only [Numeral.read_eq_ok_iff_spells]
      constructor
      · rintro ⟨negative, values, hspells, hfits⟩
        exact ⟨_, negative, values, hspells, hfits, rfl⟩
      · rintro ⟨_, negative, values, hspells, hfits, -⟩
        exact ⟨negative, values, hspells, hfits⟩
    rw [hok]
    constructor
    · rintro hfault ⟨value, hvalue⟩
      have hread : read t = if value < 0 then .error (.negative value) else .ok value.toNat := by
        rw [read, hvalue]
      split at hread <;> rcases hfault with h | ⟨digits, h⟩ <;> cases hread.symm.trans h
    · exact fun hnone => read_of_not_ok fun value hvalue => hnone ⟨value, hvalue⟩

/-- A number that is written with no more than so many digits is less than that power of ten. -/
theorem lt_of_length_ofNat {n width : Nat} (hwidth : 0 < width)
    (h : (Text.ofNat n).length ≤ width) : n < Nat.pow 10 width :=
  (Nat.length_toDigits_le_iff (by decide) hwidth).1 h

/-- An offset that is spelled otherwise, in any number of ways, is read as the same offset. -/
theorem read_of_respellings {t t' : Text} {n : Nat} (h : Relation.ReflTransGen Respelled t t')
    (hread : read t = .ok n) : read t' = .ok n := by
  induction h with
  | refl => exact hread
  | tail _ hstep ih =>
    exact read_eq_ok_iff.2 (Numeral.read_of_respelled hstep (read_eq_ok_iff.1 ih))

/-- **Reading offsets follows their grammar.** Every text is read or refused as the grammar says,
where padding is told character by character. The decimal text of a number of few enough digits is
read as the number, and spelling an offset otherwise does not change what is read. -/
theorem read_follows_grammar :
    (∀ t, FollowsGrammar t) ∧
    (∀ c, Numeral.isPadding c = true ↔
      if c.toNat < 0x80 then (0x09 ≤ c.toNat ∧ c.toNat ≤ 0x0D) ∨ c.toNat = 0x20
      else isBlank c = true) ∧
    (∀ n, (Text.ofNat n).length ≤ maxDigits → read (Text.ofNat n) = .ok n) ∧
    ∀ t t' n, Relation.ReflTransGen Respelled t t' → read t = .ok n → read t' = .ok n := by
  refine ⟨followsGrammar, isPadding_iff, fun n hfits => ?_, fun t t' n => read_of_respellings⟩
  exact read_ofNat (lt_of_length_ofNat (by decide) hfits)

/-- An information separator is blank and yet no padding, also in a text with a character beyond
ASCII: the digit one of another script behind one is no offset. -/
theorem separator_refused :
    (∃ c ∈ "\x1c١".toList, 0x80 ≤ c.toNat) ∧ isBlank '\x1c' = true ∧
      Text.trim "\x1c١".toList = "١".toList ∧ Numeral.Digits [1] "١".toList ∧
      read "\x1c١".toList = .error (.malformed "\x1c١".toList) := by
  refine ⟨⟨'١', ?_, ?_⟩, ?_, ?_, .last ?_, ?_⟩
  · exact .tail _ (.head _)
  · decide
  · decide
  · decide
  · decide +kernel
  · rfl

end DocTag.Offset
