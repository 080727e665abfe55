import DocTag.CommandLine.Offset

/-!
# Numerals, written and read

What is written for a number is read as the number, as long as it has no more digits than are read
(`Numeral.read_ofNat`), and so is an offset (`Offset.read_ofNat`).
-/

namespace DocTag

/-- The code point of a digit of ASCII. -/
theorem toNat_of_isDigit {c : Char} (h : c.isDigit = true) : 48 ≤ c.toNat ∧ c.toNat ≤ 57 := by
  simpa [Char.isDigit, Char.le_def, UInt32.le_iff_toNat_le] using h

/-- The decimal digits of ASCII have their values. -/
theorem digitValue?_of_isDigit {c : Char} (h : c.isDigit = true) :
    digitValue? c = some (c.toNat - '0'.toNat) := by
  obtain ⟨hleast, hgreatest⟩ := toNat_of_isDigit h
  have hfirst : decimalZeros.find? (fun z => z ≤ c.toNat && c.toNat ≤ z + 9) = some 0x30 := by
    rw [decimalZeros, List.find?_cons_of_pos]
    simp only [Bool.and_eq_true, decide_eq_true_eq]
    omega
  rw [digitValue?, hfirst]
  rfl

namespace Numeral

theorem isPadding_of_isDigit {c : Char} (h : c.isDigit = true) : isPadding c = false := by
  obtain ⟨hleast, hgreatest⟩ := toNat_of_isDigit h
  have hblank : isBlank c = false := by
    simp only [isBlank, CodeRanges.contains, blankRanges, List.any_eq_false, List.mem_cons,
      List.not_mem_nil, or_false, Bool.and_eq_true, decide_eq_true_eq]
    rintro range (rfl | rfl | rfl | rfl | rfl | rfl | rfl | rfl | rfl | rfl) <;> omega
  rw [isPadding, hblank, Bool.false_and]

/-- A digit is no sign. -/
theorem takeSign_of_isDigit {c : Char} (rest : Text) (h : c.isDigit = true) :
    takeSign (c :: rest) = (false, c :: rest) := by
  unfold takeSign
  split
  · next heq =>
    obtain ⟨rfl, -⟩ := List.cons.inj heq
    exact absurd h (by decide)
  · next heq =>
    obtain ⟨rfl, -⟩ := List.cons.inj heq
    exact absurd h (by decide)
  · rfl

/-- Digits are taken up to the end of a text that has nothing else. -/
theorem takeDigits_of_isDigit (grouped : Bool) {digits : Text}
    (h : ∀ c ∈ digits, c.isDigit = true) :
    takeDigits grouped digits = some (digits.map fun c => c.toNat - '0'.toNat, []) := by
  induction digits generalizing grouped with
  | nil => rfl
  | cons c rest ih =>
    obtain ⟨hc, hrest⟩ := List.forall_mem_cons.1 h
    have hmark : c ≠ '_' := by
      rintro rfl
      exact absurd hc (by decide)
    rw [takeDigits, if_neg hmark, digitValue?_of_isDigit hc, ih true hrest]
    rfl

/-- A text of nothing but digits, and not too many of them, is read as their number. -/
theorem read_of_isDigit {c : Char} {rest : Text} (h : ∀ d ∈ c :: rest, d.isDigit = true)
    (hlength : (c :: rest).length ≤ maxDigits) :
    read (c :: rest) = .ok (ofDigits ((c :: rest).map fun d => d.toNat - '0'.toNat)) := by
  have hc : c.isDigit = true := h c List.mem_cons_self
  -- A digit is neither blank nor a sign, so the digits are all there is.
  have hstart : (c :: rest).dropWhile isPadding = c :: rest :=
    List.dropWhile_cons_of_neg (isPadding_of_isDigit hc ▸ Bool.false_ne_true)
  have hfits : ¬ maxDigits < ((c :: rest).map fun d => d.toNat - '0'.toNat).length := by
    rw [List.length_map]
    exact Nat.not_lt.2 hlength
  have hkept : ¬ (((c :: rest).map fun d => d.toNat - '0'.toNat) = [] ∨
      ¬ List.all ([] : Text) isPadding = true) := by
    simp
  simp only [read, hstart, takeSign_of_isDigit rest hc, takeDigits_of_isDigit false h]
  rw [if_neg hfits, if_neg hkept, if_neg Bool.false_ne_true]

/-- **What is written for a number is read as the number.** -/
theorem read_ofNat {n : Nat} (h : n < Nat.pow 10 maxDigits) : read (Text.ofNat n) = .ok n := by
  have hdigits : ∀ c ∈ Text.ofNat n, c.isDigit = true := fun c hc =>
    Nat.isDigit_of_mem_toDigits (by decide) (by decide) hc
  have hlength : (Text.ofNat n).length ≤ maxDigits := by
    have hpow : ∀ k, Nat.pow 10 k = 10 ^ k := fun _ => rfl
    rw [hpow] at h
    exact (Nat.length_toDigits_le_iff (by decide) (by decide)).2 h
  have hvalue : ofDigits ((Text.ofNat n).map fun c => c.toNat - '0'.toNat) = n := by
    rw [ofDigits, List.foldl_map]
    exact Nat.ofDigitChars_toDigits (by decide) (by decide)
  obtain ⟨c, rest, hcons⟩ : ∃ c rest, Text.ofNat n = c :: rest :=
    List.exists_cons_of_ne_nil Nat.toDigits_ne_nil
  rw [hcons] at hdigits hlength hvalue ⊢
  rw [read_of_isDigit hdigits hlength, hvalue]

/-- After a minus sign there is a digit first. -/
theorem startsWithDigit_of_read {rest : Text} {value : Int} (h : read ('-' :: rest) = .ok value) :
    startsWithDigit rest = true := by
  have hstart : ('-' :: rest).dropWhile isPadding = '-' :: rest :=
    List.dropWhile_cons_of_neg (by decide)
  simp only [read, hstart, takeSign] at h
  cases rest with
  | nil => simp [takeDigits] at h
  | cons c tail =>
    by_cases hmark : c = '_'
    · simp [takeDigits, hmark] at h
    · cases hvalue : digitValue? c with
      | some found => rw [startsWithDigit, hvalue, Option.isSome_some]
      | none => simp [takeDigits, hmark, hvalue] at h

end Numeral

/-- What is written for a number is read as the offset. -/
theorem Offset.read_ofNat {n : Nat} (h : n < Nat.pow 10 Numeral.maxDigits) :
    Offset.read (Text.ofNat n) = .ok n :=
  Offset.read_eq_ok_iff.2 (Numeral.read_ofNat h)

end DocTag
