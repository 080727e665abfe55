import DocTag.Proofs.Text.Decimal
import Mathlib.Data.List.TakeWhile
import Mathlib.Data.Nat.Digits.Defs

/-!
# The grammar of numerals

A numeral is an optional sign and one or more digits, with at most one underscore between
neighbouring digits and padding around the whole (`Numeral.Spells`). The digits may be those of
different scripts. Reading accepts the numerals that do not have too many digits, and nothing else,
and what it reads is the integer of their sign and digits (`Numeral.read_eq_ok_iff_spells`). So no
integer that is read has more digits than are read (`Numeral.natAbs_lt_of_read`).
-/

namespace DocTag

/-! ## Digits of any script -/

/-- No digit is a blank character. -/
theorem isBlank_of_digitValue? {c : Char} {value : Nat} (h : digitValue? c = some value) :
    isBlank c = false := by
  have hapart : ∀ z ∈ decimalZeros, ∀ range ∈ blankRanges, z + 9 < range.1 ∨ range.2 < z := by
    decide +kernel
  obtain ⟨z, hfound, rfl⟩ := Option.map_eq_some_iff.1 h
  have hz := List.find?_some hfound
  simp only [Bool.and_eq_true, decide_eq_true_eq] at hz
  rw [isBlank, CodeRanges.contains, List.any_eq_false]
  intro range hrange hin
  simp only [Bool.and_eq_true, decide_eq_true_eq] at hin
  have := hapart z (List.mem_of_find?_eq_some hfound) range hrange
  omega

theorem digitValue?_lt {c : Char} {value : Nat} (h : digitValue? c = some value) : value < 10 := by
  obtain ⟨z, hfound, rfl⟩ := Option.map_eq_some_iff.1 h
  have hz := List.find?_some hfound
  simp only [Bool.and_eq_true, decide_eq_true_eq] at hz
  omega

namespace Numeral

variable {c : Char} {value : Nat}

theorem isPadding_of_digitValue? (h : digitValue? c = some value) : isPadding c = false := by
  rw [isPadding, isBlank_of_digitValue? h, Bool.false_and]

theorem digitValue?_of_isPadding (h : isPadding c = true) : digitValue? c = none := by
  cases hvalue : digitValue? c with
  | none => rfl
  | some value => exact absurd ((isPadding_of_digitValue? hvalue).symm.trans h) Bool.false_ne_true

/-- A digit is no character that has no value. -/
theorem ne_of_digitValue? {d : Char} (hc : digitValue? c = some value) (hd : digitValue? d = none) :
    c ≠ d := by
  rintro rfl
  exact Option.some_ne_none value (hc.symm.trans hd)

theorem startsWithDigit_cons (rest : Text) (h : digitValue? c = some value) :
    startsWithDigit (c :: rest) = true := by
  rw [startsWithDigit, h, Option.isSome_some]

theorem exists_of_startsWithDigit {t : Text} (h : startsWithDigit t = true) :
    ∃ c rest value, t = c :: rest ∧ digitValue? c = some value := by
  cases t with
  | nil => exact absurd h Bool.false_ne_true
  | cons c rest =>
    obtain ⟨value, hvalue⟩ := Option.isSome_iff_exists.1 h
    exact ⟨c, rest, value, rfl, hvalue⟩

theorem dropWhile_of_startsWithDigit {t : Text} (h : startsWithDigit t = true) :
    t.dropWhile isPadding = t := by
  obtain ⟨c, rest, value, rfl, hc⟩ := exists_of_startsWithDigit h
  exact List.dropWhile_cons_of_neg (Bool.eq_false_iff.1 (isPadding_of_digitValue? hc))

/-! ## The grammar -/

/-- Digits with these values, the most significant one first, and at most one underscore between
neighbours. -/
inductive Digits : List Nat → Text → Prop
  | last {c : Char} {value : Nat} (hc : digitValue? c = some value) : Digits [value] [c]
  | next {c : Char} {value : Nat} {values : List Nat} {t : Text} (hc : digitValue? c = some value)
      (rest : Digits values t) : Digits (value :: values) (c :: t)
  | grouped {c : Char} {value : Nat} {values : List Nat} {t : Text}
      (hc : digitValue? c = some value) (rest : Digits values t) :
      Digits (value :: values) (c :: '_' :: t)

/-- A sign, which may be left out where it is a plus. -/
inductive Sign : (negative : Bool) → Text → Prop
  | absent : Sign false []
  | plus : Sign false ['+']
  | minus : Sign true ['-']

/-- The numerals with a sign and digits. -/
inductive Spells (negative : Bool) (values : List Nat) : Text → Prop
  | intro {before sign digits after : Text} (hbefore : ∀ c ∈ before, isPadding c = true)
      (hsign : Sign negative sign) (hdigits : Digits values digits)
      (hafter : ∀ c ∈ after, isPadding c = true) :
      Spells negative values (before ++ (sign ++ (digits ++ after)))

/-- The integer with a sign and digits. -/
def signed (negative : Bool) (values : List Nat) : Int :=
  if negative then -(ofDigits values : Int) else ofDigits values

theorem Digits.startsWithDigit {values : List Nat} {t : Text} (h : Digits values t) (rest : Text) :
    startsWithDigit (t ++ rest) = true := by
  cases h with
  | last hc | next hc _ | grouped hc _ => exact startsWithDigit_cons _ hc

theorem Digits.ne_nil {values : List Nat} {t : Text} (h : Digits values t) : values ≠ [] := by
  cases h <;> exact List.cons_ne_nil _ _

theorem Digits.lt {values : List Nat} {t : Text} (h : Digits values t) : ∀ v ∈ values, v < 10 := by
  induction h with
  | last hc => exact List.forall_mem_singleton.2 (digitValue?_lt hc)
  | next hc _ ih | grouped hc _ ih => exact List.forall_mem_cons.2 ⟨digitValue?_lt hc, ih⟩

/-! ## Taking digits -/

theorem takeDigits_cons (grouped : Bool) (rest : Text) (h : digitValue? c = some value) :
    takeDigits grouped (c :: rest) =
      (takeDigits true rest).map fun (values, after) => (value :: values, after) := by
  have hmark : c ≠ '_' := ne_of_digitValue? h (by decide)
  rw [takeDigits, if_neg hmark, h]

theorem takeDigits_underscore {rest : Text} (h : startsWithDigit rest = true) :
    takeDigits true ('_' :: rest) = takeDigits false rest := by
  rw [takeDigits, if_pos rfl, h]
  rfl

theorem takeDigits_of_not_digit (grouped : Bool) (rest : Text) (hmark : c ≠ '_')
    (h : digitValue? c = none) : takeDigits grouped (c :: rest) = some ([], c :: rest) := by
  rw [takeDigits, if_neg hmark, h]

/-- Whether an underscore could come first does not matter before a digit. -/
theorem takeDigits_of_startsWithDigit (grouped grouped' : Bool) {t : Text}
    (h : startsWithDigit t = true) : takeDigits grouped t = takeDigits grouped' t := by
  obtain ⟨c, rest, value, rfl, hc⟩ := exists_of_startsWithDigit h
  rw [takeDigits_cons grouped rest hc, takeDigits_cons grouped' rest hc]

theorem takeDigits_of_padding (grouped : Bool) {after : Text}
    (h : ∀ c ∈ after, isPadding c = true) : takeDigits grouped after = some ([], after) := by
  cases after with
  | nil => rfl
  | cons c rest =>
    have hc := h c List.mem_cons_self
    have hmark : c ≠ '_' := by
      rintro rfl
      exact absurd hc (by decide)
    exact takeDigits_of_not_digit grouped rest hmark (digitValue?_of_isPadding hc)

/-- **Digits are taken**, up to the padding behind them. -/
theorem takeDigits_of_digits {values : List Nat} {t after : Text} (h : Digits values t)
    (hafter : ∀ c ∈ after, isPadding c = true) (grouped : Bool) :
    takeDigits grouped (t ++ after) = some (values, after) := by
  induction h generalizing grouped with
  | last hc =>
    show takeDigits grouped (_ :: after) = _
    rw [takeDigits_cons grouped after hc, takeDigits_of_padding true hafter]
    rfl
  | @next c value values t hc rest ih =>
    show takeDigits grouped (c :: (t ++ after)) = _
    rw [takeDigits_cons grouped _ hc, ih true]
    rfl
  | @grouped c value values t hc rest ih =>
    show takeDigits grouped (c :: '_' :: (t ++ after)) = _
    rw [takeDigits_cons grouped _ hc, takeDigits_underscore (rest.startsWithDigit after), ih false]
    rfl

/-- **What is taken is digits.** Where an underscore may come first, it may stand before them. -/
theorem digits_of_takeDigits {grouped : Bool} {t after : Text} {values : List Nat}
    (h : takeDigits grouped t = some (values, after)) :
    (values = [] ∧ t = after ∧ startsWithDigit t = false) ∨
      ∃ digits, Digits values digits ∧
        (t = digits ++ after ∨ grouped = true ∧ t = '_' :: (digits ++ after)) := by
  induction t generalizing grouped values with
  | nil =>
    obtain ⟨rfl, rfl⟩ := Prod.mk.inj (Option.some.inj h)
    exact .inl ⟨rfl, rfl, rfl⟩
  | cons c rest ih =>
    by_cases hmark : c = '_'
    · subst hmark
      rw [takeDigits, if_pos rfl] at h
      split at h
      · next hallowed =>
        obtain ⟨hgrouped, hstart⟩ := Bool.and_eq_true_iff.1 hallowed
        rcases ih h with ⟨-, -, hnot⟩ | ⟨digits, hdigits, hrest | ⟨hfalse, -⟩⟩
        · exact absurd (hnot.symm.trans hstart) Bool.false_ne_true
        · exact .inr ⟨digits, hdigits, .inr ⟨hgrouped, congrArg ('_' :: ·) hrest⟩⟩
        · exact absurd hfalse Bool.false_ne_true
      · exact absurd h.symm (Option.some_ne_none _)
    · cases hc : digitValue? c with
      | none =>
        rw [takeDigits_of_not_digit grouped rest hmark hc] at h
        obtain ⟨rfl, rfl⟩ := Prod.mk.inj (Option.some.inj h)
        exact .inl ⟨rfl, rfl, by rw [startsWithDigit, hc, Option.isSome_none]⟩
      | some value =>
        rw [takeDigits_cons grouped rest hc] at h
        obtain ⟨⟨others, left⟩, htaken, heq⟩ := Option.map_eq_some_iff.1 h
        obtain ⟨rfl, rfl⟩ := Prod.mk.inj heq
        rcases ih htaken with ⟨rfl, rfl, -⟩ | ⟨digits, hdigits, rfl | ⟨-, rfl⟩⟩
        · exact .inr ⟨[c], .last hc, .inl rfl⟩
        · exact .inr ⟨c :: digits, .next hc hdigits, .inl rfl⟩
        · exact .inr ⟨c :: '_' :: digits, .grouped hc hdigits, .inl rfl⟩

/-! ## Taking signs -/

theorem takeSign_cons_of_ne (hminus : c ≠ '-') (hplus : c ≠ '+') (rest : Text) :
    takeSign (c :: rest) = (false, c :: rest) := by
  unfold takeSign
  split
  · next heq => exact absurd (List.cons.inj heq).1 hminus
  · next heq => exact absurd (List.cons.inj heq).1 hplus
  · rfl

theorem takeSign_of_sign {negative : Bool} {sign t : Text} (h : Sign negative sign)
    (ht : startsWithDigit t = true) : takeSign (sign ++ t) = (negative, t) := by
  cases h with
  | plus | minus => rfl
  | absent =>
    obtain ⟨c, rest, value, rfl, hc⟩ := exists_of_startsWithDigit ht
    exact takeSign_cons_of_ne (ne_of_digitValue? hc (by decide)) (ne_of_digitValue? hc (by decide))
      rest

/-- Neither a sign nor a digit is padding. -/
theorem Sign.dropWhile_append {negative : Bool} {sign t : Text} (h : Sign negative sign)
    (ht : startsWithDigit t = true) : (sign ++ t).dropWhile isPadding = sign ++ t := by
  cases h with
  | plus | minus => exact List.dropWhile_cons_of_neg (by decide)
  | absent => exact dropWhile_of_startsWithDigit ht

theorem sign_of_takeSign {t body : Text} {negative : Bool} (h : takeSign t = (negative, body)) :
    ∃ sign, Sign negative sign ∧ t = sign ++ body := by
  unfold takeSign at h
  split at h <;> obtain ⟨rfl, rfl⟩ := Prod.mk.inj h
  · exact ⟨_, .minus, rfl⟩
  · exact ⟨_, .plus, rfl⟩
  · exact ⟨_, .absent, rfl⟩

/-! ## Reading -/

/-- **When an integer is read**: behind the padding and the sign there are digits, not too many of
them, and then only padding. -/
theorem read_eq_ok_iff_taken {t : Text} {n : Int} :
    read t = .ok n ↔ ∃ negative body values after,
      takeSign (t.dropWhile isPadding) = (negative, body) ∧
      takeDigits false body = some (values, after) ∧ values ≠ [] ∧
      values.length ≤ maxDigits ∧ (∀ c ∈ after, isPadding c = true) ∧
      n = signed negative values := by
  rcases hsign : takeSign (t.dropWhile isPadding) with ⟨negative, body⟩
  cases htaken : takeDigits false body with
  | none => simp [read, hsign, htaken]
  | some taken =>
    obtain ⟨values, after⟩ := taken
    simp only [read, hsign, htaken]
    by_cases hlong : maxDigits < values.length
    · rw [if_pos hlong]
      refine iff_of_false (fun h => by cases h) ?_
      rintro ⟨_, _, _, _, hs, hd, -, hfits, -⟩
      obtain ⟨rfl, rfl⟩ := Prod.mk.inj hs
      rw [htaken] at hd
      obtain ⟨rfl, rfl⟩ := Prod.mk.inj (Option.some.inj hd)
      exact Nat.not_le_of_lt hlong hfits
    · rw [if_neg hlong]
      by_cases hrest : values = [] ∨ ¬ after.all isPadding = true
      · rw [if_pos hrest]
        refine iff_of_false (fun h => by cases h) ?_
        rintro ⟨_, _, _, _, hs, hd, hne, -, hafter, -⟩
        obtain ⟨rfl, rfl⟩ := Prod.mk.inj hs
        rw [htaken] at hd
        obtain ⟨rfl, rfl⟩ := Prod.mk.inj (Option.some.inj hd)
        exact hrest.elim hne fun h => h (List.all_eq_true.2 hafter)
      · rw [if_neg hrest]
        obtain ⟨hne, hafter⟩ := not_or.1 hrest
        constructor
        · intro h
          exact ⟨negative, body, values, after, rfl, htaken, hne, Nat.le_of_not_lt hlong,
            List.all_eq_true.1 (Decidable.of_not_not hafter), (Except.ok.inj h).symm⟩
        · rintro ⟨_, _, _, _, hs, hd, -, -, -, rfl⟩
          obtain ⟨rfl, rfl⟩ := Prod.mk.inj hs
          rw [htaken] at hd
          obtain ⟨rfl, rfl⟩ := Prod.mk.inj (Option.some.inj hd)
          rfl

/-- **Reading accepts exactly the numerals** that do not have too many digits. -/
theorem read_eq_ok_iff_spells {t : Text} {n : Int} :
    read t = .ok n ↔ ∃ negative values, Spells negative values t ∧ values.length ≤ maxDigits ∧
      n = signed negative values := by
  rw [read_eq_ok_iff_taken]
  constructor
  · rintro ⟨negative, body, values, after, hsigned, htaken, hne, hfits, hafter, rfl⟩
    refine ⟨negative, values, ?_, hfits, rfl⟩
    obtain ⟨sign, hsign, hrest⟩ := sign_of_takeSign hsigned
    rcases digits_of_takeDigits htaken with ⟨rfl, -⟩ | ⟨digits, hdigits, rfl | ⟨hfalse, -⟩⟩
    · exact absurd rfl hne
    · rw [← List.takeWhile_append_dropWhile (p := isPadding) (l := t), hrest]
      exact .intro (fun c => List.mem_takeWhile_imp) hsign hdigits hafter
    · exact absurd hfalse Bool.false_ne_true
  · rintro ⟨negative, values, ⟨hbefore, hsign, hdigits, hafter⟩, hfits, rfl⟩
    refine ⟨negative, _, values, _, ?_, takeDigits_of_digits hdigits hafter false, hdigits.ne_nil,
      hfits, hafter, rfl⟩
    rw [List.dropWhile_append_of_pos hbefore,
      hsign.dropWhile_append (hdigits.startsWithDigit _),
      takeSign_of_sign hsign (hdigits.startsWithDigit _)]

/-! ## How large integers are -/

/-- Digits make a number that is written with no more of them. -/
theorem ofDigits_lt {values : List Nat} {width : Nat} (h : ∀ v ∈ values, v < 10)
    (hfits : values.length ≤ width) : ofDigits values < Nat.pow 10 width := by
  have hfold : ofDigits values = Nat.ofDigits 10 values.reverse := by
    rw [Nat.ofDigits_eq_foldr, List.foldr_reverse, ofDigits]
    exact congrArg (fun f => values.foldl f 0) (funext fun n => funext fun v => Nat.add_comm _ _)
  have hlt : Nat.ofDigits 10 values.reverse < 10 ^ values.reverse.length :=
    Nat.ofDigits_lt_base_pow_length (by decide) fun v hv => h v (List.mem_reverse.1 hv)
  rw [hfold]
  rw [List.length_reverse] at hlt
  exact Nat.lt_of_lt_of_le hlt (Nat.pow_le_pow_right (by decide) hfits)

/-- An integer that is read has no more digits than are read. -/
theorem natAbs_lt_of_read {t : Text} {n : Int} (h : read t = .ok n) :
    n.natAbs < Nat.pow 10 maxDigits := by
  obtain ⟨negative, values, ⟨-, -, hdigits, -⟩, hfits, rfl⟩ := read_eq_ok_iff_spells.1 h
  have habs : (signed negative values).natAbs = ofDigits values := by
    cases negative with
    | false => rfl
    | true => exact Int.natAbs_neg _
  rw [habs]
  exact ofDigits_lt hdigits.lt hfits

end Numeral

end DocTag
