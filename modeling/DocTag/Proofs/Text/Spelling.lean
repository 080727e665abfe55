import DocTag.Proofs.Text.Numeral

/-!
# Spelling a numeral in another way

A numeral can be spelled in many ways. Underscores between digits, zeros in front, a plus sign,
padding and the script of a digit do not change what is read (`Numeral.read_of_respelled`).

Underscores and scripts are a matter of the digits, whatever stands before them: where a text is
read, its tail can be replaced by one from which the same digits are taken
(`Numeral.read_append_congr`).
-/

namespace DocTag.Numeral

/-! ## Counting digits -/

/-- The number of digits in a text. -/
def digitCount (t : Text) : Nat := t.countP fun c => (digitValue? c).isSome

theorem Digits.digitCount_eq {values : List Nat} {t : Text} (h : Digits values t) :
    digitCount t = values.length := by
  induction h with
  | last hc => simp [digitCount, hc]
  | next hc _ ih =>
    rw [digitCount] at ih ⊢
    simp [hc, ih]
  | grouped hc _ ih =>
    have hmark : digitValue? '_' = none := by decide
    rw [digitCount] at ih ⊢
    simp [hc, hmark, ih]

/-- No more digits are taken than there are. -/
theorem length_le_digitCount {t after : Text} {values : List Nat}
    (h : takeDigits false t = some (values, after)) : values.length ≤ digitCount t := by
  rcases digits_of_takeDigits h with ⟨rfl, -⟩ | ⟨digits, hdigits, rfl | ⟨hfalse, -⟩⟩
  · exact Nat.zero_le _
  · rw [← hdigits.digitCount_eq, digitCount, digitCount, List.countP_append]
    exact Nat.le_add_right _ _
  · exact absurd hfalse Bool.false_ne_true

/-- What stands before the first digit keeps digits from being taken. -/
theorem eq_nil_of_takeDigits {before t after : Text} {values : List Nat}
    (hbefore : digitCount before = 0) (h : takeDigits false (before ++ t) = some (values, after))
    (hne : values ≠ []) : before = [] := by
  cases before with
  | nil => rfl
  | cons c rest =>
    have hc : digitValue? c = none := by
      have := List.countP_eq_zero.1 hbefore c List.mem_cons_self
      simpa using this
    by_cases hmark : c = '_'
    · subst hmark
      exact absurd h.symm (Option.some_ne_none _)
    · rw [List.cons_append, takeDigits_of_not_digit false _ hmark hc] at h
      exact absurd (Prod.mk.inj (Option.some.inj h)).1.symm hne

/-- Taking padding and a sign off makes no digits. -/
theorem digitCount_takeSign {t : Text} (h : digitCount t = 0) :
    digitCount (takeSign (t.dropWhile isPadding)).2 = 0 := by
  obtain ⟨sign, -, hdrop⟩ := sign_of_takeSign (t := t.dropWhile isPadding) rfl
  have hsubset : (takeSign (t.dropWhile isPadding)).2 ⊆ t := fun c hc =>
    (List.dropWhile_suffix isPadding).subset (hdrop ▸ List.mem_append_right sign hc)
  exact List.countP_eq_zero.2 fun c hc => List.countP_eq_zero.1 h c (hsubset hc)

/-! ## Other spellings -/

/-- **One way in which a numeral is spelled otherwise**, without a change of what is read. -/
inductive Respelled : Text → Text → Prop
  /-- An underscore is put between two digits. -/
  | grouped (before after : Text) {a b : Char} (ha : (digitValue? a).isSome = true)
      (hb : (digitValue? b).isSome = true) :
      Respelled (before ++ a :: b :: after) (before ++ a :: '_' :: b :: after)
  /-- A zero is put before the first digit, and the digits do not become too many. -/
  | zero (before after : Text) {a z : Char} (hbefore : digitCount before = 0)
      (ha : (digitValue? a).isSome = true) (hz : digitValue? z = some 0)
      (hfits : digitCount (before ++ z :: a :: after) ≤ maxDigits) :
      Respelled (before ++ a :: after) (before ++ z :: a :: after)
  /-- A plus sign is put before the first digit, which has nothing but padding before it. -/
  | plus (before after : Text) {a : Char} (hbefore : ∀ c ∈ before, isPadding c = true)
      (ha : (digitValue? a).isSome = true) :
      Respelled (before ++ a :: after) (before ++ '+' :: a :: after)
  /-- Padding is put around the text. -/
  | padded (before t after : Text) (hbefore : ∀ c ∈ before, isPadding c = true)
      (hafter : ∀ c ∈ after, isPadding c = true) : Respelled t (before ++ (t ++ after))
  /-- A digit gives way to one of the same value, of another script. -/
  | script (before after : Text) {a b : Char} {value : Nat} (ha : digitValue? a = some value)
      (hb : digitValue? b = some value) : Respelled (before ++ a :: after) (before ++ b :: after)

/-! ## Tails -/

theorem takeSign_append (before : Text) {t : Text} (ht : startsWithDigit t = true) :
    takeSign (before ++ t) = ((takeSign before).1, (takeSign before).2 ++ t) := by
  cases before with
  | nil => exact takeSign_of_sign .absent ht
  | cons c rest =>
    by_cases hminus : c = '-'
    · subst hminus
      rfl
    · by_cases hplus : c = '+'
      · subst hplus
        rfl
      · rw [List.cons_append, takeSign_cons_of_ne hminus hplus, takeSign_cons_of_ne hminus hplus]
        rfl

/-- Padding and a sign in front are told before a digit comes. -/
theorem takeSign_dropWhile_append (before : Text) {t : Text} (ht : startsWithDigit t = true) :
    takeSign ((before ++ t).dropWhile isPadding) =
      ((takeSign (before.dropWhile isPadding)).1,
        (takeSign (before.dropWhile isPadding)).2 ++ t) := by
  have hdrop : (before ++ t).dropWhile isPadding = before.dropWhile isPadding ++ t := by
    rw [List.dropWhile_append, dropWhile_of_startsWithDigit ht]
    split
    · next hempty => rw [List.isEmpty_iff.1 hempty, List.nil_append]
    · rfl
  rw [hdrop, takeSign_append _ ht]

section Tails

variable {t t' : Text} (ht : startsWithDigit t = true) (ht' : startsWithDigit t' = true)
  (hsame : ∀ grouped, takeDigits grouped t' = takeDigits grouped t)

include ht ht' hsame

/-- What is taken up to some padding does not change with a tail from which the same is taken. -/
theorem takeDigits_append_congr (before : Text) {grouped : Bool} {values : List Nat} {after : Text}
    (hafter : ∀ c ∈ after, isPadding c = true)
    (htaken : takeDigits grouped (before ++ t) = some (values, after)) :
    takeDigits grouped (before ++ t') = some (values, after) := by
  induction before generalizing grouped values with
  | nil => exact (hsame grouped).trans htaken
  | cons c rest ih =>
    by_cases hmark : c = '_'
    · subst hmark
      have hstart : startsWithDigit (rest ++ t') = startsWithDigit (rest ++ t) := by
        cases rest with
        | nil => exact ht'.trans ht.symm
        | cons d others => rfl
      rw [List.cons_append, takeDigits, if_pos rfl] at htaken ⊢
      rw [hstart]
      split at htaken
      · next hallowed =>
        rw [if_pos hallowed]
        exact ih htaken
      · exact absurd htaken.symm (Option.some_ne_none _)
    · cases hc : digitValue? c with
      | some value =>
        rw [List.cons_append, takeDigits_cons grouped _ hc] at htaken ⊢
        obtain ⟨⟨others, left⟩, hrest, heq⟩ := Option.map_eq_some_iff.1 htaken
        obtain ⟨rfl, rfl⟩ := Prod.mk.inj heq
        rw [ih hrest]
        rfl
      | none =>
        -- Nothing is taken here, so a digit would be left over.
        rw [List.cons_append, takeDigits_of_not_digit grouped _ hmark hc] at htaken
        obtain ⟨-, rfl⟩ := Prod.mk.inj (Option.some.inj htaken)
        obtain ⟨d, others, value, rfl, hd⟩ := exists_of_startsWithDigit ht
        have hpadding :=
          hafter d (List.mem_cons_of_mem c (List.mem_append_right _ List.mem_cons_self))
        exact absurd ((isPadding_of_digitValue? hd).symm.trans hpadding) Bool.false_ne_true

/-- What is read does not change with a tail from which the same is taken. -/
theorem read_append_congr (before : Text) {n : Int} (h : read (before ++ t) = .ok n) :
    read (before ++ t') = .ok n := by
  obtain ⟨negative, body, values, after, hsign, htaken, hne, hfits, hafter, hvalue⟩ :=
    read_eq_ok_iff_taken.1 h
  rw [takeSign_dropWhile_append before ht] at hsign
  obtain ⟨rfl, rfl⟩ := Prod.mk.inj hsign
  exact read_eq_ok_iff_taken.2 ⟨_, _, values, after, takeSign_dropWhile_append before ht',
    takeDigits_append_congr ht ht' hsame _ hafter htaken, hne, hfits, hafter, hvalue⟩

end Tails

/-! ## The same integer -/

/-- Padding around a numeral belongs to it. -/
theorem Spells.padded {negative : Bool} {values : List Nat} {before t after : Text}
    (h : Spells negative values t) (hbefore : ∀ c ∈ before, isPadding c = true)
    (hafter : ∀ c ∈ after, isPadding c = true) :
    Spells negative values (before ++ (t ++ after)) := by
  obtain ⟨hfront, hsign, hdigits, hback⟩ := h
  have hspells := Spells.intro (List.forall_mem_append.2 ⟨hbefore, hfront⟩) hsign hdigits
    (List.forall_mem_append.2 ⟨hback, hafter⟩)
  simpa only [List.append_assoc] using hspells

/-- **A numeral that is spelled otherwise is read as the same integer.** -/
theorem read_of_respelled {t t' : Text} {n : Int} (h : Respelled t t') (hread : read t = .ok n) :
    read t' = .ok n := by
  cases h with
  | @grouped before after a b ha hb =>
    obtain ⟨value, hvalue⟩ := Option.isSome_iff_exists.1 ha
    refine read_append_congr (startsWithDigit_cons _ hvalue) (startsWithDigit_cons _ hvalue)
      (fun grouped => ?_) before hread
    have hstart : startsWithDigit (b :: after) = true := hb
    rw [takeDigits_cons grouped _ hvalue, takeDigits_cons grouped _ hvalue,
      takeDigits_underscore hstart, takeDigits_of_startsWithDigit false true hstart]
  | @zero before after a z hbefore ha hz hfits =>
    have hstart : startsWithDigit (a :: after) = true := ha
    obtain ⟨negative, body, values, rest, hsign, htaken, hne, -, hrest, rfl⟩ :=
      read_eq_ok_iff_taken.1 hread
    rw [takeSign_dropWhile_append before hstart] at hsign
    obtain ⟨rfl, rfl⟩ := Prod.mk.inj hsign
    -- A numeral has nothing but padding and a sign before its first digit.
    have hnone := eq_nil_of_takeDigits (digitCount_takeSign hbefore) htaken hne
    rw [hnone, List.nil_append] at htaken
    have hzero : takeDigits false (z :: a :: after) = some (0 :: values, rest) := by
      rw [takeDigits_cons false _ hz, takeDigits_of_startsWithDigit true false hstart, htaken]
      rfl
    refine read_eq_ok_iff_taken.2 ⟨_, _, 0 :: values, rest,
      takeSign_dropWhile_append before (startsWithDigit_cons _ hz), ?_, List.cons_ne_nil _ _,
      ?_, hrest, ?_⟩
    · rw [hnone]
      exact hzero
    · have hcount := length_le_digitCount hzero
      rw [digitCount, List.countP_append] at hfits
      exact Nat.le_trans hcount (Nat.le_trans (Nat.le_add_left _ _) hfits)
    · have hsame : ofDigits (0 :: values) = ofDigits values := rfl
      rw [signed, signed, hsame]
  | @plus before after a hbefore ha =>
    have hstart : startsWithDigit (a :: after) = true := ha
    obtain ⟨negative, body, values, rest, hsign, htaken⟩ := read_eq_ok_iff_taken.1 hread
    have hplain : takeSign (a :: after) = (false, a :: after) := takeSign_of_sign .absent hstart
    rw [List.dropWhile_append_of_pos hbefore, dropWhile_of_startsWithDigit hstart, hplain] at hsign
    refine read_eq_ok_iff_taken.2 ⟨negative, body, values, rest, ?_, htaken⟩
    rw [List.dropWhile_append_of_pos hbefore, List.dropWhile_cons_of_neg (by decide)]
    exact hsign
  | padded before t after hbefore hafter =>
    obtain ⟨negative, values, hspells, hfits, rfl⟩ := read_eq_ok_iff_spells.1 hread
    exact read_eq_ok_iff_spells.2
      ⟨negative, values, hspells.padded hbefore hafter, hfits, rfl⟩
  | @script before after a b value ha hb =>
    refine read_append_congr (startsWithDigit_cons after ha) (startsWithDigit_cons after hb)
      (fun grouped => ?_) before hread
    rw [takeDigits_cons grouped after ha, takeDigits_cons grouped after hb]

end DocTag.Numeral
