import DocTag.Log.Level
import DocTag.Text.Uppercase
import Mathlib.Data.List.Basic
import Mathlib.Data.List.Find

/-!
# Names of levels

A level is asked for by its name in upper case, in whatever case it is given (`Level.number`). Upper
case is that of all of Unicode, where a character of any script may become another one or several.
It is enough to look at the capitals of ASCII all the same (`Level.ofName_eq_number`): where a
character becomes anything else, what it becomes stands in no name (`Level.not_isInfix_upperChar`),
and neither does the character itself.
-/

namespace DocTag

/-- What holds of the characters up to a bound, one after the other, holds of all of them. -/
theorem forall_of_toNat_lt {P : Char → Prop} {bound : Nat} (h : ∀ n < bound, P (Char.ofNat n))
    {c : Char} (hc : c.toNat < bound) : P c := by
  have hchar := h c.toNat hc
  rwa [Char.ofNat_toNat] at hchar

namespace Level

/-- The number of the level whose name is a text in upper case. Any other text asks for the level of
`INFO`. -/
def number (name : Text) : Nat :=
  ((named.find? fun entry => entry.1 == Text.upper name).map Prod.snd).getD Severity.info.number

/-! ## Characters of ASCII -/

/-- Of all runs only the first one starts in ASCII. -/
theorem shiftBy_raisings_of_ascii {c : Char} (h : c.toNat < 128) :
    shiftBy raisings c = shiftBy (raisings.take 1) c := by
  have hall : ∀ run ∈ raisings.drop 1, 128 ≤ run.first := by decide +kernel
  have hrest : (raisings.drop 1).find? (·.covers c) = none := by
    rw [List.find?_eq_none]
    intro run hrun hcovers
    have hfirst := hall run hrun
    simp only [Lowering.covers, Bool.and_eq_true, decide_eq_true_eq] at hcovers
    omega
  have hfind : raisings.find? (·.covers c) = (raisings.take 1).find? (·.covers c) := by
    rw [← List.take_append_drop 1 raisings, List.find?_append, hrest, Option.or_none]
    rfl
  rw [shiftBy, hfind]
  rfl

/-- The capitals of ASCII are those of Unicode. -/
theorem upperChar_of_ascii {c : Char} (h : c.toNat < 128) : upperChar c = [capital c] := by
  have hexpansions : expansions.find? (fun entry => entry.1 == c.toNat) = none := by
    have hall : ∀ entry ∈ expansions, 128 ≤ entry.1 := by decide +kernel
    rw [List.find?_eq_none]
    intro entry hentry heq
    have hfirst := hall entry hentry
    rw [beq_iff_eq] at heq
    omega
  have hshift : ∀ n < 128, shiftBy (raisings.take 1) (Char.ofNat n) = capital (Char.ofNat n) := by
    decide +kernel
  rw [upperChar, hexpansions, shiftBy_raisings_of_ascii h]
  exact congrArg ([·]) (forall_of_toNat_lt (P := fun c => shiftBy _ c = capital c) hshift h)

/-- The names consist of characters of ASCII. -/
theorem ascii_of_mem_named {entry : Text × Nat} (h : entry ∈ named) {c : Char}
    (hc : c ∈ entry.1) : c.toNat < 128 := by
  have hall : named.all (fun entry => entry.1.all fun c => c.toNat < 128) = true := by
    decide +kernel
  exact of_decide_eq_true (List.all_eq_true.1 (List.all_eq_true.1 hall entry h) c hc)

/-! ## Other characters -/

theorem capital_of_not_ascii {c : Char} (h : 128 ≤ c.toNat) (hi : c ≠ 'ı') (hs : c ≠ 'ſ') :
    capital c = c := by
  have hsmall : ¬('a'.val ≤ c.val ∧ c.val ≤ 'z'.val) := by
    rintro ⟨-, hle⟩
    have hnat : c.toNat ≤ 122 := UInt32.le_iff_toNat_le.1 hle
    omega
  rw [capital, if_neg hi, if_neg hs]
  exact dif_neg hsmall

/-- Whether a run leads to capitals outside of ASCII. -/
def isForeign (r : Lowering) : Bool :=
  128 ≤ r.first + r.offset &&
    (r.last + r.offset < 0xD800 || 0xE000 ≤ r.first + r.offset && r.last + r.offset < 0x110000)

theorem le_toNat_of_isForeign {run : Lowering} {c : Char} (h : isForeign run = true)
    (hcovers : run.covers c = true) :
    128 ≤ (Char.ofNat (c.toNat + run.offset).toNat).toNat := by
  simp only [isForeign, Bool.and_eq_true, Bool.or_eq_true, decide_eq_true_eq] at h
  simp only [Lowering.covers, Bool.and_eq_true, decide_eq_true_eq] at hcovers
  have hvalid : ((c.toNat : Int) + run.offset).toNat.isValidChar := by
    unfold Nat.isValidChar
    omega
  have hcode : (Char.ofNat (c.toNat + run.offset).toNat).toNat =
      ((c.toNat : Int) + run.offset).toNat := by
    rw [Char.ofNat, dif_pos hvalid]
    rfl
  omega

/-- Of the runs outside of ASCII all lead to capitals outside of it, but those of the dotless i and
of the long s. -/
theorem isForeign_of_covers {run : Lowering} (hrun : run ∈ raisings) {c : Char}
    (hcovers : run.covers c = true) (h : 128 ≤ c.toNat) (hi : c ≠ 'ı') (hs : c ≠ 'ſ') :
    isForeign run = true := by
  have hall : ∀ run ∈ raisings, isForeign run = true ∨ run.last < 128 ∨
      (run.first = 'ı'.toNat ∧ run.last = 'ı'.toNat) ∨
      (run.first = 'ſ'.toNat ∧ run.last = 'ſ'.toNat) := by
    decide +kernel
  simp only [Lowering.covers, Bool.and_eq_true, decide_eq_true_eq] at hcovers
  rcases hall run hrun with hforeign | hascii | ⟨hfirst, hlast⟩ | ⟨hfirst, hlast⟩
  · exact hforeign
  · omega
  · exact absurd (Char.toNat_inj.1 (by omega)) hi
  · exact absurd (Char.toNat_inj.1 (by omega)) hs

theorem le_toNat_shiftBy {c : Char} (h : 128 ≤ c.toNat) (hi : c ≠ 'ı') (hs : c ≠ 'ſ') :
    128 ≤ (shiftBy raisings c).toNat := by
  unfold shiftBy
  split
  · next run hfound =>
    have hcovers : run.covers c = true :=
      List.find?_some (p := fun run : Lowering => run.covers c) hfound
    have hrun : run ∈ raisings := List.mem_of_find?_eq_some hfound
    exact le_toNat_of_isForeign (isForeign_of_covers hrun hcovers h hi hs) hcovers
  · exact h

/-- **What any other character becomes stands in no name.** -/
theorem not_isInfix_upperChar {c : Char} (h : 128 ≤ c.toNat) (hi : c ≠ 'ı') (hs : c ≠ 'ſ')
    {entry : Text × Nat} (hentry : entry ∈ named) : ¬upperChar c <:+: entry.1 := by
  -- Whatever it is, a character outside of ASCII keeps it out of the names.
  have hforeign : ∀ d ∈ upperChar c, 128 ≤ d.toNat → ¬upperChar c <:+: entry.1 := by
    intro d hd hle hstands
    exact Nat.not_lt.2 hle (ascii_of_mem_named hentry (hstands.subset hd))
  revert hforeign
  unfold upperChar
  split
  · next expansion hfound =>
    intro hforeign
    -- Some expansions are of ASCII, but their letters are neighbours in no name.
    have hall : ∀ expansion ∈ expansions, (∃ code ∈ expansion.2, 128 ≤ (Char.ofNat code).toNat) ∨
        ∀ entry ∈ named, ¬expansion.2.map Char.ofNat <:+: entry.1 := by
      decide +kernel
    rcases hall expansion (List.mem_of_find?_eq_some hfound) with ⟨code, hcode, hle⟩ | hnone
    · exact hforeign _ (List.mem_map_of_mem hcode) hle
    · exact hnone entry hentry
  · intro hforeign
    exact hforeign _ List.mem_cons_self (le_toNat_shiftBy h hi hs)

/-- A character either has the capital that is looked at, or neither its capital nor what it becomes
stands in any name. -/
theorem upperChar_cases (c : Char) : upperChar c = [capital c] ∨
    ∀ entry ∈ named, capital c ∉ entry.1 ∧ ¬upperChar c <:+: entry.1 := by
  by_cases hascii : c.toNat < 128
  · exact .inl (upperChar_of_ascii hascii)
  by_cases hi : c = 'ı'
  · subst hi
    exact .inl (by decide +kernel)
  by_cases hs : c = 'ſ'
  · subst hs
    exact .inl (by decide +kernel)
  have h : 128 ≤ c.toNat := Nat.not_lt.1 hascii
  right
  intro entry hentry
  refine ⟨?_, not_isInfix_upperChar h hi hs hentry⟩
  rw [capital_of_not_ascii h hi hs]
  intro hc
  exact Nat.not_lt.2 h (ascii_of_mem_named hentry hc)

/-! ## Names -/

/-- A text has a name for its capitals exactly when it has that name in upper case. -/
theorem eq_map_capital_iff (name : Text) {entry : Text × Nat} (hentry : entry ∈ named) :
    entry.1 = name.map capital ↔ entry.1 = Text.upper name := by
  by_cases hall : ∀ c ∈ name, upperChar c = [capital c]
  · rw [Text.upper, List.flatMap_congr hall, ← List.map_eq_flatMap]
  · -- A character that becomes anything else is in the way of both.
    obtain ⟨c, hc⟩ := not_forall.1 hall
    obtain ⟨hmem, hne⟩ := Classical.not_imp.1 hc
    obtain ⟨hcapital, hupper⟩ := (upperChar_cases c).resolve_left hne entry hentry
    constructor
    · intro heq
      exact absurd (heq ▸ List.mem_map_of_mem hmem) hcapital
    · intro heq
      exact absurd (heq ▸ List.infix_flatMap_of_mem hmem upperChar) hupper

/-- **Levels are named in the upper case of Unicode**, although only the capitals of ASCII are
looked at. -/
theorem ofName_eq_number (name : Text) : ofName name = number name := by
  have hfind : named.find? (fun entry => entry.1 == name.map capital) =
      named.find? (fun entry => entry.1 == Text.upper name) := by
    apply List.find?_congr
    intro entry hentry
    rw [Bool.eq_iff_iff, beq_iff_eq, beq_iff_eq]
    exact eq_map_capital_iff name hentry
  rw [ofName, number, hfind]
  cases named.find? fun entry => entry.1 == Text.upper name <;> rfl

end Level

end DocTag
