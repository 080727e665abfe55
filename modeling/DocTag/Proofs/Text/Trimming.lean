import DocTag.Text.Blank
import Mathlib.Data.List.TakeWhile

/-!
# Trimming

A text is its indent, then what trimming leaves of it, then its trail (`indent_append_trim_append`),
where indent and trail are all the blank characters at its two ends. Two facts carry the rest: blank
characters around a text do not change what trimming leaves (`trim_append_left`,
`trim_append_right`), and a text is trimmed exactly when no blank character stands at either end
(`isTrimmed_iff`).
-/

namespace DocTag.Text

/-- The blank characters that a text starts with. -/
def indent (t : Text) : Text := t.takeWhile isBlank

/-- The blank characters that a text ends with. -/
def trail (t : Text) : Text := (t.reverse.takeWhile isBlank).reverse

/-! ## Blank texts -/

theorem blank_iff {t : Text} : blank t = true ↔ ∀ c ∈ t, isBlank c = true :=
  List.all_eq_true

@[simp] theorem blank_append {s t : Text} :
    blank (s ++ t) = true ↔ blank s = true ∧ blank t = true := by
  simp only [blank, List.all_append, Bool.and_eq_true]

theorem blank_reverse {t : Text} : blank t.reverse = blank t := List.all_reverse

theorem not_mem_of_blank {t : Text} {c : Char} (h : blank t = true) (hc : isBlank c = false) :
    c ∉ t := by
  intro hmem
  rw [blank_iff.1 h c hmem] at hc
  exact Bool.noConfusion hc

theorem blank_indent (t : Text) : blank (indent t) = true :=
  blank_iff.2 fun _ h => List.mem_takeWhile_imp h

theorem blank_trail (t : Text) : blank (trail t) = true := by
  rw [trail, blank_reverse]
  exact blank_indent t.reverse

/-! ## The pieces of a text -/

theorem indent_append_trimLeft (t : Text) : indent t ++ trimLeft t = t :=
  List.takeWhile_append_dropWhile

theorem trimRight_append_trail (t : Text) : trimRight t ++ trail t = t := by
  rw [trimRight, trail, ← List.reverse_append, List.takeWhile_append_dropWhile,
    List.reverse_reverse]

/-- Text in front of one that is not blank does not reach into its trail. -/
theorem trail_append {s t : Text} (h : blank t = false) : trail (s ++ t) = trail t := by
  have hshort : (t.reverse.takeWhile isBlank).length ≠ t.reverse.length := by
    intro hlen
    have hall : t.reverse.takeWhile isBlank = t.reverse :=
      (List.takeWhile_prefix isBlank).eq_of_length hlen
    have hblank : blank t.reverse = true := blank_iff.2 (List.takeWhile_eq_self_iff.1 hall)
    rw [blank_reverse, h] at hblank
    exact Bool.noConfusion hblank
  rw [trail, List.reverse_append, List.takeWhile_append, if_neg hshort, trail]

theorem blank_trimLeft {t : Text} : blank (trimLeft t) = blank t := by
  rw [Bool.eq_iff_iff]
  constructor
  · intro h
    rw [← indent_append_trimLeft t]
    exact blank_append.2 ⟨blank_indent t, h⟩
  · intro h
    rw [trimLeft_eq_nil_iff.2 h]
    rfl

/-- A text that is not blank is its indent, its trimmed form and its trail. -/
theorem indent_append_trim_append {t : Text} (h : blank t = false) :
    indent t ++ trim t ++ trail t = t := by
  have htrail : trail (trimLeft t) = trail t := by
    rw [← trail_append (s := indent t) (blank_trimLeft.trans h), indent_append_trimLeft]
  rw [List.append_assoc, trim, ← htrail, trimRight_append_trail, indent_append_trimLeft]

/-- Trimming takes blank characters off the ends of a text, and nothing else. -/
theorem exists_padding (t : Text) :
    ∃ before after, t = before ++ trim t ++ after ∧ blank before = true ∧ blank after = true := by
  cases h : blank t with
  | true => exact ⟨t, [], by simp [trim_eq_nil_iff.2 h], h, rfl⟩
  | false => exact ⟨_, _, (indent_append_trim_append h).symm, blank_indent t, blank_trail t⟩

theorem mem_of_mem_trim {t : Text} {c : Char} (h : c ∈ trim t) : c ∈ t := by
  obtain ⟨before, after, ht, -, -⟩ := exists_padding t
  rw [ht]
  exact List.mem_append_left _ (List.mem_append_right _ h)

/-! ## Padding a text -/

theorem trimLeft_append_left {w : Text} (t : Text) (h : blank w = true) :
    trimLeft (w ++ t) = trimLeft t :=
  List.dropWhile_append_of_pos (blank_iff.1 h)

theorem trimRight_append_right {w : Text} (t : Text) (h : blank w = true) :
    trimRight (t ++ w) = trimRight t := by
  have hr : blank w.reverse = true := blank_reverse.trans h
  rw [trimRight_eq, List.reverse_append, trimLeft_append_left _ hr, trimRight_eq]

theorem trim_append_left {w : Text} (t : Text) (h : blank w = true) :
    trim (w ++ t) = trim t := by
  rw [trim, trimLeft_append_left t h, trim]

theorem trim_append_right {w : Text} (t : Text) (h : blank w = true) :
    trim (t ++ w) = trim t := by
  cases ht : blank t with
  | true => rw [trim_eq_nil_iff.2 ht, trim_eq_nil_iff.2 (blank_append.2 ⟨ht, h⟩)]
  | false =>
    have hstop : trimLeft (t ++ w) = trimLeft t ++ w := by
      have hne : (trimLeft t).isEmpty = false := by
        rw [List.isEmpty_eq_false_iff, Ne, trimLeft_eq_nil_iff, ht]
        exact Bool.noConfusion
      rw [trimLeft, List.dropWhile_append, ← trimLeft, hne]
      rfl
    rw [trim, hstop, trimRight_append_right _ h, trim]

theorem trim_trimRight (t : Text) : trim (trimRight t) = trim t := by
  rw [← trim_append_right (trimRight t) (blank_trail t), trimRight_append_trail]

theorem trim_trimLeft (t : Text) : trim (trimLeft t) = trim t := by
  rw [← trim_append_left (trimLeft t) (blank_indent t), indent_append_trimLeft]

/-! ## Trimmed texts -/

theorem isTrimmed_eq {t : Text} : isTrimmed t = true ↔ trim t = t := beq_iff_eq

theorem trimLeft_eq_self_iff {t : Text} :
    trimLeft t = t ↔ ∀ c ∈ t.head?, isBlank c = false := by
  cases t with
  | nil => simp [trimLeft]
  | cons c rest =>
    simp only [List.head?_cons, Option.mem_some_iff, forall_eq']
    exact ⟨trimLeft_head, trimLeft_eq_self_of_head⟩

theorem trimRight_eq_self_iff {t : Text} :
    trimRight t = t ↔ ∀ c ∈ t.getLast?, isBlank c = false := by
  rw [trimRight_eq, List.reverse_eq_iff, trimLeft_eq_self_iff, List.head?_reverse]

theorem trimLeft_append_cons (s : Text) {c : Char} (t : Text) (h : isBlank c = false) :
    trimLeft (s ++ c :: t) = trimLeft s ++ c :: t := by
  have hstop : (c :: t).dropWhile isBlank = c :: t := trimLeft_eq_self_of_head h
  rw [trimLeft, trimLeft, List.dropWhile_append, hstop]
  split
  · next hempty => rw [List.isEmpty_iff.1 hempty, List.nil_append]
  · rfl

theorem trimRight_append_cons (s : Text) {c : Char} (t : Text) (h : isBlank c = false) :
    trimRight (s ++ c :: t) = s ++ c :: trimRight t := by
  have hreverse : (s ++ c :: t).reverse = t.reverse ++ c :: s.reverse := by
    rw [List.reverse_append, List.reverse_cons, List.append_assoc, List.singleton_append]
  rw [trimRight_eq, hreverse, trimLeft_append_cons _ _ h, List.reverse_append, List.reverse_cons,
    List.reverse_reverse, List.append_assoc, List.singleton_append, ← trimRight_eq]

/-- Around a character that is not blank, each side of a text is trimmed by itself. -/
theorem trim_append_cons (s : Text) {c : Char} (t : Text) (h : isBlank c = false) :
    trim (s ++ c :: t) = trimLeft s ++ c :: trimRight t := by
  rw [trim, trimLeft_append_cons s t h, trimRight_append_cons _ t h]

/-- Nothing is trimmed off in front of a character that is not blank. -/
theorem trim_cons {c : Char} (t : Text) (h : isBlank c = false) :
    trim (c :: t) = c :: trimRight t := trim_append_cons [] t h

theorem head?_trimRight {t : Text} {c : Char} (h : c ∈ (trimRight t).head?) : c ∈ t.head? := by
  rw [← trimRight_append_trail t, List.head?_append, Option.mem_def.1 h]
  rfl

/-- What trimming leaves neither starts nor ends with a blank character. -/
theorem trim_ends (t : Text) :
    (∀ c ∈ (trim t).head?, isBlank c = false) ∧ ∀ c ∈ (trim t).getLast?, isBlank c = false := by
  constructor
  · intro c hc
    exact trimLeft_eq_self_iff.1 (trimLeft_trimLeft t) c (head?_trimRight hc)
  · exact trimRight_eq_self_iff.1 (trimRight_trimRight _)

/-- **A text is trimmed** exactly when no blank character stands at either end. -/
theorem isTrimmed_iff {t : Text} :
    isTrimmed t = true ↔
      (∀ c ∈ t.head?, isBlank c = false) ∧ ∀ c ∈ t.getLast?, isBlank c = false := by
  rw [isTrimmed_eq]
  constructor
  · intro h
    rw [← h]
    exact trim_ends t
  · rintro ⟨hhead, hlast⟩
    rw [trim, trimLeft_eq_self_iff.2 hhead, trimRight_eq_self_iff.2 hlast]

theorem isTrimmed_trim (t : Text) : isTrimmed (trim t) = true :=
  isTrimmed_iff.2 (trim_ends t)

theorem isTrimmed_enclosed {first last : Char} (inside : Text) (hfirst : isBlank first = false)
    (hlast : isBlank last = false) : isTrimmed (first :: inside ++ [last]) = true := by
  rw [isTrimmed_iff, List.getLast?_append, List.getLast?_singleton, Option.some_or]
  constructor
  · rintro c ⟨⟩
    exact hfirst
  · rintro c ⟨⟩
    exact hlast

/-- Blank characters around a trimmed text are all that trimming takes. -/
theorem trim_padded {before t after : Text} (hbefore : blank before = true)
    (hafter : blank after = true) (h : isTrimmed t = true) : trim (before ++ t ++ after) = t := by
  rw [trim_append_right _ hafter, trim_append_left _ hbefore, isTrimmed_eq.1 h]

end DocTag.Text
