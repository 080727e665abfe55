import DocTag.Proofs.Json.RoundTrip
import DocTag.Text.Quoted

/-!
# Reading quoted texts

A reader for quoted texts, written without regard to how they are quoted. A text stands between two
quotation marks of one of the two sorts. A character in it stands for itself, after a backslash, or
as a number of hexadecimal digits of either case, and three letters after a backslash stand for
control characters.

A quoted text is read back as itself, whatever follows it (`readQuoted_quote`), so a text that goes
on after a quoted text can be taken apart in one way only (`quote_append_inj`). All characters of a
quoted text are shown as they are (`isShown_quote`), and such a text stays on the line that it
starts on (`IsShown.staysOnLine`).
-/

namespace DocTag.Text

/-! ## Reading -/

/-- The number that some hexadecimal digits stand for. -/
def hexNumber? (digits : Text) : Option Nat :=
  digits.foldlM (fun value c => (Json.hexValue? c).map (value * 16 + ·)) 0

/-- Reads a character whose code point is given by so many hexadecimal digits. -/
def readHex (width : Nat) (t : Text) : Option (Char × Text) :=
  (hexNumber? (t.take width)).map fun n => (Char.ofNat n, t.drop width)

/-- Reads on from a backslash: one character, and what follows it. -/
def readEscape : Text → Option (Char × Text)
  | [] => none
  | 'n' :: rest => some ('\n', rest)
  | 'r' :: rest => some ('\r', rest)
  | 't' :: rest => some ('\t', rest)
  | 'x' :: rest => readHex 2 rest
  | 'u' :: rest => readHex 4 rest
  | 'U' :: rest => readHex 8 rest
  | c :: rest => some (c, rest)

/-- Reads one character between quotation marks. -/
def readCharacter : Text → Option (Char × Text)
  | [] => none
  | c :: rest => if c = '\\' then readEscape rest else some (c, rest)

/-- Reads on from an opening mark: the text up to the closing one, and what follows that. -/
def readQuotedBody (mark : Char) : (steps : Nat) → Text → Option (Text × Text)
  | 0, _ => none
  | steps + 1, t =>
    if t.head? = some mark then some ([], t.tail) else
      match readCharacter t with
      | none => none
      | some (c, rest) => (readQuotedBody mark steps rest).map (Json.prepend c)

/-- Reads a quoted text off the start of a text: the text in the quotes, and what follows them. -/
def readQuoted : Text → Option (Text × Text)
  | [] => none
  | mark :: rest =>
    if mark = '\'' ∨ mark = '"' then readQuotedBody mark rest.length rest else none

/-! ## Reading what was quoted -/

/-- Hexadecimal digits are read back as the number that they are the last digits of. -/
theorem hexNumber?_hex (width n : Nat) :
    hexNumber? (hex width n) = some (n % Nat.pow 16 width) := by
  induction width generalizing n with
  | zero =>
    rw [Nat.pow_eq, Nat.pow_zero, Nat.mod_one]
    rfl
  | succ width ih =>
    have hfront : (hex width (n / 16)).foldlM
        (fun value c => (Json.hexValue? c).map (value * 16 + ·)) 0 =
          some (n / 16 % Nat.pow 16 width) := ih (n / 16)
    have hlast := Json.hexValue?_digitChar (n % 16) (Nat.mod_lt n (by decide))
    have hsplit : n / 16 % Nat.pow 16 width * 16 + n % 16 = n % Nat.pow 16 (width + 1) := by
      rw [Nat.pow_eq, Nat.pow_eq, Nat.pow_succ, Nat.mul_comm (16 ^ width), Nat.mod_mul]
      omega
    rw [hexNumber?, hex, List.foldlM_append, hfront]
    show ((Json.hexValue? _).map _).bind some = _
    rw [hlast]
    exact congrArg some hsplit

/-- A code point is read back from enough digits. -/
theorem readHex_hex {width : Nat} {c : Char} (rest : Text) (h : c.toNat < Nat.pow 16 width) :
    readHex width (hex width c.toNat ++ rest) = some (c, rest) := by
  have htake : (hex width c.toNat ++ rest).take width = hex width c.toNat :=
    List.take_left' (length_hex width c.toNat)
  have hdrop : (hex width c.toNat ++ rest).drop width = rest :=
    List.drop_left' (length_hex width c.toNat)
  rw [readHex, htake, hdrop, hexNumber?_hex, Nat.mod_eq_of_lt h, Option.map_some, Char.ofNat_toNat]

/-! ## Characters that are shown -/

/-- The control characters, and the separators of lines and of paragraphs. -/
def lineBreakingRanges : CodeRanges := [(0x00, 0x1F), (0x7F, 0x9F), (0x2028, 0x2029)]

/-- Whether a text has neither a control character nor a separator of lines. -/
def StaysOnLine (t : Text) : Prop := ∀ c ∈ t, lineBreakingRanges.contains c = false

/-- Whether all characters of a text are shown as they are. -/
def IsShown (t : Text) : Prop := ∀ c ∈ t, isPrintable c = true

/-- No control character and no separator of lines is shown as it is. -/
theorem isPrintable_of_lineBreaking {c : Char} (h : lineBreakingRanges.contains c = true) :
    isPrintable c = false := by
  have hcovered : ∀ range ∈ lineBreakingRanges,
      ∃ wider ∈ unprintableRanges, wider.1 ≤ range.1 ∧ range.2 ≤ wider.2 := by
    decide +kernel
  obtain ⟨range, hrange, hc⟩ := List.any_eq_true.1 h
  obtain ⟨wider, hwider, hfirst, hlast⟩ := hcovered range hrange
  rw [Bool.and_eq_true, decide_eq_true_eq, decide_eq_true_eq] at hc
  exact isPrintable_eq_false hwider (hfirst.trans hc.1) (hc.2.trans hlast)

/-- **A text that is shown as it is stays on its line.** -/
theorem IsShown.staysOnLine {t : Text} (h : t.IsShown) : t.StaysOnLine := by
  intro c hc
  rw [← Bool.not_eq_true]
  intro hbreaks
  exact Bool.false_ne_true ((isPrintable_of_lineBreaking hbreaks).symm.trans (h c hc))

theorem StaysOnLine.not_mem_lineFeed {t : Text} (h : t.StaysOnLine) : '\n' ∉ t := fun hmem =>
  absurd (h '\n' hmem) (by decide)

/-- Whether all characters of a text are visible ones of ASCII, or the space. -/
def isAscii (t : Text) : Bool := t.all fun c => 0x20 ≤ c.toNat && c.toNat < 0x7F

/-- The visible characters of ASCII and the space are shown as they are. -/
theorem isShown_of_isAscii {t : Text} (h : t.isAscii = true) : t.IsShown := by
  have houtside : ∀ range ∈ unprintableRanges, range.2 < 0x20 ∨ 0x7F ≤ range.1 := by
    decide +kernel
  intro c hc
  have hascii := List.all_eq_true.1 h c hc
  rw [Bool.and_eq_true, decide_eq_true_eq, decide_eq_true_eq] at hascii
  rw [isPrintable, Bool.not_eq_true', CodeRanges.contains, List.any_eq_false]
  intro range hrange
  rw [Bool.and_eq_true, decide_eq_true_eq, decide_eq_true_eq]
  rcases houtside range hrange with hlast | hfirst <;> omega

theorem IsShown.append {s t : Text} (hs : s.IsShown) (ht : t.IsShown) : (s ++ t).IsShown :=
  fun c hc => (List.mem_append.1 hc).elim (hs c) (ht c)

theorem isShown_hex (width n : Nat) : (hex width n).IsShown := by
  have hdigit : ∀ d < 16, isAscii [Nat.digitChar d] = true := by decide
  induction width generalizing n with
  | zero => exact fun c hc => absurd hc List.not_mem_nil
  | succ width ih =>
    exact (ih (n / 16)).append (isShown_of_isAscii (hdigit _ (Nat.mod_lt n (by decide))))

/-! ## Characters inside quotes -/

theorem quoteMark_cases (t : Text) : quoteMark t = '\'' ∨ quoteMark t = '"' := by
  rw [quoteMark]
  split
  · exact .inr rfl
  · exact .inl rfl

section Marks

variable {mark : Char} (hmark : mark = '\'' ∨ mark = '"')

include hmark in
/-- **What stands for a character inside quotes** is a backslash with a code that is read back as
the character, or the character itself. -/
theorem escapeIn_cases (c : Char) :
    (∃ code, escapeIn mark c = '\\' :: code ∧ IsShown code ∧
      ∀ rest, readEscape (code ++ rest) = some (c, rest)) ∨
    (escapeIn mark c = [c] ∧ c ≠ mark ∧ c ≠ '\\' ∧ isPrintable c = true) := by
  unfold escapeIn
  split
  · next h =>
    refine .inl ⟨[c], rfl, ?_⟩
    rcases h with rfl | rfl
    · rcases hmark with rfl | rfl
      · exact ⟨isShown_of_isAscii (by decide), fun _ => rfl⟩
      · exact ⟨isShown_of_isAscii (by decide), fun _ => rfl⟩
    · exact ⟨isShown_of_isAscii (by decide), fun _ => rfl⟩
  split
  · next h => exact .inl ⟨['n'], rfl, isShown_of_isAscii (by decide), fun _ => h ▸ rfl⟩
  split
  · next h => exact .inl ⟨['r'], rfl, isShown_of_isAscii (by decide), fun _ => h ▸ rfl⟩
  split
  · next h => exact .inl ⟨['t'], rfl, isShown_of_isAscii (by decide), fun _ => h ▸ rfl⟩
  split
  · next hplain _ _ _ h =>
    exact .inr ⟨rfl, fun hc => hplain (.inl hc), fun hc => hplain (.inr hc), h⟩
  split
  · next h =>
    have hcode : IsShown (['x'] ++ hex 2 c.toNat) :=
      (isShown_of_isAscii (by decide)).append (isShown_hex 2 _)
    exact .inl ⟨_, rfl, hcode, fun rest => readHex_hex rest h⟩
  split
  · next h =>
    have hcode : IsShown (['u'] ++ hex 4 c.toNat) :=
      (isShown_of_isAscii (by decide)).append (isShown_hex 4 _)
    exact .inl ⟨_, rfl, hcode, fun rest => readHex_hex rest h⟩
  · have hvalid : c.toNat < 0xD800 ∨ 0xDFFF < c.toNat ∧ c.toNat < 0x110000 := c.valid
    have hpoint : c.toNat < 0x100000000 := by omega
    have hcode : IsShown (['U'] ++ hex 8 c.toNat) :=
      (isShown_of_isAscii (by decide)).append (isShown_hex 8 _)
    exact .inl ⟨_, rfl, hcode, fun rest => readHex_hex rest hpoint⟩

include hmark in
/-- **A character is read back from what stands for it**, which does not start with the mark that
would close the quotes. -/
theorem readCharacter_escapeIn (c : Char) (rest : Text) :
    readCharacter (escapeIn mark c ++ rest) = some (c, rest) ∧
      (escapeIn mark c ++ rest).head? ≠ some mark := by
  rcases escapeIn_cases hmark c with ⟨code, hescape, -, hread⟩ | ⟨hescape, hne, hslash, -⟩
  · have hopen : '\\' ≠ mark := by rcases hmark with rfl | rfl <;> decide
    rw [hescape]
    exact ⟨hread rest, fun hhead => hopen (Option.some.inj hhead)⟩
  · rw [hescape]
    exact ⟨if_neg hslash, fun hhead => hne (Option.some.inj hhead)⟩

include hmark in
/-- What stands for a character is shown as it is. -/
theorem isShown_escapeIn (c : Char) : (escapeIn mark c).IsShown := by
  rcases escapeIn_cases hmark c with ⟨code, hescape, hcode, -⟩ | ⟨hescape, -, -, hprintable⟩
  · have hslash : IsShown ['\\'] := isShown_of_isAscii (by decide)
    rw [hescape]
    exact hslash.append hcode
  · intro d hd
    rw [hescape] at hd
    rw [List.mem_singleton.1 hd]
    exact hprintable

/-! ## Quoted texts -/

include hmark in
/-- Each character of a text takes at least one between the marks. -/
theorem length_le_escaped (t : Text) : t.length ≤ (t.flatMap (escapeIn mark)).length := by
  induction t with
  | nil => exact Nat.le_refl 0
  | cons c t ih =>
    have hone : 0 < (escapeIn mark c).length := by
      rcases escapeIn_cases hmark c with ⟨code, hescape, -⟩ | ⟨hescape, -⟩
      · exact hescape ▸ Nat.zero_lt_succ code.length
      · exact hescape ▸ Nat.zero_lt_one
    rw [List.flatMap_cons, List.length_cons, List.length_append]
    omega

include hmark in
/-- The text between the marks is read back, in one step for each character and one for the mark. -/
theorem readQuotedBody_escaped {steps : Nat} (t after : Text) (h : t.length < steps) :
    readQuotedBody mark steps (t.flatMap (escapeIn mark) ++ mark :: after) = some (t, after) := by
  induction t generalizing steps with
  | nil =>
    obtain ⟨left, rfl⟩ : ∃ left, steps = left + 1 := ⟨steps - 1, by omega⟩
    exact if_pos rfl
  | cons c t ih =>
    rw [List.length_cons] at h
    obtain ⟨left, rfl⟩ : ∃ left, steps = left + 1 := ⟨steps - 1, by omega⟩
    obtain ⟨hread, hopen⟩ :=
      readCharacter_escapeIn hmark c (t.flatMap (escapeIn mark) ++ mark :: after)
    rw [List.flatMap_cons, List.append_assoc, readQuotedBody, if_neg hopen, hread]
    show (readQuotedBody mark left _).map _ = _
    rw [ih (by omega)]
    rfl

end Marks

/-- **A quoted text is read back as itself**, whatever follows it. -/
theorem readQuoted_quote (t after : Text) : readQuoted (quote t ++ after) = some (t, after) := by
  have hmark := quoteMark_cases t
  have hfits : t.length < (t.flatMap (escapeIn (quoteMark t)) ++ quoteMark t :: after).length := by
    have := length_le_escaped hmark t
    simp only [List.length_append, List.length_cons]
    omega
  rw [quote, List.append_assoc, List.cons_append, List.singleton_append, readQuoted, if_pos hmark,
    readQuotedBody_escaped hmark t after hfits]

/-- **A text that starts with a quoted text** says which text it is and where it ends. -/
theorem quote_append_inj {s t after after' : Text} (h : quote s ++ after = quote t ++ after') :
    s = t ∧ after = after' := by
  have hread := readQuoted_quote s after
  rw [h, readQuoted_quote, Option.some.injEq, Prod.mk.injEq] at hread
  exact ⟨hread.1.symm, hread.2.symm⟩

/-- **All of a quoted text is shown as it is.** -/
theorem isShown_quote (t : Text) : (quote t).IsShown := by
  have hmark := quoteMark_cases t
  have hends : IsShown [quoteMark t] := by
    rcases hmark with h | h
    · exact h ▸ isShown_of_isAscii (by decide)
    · exact h ▸ isShown_of_isAscii (by decide)
  have hbody : IsShown (t.flatMap (escapeIn (quoteMark t))) := by
    intro d hd
    obtain ⟨c, -, hc⟩ := List.mem_flatMap.1 hd
    exact isShown_escapeIn hmark c d hc
  exact (hends.append hbody).append hends

end DocTag.Text
