import DocTag.Proofs.Json.Printing
import DocTag.Proofs.Json.Reader
import Mathlib.Data.List.TakeWhile

/-!
# Reading what was printed

A printed value is read back as itself, whatever follows it that cannot be part of a number
(`readValue_print`), and so is the whole of a text that holds a printed value and space after it
(`read_print`). Every escape of a string is inverted on its own (`readString_escape`), numbers are
read back from their decimal digits (`readInt_ofInt`), and arrays and objects from their items and
members, one after another.
-/

namespace DocTag.Json

/-! ## Strings -/

theorem hexValue?_digitChar : ∀ d < 16, hexValue? (Nat.digitChar d) = some d := by decide

/-- The four digits of a code unit are read back as the code unit. -/
theorem unit?_hex {n : Nat} (h : n < 0x10000) :
    ∃ a b c d, Text.hex 4 n = [a, b, c, d] ∧ unit? a b c d = some n := by
  refine ⟨_, _, _, _, rfl, ?_⟩
  simp only [unit?, hexValue?_digitChar _ (Nat.mod_lt _ (by decide : 0 < 16))]
  exact congrArg some (by omega)

theorem readString_cons {c : Char} (rest : Text) (hquote : c ≠ '"') (hslash : c ≠ '\\')
    (hvisible : 0x20 ≤ c.toNat) : readString (c :: rest) = (readString rest).map (prepend c) := by
  rw [readString.eq_def]
  split
  · next h => cases h
  · next h => exact absurd (List.cons.inj h).1 hquote
  · next h => exact absurd (List.cons.inj h).1 hslash
  · next h => exact absurd (List.cons.inj h).1 hslash
  · next h =>
    obtain ⟨rfl, rfl⟩ := List.cons.inj h
    exact if_neg (Nat.not_lt.2 hvisible)

/-- **An escape is read back as the character that it stands for.** -/
theorem readString_escape (c : Char) (rest : Text) :
    readString (escape c ++ rest) = (readString rest).map (prepend c) := by
  unfold escape
  split
  · next h => subst h; rfl
  split
  · next h => subst h; rfl
  split
  · next h => subst h; rfl
  split
  · next h => subst h; rfl
  split
  · next h => subst h; rfl
  split
  · next h => subst h; rfl
  split
  · next h => subst h; rfl
  split
  · next hquote hslash _ _ _ _ _ hcontrol =>
    obtain ⟨x, y, z, w, hdigits, hunit⟩ := unit?_hex (n := c.toNat) (by omega)
    have hhigh : isHighSurrogate c.toNat = false := by
      rw [isHighSurrogate, Bool.and_eq_false_iff, decide_eq_false_iff_not]
      exact .inl (by omega)
    have hlow : isLowSurrogate c.toNat = false := by
      rw [isLowSurrogate, Bool.and_eq_false_iff, decide_eq_false_iff_not]
      exact .inl (by omega)
    rw [hdigits]
    show readString ('\\' :: 'u' :: x :: y :: z :: w :: rest) = _
    rw [readString, hunit]
    simp only [hhigh, hlow, Bool.false_eq_true, if_false, Char.ofNat_toNat]
  · next hquote hslash _ _ _ _ _ hvisible =>
    exact readString_cons rest hquote hslash (Nat.le_of_not_lt hvisible)

theorem readString_escaped (t rest : Text) :
    readString (t.flatMap escape ++ '"' :: rest) = some (t, rest) := by
  induction t with
  | nil => rfl
  | cons c t ih =>
    rw [List.flatMap_cons, List.append_assoc, readString_escape, ih]
    rfl

/-! ## Numbers -/

/-- Whether a text cannot go on with a number. -/
def EndsNumber (rest : Text) : Prop :=
  (∀ c ∈ rest.head?, c.isDigit = false) ∧ continuesNumber rest = false

/-- Only zero is written with a zero in front. -/
theorem ofNat_eq_of_head? {n : Nat} (h : (Text.ofNat n).head? = some '0') :
    Text.ofNat n = ['0'] := by
  induction n using Nat.strongRecOn with
  | ind n ih =>
    rw [Text.ofNat, Nat.toDigits_eq_if (by decide)] at h ⊢
    split at h
    · next hsmall =>
      rw [if_pos hsmall, Option.some.inj h]
    · next hlarge =>
      -- The digits in front are those of the tenth part, which is not zero.
      have hfront : (Nat.toDigits 10 (n / 10)).head? = some '0' := by
        obtain ⟨d, digits, hd⟩ :=
          List.exists_cons_of_ne_nil (Nat.toDigits_ne_nil (n := n / 10) (b := 10))
        rw [hd] at h ⊢
        exact h
      have hzero : Nat.toDigits 10 (n / 10) = ['0'] := ih (n / 10) (by omega) hfront
      have hvalue : n / 10 = 0 := by
        rw [← Nat.ofDigitChars_toDigits (b := 10) (n := n / 10) (by decide) (by decide), hzero]
        rfl
      omega

theorem readDigits_ofNat (n : Nat) {rest : Text} (h : EndsNumber rest) :
    readDigits (Text.ofNat n ++ rest) = some (n, rest) := by
  have hdigits : ∀ c ∈ Text.ofNat n, c.isDigit = true := fun c hc =>
    Nat.isDigit_of_mem_toDigits (by decide) (by decide) hc
  have hstop : rest.takeWhile Char.isDigit = [] ∧ rest.dropWhile Char.isDigit = rest := by
    cases rest with
    | nil => exact ⟨rfl, rfl⟩
    | cons c left =>
      have hc : ¬c.isDigit = true := Bool.eq_false_iff.1 (h.1 c rfl)
      exact ⟨List.takeWhile_cons_of_neg hc, List.dropWhile_cons_of_neg hc⟩
  have htake : (Text.ofNat n ++ rest).takeWhile Char.isDigit = Text.ofNat n := by
    rw [List.takeWhile_append_of_pos hdigits, hstop.1, List.append_nil]
  have hdrop : (Text.ofNat n ++ rest).dropWhile Char.isDigit = rest := by
    rw [List.dropWhile_append_of_pos hdigits, hstop.2]
  have hvalue : Nat.ofDigitChars 10 (Text.ofNat n) 0 = n :=
    Nat.ofDigitChars_toDigits (by decide) (by decide)
  rw [readDigits, htake, hdrop, if_neg, hvalue]
  rintro (hnil | ⟨hhead, hne⟩ | hgoes)
  · exact Nat.toDigits_ne_nil hnil
  · exact hne (ofNat_eq_of_head? hhead)
  · exact Bool.false_ne_true (h.2.symm.trans hgoes)

/-- A number is read back from its decimal digits, whatever its size. -/
theorem readInt_ofInt (value : Int) {rest : Text} (h : EndsNumber rest) :
    readInt (Text.ofInt value ++ rest) = some (value, rest) := by
  cases value with
  | ofNat n =>
    have hdash : ∀ left, Text.ofNat n ++ rest ≠ '-' :: left := by
      intro left hleft
      obtain ⟨d, digits, hd⟩ := List.exists_cons_of_ne_nil (Nat.toDigits_ne_nil (n := n) (b := 10))
      have hdigit : d.isDigit = true :=
        Nat.isDigit_of_mem_toDigits (by decide) (by decide) (hd ▸ List.mem_cons_self)
      rw [Text.ofNat, hd] at hleft
      rw [(List.cons.inj hleft).1] at hdigit
      exact absurd hdigit (by decide)
    show readInt (Text.ofNat n ++ rest) = _
    unfold readInt
    split
    · next left hleft => exact absurd hleft (hdash left)
    · rw [readDigits_ofNat n h]
      rfl
  | negSucc n =>
    show (readDigits (Text.ofNat (n + 1) ++ rest)).map _ = _
    rw [readDigits_ofNat (n + 1) h]
    rfl

/-! ## How values start -/

theorem ofInt_head (value : Int) :
    ∃ c rest, Text.ofInt value = c :: rest ∧ (c = '-' ∨ c.isDigit = true) := by
  cases value with
  | ofNat n =>
    obtain ⟨d, digits, hd⟩ := List.exists_cons_of_ne_nil (Nat.toDigits_ne_nil (n := n) (b := 10))
    exact ⟨d, digits, hd,
      .inr (Nat.isDigit_of_mem_toDigits (by decide) (by decide) (hd ▸ List.mem_cons_self))⟩
  | negSucc n => exact ⟨'-', _, rfl, .inl rfl⟩

/-- What a number starts with is no character that satisfies a test which neither the minus sign nor
any digit passes. -/
theorem ofInt_head_ne {value : Int} {c d : Char} {rest : Text}
    (h : Text.ofInt value = c :: rest) (hd : d ≠ '-' ∧ d.isDigit = false) : c ≠ d := by
  obtain ⟨first, digits, hfirst, hc⟩ := ofInt_head value
  rw [h] at hfirst
  obtain ⟨rfl, -⟩ := List.cons.inj hfirst
  rintro rfl
  rcases hc with hc | hc
  · exact hd.1 hc
  · exact Bool.false_ne_true (hd.2.symm.trans hc)

/-- A printed value starts neither with space nor with a closing bracket. -/
theorem print_head (j : Json) :
    ∃ c rest, j.print = c :: rest ∧ isSpace c = false ∧ c ≠ ']' := by
  cases j with
  | null => exact ⟨'n', _, rfl, rfl, by decide⟩
  | bool value => cases value <;> exact ⟨_, _, rfl, rfl, by decide⟩
  | int value =>
    obtain ⟨c, rest, hc, -⟩ := ofInt_head value
    refine ⟨c, rest, hc, ?_, ofInt_head_ne hc (by decide)⟩
    simp only [isSpace, Bool.or_eq_false_iff, beq_eq_false_iff_ne]
    exact ⟨⟨⟨ofInt_head_ne hc (by decide), ofInt_head_ne hc (by decide)⟩,
      ofInt_head_ne hc (by decide)⟩, ofInt_head_ne hc (by decide)⟩
  | string t => exact ⟨'"', _, rfl, rfl, by decide⟩
  | array items => exact ⟨'[', _, rfl, rfl, by decide⟩
  | object members => exact ⟨'\x7b', _, rfl, rfl, by decide⟩

theorem skipSpace_cons {c : Char} (rest : Text) (h : isSpace c = false) :
    skipSpace (c :: rest) = c :: rest :=
  List.dropWhile_cons_of_neg (Bool.eq_false_iff.1 h)

theorem skipSpace_print (j : Json) (rest : Text) :
    skipSpace (j.print ++ rest) = j.print ++ rest := by
  obtain ⟨c, left, hc, hspace, -⟩ := print_head j
  rw [hc, List.cons_append, skipSpace_cons _ hspace]

theorem printMember_eq (entry : Text × Json) (rest : Text) :
    printMember entry ++ rest =
      '"' :: (entry.1.flatMap escape ++ '"' :: ':' :: ' ' :: (entry.2.print ++ rest)) := by
  simp [printMember, printString]

/-- The items of an array start neither with space nor with a closing bracket. -/
theorem items_head {items : List Json} (h : items ≠ []) :
    ∃ c rest, commaSeparated (items.map print) = c :: rest ∧ isSpace c = false ∧ c ≠ ']' := by
  refine commaSeparated_head (fun hmap => h (List.map_eq_nil_iff.1 hmap)) fun t ht => ?_
  obtain ⟨item, -, rfl⟩ := List.mem_map.1 ht
  exact print_head item

/-- The members of an object start with a quote. -/
theorem members_head {members : List (Text × Json)} (h : members ≠ []) :
    ∃ c rest, commaSeparated (members.map printMember) = c :: rest ∧ c = '"' := by
  refine commaSeparated_head (fun hmap => h (List.map_eq_nil_iff.1 hmap)) fun t ht => ?_
  obtain ⟨entry, -, rfl⟩ := List.mem_map.1 ht
  exact ⟨'"', _, rfl, rfl⟩

/-! ## Values -/

/-- After a mark of punctuation there is no more of a number. -/
theorem endsNumber_mark {c : Char} (rest : Text) (h : c ∈ [',', ']', '\x7d', '\n']) :
    EndsNumber (c :: rest) := by
  have hmark : c.isDigit = false ∧ c ≠ '.' ∧ c ≠ 'e' ∧ c ≠ 'E' := by
    simp only [List.mem_cons, List.not_mem_nil, or_false] at h
    rcases h with rfl | rfl | rfl | rfl <;> decide
  obtain ⟨hdigit, hpoint, he, hE⟩ := hmark
  refine ⟨fun d hd => Option.some.inj hd ▸ hdigit, ?_⟩
  simp [continuesNumber, hpoint, he, hE]

theorem readScalar_int (value : Int) {rest : Text} (h : EndsNumber rest) :
    readScalar (Text.ofInt value ++ rest) = some (.int value, rest) := by
  have hword : words.find? (fun entry => entry.1.isPrefixOf (Text.ofInt value ++ rest)) = none := by
    obtain ⟨c, left, hc, -⟩ := ofInt_head value
    have hn : c ≠ 'n' := ofInt_head_ne hc (by decide)
    have ht : c ≠ 't' := ofInt_head_ne hc (by decide)
    have hf : c ≠ 'f' := ofInt_head_ne hc (by decide)
    simp [words, hc, List.isPrefixOf, hn.symm, ht.symm, hf.symm]
  rw [readScalar, hword, readInt_ofInt value h]
  rfl

theorem readValue_int (value : Int) {steps : Nat} {rest : Text} (h : EndsNumber rest) :
    readValue (steps + 1) (Text.ofInt value ++ rest) = some (.int value, rest) := by
  rw [← readScalar_int value h]
  obtain ⟨c, left, hc, -⟩ := ofInt_head value
  rw [hc, List.cons_append, readValue]
  · exact fun _ h => ofInt_head_ne hc (by decide) (List.cons.inj h).1
  · exact fun _ h => ofInt_head_ne hc (by decide) (List.cons.inj h).1
  · exact fun _ h => ofInt_head_ne hc (by decide) (List.cons.inj h).1

/-- Whether a value is read back from what it is printed as, before anything that is no more of a
number and in as many steps as it has characters. -/
def ReadsBack (j : Json) : Prop :=
  ∀ (steps : Nat) (rest : Text), j.print.length ≤ steps → EndsNumber rest →
    readValue steps (j.print ++ rest) = some (j, rest)

/-- The items of an array are read back one after another, if each of them is. -/
theorem readItems_print {items : List Json} (hitems : ∀ item ∈ items, item.ReadsBack)
    (hne : items ≠ []) {steps : Nat} {t rest : Text}
    (hsteps : (commaSeparated (items.map print)).length < steps)
    (ht : skipSpace t = commaSeparated (items.map print) ++ ']' :: rest) :
    readItems steps t = some (items, rest) := by
  induction items generalizing steps t with
  | nil => exact absurd rfl hne
  | cons item others ih =>
    obtain ⟨left, rfl⟩ : ∃ left, steps = left + 1 := ⟨steps - 1, by omega⟩
    have hitem := hitems item List.mem_cons_self
    rw [readItems, ht]
    by_cases hothers : others = []
    · subst hothers
      rw [List.map_singleton, commaSeparated_singleton] at hsteps ⊢
      rw [hitem left _ (Nat.lt_succ_iff.1 hsteps) (endsNumber_mark rest (by decide))]
      rfl
    · have hmap : others.map print ≠ [] := fun h => hothers (List.map_eq_nil_iff.1 h)
      rw [List.map_cons, commaSeparated_cons _ hmap] at hsteps ⊢
      simp only [List.length_append, List.length_cons] at hsteps
      have hafter : skipSpace (' ' :: (commaSeparated (others.map print) ++ ']' :: rest)) =
          commaSeparated (others.map print) ++ ']' :: rest := by
        obtain ⟨c, tail, hc, hspace, -⟩ := items_head hothers
        rw [hc, List.cons_append]
        exact skipSpace_cons _ hspace
      have hrest : readItems left (' ' :: (commaSeparated (others.map print) ++ ']' :: rest)) =
          some (others, rest) :=
        ih (fun other h => hitems other (List.mem_cons_of_mem item h)) hothers (by omega) hafter
      rw [List.append_assoc, List.cons_append, List.cons_append,
        hitem left _ (by omega) (endsNumber_mark _ (by decide))]
      show (readItems left _).map _ = _
      rw [hrest]
      rfl

theorem readName_printMember (entry : Text × Json) (rest : Text) :
    readName (printMember entry ++ rest) = some (entry.1, ' ' :: (entry.2.print ++ rest)) := by
  rw [printMember_eq, readName, readString_escaped]
  rfl

/-- The members of an object are read back one after another, if the value of each of them is. -/
theorem readMembers_print {members : List (Text × Json)}
    (hmembers : ∀ entry ∈ members, entry.2.ReadsBack) (hne : members ≠ []) {steps : Nat}
    {t rest : Text} (hsteps : (commaSeparated (members.map printMember)).length < steps)
    (ht : skipSpace t = commaSeparated (members.map printMember) ++ '\x7d' :: rest) :
    readMembers steps t = some (members, rest) := by
  induction members generalizing steps t with
  | nil => exact absurd rfl hne
  | cons entry others ih =>
    obtain ⟨left, rfl⟩ : ∃ left, steps = left + 1 := ⟨steps - 1, by omega⟩
    have hentry := hmembers entry List.mem_cons_self
    have hlength : entry.2.print.length < (printMember entry).length := by
      simp only [printMember, printString, List.length_append, List.length_cons]
      omega
    have hvalue : ∀ after : Text, (printMember entry).length ≤ left + 1 → EndsNumber after →
        readValue left (skipSpace (' ' :: (entry.2.print ++ after))) = some (entry.2, after) := by
      intro after hfits hends
      show readValue left (skipSpace (entry.2.print ++ after)) = _
      rw [skipSpace_print, hentry left after (by omega) hends]
    rw [readMembers, ht]
    by_cases hothers : others = []
    · subst hothers
      rw [List.map_singleton, commaSeparated_singleton] at hsteps ⊢
      simp only [readName_printMember]
      rw [hvalue _ (by omega) (endsNumber_mark rest (by decide))]
      rfl
    · have hmap : others.map printMember ≠ [] := fun h => hothers (List.map_eq_nil_iff.1 h)
      rw [List.map_cons, commaSeparated_cons _ hmap] at hsteps ⊢
      simp only [List.length_append, List.length_cons] at hsteps
      have hafter :
          skipSpace (' ' :: (commaSeparated (others.map printMember) ++ '\x7d' :: rest)) =
            commaSeparated (others.map printMember) ++ '\x7d' :: rest := by
        obtain ⟨c, tail, hc, rfl⟩ := members_head hothers
        rw [hc, List.cons_append]
        exact skipSpace_cons _ (rfl : isSpace '"' = false)
      have hrest : readMembers left
          (' ' :: (commaSeparated (others.map printMember) ++ '\x7d' :: rest)) =
            some (others, rest) :=
        ih (fun other h => hmembers other (List.mem_cons_of_mem entry h)) hothers (by omega) hafter
      rw [List.append_assoc, List.cons_append, List.cons_append]
      simp only [readName_printMember]
      rw [hvalue _ (by omega) (endsNumber_mark _ (by decide))]
      show (readMembers left _).map _ = _
      rw [hrest]
      rfl

/-- A printed value has a character, so reading it may take a step. -/
theorem exists_steps {j : Json} {steps : Nat} (h : j.print.length ≤ steps) :
    ∃ left, steps = left + 1 := by
  obtain ⟨c, rest, hc, -⟩ := print_head j
  rw [hc, List.length_cons] at h
  exact ⟨steps - 1, by omega⟩

theorem readsBack_array {items : List Json} (hitems : ∀ item ∈ items, item.ReadsBack) :
    (array items).ReadsBack := by
  intro steps rest hsteps hends
  obtain ⟨left, rfl⟩ := exists_steps hsteps
  rw [print_array] at hsteps ⊢
  by_cases hne : items = []
  · subst hne
    rfl
  · obtain ⟨c, tail, hc, hspace, hbracket⟩ := items_head hne
    have hskip : skipSpace (commaSeparated (items.map print) ++ ']' :: rest) =
        commaSeparated (items.map print) ++ ']' :: rest := by
      rw [hc, List.cons_append, skipSpace_cons _ hspace]
    have hread : readItems left (commaSeparated (items.map print) ++ ']' :: rest) =
        some (items, rest) := by
      refine readItems_print hitems hne ?_ hskip
      simp only [List.length_append, List.length_cons] at hsteps
      omega
    have hopen : ∀ after, skipSpace (commaSeparated (items.map print) ++ ']' :: rest) ≠
        ']' :: after := by
      intro after h
      rw [hskip, hc] at h
      exact hbracket (List.cons.inj h).1
    rw [List.append_assoc, List.cons_append, List.singleton_append, readValue, hread]
    split
    · next after h => exact absurd h (hopen after)
    · rfl

theorem readsBack_object {members : List (Text × Json)}
    (hmembers : ∀ entry ∈ members, entry.2.ReadsBack) : (object members).ReadsBack := by
  intro steps rest hsteps hends
  obtain ⟨left, rfl⟩ := exists_steps hsteps
  rw [print_object] at hsteps ⊢
  by_cases hne : members = []
  · subst hne
    rfl
  · obtain ⟨c, tail, hc, rfl⟩ := members_head hne
    have hskip : skipSpace (commaSeparated (members.map printMember) ++ '\x7d' :: rest) =
        commaSeparated (members.map printMember) ++ '\x7d' :: rest := by
      rw [hc, List.cons_append]
      exact skipSpace_cons _ (rfl : isSpace '"' = false)
    have hread : readMembers left (commaSeparated (members.map printMember) ++ '\x7d' :: rest) =
        some (members, rest) := by
      refine readMembers_print hmembers hne ?_ hskip
      simp only [List.length_append, List.length_cons] at hsteps
      omega
    have hopen : ∀ after, skipSpace (commaSeparated (members.map printMember) ++ '\x7d' :: rest) ≠
        '\x7d' :: after := by
      intro after h
      rw [hskip, hc] at h
      exact absurd (List.cons.inj h).1 (by decide)
    rw [List.append_assoc, List.cons_append, List.singleton_append, readValue, hread]
    split
    · next after h => exact absurd h (hopen after)
    · rfl

/-- **A printed value is read back as itself.** -/
theorem readValue_print (j : Json) : j.ReadsBack := by
  induction j using induction with
  | array items ih => exact readsBack_array ih
  | object members ih => exact readsBack_object ih
  | int value =>
    intro steps rest hsteps hends
    obtain ⟨left, rfl⟩ := exists_steps hsteps
    exact readValue_int value hends
  | string t =>
    intro steps rest hsteps hends
    obtain ⟨left, rfl⟩ := exists_steps hsteps
    rw [print, printString, List.append_assoc, List.cons_append, List.singleton_append, readValue,
      readString_escaped]
    rfl
  | null =>
    intro steps rest hsteps hends
    obtain ⟨left, rfl⟩ := exists_steps hsteps
    rfl
  | bool value =>
    intro steps rest hsteps hends
    obtain ⟨left, rfl⟩ := exists_steps hsteps
    cases value <;> rfl

theorem endsNumber_of_space {after : Text} (h : ∀ c ∈ after, isSpace c = true) :
    EndsNumber after := by
  cases after with
  | nil => exact ⟨fun c hc => (Option.some_ne_none c hc.symm).elim, rfl⟩
  | cons c rest =>
    have hspace := h c List.mem_cons_self
    simp only [isSpace, Bool.or_eq_true, beq_iff_eq] at hspace
    rcases hspace with ((rfl | rfl) | rfl) | rfl <;>
      exact ⟨fun d hd => Option.some.inj hd ▸ rfl, rfl⟩

/-- **A text that holds a printed value and space after it is read as that value.** -/
theorem read_print (j : Json) {after : Text} (h : ∀ c ∈ after, isSpace c = true) :
    read (j.print ++ after) = some j := by
  have hfits : j.print.length ≤ (j.print ++ after).length := by
    rw [List.length_append]
    omega
  have hleft : skipSpace after = [] := List.dropWhile_eq_nil_iff.2 h
  rw [read, skipSpace_print, readValue_print j _ after hfits (endsNumber_of_space h)]
  exact if_pos hleft

end DocTag.Json
