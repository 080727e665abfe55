import DocTag.Json.Basic

/-!
# Printed values

The items of an array and the members of an object are printed with commas between them
(`print_array`, `print_object`), so what a printed value is made of can be followed from value to
value (`induction`). No control character is among it (`visible_print`): a printed value stays on
one line, whatever its strings hold.
-/

namespace DocTag.Json

/-! ## The shape of values -/

/-- What holds of a value as soon as it holds of the values in it, holds of every value. -/
theorem induction {P : Json → Prop} (null : P .null) (bool : ∀ value, P (.bool value))
    (int : ∀ value, P (.int value)) (string : ∀ value, P (.string value))
    (array : ∀ items, (∀ item ∈ items, P item) → P (.array items))
    (object : ∀ members, (∀ entry ∈ members, P entry.2) → P (.object members)) : ∀ j, P j
  | .null => null
  | .bool value => bool value
  | .int value => int value
  | .string value => string value
  | .array items => array items fun item _ => induction null bool int string array object item
  | .object members => object members fun entry hentry =>
      have : sizeOf entry < sizeOf members := List.sizeOf_lt_of_mem hentry
      have : sizeOf entry = 1 + sizeOf entry.1 + sizeOf entry.2 := rfl
      induction null bool int string array object entry.2
termination_by j => j

theorem printItems_eq (items : List Json) : printItems items = items.map print := by
  induction items with
  | nil => rfl
  | cons item rest ih => rw [printItems, ih, List.map_cons]

/-- A member of an object, printed with its name. -/
def printMember (entry : Text × Json) : Text := printString entry.1 ++ ": ".toList ++ entry.2.print

theorem printMembers_eq (members : List (Text × Json)) :
    printMembers members = members.map printMember := by
  induction members with
  | nil => rfl
  | cons entry rest ih => rw [printMembers, ih, List.map_cons, printMember]

/-! ## Texts with commas between them -/

/-- The texts with a comma and a space between neighbours, as the items of an array and the members
of an object are printed. -/
def commaSeparated (texts : List Text) : Text := Text.join ", ".toList texts

theorem commaSeparated_singleton (t : Text) : commaSeparated [t] = t := by
  rw [commaSeparated, Text.join, List.intercalate_singleton]

theorem commaSeparated_cons (t : Text) {texts : List Text} (h : texts ≠ []) :
    commaSeparated (t :: texts) = t ++ ',' :: ' ' :: commaSeparated texts := by
  obtain ⟨u, rest, rfl⟩ := List.exists_cons_of_ne_nil h
  rw [commaSeparated, Text.join, List.intercalate_cons_cons, List.append_assoc]
  rfl

/-- Texts with commas between them start as the first of them does. -/
theorem commaSeparated_head {texts : List Text} {P : Char → Prop} (hne : texts ≠ [])
    (h : ∀ t ∈ texts, ∃ c rest, t = c :: rest ∧ P c) :
    ∃ c rest, commaSeparated texts = c :: rest ∧ P c := by
  obtain ⟨t, others, rfl⟩ := List.exists_cons_of_ne_nil hne
  obtain ⟨c, rest, rfl, hc⟩ := h t List.mem_cons_self
  by_cases hothers : others = []
  · subst hothers
    exact ⟨c, rest, commaSeparated_singleton _, hc⟩
  · exact ⟨c, _, commaSeparated_cons _ hothers, hc⟩

theorem mem_commaSeparated {texts : List Text} {c : Char} (h : c ∈ commaSeparated texts) :
    c = ',' ∨ c = ' ' ∨ ∃ t ∈ texts, c ∈ t := by
  induction texts with
  | nil => exact absurd h List.not_mem_nil
  | cons t rest ih =>
    by_cases hrest : rest = []
    · subst hrest
      rw [commaSeparated_singleton] at h
      exact .inr (.inr ⟨t, List.mem_cons_self, h⟩)
    · rw [commaSeparated_cons t hrest, List.mem_append, List.mem_cons, List.mem_cons] at h
      rcases h with h | h | h | h
      · exact .inr (.inr ⟨t, List.mem_cons_self, h⟩)
      · exact .inl h
      · exact .inr (.inl h)
      · exact (ih h).imp_right (.imp_right fun ⟨u, hu, hc⟩ => ⟨u, List.mem_cons_of_mem t hu, hc⟩)

theorem print_array (items : List Json) :
    (array items).print = '[' :: commaSeparated (items.map print) ++ [']'] := by
  rw [print, printItems_eq, commaSeparated]

theorem print_object (members : List (Text × Json)) :
    (object members).print = '\x7b' :: commaSeparated (members.map printMember) ++ ['\x7d'] := by
  rw [print, printMembers_eq, commaSeparated]

/-! ## What printing shows -/

/-- Whether a text shows no control character. -/
def Visible (t : Text) : Prop := ∀ c ∈ t, 0x20 ≤ c.toNat

instance (t : Text) : Decidable (Visible t) :=
  List.decidableBAll (fun c : Char => 0x20 ≤ c.toNat) t

theorem Visible.append {s t : Text} (hs : Visible s) (ht : Visible t) : Visible (s ++ t) :=
  fun c hc => (List.mem_append.1 hc).elim (hs c) (ht c)

theorem Visible.cons {c : Char} {t : Text} (hc : 0x20 ≤ c.toNat) (ht : Visible t) :
    Visible (c :: t) :=
  List.forall_mem_cons.2 ⟨hc, ht⟩

theorem Visible.commaSeparated {texts : List Text} (h : ∀ t ∈ texts, Visible t) :
    Visible (commaSeparated texts) := by
  intro c hc
  rcases mem_commaSeparated hc with rfl | rfl | ⟨t, ht, hc⟩
  · decide
  · decide
  · exact h t ht c hc

theorem visible_digitChar : ∀ d < 16, 0x20 ≤ (Nat.digitChar d).toNat := by decide

theorem visible_hex (width n : Nat) : Visible (Text.hex width n) := by
  induction width generalizing n with
  | zero => exact fun c hc => absurd hc List.not_mem_nil
  | succ width ih =>
    refine (ih (n / 16)).append fun c hc => ?_
    rw [List.mem_singleton.1 hc]
    exact visible_digitChar _ (Nat.mod_lt n (by decide))

/-- **An escape shows no control character**, whatever it stands for. -/
theorem visible_escape (c : Char) : Visible (escape c) := by
  unfold escape
  -- Seven characters have an escape of their own.
  iterate 7
    split
    · decide
  split
  · exact Visible.append (by decide) (visible_hex 4 c.toNat)
  · next h => exact Visible.cons (Nat.le_of_not_lt h) (by decide)

theorem visible_printString (t : Text) : Visible (printString t) := by
  refine Visible.cons (by decide) (Visible.append (fun c hc => ?_) (by decide))
  obtain ⟨d, -, hd⟩ := List.mem_flatMap.1 hc
  exact visible_escape d c hd

theorem visible_ofNat (n : Nat) : Visible (Text.ofNat n) := by
  intro c hc
  have hdigit : c.isDigit = true := Nat.isDigit_of_mem_toDigits (by decide) (by decide) hc
  simp only [Char.isDigit, Bool.and_eq_true, decide_eq_true_eq] at hdigit
  exact Nat.le_trans (by decide) hdigit.1

theorem visible_ofInt (value : Int) : Visible (Text.ofInt value) := by
  cases value with
  | ofNat n => exact visible_ofNat n
  | negSucc n => exact Visible.cons (by decide) (visible_ofNat (n + 1))

theorem visible_printMember {entry : Text × Json} (h : Visible entry.2.print) :
    Visible (printMember entry) :=
  Visible.append (Visible.append (visible_printString entry.1) (by decide)) h

/-- **A printed value stays on one line**: it shows no control character at all. -/
theorem visible_print (j : Json) : Visible j.print := by
  induction j using induction with
  | null => decide
  | bool value => cases value <;> decide
  | int value => exact visible_ofInt value
  | string t => exact visible_printString t
  | array items ih =>
    rw [print_array]
    refine Visible.append (Visible.cons (by decide) (Visible.commaSeparated fun t ht => ?_))
      (by decide)
    obtain ⟨item, hitem, rfl⟩ := List.mem_map.1 ht
    exact ih item hitem
  | object members ih =>
    rw [print_object]
    refine Visible.append (Visible.cons (by decide) (Visible.commaSeparated fun t ht => ?_))
      (by decide)
    obtain ⟨entry, hentry, rfl⟩ := List.mem_map.1 ht
    exact visible_printMember (ih entry hentry)

end DocTag.Json
