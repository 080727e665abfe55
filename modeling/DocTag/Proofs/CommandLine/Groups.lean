import DocTag.Proofs.CommandLine.Requests
import DocTag.Proofs.Text.Decimal
import DocTag.Proofs.Text.Splitting

/-!
# Flags in groups

Flags are given in groups of one or two arguments: a flag may be shortened, and the offset stands in
an argument of its own or is attached to the flag that asks for it (`Group`). What the arguments of
a group are does not depend on what stands around them (`ofArguments_groups`), and neither does what
is taken from them (`Draft.take_groups`): a group changes the flags of a draft and leaves its
operands alone (`Group.apply_operands`).

An offset in an argument of its own is an operand for the flag before it, unless it starts with a
dash and does not look like a negative number. Then the flag lacks its value, and the whole command
line is refused.
-/

namespace DocTag.CommandLine

/-! ## Names and values of flags -/

/-- What a flag may be called: its spelling, or a start of it that no other flag has. -/
structure Flag.Name (f : Flag) where
  text : Text
  marked : Word.terminatorText <+: text
  only : Flag.completions text = [f]

/-- A text that is read as an offset. -/
structure Offset.Numeral where
  text : Text
  value : Nat
  reads : Offset.read text = .ok value

namespace Flag.Name

variable {f : Flag} (name : f.Name)

/-- Of all flags, only the one that is called so has a spelling that starts with the name. -/
theorem isPrefixOf_spelling {g : Flag} : name.text.isPrefixOf g.spelling = true ↔ g = f := by
  have hmem : g ∈ Flag.completions name.text ↔ name.text.isPrefixOf g.spelling = true := by
    rw [Flag.completions, List.mem_filter]
    exact and_iff_right (by cases g <;> decide)
  rw [← hmem, name.only, List.mem_singleton]

theorem not_mem_equals : '=' ∉ name.text := by
  have hstart : name.text <+: f.spelling :=
    List.isPrefixOf_iff_prefix.1 (name.isPrefixOf_spelling.2 rfl)
  have hspelling : '=' ∉ f.spelling := by cases f <;> decide
  exact fun h => hspelling (hstart.subset h)

theorem ne_of_not_marked {t : Text} (h : ¬ Word.terminatorText <+: t) : name.text ≠ t :=
  fun heq => h (heq ▸ name.marked)

theorem ne_terminator : name.text ≠ Word.terminatorText := by
  intro h
  have hmany : Flag.completions Word.terminatorText = [f] := h ▸ name.only
  have hlength : (Flag.completions Word.terminatorText).length = 3 := by decide
  rw [hmany] at hlength
  exact absurd hlength (by decide : ¬ 1 = 3)

/-- A name is a spelling of its flag, if it is a spelling at all. -/
theorem ofSpelling?_eq :
    Flag.ofSpelling? name.text = none ∨ Flag.ofSpelling? name.text = some f := by
  have hlong : name.text ≠ Flag.shortHelp := name.ne_of_not_marked (by decide)
  rw [Flag.ofSpelling?, if_neg hlong]
  cases hfound : Flag.all.find? fun flag => flag.spelling == name.text with
  | none => exact .inl rfl
  | some g =>
    have hspelling : g.spelling = name.text := eq_of_beq (List.find?_some hfound :)
    have hstart : name.text.isPrefixOf g.spelling = true := by
      rw [hspelling]
      exact List.isPrefixOf_iff_prefix.2 List.prefix_rfl
    exact .inr (congrArg some (name.isPrefixOf_spelling.1 hstart))

end Flag.Name

/-- No spelling has an equals sign. -/
theorem Flag.ofSpelling?_of_mem_equals {t : Text} (h : '=' ∈ t) : Flag.ofSpelling? t = none := by
  have hshort : t ≠ Flag.shortHelp := by
    rintro rfl
    exact absurd h (by decide)
  rw [Flag.ofSpelling?, if_neg hshort, List.find?_eq_none]
  intro g _ hspelling
  have hnone : '=' ∉ g.spelling := by cases g <;> decide
  exact hnone (eq_of_beq hspelling ▸ h)

/-- The second character of a spelling is a dash, or the letter of the short one. -/
theorem Flag.ofSpelling?_of_second {c : Char} (hdash : c ≠ '-') (hletter : c ≠ 'h') (rest : Text) :
    Flag.ofSpelling? ('-' :: c :: rest) = none := by
  have hshort : '-' :: c :: rest ≠ Flag.shortHelp := by
    simp [Flag.shortHelp, hletter]
  rw [Flag.ofSpelling?, if_neg hshort, List.find?_eq_none]
  intro g _ hspelling
  have hsecond : g.spelling[1]? = some '-' := by cases g <;> rfl
  rw [eq_of_beq hspelling] at hsecond
  exact hdash (Option.some.inj hsecond)

namespace Word

variable {f : Flag} (name : f.Name)

/-- A name is read as its flag. -/
theorem readFlag?_name : readFlag? name.text = .ok (some (.flag f none)) := by
  have hmarked : terminatorText.isPrefixOf name.text = true :=
    List.isPrefixOf_iff_prefix.2 name.marked
  rcases name.ofSpelling?_eq with hspelling | hspelling
  · simp only [readFlag?, hspelling, Text.cut_of_not_mem name.not_mem_equals, if_pos hmarked,
      name.only]
  · simp only [readFlag?, hspelling]

/-- A name with a value attached to it is read as its flag with the value. -/
theorem readFlag?_attached (value : Text) :
    readFlag? (name.text ++ '=' :: value) = .ok (some (.flag f (some value))) := by
  have hmarked : terminatorText.isPrefixOf (name.text ++ '=' :: value) = true :=
    List.isPrefixOf_iff_prefix.2 (name.marked.trans (List.prefix_append ..))
  have hwhole : Flag.ofSpelling? (name.text ++ '=' :: value) = none :=
    Flag.ofSpelling?_of_mem_equals (List.mem_append_right _ List.mem_cons_self)
  have hlong : name.text ≠ Flag.shortHelp := name.ne_of_not_marked (by decide)
  rcases name.ofSpelling?_eq with hspelling | hspelling
  · simp only [readFlag?, hwhole, Text.cut_append value name.not_mem_equals, hspelling,
      if_pos hmarked, name.only]
  · simp only [readFlag?, hwhole, Text.cut_append value name.not_mem_equals, hspelling,
      if_neg hlong]

/-- An argument that is read as a flag is one. -/
theorem ofArgument_of_readFlag? {arg : Text} {word : Word} (hmarked : terminatorText <+: arg)
    (h : readFlag? arg = .ok (some word)) : ofArgument arg = .ok word := by
  obtain ⟨rest, rfl⟩ := hmarked
  have hdash : ¬ ((terminatorText ++ rest).head? ≠ some '-' ∨ terminatorText ++ rest = ['-']) := by
    simp [terminatorText]
  rw [ofArgument, if_neg hdash, h]

theorem ofArgument_name : ofArgument name.text = .ok (.flag f none) :=
  ofArgument_of_readFlag? name.marked (readFlag?_name name)

theorem ofArgument_attached (value : Text) :
    ofArgument (name.text ++ '=' :: value) = .ok (.flag f (some value)) :=
  ofArgument_of_readFlag? (name.marked.trans (List.prefix_append ..))
    (readFlag?_attached name value)

/-- A dash and a digit do not start a flag. -/
theorem readFlag?_of_digit {rest : Text} (h : Numeral.startsWithDigit rest = true) :
    readFlag? ('-' :: rest) = .ok none := by
  obtain ⟨c, tail, rfl⟩ : ∃ c tail, rest = c :: tail :=
    List.exists_cons_of_ne_nil (by rintro rfl; exact absurd h Bool.false_ne_true)
  have hother : ∀ d, (digitValue? d).isSome = false → c ≠ d := by
    rintro d hd rfl
    exact Bool.false_ne_true (hd.symm.trans h)
  have hdash : c ≠ '-' := hother '-' (by decide)
  have hletter : c ≠ 'h' := hother 'h' (by decide)
  have hcut : Text.cut '=' ('-' :: c :: tail) =
      ('-' :: c :: (Text.cut '=' tail).1, (Text.cut '=' tail).2) := by
    simp [Text.cut, hother '=' (by decide)]
  have hmarked : terminatorText.isPrefixOf ('-' :: c :: tail) = false := by
    simpa [terminatorText, List.isPrefixOf] using hdash.symm
  have hshort : Flag.shortHelp.isPrefixOf ('-' :: c :: tail) = false := by
    simpa [Flag.shortHelp, List.isPrefixOf] using hletter.symm
  simp only [readFlag?, hcut, Flag.ofSpelling?_of_second hdash hletter, hmarked, hshort,
    Bool.false_eq_true, if_false]
  cases (Text.cut '=' tail).2 <;> rfl

/-- The argument for an offset is an operand, or taken for an unknown flag. -/
theorem ofArgument_numeral (numeral : Offset.Numeral) :
    ofArgument numeral.text = .ok (.operand numeral.text) ∨
      ofArgument numeral.text = .ok (.unknown numeral.text) := by
  obtain ⟨text, value, hreads⟩ := numeral
  by_cases hplain : text.head? ≠ some '-' ∨ text = ['-']
  · exact .inl (if_pos hplain)
  · obtain ⟨rest, rfl⟩ : ∃ rest, text = '-' :: rest :=
      List.head?_eq_some_iff.1 (Decidable.of_not_not (not_or.1 hplain).1)
    have hdigit := Numeral.startsWithDigit_of_read (Offset.read_eq_ok_iff.1 hreads)
    rw [ofArgument, if_neg hplain, readFlag?_of_digit hdigit]
    dsimp only
    split
    · exact .inl rfl
    · exact .inr rfl

end Word

/-! ## Groups -/

/-- A flag with what belongs to it, as it may be given. -/
inductive Group
  /-- The checks are left out. -/
  | noStrict (name : Flag.noStrict.Name)
  /-- An offset, in an argument of its own. -/
  | start (name : Flag.start.Name) (numeral : Offset.Numeral)
  /-- An offset, attached to the flag. -/
  | startAttached (name : Flag.start.Name) (numeral : Offset.Numeral)

/-- What the argument for an offset is. -/
def Offset.Numeral.word (numeral : Offset.Numeral) : Word :=
  match Word.ofArgument numeral.text with
  | .ok word => word
  | .error _ => .unknown numeral.text

theorem Offset.Numeral.ofArgument_text (numeral : Offset.Numeral) :
    Word.ofArgument numeral.text = .ok numeral.word := by
  unfold word
  rcases Word.ofArgument_numeral numeral with h | h <;> rw [h]

theorem Offset.Numeral.word_cases (numeral : Offset.Numeral) :
    numeral.word = .operand numeral.text ∨ numeral.word = .unknown numeral.text := by
  unfold word
  rcases Word.ofArgument_numeral numeral with h | h
  · exact .inl (by rw [h])
  · exact .inr (by rw [h])

theorem Offset.Numeral.ne_terminator (numeral : Offset.Numeral) :
    numeral.text ≠ Word.terminatorText := by
  intro h
  have hmalformed : Offset.read Word.terminatorText = .error (.malformed Word.terminatorText) := rfl
  have hreads := numeral.reads
  rw [h, hmalformed] at hreads
  nomatch hreads

namespace Group

def arguments : Group → List Text
  | .noStrict name => [name.text]
  | .start name numeral => [name.text, numeral.text]
  | .startAttached name numeral => [name.text ++ '=' :: numeral.text]

/-- What the arguments of a group are. -/
def words : Group → List Word
  | .noStrict _ => [.flag .noStrict none]
  | .start _ numeral => [.flag .start none, numeral.word]
  | .startAttached _ numeral => [.flag .start (some numeral.text)]

/-- What a group makes of a draft. -/
def apply : Group → Draft → Except Stop Draft
  | .noStrict _, d => .ok { d with noStrict := true }
  | .start _ numeral, d =>
    match numeral.word with
    | .operand _ => .ok { d with start := numeral.value }
    | _ => .error (.refused (.missingValue .start))
  | .startAttached _ numeral, d => .ok { d with start := numeral.value }

/-- What groups make of a draft, one after the other. -/
def applyAll : List Group → Draft → Except Stop Draft
  | [], d => .ok d
  | g :: rest, d =>
    match g.apply d with
    | .ok next => applyAll rest next
    | .error stop => .error stop

/-- **A group leaves the operands of a draft alone**, and what is left over. -/
theorem apply_operands {g : Group} {d next : Draft} (h : g.apply d = .ok next) :
    ∃ start noStrict, next = { d with start, noStrict } := by
  cases g with
  | noStrict name => exact ⟨d.start, true, (Except.ok.inj h).symm⟩
  | start name numeral =>
    rcases numeral.word_cases with hword | hword
    · rw [apply, hword] at h
      exact ⟨numeral.value, d.noStrict, (Except.ok.inj h).symm⟩
    · rw [apply, hword] at h
      nomatch h
  | startAttached name numeral => exact ⟨numeral.value, d.noStrict, (Except.ok.inj h).symm⟩

theorem applyAll_operands {groups : List Group} {d last : Draft}
    (h : applyAll groups d = .ok last) :
    ∃ start noStrict, last = { d with start, noStrict } := by
  induction groups generalizing d with
  | nil => exact ⟨d.start, d.noStrict, (Except.ok.inj h).symm⟩
  | cons g rest ih =>
    unfold applyAll at h
    cases hnext : g.apply d with
    | error stop =>
      rw [hnext] at h
      nomatch h
    | ok next =>
      rw [hnext] at h
      obtain ⟨_, _, rfl⟩ := apply_operands hnext
      obtain ⟨start, noStrict, rfl⟩ := ih h
      exact ⟨start, noStrict, rfl⟩

end Group

/-! ## Groups on a command line -/

namespace Word

theorem ofArguments_cons {arg : Text} {word : Word} (argv : List Text)
    (hne : arg ≠ terminatorText) (h : ofArgument arg = .ok word) :
    ofArguments (arg :: argv) = (ofArguments argv).map (word :: ·) := by
  rw [ofArguments, if_neg hne, h]

theorem attached_ne_terminator {f : Flag} (name : f.Name) (value : Text) :
    name.text ++ '=' :: value ≠ terminatorText := by
  intro h
  have hmem : '=' ∈ terminatorText := h ▸ List.mem_append_right _ List.mem_cons_self
  exact absurd hmem (by decide)

/-- What the arguments of a group are does not depend on those after it. -/
theorem ofArguments_group (g : Group) (argv : List Text) :
    ofArguments (g.arguments ++ argv) = (ofArguments argv).map (g.words ++ ·) := by
  cases g with
  | noStrict name => exact ofArguments_cons argv name.ne_terminator (ofArgument_name name)
  | start name numeral =>
    have hvalue : ofArguments (numeral.text :: argv) = (ofArguments argv).map (numeral.word :: ·) :=
      ofArguments_cons argv numeral.ne_terminator numeral.ofArgument_text
    show ofArguments (name.text :: numeral.text :: argv) = _
    rw [ofArguments_cons _ name.ne_terminator (ofArgument_name name), hvalue]
    cases ofArguments argv <;> rfl
  | startAttached name numeral =>
    exact ofArguments_cons argv (attached_ne_terminator name numeral.text)
      (ofArgument_attached name numeral.text)

/-- **What the arguments of groups are** does not depend on those after them. -/
theorem ofArguments_groups (groups : List Group) (argv : List Text) :
    ofArguments (groups.flatMap Group.arguments ++ argv) =
      (ofArguments argv).map (groups.flatMap Group.words ++ ·) := by
  induction groups with
  | nil =>
    show ofArguments argv = _
    cases ofArguments argv <;> rfl
  | cons g rest ih =>
    rw [List.flatMap_cons, List.append_assoc, ofArguments_group, ih]
    cases ofArguments argv <;> simp [Except.map]

end Word

namespace Draft

/-- Taking the words of a group does to a draft what the group makes of it. -/
theorem take_group (d : Draft) (beside : Bool) (g : Group) (rest : List Word) :
    d.take beside (g.words ++ rest) =
      match g.apply d with
      | .ok next => next.take false rest
      | .error stop => .error stop := by
  have hgive : ∀ numeral : Offset.Numeral,
      d.giveStart numeral.text = .ok { d with start := numeral.value } := fun numeral => by
    rw [giveStart, numeral.reads]
  cases g with
  | noStrict name => rfl
  | start name numeral =>
    show d.take beside (.flag .start none :: numeral.word :: rest) = _
    rcases numeral.word_cases with hword | hword
    · rw [hword, take, hgive, Group.apply, hword]
    · rw [hword, Group.apply, hword]
      rfl
  | startAttached name numeral =>
    show d.take beside (.flag .start (some numeral.text) :: rest) = _
    rw [take, hgive, Group.apply]

/-- **Taking the words of groups** does to a draft what the groups make of it. -/
theorem take_groups (d : Draft) (groups : List Group) (rest : List Word) :
    d.take false (groups.flatMap Group.words ++ rest) =
      match Group.applyAll groups d with
      | .ok next => next.take false rest
      | .error stop => .error stop := by
  induction groups generalizing d with
  | nil => rfl
  | cons g others ih =>
    rw [List.flatMap_cons, List.append_assoc, take_group, Group.applyAll]
    cases g.apply d with
    | error stop => rfl
    | ok next => exact ih next

end Draft

/-- **Groups in front of two operands.** Where the arguments behind the groups give a draft its kind
and its raw text, the groups decide about the rest of the request. -/
theorem parse_groups {argv : List Text} {words : List Word} {kind : PartKind}
    {operand : Operand} (groups : List Group) (hwords : Word.ofArguments argv = .ok words)
    (htake : ∀ start noStrict, (⟨none, none, start, noStrict, []⟩ : Draft).take false words =
      .ok ⟨some kind, some operand, start, noStrict, []⟩) :
    parse (groups.flatMap Group.arguments ++ argv) =
      (Group.applyAll groups .blank).map fun d => ⟨kind, operand, d.start, d.noStrict⟩ := by
  have hall : Word.ofArguments (groups.flatMap Group.arguments ++ argv) =
      .ok (groups.flatMap Group.words ++ words) := by
    rw [Word.ofArguments_groups, hwords]
    rfl
  rw [parse, hall]
  dsimp only
  rw [Draft.take_groups]
  cases hdraft : Group.applyAll groups .blank with
  | error stop => rfl
  | ok d =>
    obtain ⟨start, noStrict, rfl⟩ := Group.applyAll_operands hdraft
    dsimp only [Draft.blank]
    rw [htake]
    rfl

end DocTag.CommandLine
