import DocTag.Proofs.CommandLine.Groups

/-!
# Where flags stand

Flags may stand anywhere among the operands: before the word for the kind, between it and the raw
text, or after both (`Interleaving`). Wherever they stand, the operands are taken as if there were
no flags and the flags as if there were no operands (`Interleaving.take`), and of several offsets
the last one counts (`Draft.flagged`). So every such command line asks for the same as the one that
has its operands first and each of its flags once (`flags_stand_anywhere`).

A flag may be called by every start of its spelling from the third character on, and by nothing
else (`Flag.isName_iff`).
-/

namespace DocTag.CommandLine

/-! ## Names of flags -/

/-- A flag that is shortened to three characters or more is told from the others. -/
theorem Flag.completions_take : ∀ (f : Flag) (n : Nat), n ≤ f.spelling.length → 3 ≤ n →
    Flag.completions (f.spelling.take n) = [f] := by
  have hall : ∀ f ∈ Flag.all, ∀ n < 12, 3 ≤ n →
      Flag.completions (f.spelling.take n) = [f] := by decide +kernel
  have hlength : ∀ f ∈ Flag.all, f.spelling.length < 12 := by decide
  intro f n hn hlong
  have hf : f ∈ Flag.all := by cases f <;> decide
  exact hall f hf n (Nat.lt_of_le_of_lt hn (hlength f hf)) hlong

/-- **The names of a flag** are the starts of its spelling that have three characters or more. -/
theorem Flag.isName_iff {f : Flag} {t : Text} :
    Word.terminatorText <+: t ∧ Flag.completions t = [f] ↔ t <+: f.spelling ∧ 3 ≤ t.length := by
  constructor
  · rintro ⟨hmarked, honly⟩
    let name : f.Name := ⟨t, hmarked, honly⟩
    refine ⟨List.isPrefixOf_iff_prefix.1 (name.isPrefixOf_spelling.2 rfl), ?_⟩
    obtain ⟨rest, rfl⟩ := hmarked
    have hrest : rest ≠ [] := by
      rintro rfl
      exact name.ne_terminator (List.append_nil _)
    have hpositive := List.length_pos_iff.2 hrest
    rw [List.length_append]
    exact Nat.add_le_add_left hpositive 2
  · rintro ⟨hstart, hlong⟩
    have htake : t = f.spelling.take t.length := List.prefix_iff_eq_take.1 hstart
    refine ⟨?_, htake ▸ completions_take f t.length hstart.length_le hlong⟩
    have hspelling : Word.terminatorText <+: f.spelling := by cases f <;> decide
    exact List.prefix_of_prefix_length_le hspelling hstart (Nat.le_of_succ_le hlong)

/-- A start of a spelling, as a name. -/
def Flag.Name.ofPrefix (f : Flag) (t : Text) (h : t <+: f.spelling ∧ 3 ≤ t.length) : f.Name :=
  ⟨t, (Flag.isName_iff.2 h).1, (Flag.isName_iff.2 h).2⟩

/-! ## What groups say -/

namespace Group

/-- The offset that a group gives. -/
def numeral? : Group → Option Offset.Numeral
  | .noStrict _ => none
  | .start _ numeral | .startAttached _ numeral => some numeral

/-- The last of the offsets that groups give. -/
def lastNumeral? (groups : List Group) : Option Offset.Numeral :=
  (groups.filterMap numeral?).getLast?

/-- Whether a group leaves the checks out. -/
def leavesChecksOut : Group → Bool
  | .noStrict _ => true
  | .start .. | .startAttached .. => false

/-- Whether an offset that stands in an argument of its own does not start with a dash. -/
def IsPlain : Group → Prop
  | .start _ numeral => numeral.text.head? ≠ some '-'
  | .noStrict _ | .startAttached .. => True

theorem lastNumeral?_nil : lastNumeral? [] = none := rfl

theorem lastNumeral?_cons (g : Group) (groups : List Group) :
    lastNumeral? (g :: groups) = (lastNumeral? groups).or g.numeral? := by
  unfold lastNumeral?
  cases h : g.numeral? with
  | none => rw [List.filterMap_cons_none h, Option.or_none]
  | some numeral =>
    rw [List.filterMap_cons_some h, List.getLast?_cons]
    cases (groups.filterMap numeral?).getLast? <;> rfl

end Group

namespace Draft

/-- The draft with the flags of some groups. Of their offsets the last one counts. -/
def flagged (groups : List Group) (d : Draft) : Draft :=
  { d with
    start := ((Group.lastNumeral? groups).map Offset.Numeral.value).getD d.start
    noStrict := d.noStrict || groups.any Group.leavesChecksOut }

theorem flagged_nil (d : Draft) : d.flagged [] = d := by
  simp [flagged, Group.lastNumeral?_nil]

theorem flagged_cons (g : Group) (groups : List Group) (d : Draft) :
    d.flagged (g :: groups) = (d.flagged [g]).flagged groups := by
  have hstart :
      (((Group.lastNumeral? groups).or g.numeral?).map Offset.Numeral.value).getD d.start =
        ((Group.lastNumeral? groups).map Offset.Numeral.value).getD
          ((g.numeral?.map Offset.Numeral.value).getD d.start) := by
    cases Group.lastNumeral? groups <;> rfl
  simp only [flagged, Group.lastNumeral?_cons, Group.lastNumeral?_nil, Option.none_or, hstart,
    List.any_cons, List.any_nil, Bool.or_false, Bool.or_assoc]

end Draft

/-- **What a group makes of a draft** whose offset, if it stands in an argument of its own, is taken
for an operand. -/
theorem Group.apply_of_isPlain {g : Group} (d : Draft) (h : g.IsPlain) :
    g.apply d = .ok (d.flagged [g]) := by
  cases g with
  | noStrict name => simp [apply, Draft.flagged, lastNumeral?, numeral?, leavesChecksOut]
  | start name numeral =>
    have hword : numeral.word = .operand numeral.text := by
      rw [Offset.Numeral.word, Word.ofArgument_of_head?_ne h]
    simp [apply, hword, Draft.flagged, lastNumeral?, numeral?, leavesChecksOut]
  | startAttached name numeral =>
    simp [apply, Draft.flagged, lastNumeral?, numeral?, leavesChecksOut]

/-! ## Operands -/

namespace Draft

/-- Gives operands to a draft, one after the other. None of them is a terminator. -/
def giveAll (d : Draft) : List Text → Except Stop Draft
  | [] => .ok d
  | t :: rest =>
    match d.giveOperand false t with
    | .ok next => next.giveAll rest
    | .error stop => .error stop

/-- **Operands do not look at flags.** -/
theorem giveOperand_flagged (groups : List Group) (d : Draft) (beside : Bool) (t : Text) :
    (d.flagged groups).giveOperand beside t =
      (d.giveOperand beside t).map (flagged groups) := by
  obtain ⟨kind, operand, start, noStrict, extras⟩ := d
  cases kind with
  | none =>
    simp only [giveOperand, flagged]
    cases PartKind.ofWord? t <;> rfl
  | some kind => cases operand <;> rfl

theorem giveAll_flagged (groups : List Group) (d : Draft) (operands : List Text) :
    (d.flagged groups).giveAll operands = (d.giveAll operands).map (flagged groups) := by
  induction operands generalizing d with
  | nil => rfl
  | cons t rest ih =>
    rw [giveAll, giveAll, giveOperand_flagged]
    cases d.giveOperand false t with
    | ok next => exact ih next
    | error stop => rfl

/-- The word for a kind and a raw text are the operands that are asked for. -/
theorem giveAll_blank (kind : PartKind) (raw : Text) :
    blank.giveAll [kind.word, raw] = .ok ⟨some kind, some (.text raw), 0, false, []⟩ := by
  have hkind : PartKind.ofWord? kind.word = some kind := PartKind.ofWord?_eq_some_iff.2 rfl
  simp [giveAll, giveOperand, Operand.ofArgument, blank, hkind]

/-- Only a terminator is taken differently beside another operand. -/
theorem giveOperand_of_ne (d : Draft) (beside : Bool) {t : Text}
    (h : t ≠ Word.terminatorText) : d.giveOperand beside t = d.giveOperand false t := by
  unfold giveOperand
  rw [Operand.ofArgument_of_ne beside h, Operand.ofArgument_of_ne false h]

end Draft

/-! ## Flags among operands -/

/-- A command line made of groups and operands: each group stays in one piece, and both come in
their order. -/
inductive Interleaving : List Group → List Text → List Text → Prop
  | nil : Interleaving [] [] []
  | group (g : Group) {groups : List Group} {operands argv : List Text}
      (rest : Interleaving groups operands argv) :
      Interleaving (g :: groups) operands (g.arguments ++ argv)
  | operand (t : Text) {groups : List Group} {operands argv : List Text}
      (rest : Interleaving groups operands argv) :
      Interleaving groups (t :: operands) (t :: argv)

/-- **Flags and operands do not get in each other's way.** Taking the words of a command line made
of both gives a draft the operands, and then the flags. -/
theorem Interleaving.take {groups : List Group} {operands argv : List Text}
    (h : Interleaving groups operands argv) (hgroups : ∀ g ∈ groups, g.IsPlain)
    (hoperands : ∀ t ∈ operands, t.head? ≠ some '-') :
    ∃ words, Word.ofArguments argv = .ok words ∧ ∀ (d : Draft) (beside : Bool),
      d.take beside words = (d.giveAll operands).map (Draft.flagged groups) := by
  -- By induction on the command line, for every draft: what is taken first changes the draft that
  -- the rest is given to.
  induction h with
  | nil => exact ⟨[], rfl, fun d _ => congrArg Except.ok d.flagged_nil.symm⟩
  | @group g groups operands argv _ ih =>
    obtain ⟨hg, hrest⟩ := List.forall_mem_cons.1 hgroups
    obtain ⟨words, hwords, htake⟩ := ih hrest hoperands
    refine ⟨g.words ++ words, ?_, fun d beside => ?_⟩
    · rw [Word.ofArguments_group, hwords]
      rfl
    · rw [Draft.take_group, g.apply_of_isPlain d hg]
      dsimp only
      rw [htake, Draft.giveAll_flagged]
      cases d.giveAll operands with
      | ok next => exact congrArg Except.ok (next.flagged_cons g groups).symm
      | error stop => rfl
  | @operand t groups operands argv _ ih =>
    obtain ⟨ht, hrest⟩ := List.forall_mem_cons.1 hoperands
    obtain ⟨words, hwords, htake⟩ := ih hgroups hrest
    have hne : t ≠ Word.terminatorText := by
      rintro rfl
      exact ht rfl
    refine ⟨.operand t :: words, ?_, fun d beside => ?_⟩
    · rw [Word.ofArguments_cons argv hne (Word.ofArgument_of_head?_ne ht), hwords]
      rfl
    · rw [Draft.take, Draft.giveAll, d.giveOperand_of_ne beside hne]
      cases d.giveOperand false t with
      | ok next => exact htake next _
      | error stop => rfl

/-- What a command line of a kind, a raw text and groups among them asks for. -/
theorem Interleaving.parse_eq {groups : List Group} {kind : PartKind} {raw : Text}
    {argv : List Text} (h : Interleaving groups [kind.word, raw] argv)
    (hgroups : ∀ g ∈ groups, g.IsPlain) (hraw : raw.head? ≠ some '-') :
    parse argv = .ok ⟨kind, .text raw,
      ((Group.lastNumeral? groups).map Offset.Numeral.value).getD 0,
      groups.any Group.leavesChecksOut⟩ := by
  have hoperands : ∀ t ∈ [kind.word, raw], t.head? ≠ some '-' :=
    List.forall_mem_cons.2 ⟨by cases kind <;> decide, List.forall_mem_singleton.2 hraw⟩
  obtain ⟨words, hwords, htake⟩ := h.take hgroups hoperands
  rw [parse, hwords]
  dsimp only
  rw [htake, Draft.giveAll_blank]
  rfl

/-! ## One command line for all -/

/-- The groups for an offset, if there is one, and for leaving the checks out, if they are. -/
def Group.canonical (numeral? : Option Offset.Numeral) (noStrict : Bool) : List Group :=
  (numeral?.map (.startAttached (.ofPrefix .start Flag.start.spelling (by decide)))).toList ++
    if noStrict then [.noStrict (.ofPrefix .noStrict Flag.noStrict.spelling (by decide))] else []

/-- The command line that has its operands first and each of its flags once. -/
def canonicalArguments (kind : PartKind) (raw : Text) (numeral? : Option Offset.Numeral)
    (noStrict : Bool) : List Text :=
  [kind.word, raw] ++
    (numeral?.map fun numeral => "--start=".toList ++ numeral.text).toList ++
    if noStrict then ["--no-strict".toList] else []

theorem Interleaving.canonical (kind : PartKind) (raw : Text) (numeral? : Option Offset.Numeral)
    (noStrict : Bool) : Interleaving (Group.canonical numeral? noStrict) [kind.word, raw]
      (canonicalArguments kind raw numeral? noStrict) := by
  refine .operand _ (.operand _ ?_)
  cases numeral? <;> cases noStrict
  · exact .nil
  · exact .group _ .nil
  · exact .group (.startAttached _ _) .nil
  · exact .group (.startAttached _ _) (.group _ .nil)

theorem parse_canonicalArguments (kind : PartKind) {raw : Text} (numeral? : Option Offset.Numeral)
    (noStrict : Bool) (hraw : raw.head? ≠ some '-') :
    parse (canonicalArguments kind raw numeral? noStrict) =
      .ok ⟨kind, .text raw, (numeral?.map Offset.Numeral.value).getD 0, noStrict⟩ := by
  have hplain : ∀ g ∈ Group.canonical numeral? noStrict, g.IsPlain := by
    cases numeral? <;> cases noStrict <;> simp [Group.canonical, Group.IsPlain]
  rw [(Interleaving.canonical kind raw numeral? noStrict).parse_eq hplain hraw]
  cases numeral? <;> cases noStrict <;> rfl

/-- **Flags may stand anywhere.** However groups of flags stand among the word for a kind and a raw
text that does not start with a dash, the part of that kind and text is asked for, at the last
offset or at zero, and without checks if one of the groups leaves them out. So the run is that of
the command line that has its operands first and each of its flags once. -/
theorem flags_stand_anywhere {groups : List Group} {kind : PartKind} {raw : Text}
    {argv : List Text} (hargv : Interleaving groups [kind.word, raw] argv)
    (hgroups : ∀ g ∈ groups, g.IsPlain) (hraw : raw.head? ≠ some '-') :
    parse argv = .ok ⟨kind, .text raw,
      ((Group.lastNumeral? groups).map Offset.Numeral.value).getD 0,
      groups.any Group.leavesChecksOut⟩ ∧
    ∀ input settings ctx, run ⟨argv, input, settings⟩ ctx =
      run ⟨canonicalArguments kind raw (Group.lastNumeral? groups)
        (groups.any Group.leavesChecksOut), input, settings⟩ ctx := by
  have hparse := hargv.parse_eq hgroups hraw
  refine ⟨hparse, fun input settings ctx => run_congr (Eq.refl settings) ?_ ctx⟩
  rw [Invocation.wanted, Invocation.wanted, hparse, parse_canonicalArguments kind _ _ hraw]

/-- Shortened flags in front of a keyword, before its text and behind it. -/
theorem flags_stand_anywhere_scattered :
    ∃ groups : List Group,
      Interleaving groups ["kind".toList, "@a b".toList]
        ["--st=+3".toList, "kind".toList, "--no-s".toList, "@a b".toList, "--s".toList,
          " 1_0".toList] ∧
      (∀ g ∈ groups, g.IsPlain) ∧ "@a b".toList.head? ≠ some '-' ∧
      parse ["--st=+3".toList, "kind".toList, "--no-s".toList, "@a b".toList, "--s".toList,
        " 1_0".toList] = .ok ⟨.keyword, .text "@a b".toList, 10, true⟩ ∧
      ∀ input settings ctx,
        run ⟨["--st=+3".toList, "kind".toList, "--no-s".toList, "@a b".toList, "--s".toList,
          " 1_0".toList], input, settings⟩ ctx =
        run ⟨["kind".toList, "@a b".toList, "--start= 1_0".toList, "--no-strict".toList], input,
          settings⟩ ctx := by
  have hargv := Interleaving.group
    (.startAttached (.ofPrefix .start "--st".toList (by decide)) ⟨"+3".toList, 3, rfl⟩) <|
    .operand "kind".toList <|
    .group (.noStrict (.ofPrefix .noStrict "--no-s".toList (by decide))) <|
    .operand "@a b".toList <|
    .group (.start (.ofPrefix .start "--s".toList (by decide)) ⟨" 1_0".toList, 10, rfl⟩) .nil
  have hraw : "@a b".toList.head? ≠ some '-' := by decide
  refine ⟨_, hargv, ?plain, hraw, @flags_stand_anywhere _ .keyword _ _ hargv ?plain hraw⟩
  case plain =>
    have hvalue : " 1_0".toList.head? ≠ some '-' := by decide
    exact List.forall_mem_cons.2 ⟨trivial, List.forall_mem_cons.2
      ⟨trivial, List.forall_mem_singleton.2 hvalue⟩⟩

end DocTag.CommandLine
