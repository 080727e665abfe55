import DocTag.Proofs.CommandLine.Groups

/-!
# Ways to hand in a raw text

A raw text is handed in behind the terminator, on the input, or as an operand, and these ways agree
(`raw_text_routes_agree`): whatever groups of flags stand in front, the run is the same. Behind the
terminator and on the input every text is taken as it is, whatever it looks like.
-/

namespace DocTag.CommandLine

/-- The word for a kind is an operand. -/
theorem ofArguments_kind (kind : PartKind) (argv : List Text) :
    Word.ofArguments (kind.word :: argv) =
      (Word.ofArguments argv).map (.operand kind.word :: ·) :=
  Word.ofArguments_cons argv (by cases kind <;> decide)
    (Word.ofArgument_of_head?_ne (by cases kind <;> decide))

/-- A draft without operands takes the word for a kind and then an argument for the raw text, with
or without a terminator between them, which belongs to the kind. -/
theorem Draft.take_operands (kind : PartKind) (t : Text) (start : Nat) (noStrict : Bool) :
    (⟨none, none, start, noStrict, []⟩ : Draft).take false [.operand kind.word, .operand t] =
        .ok ⟨some kind, some (.ofArgument true t), start, noStrict, []⟩ ∧
      (⟨none, none, start, noStrict, []⟩ : Draft).take false
          [.operand kind.word, .terminator, .operand t] =
        .ok ⟨some kind, some (.ofArgument true t), start, noStrict, []⟩ := by
  have hkind : PartKind.ofWord? kind.word = some kind := PartKind.ofWord?_eq_some_iff.2 rfl
  simp [take, giveOperand, hkind, isFull]

variable (groups : List Group) (kind : PartKind)

/-- An argument for the raw text behind the terminator. -/
theorem parse_terminated (t : Text) :
    parse (groups.flatMap Group.arguments ++ [kind.word, Word.terminatorText, t]) =
      (Group.applyAll groups .blank).map fun d =>
        ⟨kind, .ofArgument true t, d.start, d.noStrict⟩ := by
  refine parse_groups groups (ofArguments_kind kind _) ?_
  exact fun start noStrict => (Draft.take_operands kind t start noStrict).2

/-- A raw text that is an operand. -/
theorem parse_operand {t : Text} (hne : t ≠ Word.terminatorText)
    (hoperand : Word.ofArgument t = .ok (.operand t)) :
    parse (groups.flatMap Group.arguments ++ [kind.word, t]) =
      (Group.applyAll groups .blank).map fun d => ⟨kind, .text t, d.start, d.noStrict⟩ := by
  have hwords : Word.ofArguments [kind.word, t] = .ok [.operand kind.word, .operand t] := by
    rw [ofArguments_kind, Word.ofArguments_cons [] hne hoperand]
    rfl
  rw [← Operand.ofArgument_of_ne true hne]
  exact parse_groups groups hwords fun start noStrict =>
    (Draft.take_operands kind t start noStrict).1

/-- What a run is asked for by groups, a kind and a raw text. -/
theorem wanted_of_parse {argv : List Text} {operand t : Text} (input : Text)
    (settings : Option Settings)
    (hparse : parse argv =
      (Group.applyAll groups .blank).map fun d => ⟨kind, .text operand, d.start, d.noStrict⟩)
    (hraw : (if operand = ['-'] then input else operand) = t) :
    (⟨argv, input, settings⟩ : Invocation).wanted = (Group.applyAll groups .blank).map fun d =>
      (some (.of kind t (Span.covering t d.start)), d.noStrict) := by
  subst hraw
  rw [Invocation.wanted, hparse]
  cases Group.applyAll groups .blank <;> rfl

/-- **The ways to hand in a raw text agree.** Behind any groups of flags and the word for a kind, a
text that follows the terminator and the same text on the input lead to the same run, and so does
the text as an operand, where it is one. -/
theorem raw_text_routes_agree (t input : Text) (settings : Option Settings) (ctx : Context)
    (hdash : t ≠ ['-']) (hterminator : t ≠ Word.terminatorText) :
    run ⟨groups.flatMap Group.arguments ++ [kind.word, Word.terminatorText, t], input, settings⟩
        ctx =
      run ⟨groups.flatMap Group.arguments ++ [kind.word, ['-']], t, settings⟩ ctx ∧
    (Word.ofArgument t = .ok (.operand t) →
      run ⟨groups.flatMap Group.arguments ++ [kind.word, t], input, settings⟩ ctx =
        run ⟨groups.flatMap Group.arguments ++ [kind.word, ['-']], t, settings⟩ ctx) := by
  have hfromInput := wanted_of_parse groups kind t settings
    (parse_operand groups kind (by decide) (rfl : Word.ofArgument ['-'] = _)) (if_pos rfl)
  constructor
  · have hparse := parse_terminated groups kind t
    rw [Operand.ofArgument_of_ne true hterminator] at hparse
    have hterminated := wanted_of_parse groups kind input settings hparse (if_neg hdash)
    exact run_congr (Eq.refl settings) (hterminated.trans hfromInput.symm) ctx
  · intro hoperand
    have hgiven := wanted_of_parse groups kind input settings
      (parse_operand groups kind hterminator hoperand) (if_neg hdash)
    exact run_congr (Eq.refl settings) (hgiven.trans hfromInput.symm) ctx

/-- Behind two shortened flags, a text that starts with a dash and contains a space. -/
theorem raw_text_routes_agree_dashed :
    "-x y".toList ≠ ['-'] ∧ "-x y".toList ≠ Word.terminatorText ∧
      Word.ofArgument "-x y".toList = .ok (.operand "-x y".toList) ∧
      run ⟨["--st".toList, "7".toList, "--no".toList, "kind".toList, "--".toList, "-x y".toList],
          [], none⟩ (Context.start [] none) =
        run ⟨["--st".toList, "7".toList, "--no".toList, "kind".toList, "-".toList],
          "-x y".toList, none⟩ (Context.start [] none) ∧
      run ⟨["--st".toList, "7".toList, "--no".toList, "kind".toList, "-x y".toList],
          [], none⟩ (Context.start [] none) =
        run ⟨["--st".toList, "7".toList, "--no".toList, "kind".toList, "-".toList],
          "-x y".toList, none⟩ (Context.start [] none) := by
  have hdash : "-x y".toList ≠ ['-'] := by decide
  have hterminator : "-x y".toList ≠ Word.terminatorText := by decide
  have hoperand : Word.ofArgument "-x y".toList = .ok (.operand "-x y".toList) := rfl
  have hagree := raw_text_routes_agree
    [.start ⟨"--st".toList, by decide, by decide⟩ ⟨"7".toList, 7, rfl⟩,
      .noStrict ⟨"--no".toList, by decide, by decide⟩]
    .keyword "-x y".toList [] none (Context.start [] none) hdash hterminator
  exact ⟨hdash, hterminator, hoperand, hagree.1, hagree.2 hoperand⟩

end DocTag.CommandLine
