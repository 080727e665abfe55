import DocTag.Proofs.Context.Strictness
import DocTag.Proofs.Text.Trimming

/-!
# What checks decide

Whether a text breaks a rule, and which one it breaks first, is a matter of the text and the kind of
part alone (`Breaks`). Checks decide by it whether there is a part, and nothing besides
(`checks_decide_acceptance`): a text that breaks a rule is refused for the first one it breaks, with
one record, and any other text makes the part that it makes without checks.

The search for a violation finds the rule that is broken first (`Violation.find?_eq_some_iff`), one
rule after another (`Rule.holds_startsWithAt_iff`, `Rule.holds_inBraces_iff`).
-/

namespace DocTag

/-! ## Broken rules -/

/-- **The rule for a kind of part that a text breaks first.** A keyword opens with an at sign, and
only then it matters what surrounds it; a type stands between two braces that are not the same
character; a comment can look like anything. -/
inductive Breaks : PartKind → Text → Rule → Prop
  /-- A keyword does not open with an at sign. -/
  | noAtSign {raw : Text} (h : ∀ rest, raw ≠ '@' :: rest) : Breaks .keyword raw .startsWithAt
  /-- A keyword opens with an at sign and has blank characters around it. -/
  | paddedKeyword {rest : Text} (h : Text.trim ('@' :: rest) ≠ '@' :: rest) :
      Breaks .keyword ('@' :: rest) .isTrimmed
  /-- A name has blank characters around it. -/
  | paddedName {raw : Text} (h : Text.trim raw ≠ raw) : Breaks .name raw .isTrimmed
  /-- A type does not stand in braces. -/
  | noBraces {raw : Text} (h : ∀ inside, raw ≠ '\x7b' :: inside ++ ['\x7d']) :
      Breaks .type raw .inBraces

theorem Rule.holds_startsWithAt_iff {raw : Text} :
    Rule.startsWithAt.holds raw = true ↔ ∃ rest, raw = '@' :: rest := by
  rw [Rule.holds, beq_iff_eq, List.head?_eq_some_iff]

theorem Rule.holds_isTrimmed_iff {raw : Text} :
    Rule.isTrimmed.holds raw = true ↔ Text.trim raw = raw :=
  Text.isTrimmed_eq

/-- A text stands in braces when it is an opening brace, anything at all and a closing brace. -/
theorem Rule.holds_inBraces_iff {raw : Text} :
    Rule.inBraces.holds raw = true ↔ ∃ inside, raw = '\x7b' :: inside ++ ['\x7d'] := by
  simp only [Rule.holds, Bool.and_eq_true, decide_eq_true_eq, beq_iff_eq]
  constructor
  · rintro ⟨⟨hlength, hhead⟩, hlast⟩
    obtain ⟨rest, rfl⟩ := List.head?_eq_some_iff.1 hhead
    have hne : rest ≠ [] := by
      rintro rfl
      exact absurd hlength (by decide)
    rw [List.getLast?_cons_of_ne_nil hne] at hlast
    obtain ⟨inside, rfl⟩ := List.getLast?_eq_some_iff.1 hlast
    exact ⟨inside, rfl⟩
  · rintro ⟨inside, rfl⟩
    refine ⟨⟨?_, rfl⟩, ?_⟩
    · simp only [List.cons_append, List.length_cons, List.length_append]
      omega
    · rw [List.getLast?_append, List.getLast?_singleton, Option.some_or]

theorem Rule.not_holds_iff {rule : Rule} {raw : Text} {P : Prop}
    (h : rule.holds raw = true ↔ P) : (!rule.holds raw) = true ↔ ¬P := by
  rw [Bool.not_eq_true', ← Bool.not_eq_true, h]

/-- The rule broken first is the first one in the order of the rules that does not hold. -/
theorem breaks_iff {kind : PartKind} {raw : Text} {rule : Rule} :
    Breaks kind raw rule ↔ kind.rules.find? (fun rule => !rule.holds raw) = some rule := by
  have hat := Rule.not_holds_iff (@Rule.holds_startsWithAt_iff raw)
  have htrim := Rule.not_holds_iff (@Rule.holds_isTrimmed_iff raw)
  have hbraces := Rule.not_holds_iff (@Rule.holds_inBraces_iff raw)
  -- A kind has at most two rules, so the search comes to at most two cases.
  cases kind <;>
    simp only [PartKind.rules, List.find?_cons_eq_some, List.find?_nil, hat, htrim, hbraces,
      not_exists, Bool.not_eq_true', Bool.not_eq_false', reduceCtorEq, and_false, or_false]
  case comment => exact iff_of_false (fun h => nomatch h) id
  case keyword =>
    constructor
    · rintro (h | h)
      · exact .inl ⟨h, rfl⟩
      · exact .inr ⟨Rule.holds_startsWithAt_iff.2 ⟨_, rfl⟩, h, rfl⟩
    · rintro (⟨h, rfl⟩ | ⟨hopens, h, rfl⟩)
      · exact .noAtSign h
      · obtain ⟨rest, rfl⟩ := Rule.holds_startsWithAt_iff.1 hopens
        exact .paddedKeyword h
  case name =>
    constructor
    · rintro (_ | _ | h)
      exact ⟨h, rfl⟩
    · rintro ⟨h, rfl⟩
      exact .paddedName h
  case type =>
    constructor
    · rintro (_ | _ | _ | h)
      exact ⟨h, rfl⟩
    · rintro ⟨h, rfl⟩
      exact .noBraces h

/-- The violation that a search finds in a text is that of the rule broken first. -/
theorem Violation.find?_eq_some_iff {kind : PartKind} {raw : Text} {v : Violation} :
    Violation.find? kind raw = some v ↔ ∃ rule, Breaks kind raw rule ∧ v = ⟨kind, rule, raw⟩ := by
  rw [Violation.find?, Option.map_eq_some_iff]
  refine exists_congr fun rule => ?_
  rw [breaks_iff, @eq_comm _ v]

/-- There is no violation in a text that breaks no rule. -/
theorem Violation.find?_eq_none_of_not_breaks {kind : PartKind} {raw : Text}
    (h : ∀ rule, ¬Breaks kind raw rule) : Violation.find? kind raw = none := by
  refine Option.eq_none_iff_forall_ne_some.2 fun v hv => ?_
  obtain ⟨rule, hbreaks, -⟩ := Violation.find?_eq_some_iff.1 hv
  exact h rule hbreaks

/-! ## Construction -/

namespace Context

/-- Where it is known whether parts are checked, making one is an attempt under that. -/
theorem construct_of_isStrict {ctx : Context} {strict : Bool} (kind : PartKind) (raw : Text)
    (span : Span) (h : ctx.isStrict.1 = .ok strict) :
    (ctx.construct kind raw span).1 = attempt strict kind raw span := by
  by_cases hkind : kind = .comment
  · subst hkind
    cases strict <;> rfl
  · rw [construct_of_ne_comment ctx raw span hkind]
    rcases hfound : ctx.isStrict with ⟨result, next⟩
    rw [hfound] at h
    subst h
    rfl

/-- A part that is made is the one that was asked for. -/
theorem construct_part {ctx : Context} {kind : PartKind} {raw : Text} {span : Span} {part : Part}
    (h : (ctx.construct kind raw span).1.1 = .ok part) : part = .of kind raw span := by
  by_cases hkind : kind = .comment
  · subst hkind
    exact (Except.ok.inj h).symm
  · exact ((construct_eq_ok_iff hkind).1 h).1

/-- Where parts are checked, the texts that make a part are those that keep every rule for their
kind. -/
theorem construct_checked_iff {ctx : Context} (h : ctx.isStrict.1 = .ok true) {kind : PartKind}
    {raw : Text} {span : Span} {part : Part} :
    (ctx.construct kind raw span).1.1 = .ok part ↔
      part = .of kind raw span ∧ ∀ rule ∈ kind.rules, rule.holds raw = true := by
  rw [construct_of_isStrict kind raw span h, attempt_eq_ok_iff, Violation.find?_eq_none_iff]
  simp only [forall_const]

end Context

/-- **Checks decide whether there is a part**, by the rule that its text breaks first, and they
decide nothing else. -/
structure ChecksDecide (kind : PartKind) (raw : Text) (span : Span) : Prop where
  /-- Without checks there is a part of any text, and no record. -/
  unchecked : ∀ ctx : Context, ctx.isStrict.1 = .ok false →
    (ctx.construct kind raw span).1 = (.ok (.of kind raw span), [])
  /-- With checks there is a part of a text that breaks no rule, and no record. -/
  kept : ∀ ctx : Context, ctx.isStrict.1 = .ok true → (∀ rule, ¬Breaks kind raw rule) →
    (ctx.construct kind raw span).1 = (.ok (.of kind raw span), [])
  /-- With checks there is no part of a text that breaks a rule. The failure and the one record
  are about the rule that is broken first. -/
  broken : ∀ ctx : Context, ctx.isStrict.1 = .ok true → ∀ rule, Breaks kind raw rule →
    ∃ record : Record, (ctx.construct kind raw span).1 =
        (.error (.violation ⟨kind, rule, raw⟩), [record]) ∧
      record = .preconditionFailed kind rule raw.length ∧ record.severity = .warning
  /-- With checks a construction fails exactly when a rule is broken. -/
  fails : ∀ ctx : Context, ctx.isStrict.1 = .ok true →
    ((∃ failure, (ctx.construct kind raw span).1.1 = .error failure) ↔
      ∃ rule, Breaks kind raw rule)
  /-- Two contexts that both make a part make the same one, described in the same way, whichever
  of them checks parts. -/
  agree : ∀ (ctx other : Context) (part twin : Part),
    (ctx.construct kind raw span).1.1 = .ok part →
    (other.construct kind raw span).1.1 = .ok twin →
    part = twin ∧ part.describe = twin.describe

/-- **Strictness changes what is accepted, and never what it is.** -/
theorem checks_decide_acceptance (kind : PartKind) (raw : Text) (span : Span) :
    ChecksDecide kind raw span := by
  have hkept : ∀ ctx : Context, ctx.isStrict.1 = .ok true → (∀ rule, ¬Breaks kind raw rule) →
      (ctx.construct kind raw span).1 = (.ok (.of kind raw span), []) := by
    intro ctx hstrict hkeeps
    rw [Context.construct_of_isStrict kind raw span hstrict]
    exact Context.attempt_of_none span (Violation.find?_eq_none_of_not_breaks hkeeps)
  have hbroken : ∀ ctx : Context, ctx.isStrict.1 = .ok true → ∀ rule, Breaks kind raw rule →
      (ctx.construct kind raw span).1 =
        (.error (.violation ⟨kind, rule, raw⟩),
          [.preconditionFailed kind rule raw.length]) := by
    intro ctx hstrict rule hbreaks
    have hfound : Violation.find? kind raw = some ⟨kind, rule, raw⟩ :=
      Violation.find?_eq_some_iff.2 ⟨rule, hbreaks, rfl⟩
    rw [Context.construct_of_isStrict kind raw span hstrict]
    exact Context.attempt_of_violation span hfound
  refine ⟨?_, hkept, ?_, ?_, ?_⟩
  · intro ctx hstrict
    rw [Context.construct_of_isStrict kind raw span hstrict]
    exact Context.attempt_false kind raw span
  · intro ctx hstrict rule hbreaks
    exact ⟨_, hbroken ctx hstrict rule hbreaks, rfl, rfl⟩
  · intro ctx hstrict
    constructor
    · rintro ⟨failure, hfailure⟩
      cases hfound : Violation.find? kind raw with
      | some v =>
        obtain ⟨rule, hbreaks, -⟩ := Violation.find?_eq_some_iff.1 hfound
        exact ⟨rule, hbreaks⟩
      | none =>
        rw [Context.construct_of_isStrict kind raw span hstrict,
          Context.attempt_of_none span hfound] at hfailure
        cases hfailure
    · rintro ⟨rule, hbreaks⟩
      exact ⟨_, congrArg Prod.fst (hbroken ctx hstrict rule hbreaks)⟩
  · intro ctx other part twin hpart htwin
    obtain rfl := Context.construct_part hpart
    obtain rfl := Context.construct_part htwin
    exact ⟨rfl, rfl⟩

end DocTag
