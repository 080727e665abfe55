import DocTag.Context

/-!
# Whether parts are checked

An override says whether parts are checked, and the settings say it where there is none. The lemmas
here take the three questions that are asked of a context apart: what the settings are
(`settings_under`: the override has no say in that), whether parts are checked
(`isStrict_eq_ok_iff`), and what comes of making a part (`construct_eq_violation_iff`,
`construct_eq_ok_iff`). None of them changes the override (`construct_override`).
-/

namespace DocTag.Context

def under (ctx : Context) (override : Option Bool) : Context := { ctx with override }

@[simp] theorem under_under (ctx : Context) (first second : Option Bool) :
    (ctx.under first).under second = ctx.under second := rfl

theorem under_self (ctx : Context) : ctx.under ctx.override = ctx := rfl

/-- Whether parts are checked is what the override says, and what the settings say where there is
none. -/
theorem isStrict_eq_ok_iff {ctx : Context} {strict : Bool} :
    ctx.isStrict.1 = .ok strict ↔
      ctx.override = some strict ∨
        ctx.override = none ∧ ∃ s, ctx.settings.1 = .ok s ∧ s.strictParts = strict := by
  unfold isStrict
  cases ctx.override with
  | some found => simp
  | none =>
    rcases ctx.settings with ⟨result, next⟩
    cases result <;> simp

theorem isStrict_override (ctx : Context) : ctx.isStrict.2.override = ctx.override := by
  have hkept := ctx.settings_override
  unfold isStrict
  split
  · rfl
  · split
    · next h => rw [h] at hkept; exact hkept
    · next h => rw [h] at hkept; exact hkept

/-- What comes of making a part, once it is known whether it is checked. -/
def attempt (strict : Bool) (kind : PartKind) (raw : Text) (span : Span) :
    Except Failure Part × List Record :=
  match Part.build strict kind raw span with
  | (.ok part, log) => (.ok part, log)
  | (.error v, log) => (.error (.violation v), log)

/-- A part that is not checked is made. -/
theorem attempt_false (kind : PartKind) (raw : Text) (span : Span) :
    attempt false kind raw span = (.ok (.of kind raw span), []) := rfl

/-- A checked part that breaks no rule is made. -/
theorem attempt_of_none {kind : PartKind} {raw : Text} (span : Span)
    (h : Violation.find? kind raw = none) :
    attempt true kind raw span = (.ok (.of kind raw span), []) := by
  rw [attempt, Part.build, if_pos rfl, h]

/-- A checked part is refused for the first rule that it breaks. -/
theorem attempt_of_violation {kind : PartKind} {raw : Text} {v : Violation} (span : Span)
    (h : Violation.find? kind raw = some v) :
    attempt true kind raw span =
      (.error (.violation v), [.preconditionFailed v.kind v.rule v.raw.length]) := by
  rw [attempt, Part.build, if_pos rfl, h]

/-- A part that is no comment is made once it is known whether it is checked. -/
theorem construct_of_ne_comment (ctx : Context) {kind : PartKind} (raw : Text) (span : Span)
    (h : kind ≠ .comment) :
    ctx.construct kind raw span =
      match ctx.isStrict with
      | (.error issues, next) => ((.error (.invalidSettings issues), []), next)
      | (.ok strict, next) => (attempt strict kind raw span, next) := by
  rw [construct, if_neg h]
  rcases ctx.isStrict with ⟨result, next⟩
  cases result with
  | error issues => rfl
  | ok strict =>
    simp only [attempt]
    rcases Part.build strict kind raw span with ⟨made, log⟩
    cases made <;> rfl

/-- Where an override says whether parts are checked, nothing else is asked. -/
theorem construct_of_override {ctx : Context} {strict : Bool} (kind : PartKind) (raw : Text)
    (span : Span) (h : ctx.override = some strict) :
    ctx.construct kind raw span = (attempt strict kind raw span, ctx) := by
  by_cases hkind : kind = .comment
  · subst hkind
    cases strict <;> rfl
  · rw [construct_of_ne_comment ctx raw span hkind, isStrict_of_override h]

/-- A part that is made inside an override of its own leaves the context as it is. -/
theorem within_construct (ctx : Context) (strict : Bool) (kind : PartKind) (raw : Text)
    (span : Span) :
    (ctx.within (some strict) fun inner => inner.construct kind raw span) =
      (attempt strict kind raw span, ctx) := by
  have hmade : (ctx.under (some strict)).construct kind raw span =
      (attempt strict kind raw span, ctx.under (some strict)) :=
    construct_of_override kind raw span rfl
  show (((ctx.under (some strict)).construct kind raw span).1,
    ((ctx.under (some strict)).construct kind raw span).2.under ctx.override) = _
  rw [hmade, under_under, under_self]

theorem construct_override (ctx : Context) (kind : PartKind) (raw : Text) (span : Span) :
    (ctx.construct kind raw span).2.override = ctx.override := by
  by_cases hkind : kind = .comment
  · rw [construct, if_pos hkind]
  · have hkept := ctx.isStrict_override
    rw [construct_of_ne_comment ctx raw span hkind]
    split
    · next h => rw [h] at hkept; exact hkept
    · next h => rw [h] at hkept; exact hkept

theorem attempt_eq_violation_iff {strict : Bool} {kind : PartKind} {raw : Text} {span : Span}
    {v : Violation} :
    (attempt strict kind raw span).1 = .error (.violation v) ↔
      strict = true ∧ Violation.find? kind raw = some v := by
  cases strict with
  | false => simp [attempt_false]
  | true =>
    cases h : Violation.find? kind raw with
    | none => simp [attempt_of_none span h]
    | some found => simp [attempt_of_violation span h]

theorem attempt_eq_ok_iff {strict : Bool} {kind : PartKind} {raw : Text} {span : Span}
    {part : Part} :
    (attempt strict kind raw span).1 = .ok part ↔
      part = .of kind raw span ∧ (strict = true → Violation.find? kind raw = none) := by
  cases strict with
  | false => simp [attempt_false, eq_comm]
  | true =>
    cases h : Violation.find? kind raw with
    | none => simp [attempt_of_none span h, eq_comm]
    | some found => simp [attempt_of_violation span h]

/-- A part that is no comment is refused exactly when parts are checked and it breaks a rule. -/
theorem construct_eq_violation_iff {ctx : Context} {kind : PartKind} {raw : Text} {span : Span}
    {v : Violation} (h : kind ≠ .comment) :
    (ctx.construct kind raw span).1.1 = .error (.violation v) ↔
      ctx.isStrict.1 = .ok true ∧ Violation.find? kind raw = some v := by
  rw [construct_of_ne_comment ctx raw span h]
  rcases ctx.isStrict with ⟨result, next⟩
  cases result with
  | error issues => simp
  | ok strict => simp only [attempt_eq_violation_iff, Except.ok.injEq]

/-- A part that is no comment is made exactly when parts are not checked, or are checked and it
breaks no rule. -/
theorem construct_eq_ok_iff {ctx : Context} {kind : PartKind} {raw : Text} {span : Span}
    {part : Part} (h : kind ≠ .comment) :
    (ctx.construct kind raw span).1.1 = .ok part ↔
      part = .of kind raw span ∧
        (ctx.isStrict.1 = .ok false ∨
          ctx.isStrict.1 = .ok true ∧ Violation.find? kind raw = none) := by
  rw [construct_of_ne_comment ctx raw span h]
  rcases ctx.isStrict with ⟨result, next⟩
  cases result with
  | error issues => simp
  | ok strict => cases strict <;> simp [attempt_eq_ok_iff]

end DocTag.Context
