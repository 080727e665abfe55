import DocTag.Proofs.Context.Strictness

/-!
# What settings are read from

The surroundings of a context are the environment, the environment file and the settings that are
kept. Asking for the settings gives those that are kept, or else those that can be read now, and
keeps what could be read (`settings_eq`).

Making a part asks for the settings where no override is in force and the part is no comment; only
then do the surroundings count (`construct_amid`), and only through what asking for the settings
gives.
-/

namespace DocTag

/-- What the settings are read from, and the settings that are kept. -/
structure Surroundings where
  /-- The variables of the environment. -/
  environment : Bindings Text
  /-- The text of the environment file, if there is one. -/
  file : Option Text
  /-- The settings that are kept, if any are. -/
  kept : Option Settings

namespace Surroundings

/-- What asking for the settings gives. -/
def given (x : Surroundings) : Except (List Issue) Settings :=
  match x.kept with
  | some found => .ok found
  | none => Settings.resolve ⟨[], x.environment, x.file⟩

/-- The surroundings after the settings have been asked for: what could be read is kept. -/
def asked (x : Surroundings) : Surroundings := { x with kept := x.given.toOption }

/-- The numbers of the malformed lines that are met when the settings are asked for. -/
def malformedLines (x : Surroundings) : List Nat :=
  match x.kept, x.file with
  | none, some file => DotEnv.malformedLines file
  | _, _ => []

theorem given_of_kept {x : Surroundings} {found : Settings} (h : x.kept = some found) :
    x.given = .ok found := by
  rw [given, h]

/-- Asking for settings that are kept changes nothing. -/
theorem asked_of_kept {x : Surroundings} {found : Settings} (h : x.kept = some found) :
    x.asked = x := by
  obtain ⟨environment, file, kept⟩ := x
  rw [asked, given_of_kept h]
  exact congrArg (Surroundings.mk environment file) h.symm

theorem malformedLines_of_kept {x : Surroundings} {found : Settings} (h : x.kept = some found) :
    x.malformedLines = [] := by
  rw [malformedLines, h]

/-- Asking for settings that cannot be read changes nothing, and none were kept before. -/
theorem asked_of_error {x : Surroundings} {issues : List Issue} (h : x.given = .error issues) :
    x.asked = x ∧ x.kept = none := by
  obtain ⟨environment, file, kept⟩ := x
  cases kept with
  | none =>
    rw [asked, h]
    exact ⟨rfl, rfl⟩
  | some found => cases (given_of_kept rfl).symm.trans h

end Surroundings

namespace Context

def surroundings (ctx : Context) : Surroundings := ⟨ctx.environment, ctx.file, ctx.cache⟩

/-- The context in other surroundings. -/
def amid (ctx : Context) (x : Surroundings) : Context :=
  { ctx with environment := x.environment, file := x.file, cache := x.kept }

@[simp] theorem surroundings_amid (ctx : Context) (x : Surroundings) :
    (ctx.amid x).surroundings = x := rfl

@[simp] theorem amid_amid (ctx : Context) (x y : Surroundings) :
    (ctx.amid x).amid y = ctx.amid y := rfl

/-- **Asking for the settings** gives what is kept or can be read, and keeps it. -/
theorem settings_eq (ctx : Context) :
    ctx.settings = (ctx.surroundings.given, ctx.amid ctx.surroundings.asked) := by
  obtain ⟨override, cache, environment, file, thresholds⟩ := ctx
  cases cache with
  | some found => rfl
  | none =>
    simp only [settings, sources, surroundings, amid, Surroundings.asked, Surroundings.given]
    cases Settings.resolve ⟨[], environment, file⟩ <;> rfl

theorem settings_amid (ctx : Context) (x : Surroundings) :
    (ctx.amid x).settings = (x.given, ctx.settings.2.amid x.asked) := by
  rw [settings_eq, settings_eq, surroundings_amid, amid_amid, amid_amid]

/-! ## Making parts -/

/-- Whether making a part of a kind asks for the settings while an override is in force. -/
def asks (override : Option Bool) (kind : PartKind) : Bool := override.isNone && kind != .comment

theorem asks_iff {override : Option Bool} {kind : PartKind} :
    asks override kind = true ↔ override = none ∧ kind ≠ .comment := by
  rw [asks, Bool.and_eq_true, Option.isNone_iff_eq_none, bne_iff_ne]

/-- What comes of making a part that asks for the settings, once it is known what they are. -/
def verdict (given : Except (List Issue) Settings) (kind : PartKind) (raw : Text) (span : Span) :
    Except Failure Part × List Record :=
  match given with
  | .ok found => attempt found.strictParts kind raw span
  | .error issues => (.error (.invalidSettings issues), [])

/-- A part whose making asks for the settings is made as they say, and they are kept if they could
be read. -/
theorem construct_of_asks {ctx : Context} {kind : PartKind} (raw : Text) (span : Span)
    (h : asks ctx.override kind = true) :
    ctx.construct kind raw span =
      (verdict ctx.surroundings.given kind raw span, ctx.amid ctx.surroundings.asked) := by
  obtain ⟨hoverride, hkind⟩ := asks_iff.1 h
  rw [construct_of_ne_comment ctx raw span hkind, isStrict, hoverride, settings_eq]
  cases ctx.surroundings.given <;> rfl

/-- A part whose making does not ask for the settings is made as the override in force says, if
there is one, and the context stays as it is. -/
theorem construct_of_not_asks {ctx : Context} {kind : PartKind} (raw : Text) (span : Span)
    (h : asks ctx.override kind = false) :
    ctx.construct kind raw span = (attempt (ctx.override.getD false) kind raw span, ctx) := by
  cases hoverride : ctx.override with
  | some strict => exact construct_of_override kind raw span hoverride
  | none =>
    by_cases hkind : kind = .comment
    · subst hkind
      rfl
    · exact absurd (h.symm.trans (asks_iff.2 ⟨hoverride, hkind⟩)) Bool.false_ne_true

/-- **The making of a part depends on the surroundings** only through the settings, and only where
it asks for them. -/
theorem construct_amid (ctx : Context) (kind : PartKind) (raw : Text) (span : Span)
    (x : Surroundings)
    (h : asks ctx.override kind = true → x.given = ctx.surroundings.given) :
    (ctx.amid x).construct kind raw span =
      ((ctx.construct kind raw span).1,
        (ctx.construct kind raw span).2.amid (if asks ctx.override kind then x.asked else x)) := by
  cases hasks : asks ctx.override kind with
  | false =>
    have hamid : asks (ctx.amid x).override kind = false := hasks
    rw [construct_of_not_asks raw span hasks, construct_of_not_asks raw span hamid]
    rfl
  | true =>
    have hamid : asks (ctx.amid x).override kind = true := hasks
    rw [construct_of_asks raw span hasks, construct_of_asks raw span hamid, surroundings_amid,
      amid_amid, h hasks]
    rfl

end Context

end DocTag
