import DocTag.Failure
import DocTag.Part.Basic

/-!
# Contexts

What the making of a part depends on besides the part itself: an override of the checks that may be
in force, the settings, which are read from the surroundings once and then kept, and the thresholds
of the log.

The main statement says that what runs inside an override leaves the one outside as it was
(`within_override`).
-/

namespace DocTag

/-- The state that steps share. -/
structure Context where
  /-- Whether checks are made, where that is not left to the settings. -/
  override : Option Bool
  /-- The settings, once they have been read. -/
  cache : Option Settings
  /-- The variables of the environment. -/
  environment : Bindings Text
  /-- The text of the environment file, if there is one. -/
  file : Option Text
  /-- The thresholds of the log, once a level has been asked for. -/
  thresholds : Option Thresholds

namespace Context

/-- A context in which nothing has happened yet. -/
def start (environment : Bindings Text) (file : Option Text) : Context :=
  ⟨none, none, environment, file, none⟩

/-- The sources of the settings of a context. -/
def sources (ctx : Context) : Sources := ⟨[], ctx.environment, ctx.file⟩

/-- The settings that are kept, or else those that can be read now. -/
def settings (ctx : Context) : Except (List Issue) Settings × Context :=
  match ctx.cache with
  | some s => (.ok s, ctx)
  | none =>
    match Settings.resolve ctx.sources with
    | .ok s => (.ok s, { ctx with cache := some s })
    | .error issues => (.error issues, ctx)

/-- The numbers of the malformed lines that are met when the settings are asked for: none when the
settings are kept, for then the file is not read. -/
def malformedLines (ctx : Context) : List Nat :=
  match ctx.cache, ctx.file with
  | none, some file => DotEnv.malformedLines file
  | _, _ => []

/-- Whether parts are checked: as the override says, and as the settings say where there is none. -/
def isStrict (ctx : Context) : Except (List Issue) Bool × Context :=
  match ctx.override with
  | some strict => (.ok strict, ctx)
  | none =>
    match ctx.settings with
    | (.ok s, next) => (.ok s.strictParts, next)
    | (.error issues, next) => (.error issues, next)

/-- Makes a part, and gives the records that this leaves. A comment has no rules, so nothing is
asked for it. -/
def construct (ctx : Context) (kind : PartKind) (raw : Text) (span : Span) :
    (Except Failure Part × List Record) × Context :=
  if kind = .comment then ((.ok (.of kind raw span), []), ctx)
  else
    match ctx.isStrict with
    | (.error issues, next) => ((.error (.invalidSettings issues), []), next)
    | (.ok strict, next) =>
      match Part.build strict kind raw span with
      | (.ok part, log) => ((.ok part, log), next)
      | (.error v, log) => ((.error (.violation v), log), next)

/-- Runs an action under an override, and puts the override that was in force back. -/
def within {α : Type} (ctx : Context) (override : Option Bool) (action : Context → α × Context) :
    α × Context :=
  let (result, next) := action { ctx with override }
  (result, { next with override := ctx.override })

@[simp] theorem within_override {α : Type} (ctx : Context) (override : Option Bool)
    (action : Context → α × Context) : (ctx.within override action).2.override = ctx.override := rfl

/-- Asking for the settings does not touch the override. -/
theorem settings_override (ctx : Context) : ctx.settings.2.override = ctx.override := by
  unfold settings
  split
  · rfl
  · split <;> rfl

/-- Nothing is read where an override says whether parts are checked. -/
theorem isStrict_of_override {ctx : Context} {strict : Bool} (h : ctx.override = some strict) :
    ctx.isStrict = (.ok strict, ctx) := by
  simp [isStrict, h]

end Context

end DocTag
