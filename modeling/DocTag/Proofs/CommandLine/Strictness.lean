import DocTag.CommandLine.Run
import DocTag.Proofs.Context.Surroundings

/-!
# Whether a run checks its part

A run puts its own override around the making of its part, so the override in force around the run
has no say in it: a run does the same under every override, and hands the one that it found back
(`run_under`). The part is checked when the settings of the run ask for it and the command line does
not leave the checks out (`run_rejected_iff`).
-/

namespace DocTag.CommandLine

/-- Whether a request has its part checked. -/
def Request.checks (r : Request) (s : Settings) : Bool := s.strictParts && !r.noStrict

/-- What comes of making the part of a request. -/
def Request.attempt (r : Request) (input : Text) (s : Settings) :
    Except Failure Part × List Record :=
  match r.raw? input with
  | some raw => Context.attempt (r.checks s) r.kind raw (Span.covering raw r.start)
  | none => (.error .noText, [])

theorem Request.attempt_of_raw {r : Request} {input raw : Text} (s : Settings)
    (h : r.raw? input = some raw) :
    r.attempt input s =
      Context.attempt (r.checks s) r.kind raw (Span.covering raw r.start) := by
  rw [attempt, h]

/-- Nothing is made of a request that gives no text. -/
theorem Request.attempt_of_none {r : Request} {input : Text} (s : Settings)
    (h : r.raw? input = none) : r.attempt input s = (.error .noText, []) := by
  rw [attempt, h]

/-- The part of a request is made as the settings and the request say, and the context stays as it
is. -/
theorem Request.make_eq (r : Request) (input : Text) (s : Settings) (ctx : Context) :
    r.make input s ctx = (r.attempt input s, ctx) := by
  rw [make, attempt]
  cases r.raw? input with
  | none => rfl
  | some raw => exact ctx.within_construct (r.checks s) r.kind raw _

/-- A request has its part refused exactly when it gives a text, has the part checked and the text
breaks a rule. -/
theorem Request.attempt_eq_violation_iff {r : Request} {input : Text} {s : Settings}
    {v : Violation} :
    (r.attempt input s).1 = .error (.violation v) ↔
      r.checks s = true ∧ ∃ raw, r.raw? input = some raw ∧ Violation.find? r.kind raw = some v := by
  cases hraw : r.raw? input with
  | none => simp [r.attempt_of_none s hraw]
  | some raw => simp [r.attempt_of_raw s hraw, Context.attempt_eq_violation_iff]

theorem answer_eq (r : Request) (input : Text) (s : Settings) (t : Thresholds) (ctx : Context) :
    answer r input s t ctx =
      (conclude t (r.attempt input s).1 (r.attempt input s).2, ctx) := by
  rw [answer, r.make_eq]

/-! ## The override around a run -/

theorem after_eq_rejected_iff {o : Outcome} {events : List Event} {v : Violation} :
    (∃ log, o.after events = .rejected v log) ↔ ∃ log, o = .rejected v log := by
  cases o <;> simp [Outcome.after]

/-- A run rejects its part for a violation exactly when making it came to that violation. -/
theorem conclude_eq_rejected_iff {t : Thresholds} {made : Except Failure Part}
    {records : List Record} {v : Violation} :
    (∃ log, conclude t made records = .rejected v log) ↔ made = .error (.violation v) := by
  cases made with
  | error failure => cases failure <;> simp [conclude]
  | ok part =>
    simp only [conclude]
    split <;> simp

/-- The thresholds of the log under which a run answers, given its settings. -/
def thresholdsFor (ctx : Context) (s : Settings) : Thresholds :=
  Thresholds.request ctx.thresholds s.logLevel

/-- Getting the settings does not touch the thresholds of the log. -/
theorem settingsFor_thresholds (inv : Invocation) (ctx : Context) :
    (settingsFor inv ctx).2.thresholds = ctx.thresholds := by
  unfold settingsFor
  cases inv.settings with
  | some s => rfl
  | none => rw [ctx.settings_eq, Context.amid]

/-- A run that has its request and its settings ends as the making of the part does. -/
theorem run_fst_of_ok {inv : Invocation} {ctx : Context} {r : Request} {s : Settings}
    (hparse : parse inv.argv = .ok r) (hsettings : (settingsFor inv ctx).1 = .ok s) :
    (run inv ctx).1 =
      (conclude (thresholdsFor ctx s) (r.attempt inv.input s).1 (r.attempt inv.input s).2).after
        (warningsFor inv ctx) := by
  have hthresholds := settingsFor_thresholds inv ctx
  rcases hfound : settingsFor inv ctx with ⟨result, next⟩
  rw [hfound] at hsettings hthresholds
  subst hsettings
  rw [thresholdsFor, ← hthresholds]
  simp only [run, hparse, hfound, answer_eq]

/-- **A run checks its part** when its settings ask for it and its command line does not leave the
checks out: then it rejects a text that breaks a rule, and otherwise it rejects nothing. -/
theorem run_rejected_iff {inv : Invocation} {ctx : Context} {r : Request} {s : Settings}
    {v : Violation} (hparse : parse inv.argv = .ok r)
    (hsettings : (settingsFor inv ctx).1 = .ok s) :
    (∃ log, (run inv ctx).1 = .rejected v log) ↔
      (s.strictParts = true ∧ r.noStrict = false) ∧
        ∃ raw, r.raw? inv.input = some raw ∧ Violation.find? r.kind raw = some v := by
  have hchecks : r.checks s = true ↔ s.strictParts = true ∧ r.noStrict = false := by
    simp [Request.checks]
  rw [run_fst_of_ok hparse hsettings, after_eq_rejected_iff, conclude_eq_rejected_iff,
    Request.attempt_eq_violation_iff, hchecks]

end DocTag.CommandLine
