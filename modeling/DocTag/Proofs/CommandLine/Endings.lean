import DocTag.Proofs.CommandLine.Strictness

/-!
# How a run ends

A run ends in one of seven ways, each of which says what the run has found out by then (`Ending`,
`ending`). Whatever is to be shown of a run can be shown from one ending to the next.

What a run reads of its surroundings is decided by what it is given: nothing for a command line that
is no request or for settings that are given, and otherwise the settings, with a warning for each
malformed line of the file that they are read from (`run_amid`).
-/

namespace DocTag.CommandLine

/-! ## Endings -/

/-- The part that a request is about, given its raw text. -/
def Request.part (r : Request) (raw : Text) : Part :=
  .of r.kind raw (Span.covering raw r.start)

/-- What a run logs when it describes a part. -/
def details (part : Part) : List Event :=
  .described part.kind part.span :: part.records.map Event.record

section Conclusions

variable (t : Thresholds) {part : Part}

/-- A part whose span can be written is described. -/
theorem conclude_of_writable (h : part.span.isWritable = true) :
    conclude t (.ok part) [] = .described part ((details part).filter (Event.isShown t)) := by
  rw [conclude, h]
  rfl

/-- A run breaks off at a part whose span cannot be written. -/
theorem conclude_of_unwritable (h : part.span.isWritable = false) :
    conclude t (.ok part) [] = .brokenOff .unwritable [] := by
  rw [conclude, h]
  rfl

end Conclusions

/-- **The ways in which a run can end.** -/
inductive Ending (inv : Invocation) (ctx : Context) : Outcome → Prop
  /-- The command line asks for help. -/
  | help (hparse : parse inv.argv = .error .help) : Ending inv ctx .help
  /-- The command line is a mistake. -/
  | refused {refusal : Refusal} (hparse : parse inv.argv = .error (.refused refusal)) :
      Ending inv ctx (.refused refusal)
  /-- The settings cannot be read. -/
  | invalidSettings {r : Request} {issues : List Issue} (hparse : parse inv.argv = .ok r)
      (hsettings : (settingsFor inv ctx).1 = .error issues) :
      Ending inv ctx (.brokenOff (.invalidSettings issues) (warningsFor inv ctx))
  /-- The command line gives no text for its part. -/
  | textless {r : Request} {s : Settings} (hparse : parse inv.argv = .ok r)
      (hsettings : (settingsFor inv ctx).1 = .ok s) (hraw : r.raw? inv.input = none) :
      Ending inv ctx (.brokenOff .noText (warningsFor inv ctx))
  /-- The part is checked and breaks a rule. -/
  | rejected {r : Request} {s : Settings} {raw : Text} {v : Violation}
      (hparse : parse inv.argv = .ok r) (hsettings : (settingsFor inv ctx).1 = .ok s)
      (hraw : r.raw? inv.input = some raw) (hchecks : r.checks s = true)
      (hfound : Violation.find? r.kind raw = some v) :
      Ending inv ctx (.rejected v (warningsFor inv ctx ++
        [Event.record (.preconditionFailed v.kind v.rule v.raw.length)].filter
          (Event.isShown (thresholdsFor ctx s))))
  /-- The part is made and has a span that can be written. -/
  | described {r : Request} {s : Settings} {raw : Text} (hparse : parse inv.argv = .ok r)
      (hsettings : (settingsFor inv ctx).1 = .ok s) (hraw : r.raw? inv.input = some raw)
      (hkeeps : r.checks s = true → Violation.find? r.kind raw = none)
      (hwritable : (r.part raw).span.isWritable = true) :
      Ending inv ctx (.described (r.part raw) (warningsFor inv ctx ++
        (details (r.part raw)).filter (Event.isShown (thresholdsFor ctx s))))
  /-- The part is made and has a span that cannot be written. -/
  | unwritable {r : Request} {s : Settings} {raw : Text} (hparse : parse inv.argv = .ok r)
      (hsettings : (settingsFor inv ctx).1 = .ok s) (hraw : r.raw? inv.input = some raw)
      (hkeeps : r.checks s = true → Violation.find? r.kind raw = none)
      (hwritable : (r.part raw).span.isWritable = false) :
      Ending inv ctx (.brokenOff .unwritable (warningsFor inv ctx))

/-- What comes of making the part of a request that gives a text: the part, or the violation that
its checks find. -/
theorem Request.attempt_cases {r : Request} {input raw : Text} (s : Settings)
    (hraw : r.raw? input = some raw) :
    (∃ v, r.checks s = true ∧ Violation.find? r.kind raw = some v ∧
      r.attempt input s =
        (.error (.violation v), [.preconditionFailed v.kind v.rule v.raw.length])) ∨
    ((r.checks s = true → Violation.find? r.kind raw = none) ∧
      r.attempt input s = (.ok (r.part raw), [])) := by
  rw [r.attempt_of_raw s hraw]
  cases hchecks : r.checks s with
  | false => exact .inr ⟨fun h => absurd h Bool.false_ne_true, Context.attempt_false _ _ _⟩
  | true =>
    cases hfound : Violation.find? r.kind raw with
    | none => exact .inr ⟨fun _ => rfl, Context.attempt_of_none _ hfound⟩
    | some v => exact .inl ⟨v, rfl, rfl, Context.attempt_of_violation _ hfound⟩

/-- Where there is no text to make a part of, a run breaks off. -/
theorem run_of_textless {inv : Invocation} {ctx : Context} {r : Request} {s : Settings}
    (hparse : parse inv.argv = .ok r) (hsettings : (settingsFor inv ctx).1 = .ok s)
    (hraw : r.raw? inv.input = none) :
    (run inv ctx).1 = .brokenOff .noText (warningsFor inv ctx) := by
  rw [run_fst_of_ok hparse hsettings, r.attempt_of_none s hraw]
  exact congrArg (Outcome.brokenOff .noText) (List.append_nil _)

/-- **Every run ends in one of these ways.** -/
theorem ending (inv : Invocation) (ctx : Context) : Ending inv ctx (run inv ctx).1 := by
  cases hparse : parse inv.argv with
  | error stop =>
    cases stop with
    | help =>
      have hrun : (run inv ctx).1 = .help := by simp only [run, hparse]
      exact hrun ▸ .help hparse
    | refused refusal =>
      have hrun : (run inv ctx).1 = .refused refusal := by simp only [run, hparse]
      exact hrun ▸ .refused hparse
  | ok r =>
    cases hsettings : (settingsFor inv ctx).1 with
    | error issues =>
      have hrun : (run inv ctx).1 =
          .brokenOff (.invalidSettings issues) (warningsFor inv ctx) := by
        rcases hfound : settingsFor inv ctx with ⟨result, next⟩
        rw [hfound] at hsettings
        subst hsettings
        simp only [run, hparse, hfound]
      exact hrun ▸ .invalidSettings hparse hsettings
    | ok s =>
      cases hraw : r.raw? inv.input with
      | none =>
        rw [run_of_textless hparse hsettings hraw]
        exact .textless hparse hsettings hraw
      | some raw =>
        rw [run_fst_of_ok hparse hsettings]
        rcases r.attempt_cases s hraw with ⟨v, hchecks, hfound, hattempt⟩ | ⟨hkeeps, hattempt⟩
        · rw [hattempt]
          exact .rejected hparse hsettings hraw hchecks hfound
        · rw [hattempt]
          cases hwritable : (r.part raw).span.isWritable with
          | false =>
            rw [conclude_of_unwritable _ hwritable, Outcome.after, List.append_nil]
            exact .unwritable hparse hsettings hraw hkeeps hwritable
          | true =>
            rw [conclude_of_writable _ hwritable, Outcome.after]
            exact .described hparse hsettings hraw hkeeps hwritable

/-! ## What a run reads -/

/-- Whether a run asks for the settings: its command line is a request, and none are given. -/
def Invocation.asks (inv : Invocation) : Bool :=
  inv.settings.isNone && (parse inv.argv).toOption.isSome

theorem Invocation.asks_iff {inv : Invocation} :
    inv.asks = true ↔ inv.settings = none ∧ ∃ r, parse inv.argv = .ok r := by
  rw [asks, Bool.and_eq_true, Option.isNone_iff_eq_none]
  cases parse inv.argv <;> simp [Except.toOption]

/-- **A run depends on its surroundings** only where it asks for the settings, and then through what
they are and the malformed lines of the file that they are read from. -/
theorem run_amid (inv : Invocation) (ctx : Context) (x : Surroundings)
    (h : inv.asks = true → x.given = ctx.surroundings.given ∧
      x.malformedLines = ctx.surroundings.malformedLines) :
    run inv (ctx.amid x) =
      ((run inv ctx).1, (run inv ctx).2.amid (if inv.asks then x.asked else x)) := by
  cases hparse : parse inv.argv with
  | error stop =>
    have hasks : inv.asks = false := by
      rw [Invocation.asks, hparse]
      exact Bool.and_false _
    rw [hasks]
    unfold run
    rw [hparse]
    cases stop <;> rfl
  | ok r =>
    cases hgiven : inv.settings with
    | some s =>
      have hasks : inv.asks = false := by
        rw [Invocation.asks, hgiven]
        rfl
      rw [hasks]
      simp only [run, hparse, settingsFor, warningsFor, hgiven, answer_eq]
      rfl
    | none =>
      have hasks : inv.asks = true := by
        rw [Invocation.asks, hgiven, hparse]
        rfl
      obtain ⟨hsame, hlines⟩ := h hasks
      have hfound : settingsFor inv ctx =
          (ctx.surroundings.given, ctx.amid ctx.surroundings.asked) := by
        rw [settingsFor, hgiven]
        exact ctx.settings_eq
      have hamid : settingsFor inv (ctx.amid x) = (ctx.surroundings.given, ctx.amid x.asked) := by
        rw [settingsFor, hgiven, ← hsame]
        exact (ctx.amid x).settings_eq
      have hwarnings : warningsFor inv (ctx.amid x) = warningsFor inv ctx := by
        have hmet : (ctx.amid x).malformedLines = ctx.malformedLines := hlines
        simp only [warningsFor, hgiven, hmet]
        rfl
      rw [hasks]
      unfold run
      rw [hparse, hfound, hamid, hwarnings]
      cases ctx.surroundings.given with
      | error issues => rfl
      | ok s =>
        simp only [answer_eq]
        rfl

end DocTag.CommandLine
