import DocTag.Proofs.CommandLine.Endings

/-!
# What a run is asked for

A run looks at its command line and its input only to find out which part it is asked for, and
whether the checks are left out (`Invocation.wanted`). Under the same settings, runs that are asked
for the same are the same (`run_congr`), and so are runs whose attempts to make their parts come to
the same (`run_congr_attempt`).
-/

namespace DocTag.CommandLine

/-- How a run ends whose command line is no request. -/
def Stop.outcome : Stop → Outcome
  | .help => .help
  | .refused refusal => .refused refusal

/-- What a run is asked for, wherever the raw text comes from: a part, if it is given a text for
one, and whether the checks are left out. -/
def Invocation.wanted (inv : Invocation) : Except Stop (Option Part × Bool) :=
  (parse inv.argv).map fun r => ((r.raw? inv.input).map r.part, r.noStrict)

/-- The attempt at the part of a request looks at the part and the checks alone. -/
theorem Request.attempt_eq_wanted (r : Request) (input : Text) (s : Settings) :
    r.attempt input s =
      match (r.raw? input).map r.part with
      | some part => Context.attempt (r.checks s) part.kind part.raw part.span
      | none => (.error .noText, []) := by
  rw [attempt]
  cases r.raw? input <;> rfl

variable {inv inv' : Invocation} {r r' : Request}

/-- A run whose command line is no request looks at nothing else. -/
theorem run_of_stop {stop : Stop} (hparse : parse inv.argv = .error stop) (ctx : Context) :
    run inv ctx = (stop.outcome, ctx) := by
  unfold run
  rw [hparse]
  cases stop <;> rfl

/-- **Runs whose attempts come to the same are the same**, as far as the settings let it come to an
attempt at all. -/
theorem run_congr_attempt {ctx : Context} (hsettings : inv'.settings = inv.settings)
    (hparse : parse inv.argv = .ok r) (hparse' : parse inv'.argv = .ok r')
    (hattempt : ∀ s, (settingsFor inv ctx).1 = .ok s →
      r'.attempt inv'.input s = r.attempt inv.input s) :
    run inv' ctx = run inv ctx := by
  have hfound : settingsFor inv' ctx = settingsFor inv ctx := by
    rw [settingsFor, settingsFor, hsettings]
  have hwarnings : warningsFor inv' ctx = warningsFor inv ctx := by
    rw [warningsFor, warningsFor, hsettings]
  rcases hgiven : settingsFor inv ctx with ⟨result, next⟩
  rw [hgiven] at hfound hattempt
  unfold run
  rw [hparse, hparse', hfound, hgiven, hwarnings]
  cases result with
  | error issues => rfl
  | ok s => simp only [answer_eq, hattempt s rfl]

/-- **Runs that are asked for the same are the same.** -/
theorem run_congr (hsettings : inv'.settings = inv.settings) (hwanted : inv'.wanted = inv.wanted)
    (ctx : Context) : run inv' ctx = run inv ctx := by
  unfold Invocation.wanted at hwanted
  cases hparse : parse inv.argv with
  | error stop =>
    cases hparse' : parse inv'.argv with
    | error stop' =>
      rw [hparse, hparse'] at hwanted
      obtain rfl : stop' = stop := Except.error.inj hwanted
      rw [run_of_stop hparse, run_of_stop hparse']
    | ok r' =>
      rw [hparse, hparse'] at hwanted
      nomatch hwanted
  | ok r =>
    cases hparse' : parse inv'.argv with
    | error stop' =>
      rw [hparse, hparse'] at hwanted
      nomatch hwanted
    | ok r' =>
      rw [hparse, hparse'] at hwanted
      obtain ⟨hpart, hchecks⟩ := Prod.mk.inj (Except.ok.inj hwanted)
      refine run_congr_attempt hsettings hparse hparse' fun s _ => ?_
      rw [r'.attempt_eq_wanted, r.attempt_eq_wanted, hpart, Request.checks, Request.checks, hchecks]

end DocTag.CommandLine
