import DocTag.Proofs.CommandLine.Routes

/-!
# Leaving the checks out

The flag that leaves the checks out, put in front of a command line, changes how no other argument
is read: whatever is refused is refused as before, and otherwise the same part is asked for
(`parse_unchecked`). So a run that does not reject its part is the same with the flag, and one that
does makes the part and describes it (`run_leaves_checks_out`).

A description writes both ends of the span. An offset is read up to a number of digits, and the end
that is computed from it can have one digit more; then the run breaks off
(`unchecked_breaks_off_at_last_offset`).
-/

namespace DocTag.CommandLine

/-! ## Drafts -/

/-- The draft with the checks left out. -/
def Draft.unchecked (d : Draft) : Draft := { d with noStrict := true }

/-- The request with the checks left out. -/
def Request.unchecked (r : Request) : Request := { r with noStrict := true }

/-- The invocation with the flag that leaves the checks out in front of its arguments. -/
def Invocation.unchecked (inv : Invocation) : Invocation :=
  { inv with argv := Flag.noStrict.spelling :: inv.argv }

namespace Draft

theorem isFull_unchecked (d : Draft) : d.unchecked.isFull = d.isFull := rfl

theorem giveOperand_unchecked (d : Draft) (beside : Bool) (t : Text) :
    d.unchecked.giveOperand beside t = (d.giveOperand beside t).map unchecked := by
  obtain ⟨kind, operand, start, noStrict, extras⟩ := d
  cases kind with
  | none =>
    simp only [giveOperand, unchecked]
    cases PartKind.ofWord? t <;> rfl
  | some kind => cases operand <;> rfl

theorem giveStart_unchecked (d : Draft) (t : Text) :
    d.unchecked.giveStart t = (d.giveStart t).map unchecked := by
  unfold giveStart
  cases Offset.read t with
  | ok start => rfl
  | error fault => cases fault <;> rfl

/-- **Taking words goes the same way** whether or not the checks are left out already. -/
theorem take_unchecked (d : Draft) (beside : Bool) (words : List Word) :
    d.unchecked.take beside words = (d.take beside words).map unchecked := by
  -- One case for each way that a word can go: what is taken goes on by induction, and what ends the
  -- command line ends it in both drafts alike.
  fun_induction Draft.take d beside words with
  | case1 d beside => rfl
  | case2 d beside t rest next hgive ih =>
    rw [take, giveOperand_unchecked, hgive]
    exact ih
  | case3 d beside t rest stop hgive =>
    rw [take, giveOperand_unchecked, hgive]
    rfl
  | case4 d beside rest hbelongs ih =>
    rw [take, isFull_unchecked, if_pos hbelongs]
    exact ih
  | case5 d beside rest hleft ih =>
    rw [take, isFull_unchecked, if_neg hleft]
    exact ih
  | case6 d beside t rest ih => exact ih
  | case7 d beside rest => rfl
  | case8 d beside rest ih => exact ih
  | case9 d beside value rest next hgive ih =>
    rw [take, giveStart_unchecked, hgive]
    exact ih
  | case10 d beside value rest stop hgive =>
    rw [take, giveStart_unchecked, hgive]
    rfl
  | case11 d beside value rest next hgive ih =>
    rw [take, giveStart_unchecked, hgive]
    exact ih
  | case12 d beside value rest stop hgive =>
    rw [take, giveStart_unchecked, hgive]
    rfl
  | case13 d beside rest hmissing =>
    rw [take]
    · rfl
    · exact hmissing
  | case14 d beside flag value rest hflag =>
    rw [take]
    · rfl
    · exact hflag

theorem finish_unchecked (d : Draft) : d.unchecked.finish = d.finish.map Request.unchecked := by
  obtain ⟨kind, operand, start, noStrict, extras⟩ := d
  cases kind <;> cases operand <;> cases extras <;> rfl

end Draft

/-! ## Command lines -/

/-- **The flag in front changes nothing else about a command line**: whatever the arguments are, it
is refused as before, or the same part is asked for without checks. -/
theorem parse_unchecked (argv : List Text) :
    parse (Flag.noStrict.spelling :: argv) = (parse argv).map Request.unchecked := by
  have hwords : Word.ofArguments (Flag.noStrict.spelling :: argv) =
      (Word.ofArguments argv).map (.flag .noStrict none :: ·) :=
    Word.ofArguments_cons argv (by decide) rfl
  unfold parse
  rw [hwords]
  cases Word.ofArguments argv with
  | error refusal => rfl
  | ok words =>
    have htake : Draft.blank.take false (.flag .noStrict none :: words) =
        (Draft.blank.take false words).map Draft.unchecked :=
      Draft.blank.take_unchecked false words
    dsimp only [Except.map]
    rw [htake]
    cases Draft.blank.take false words with
    | error stop => rfl
    | ok d => exact d.finish_unchecked

/-! ## Runs -/

section Runs

variable {inv : Invocation} {ctx : Context}

theorem Request.raw?_unchecked (r : Request) (input : Text) :
    r.unchecked.raw? input = r.raw? input := rfl

/-- A part that is not checked is made, if there is a text for it. -/
theorem Request.attempt_unchecked {r : Request} {input raw : Text} (s : Settings)
    (hraw : r.raw? input = some raw) : r.unchecked.attempt input s = (.ok (r.part raw), []) := by
  have hchecks : r.unchecked.checks s = false := Bool.and_false _
  rw [r.unchecked.attempt_of_raw s ((r.raw?_unchecked input).trans hraw), hchecks]
  rfl

/-- Without its checks, a run that rejects its part concludes with the part. -/
theorem run_unchecked_of_rejected {v : Violation} {log : List Event}
    (h : (run inv ctx).1 = .rejected v log) :
    ∃ r s raw, parse inv.argv = .ok r ∧ r.raw? inv.input = some raw ∧
      (run inv.unchecked ctx).1 =
        (conclude (thresholdsFor ctx s) (.ok (r.part raw)) []).after (warningsFor inv ctx) := by
  have hending := ending inv ctx
  rw [h] at hending
  cases hending with
  | @rejected r s raw v hparse hsettings hraw hchecks hfound =>
    have hunchecked : parse inv.unchecked.argv = .ok r.unchecked := by
      rw [Invocation.unchecked, parse_unchecked, hparse]
      rfl
    refine ⟨r, s, raw, hparse, hraw, ?_⟩
    rw [run_fst_of_ok hunchecked hsettings]
    show (conclude _ (r.unchecked.attempt inv.input s).1 (r.unchecked.attempt inv.input s).2).after
      (warningsFor inv ctx) = _
    rw [r.attempt_unchecked s hraw]

/-- Without its checks, a run that does not reject its part is the same. -/
theorem run_unchecked_of_not_rejected (h : ∀ v log, (run inv ctx).1 ≠ .rejected v log) :
    run inv.unchecked ctx = run inv ctx := by
  cases hparse : parse inv.argv with
  | error stop =>
    have hunchecked : parse inv.unchecked.argv = .error stop := by
      rw [Invocation.unchecked, parse_unchecked, hparse]
      rfl
    rw [run_of_stop hparse, run_of_stop hunchecked]
  | ok r =>
    have hunchecked : parse inv.unchecked.argv = .ok r.unchecked := by
      rw [Invocation.unchecked, parse_unchecked, hparse]
      rfl
    refine run_congr_attempt (Eq.refl inv.settings) hparse hunchecked fun s hsettings => ?_
    cases hraw : r.raw? inv.input with
    | none =>
      rw [r.attempt_of_none s hraw]
      exact r.unchecked.attempt_of_none s ((r.raw?_unchecked inv.input).trans hraw)
    | some raw =>
      refine (r.attempt_unchecked s hraw).trans ?_
      rcases r.attempt_cases s hraw with ⟨v, -, -, hattempt⟩ | ⟨-, hattempt⟩
      · have hrun := run_fst_of_ok hparse hsettings
        rw [hattempt] at hrun
        exact absurd hrun (h v _)
      · exact hattempt.symm

end Runs

/-- **What leaving its checks out does to a run.** -/
structure LeavesChecksOut (inv : Invocation) (ctx : Context) : Prop where
  /-- A run that does not reject its part stays the same: one that describes its part or shows the
  help text, whose command line is refused or gives no text, or whose settings cannot be read. -/
  agrees : (∀ v log, (run inv ctx).1 ≠ .rejected v log) → run inv.unchecked ctx = run inv ctx
  /-- Where a run rejects its part, the part is made without checks and described, if its span can
  be written. -/
  describes : ∀ {v log}, (run inv ctx).1 = .rejected v log →
    ∃ r raw part, parse inv.argv = .ok r ∧ r.raw? inv.input = some raw ∧
    Part.build false r.kind raw (Span.covering raw r.start) = (.ok part, []) ∧
    if part.span.isWritable then
      (run inv.unchecked ctx).1.exitCode = .ok 0 ∧
        (run inv.unchecked ctx).1.output = part.describe.print ++ ['\n']
    else (run inv.unchecked ctx).1 = .brokenOff .unwritable (warningsFor inv ctx)

/-- **Leaving the checks out lets more through and changes nothing else**, whatever the arguments,
the input, the settings and the context are. -/
theorem run_leaves_checks_out (inv : Invocation) (ctx : Context) : LeavesChecksOut inv ctx := by
  constructor
  case agrees => exact run_unchecked_of_not_rejected
  case describes =>
    intro v log h
    obtain ⟨r, s, raw, hparse, hraw, hrun⟩ := run_unchecked_of_rejected h
    refine ⟨r, raw, r.part raw, hparse, hraw, rfl, ?_⟩
    rw [hrun, conclude]
    cases (r.part raw).span.isWritable with
    | true => exact ⟨rfl, rfl⟩
    | false => exact congrArg (Outcome.brokenOff .unwritable) (List.append_nil _)

/-! ## At the last offset -/

/-- A command line for a keyword without its at sign, at an offset. -/
def bareKeyword (offset : Nat) : Invocation :=
  ⟨["--start=".toList ++ Text.ofNat offset, "kind".toList, "x".toList], [], none⟩

theorem parse_bareKeyword {offset : Nat} (h : offset < Nat.pow 10 Numeral.maxDigits) :
    parse (bareKeyword offset).argv = .ok ⟨.keyword, .text "x".toList, offset, false⟩ :=
  parse_operand [.startAttached ⟨"--start".toList, by decide, by decide⟩
    ⟨Text.ofNat offset, offset, Offset.read_ofNat h⟩] .keyword (by decide) rfl

/-- The end of a span that starts at the last offset is not written. -/
theorem not_isWritable_of_last {offset : Nat} (h : offset + 1 = Nat.pow 10 Numeral.maxDigits) :
    (Span.covering "x".toList offset).isWritable = false := by
  have hstop : (Span.covering "x".toList offset).stop.natAbs = offset + 1 := rfl
  rw [Span.isWritable, hstop, h, decide_eq_false (Nat.lt_irrefl _), Bool.and_false]

/-- At the last offset that is read, leaving the checks out turns a rejected text into a run that
breaks off. -/
theorem unchecked_breaks_off_at_last_offset :
    (∃ v log, (run (bareKeyword (Nat.pow 10 Numeral.maxDigits - 1)) (Context.start [] none)).1 =
        .rejected v log) ∧
      (run (bareKeyword (Nat.pow 10 Numeral.maxDigits - 1)).unchecked (Context.start [] none)).1 =
        .brokenOff .unwritable [] := by
  have hpositive : 0 < Nat.pow 10 Numeral.maxDigits := by
    rw [Nat.pow_eq]
    exact Nat.pow_pos (by decide)
  have hlast := Nat.sub_add_cancel hpositive
  generalize Nat.pow 10 Numeral.maxDigits - 1 = offset at hlast
  have hparse := parse_bareKeyword (Nat.lt_of_lt_of_eq (Nat.lt_succ_self offset) hlast)
  have hsettings : (settingsFor (bareKeyword offset) (Context.start [] none)).1 =
      .ok Settings.default := rfl
  obtain ⟨log, hrejected⟩ := (run_rejected_iff hparse hsettings).2 ⟨⟨rfl, rfl⟩, _, rfl, rfl⟩
  obtain ⟨r, s, raw, hrequest, hraw, hrun⟩ := run_unchecked_of_rejected hrejected
  obtain rfl := Except.ok.inj (hparse.symm.trans hrequest)
  obtain rfl : "x".toList = raw := Option.some.inj hraw
  refine ⟨⟨_, log, hrejected⟩, ?_⟩
  have hwritable : (Request.part ⟨.keyword, .text "x".toList, offset, false⟩
      "x".toList).span.isWritable = false :=
    not_isWritable_of_last hlast
  rw [hrun, conclude_of_unwritable _ hwritable]
  rfl

end DocTag.CommandLine
