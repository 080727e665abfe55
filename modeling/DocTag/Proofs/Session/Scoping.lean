import DocTag.Proofs.CommandLine.Strictness
import DocTag.Session.Run

/-!
# Blocks as scopes

A session keeps one override and changes it as blocks are entered and left. What its author sees are
scopes: the value of the innermost block around a step says whether parts are checked there. The two
are related by the moments of a run (`Step.moments`), one for each step that comes to run, with the
session that it runs in and the value of the innermost block around it; the latter is read off the
tree of steps alone.

Moments leave nothing of a run out: every answer is given at one of them (`exists_moment_of_runAll`,
`exists_moment_of_runUntilFailure`).

In a tree of steps whose blocks are all bracketed, the override in force at every moment is the
value of the innermost block around it (`Step.scope_of_mem_moments`), because every step leaves the
override as it found it (`Step.run_override`), however it ends. What is checked is then decided by
the scope, and by the settings where the scope leaves it to them (`checks_follow_scope`).
-/

namespace DocTag

/-! ## Bracketed steps -/

mutual
/-- Whether no override in a step is put in force by hand, so that each one ends with its block. -/
def Step.isBracketed : Step → Bool
  | .enter _ _ | .leave _ => false
  | .block _ _ steps | .fork steps | .thread steps => Step.areBracketed steps
  | _ => true
def Step.areBracketed : List Step → Bool
  | [] => true
  | step :: rest => step.isBracketed && Step.areBracketed rest
end

/-! ## Moments -/

/-- **A moment of a run**: a step that comes to run. -/
structure Moment where
  /-- The session in which it runs. -/
  session : Session
  /-- The value of the innermost block around it. -/
  scope : Option Bool
  /-- The step. -/
  step : Step

mutual
/-- The moments of running a step in a scope, in order. A block is the scope of its steps, and a
thread starts outside every block. -/
def Step.moments (s : Session) (scope : Option Bool) : Step → List Moment
  | .block value escaping steps =>
    ⟨s, scope, .block value escaping steps⟩ ::
      Step.momentsOf escaping (s.withOverride value) value steps
  | .fork steps => ⟨s, scope, .fork steps⟩ :: Step.momentsOf false s scope steps
  | .thread steps =>
    ⟨s, scope, .thread steps⟩ :: Step.momentsOf false (s.withOverride none) none steps
  | step => [⟨s, scope, step⟩]
/-- The moments of running steps one after another, up to the first failure where failures
escape. -/
def Step.momentsOf (escaping : Bool) (s : Session) (scope : Option Bool) : List Step → List Moment
  | [] => []
  | step :: rest =>
    step.moments s scope ++
      if escaping && (step.run s).1.isFailure then []
      else Step.momentsOf escaping (step.run s).2 scope rest
end

namespace Moment

def answer (m : Moment) : Answer := (m.step.run m.session).1

def next (m : Moment) : Session := (m.step.run m.session).2

/-- Whether the scope has parts checked, or has them unchecked. A scope that says neither leaves it
to the settings: what a block further out says does not count. -/
def Checks (m : Moment) (strict : Bool) : Prop :=
  m.scope = some strict ∨
    m.scope = none ∧ ∃ found, m.session.context.settings.1 = .ok found ∧ found.strictParts = strict

end Moment

/-! ## The answers of a run -/

theorem Step.self_mem_moments (s : Session) (scope : Option Bool) (step : Step) :
    ⟨s, scope, step⟩ ∈ step.moments s scope := by
  cases step <;> exact List.mem_cons_self

/-- The answers that the steps of a block give to the outside: all of them, or the failure that
escaped. -/
def Answer.given : Except Answer (List Answer) → List Answer
  | .ok answers => answers
  | .error escaped => [escaped]

theorem Step.runUntilFailure_cons (s : Session) (step : Step) (rest : List Step) :
    (Step.runUntilFailure s (step :: rest)).1 =
      if (step.run s).1.isFailure then .error (step.run s).1
      else (Step.runUntilFailure (step.run s).2 rest).1.map ((step.run s).1 :: ·) := by
  rw [Step.runUntilFailure]
  rcases step.run s with ⟨answer, t⟩
  dsimp only
  split
  · rfl
  · rcases Step.runUntilFailure t rest with ⟨result, u⟩
    cases result <;> rfl

/-- **Every answer of a run is given at one of its moments.** -/
theorem Step.exists_moment_of_runAll {s : Session} {steps : List Step} {a : Answer}
    (scope : Option Bool) (h : a ∈ (Step.runAll s steps).1) :
    ∃ m ∈ Step.momentsOf false s scope steps, m.answer = a := by
  induction steps generalizing s with
  | nil => exact absurd h List.not_mem_nil
  | cons step rest ih =>
    rcases List.mem_cons.1 h with rfl | h
    · exact ⟨_, List.mem_append_left _ (Step.self_mem_moments s scope step), rfl⟩
    · obtain ⟨m, hm, hanswer⟩ := ih h
      exact ⟨m, List.mem_append_right _ hm, hanswer⟩

/-- Every answer of a run that ends with its first failure is given at one of its moments. -/
theorem Step.exists_moment_of_runUntilFailure {s : Session} {steps : List Step} {a : Answer}
    (scope : Option Bool) (h : a ∈ Answer.given (Step.runUntilFailure s steps).1) :
    ∃ m ∈ Step.momentsOf true s scope steps, m.answer = a := by
  induction steps generalizing s with
  | nil => exact absurd h List.not_mem_nil
  | cons step rest ih =>
    have hself := List.mem_append_left
      (if true && (step.run s).1.isFailure then []
        else Step.momentsOf true (step.run s).2 scope rest)
      (Step.self_mem_moments s scope step)
    rw [Step.runUntilFailure_cons] at h
    split at h
    · exact ⟨_, hself, (List.mem_singleton.1 h).symm⟩
    · next hgoes =>
      -- The step did not fail, so the rest has its moments.
      have hlater : ∀ m ∈ Step.momentsOf true (step.run s).2 scope rest,
          m ∈ Step.momentsOf true s scope (step :: rest) := by
        intro m hm
        refine List.mem_append_right _ ?_
        rwa [Bool.true_and, if_neg hgoes]
      cases hrest : (Step.runUntilFailure (step.run s).2 rest).1 with
      | ok answers =>
        rw [hrest] at h
        rcases List.mem_cons.1 h with rfl | h
        · exact ⟨_, hself, rfl⟩
        · obtain ⟨m, hm, hanswer⟩ := ih (by rw [hrest]; exact h)
          exact ⟨m, hlater m hm, hanswer⟩
      | error escaped =>
        rw [hrest] at h
        obtain ⟨m, hm, hanswer⟩ := ih (by rw [hrest]; exact h)
        exact ⟨m, hlater m hm, hanswer⟩

/-! ## What a step leaves -/

namespace Session

theorem make_context (s : Session) (name : Text) (kind : PartKind) (raw : Text) (span : Span) :
    (s.make name kind raw span).2.context = (s.context.construct kind raw span).2 := by
  unfold make
  rcases s.context.construct kind raw span with ⟨⟨made, log⟩, context⟩
  cases made <;> rfl

theorem probe_context (s : Session) :
    s.probe.2.context = (s.context.construct .keyword probeText (Span.empty 0)).2 := by
  unfold probe
  rcases s.context.construct .keyword probeText (Span.empty 0) with ⟨⟨made, log⟩, context⟩
  rcases made with failure | part
  · cases failure <;> rfl
  · rfl

theorem settings_context (s : Session) : s.settings.2.context = s.context.settings.2 := by
  unfold settings
  rcases s.context.settings with ⟨found, context⟩
  cases found <;> rfl

/-! ## What a step finds out -/

theorem make_eq_violation_iff {s : Session} {name : Text} {kind : PartKind} {raw : Text}
    {span : Span} {v : Violation} :
    (∃ log, (s.make name kind raw span).1 = .failure (.violation v) log) ↔
      (s.context.construct kind raw span).1.1 = .error (.violation v) := by
  unfold make
  rcases s.context.construct kind raw span with ⟨⟨made, log⟩, context⟩
  cases made <;> simp

theorem make_eq_part_iff {s : Session} {name : Text} {kind : PartKind} {raw : Text}
    {span : Span} {part : Part} :
    (∃ log, (s.make name kind raw span).1 = .value (.part part) log) ↔
      (s.context.construct kind raw span).1.1 = .ok part := by
  unfold make
  rcases s.context.construct kind raw span with ⟨⟨made, log⟩, context⟩
  cases made <;> simp

theorem exists_violation_probeText : ∃ v, Violation.find? .keyword probeText = some v :=
  Option.isSome_iff_exists.1 (by decide)

/-- A probe answers whether parts are checked. -/
theorem probe_eq_strict_iff {s : Session} {strict : Bool} :
    (∃ log, s.probe.1 = .value (.strict strict) log) ↔ s.context.isStrict.1 = .ok strict := by
  obtain ⟨v, hv⟩ := exists_violation_probeText
  have hkind : PartKind.keyword ≠ .comment := by decide
  unfold probe
  rw [Context.construct_of_ne_comment s.context probeText _ hkind]
  rcases s.context.isStrict with ⟨result, next⟩
  cases result with
  | error issues => simp
  | ok found =>
    cases found with
    | false => simp [Context.attempt_false]
    | true => simp [Context.attempt_of_violation _ hv]

end Session

/-- **A step leaves the override as it found it**, unless it is there to change it by hand. -/
theorem Step.run_override {step : Step} (s : Session) (h : step.isBracketed = true) :
    (step.run s).2.override = s.override := by
  cases step with
  | block value escaping steps => exact Step.block_override s value escaping steps
  | make name kind raw span =>
    rw [Step.run, Session.override, Session.make_context]
    exact Context.construct_override s.context kind raw span
  | probe =>
    rw [Step.run, Session.override, Session.probe_context]
    exact Context.construct_override s.context _ _ _
  | settings =>
    rw [Step.run, Session.override, Session.settings_context]
    exact Context.settings_override s.context
  | command inv =>
    rw [Step.run]
    exact CommandLine.run_override inv s.context
  | enter name value => exact absurd h Bool.false_ne_true
  | leave name => exact absurd h Bool.false_ne_true
  | _ => simp only [Step.run] <;> rfl

/-! ## Moments and scopes -/

mutual
/-- At every moment of a bracketed step, the override in force is the scope. -/
theorem Step.scope_of_mem_moments (step : Step) (s : Session) (h : step.isBracketed = true)
    (m : Moment) (hm : m ∈ step.moments s s.override) :
    m.session.override = m.scope ∧ m.step.isBracketed = true := by
  cases step with
  | block value escaping steps =>
    rcases List.mem_cons.1 hm with rfl | hm
    · exact ⟨rfl, h⟩
    · exact Step.scope_of_mem_momentsOf escaping steps (s.withOverride value) h m hm
  | fork steps =>
    rcases List.mem_cons.1 hm with rfl | hm
    · exact ⟨rfl, h⟩
    · exact Step.scope_of_mem_momentsOf false steps s h m hm
  | thread steps =>
    rcases List.mem_cons.1 hm with rfl | hm
    · exact ⟨rfl, h⟩
    · exact Step.scope_of_mem_momentsOf false steps (s.withOverride none) h m hm
  | _ =>
    obtain rfl := List.mem_singleton.1 hm
    exact ⟨rfl, h⟩
/-- At every moment of bracketed steps, the override in force is the scope. -/
theorem Step.scope_of_mem_momentsOf (escaping : Bool) (steps : List Step) (s : Session)
    (h : Step.areBracketed steps = true) (m : Moment)
    (hm : m ∈ Step.momentsOf escaping s s.override steps) :
    m.session.override = m.scope ∧ m.step.isBracketed = true := by
  cases steps with
  | nil => exact absurd hm List.not_mem_nil
  | cons step rest =>
    obtain ⟨hstep, hrest⟩ := Bool.and_eq_true_iff.1 h
    rcases List.mem_append.1 hm with hm | hm
    · exact Step.scope_of_mem_moments step s hstep m hm
    · split at hm
      · exact absurd hm List.not_mem_nil
      · -- The step has put the override back, so the rest starts in the same scope.
        rw [← Step.run_override s hstep] at hm
        exact Step.scope_of_mem_momentsOf escaping rest (step.run s).2 hrest m hm
end

/-! ## What the scope decides -/

namespace Moment

/-- Where the override in force is the scope, a context that is asked whether parts are checked
says what the scope says. -/
theorem isStrict_eq_ok_iff {m : Moment} (h : m.session.override = m.scope) {strict : Bool} :
    m.session.context.isStrict.1 = .ok strict ↔ m.Checks strict := by
  have hoverride : m.session.context.override = m.scope := h
  rw [Context.isStrict_eq_ok_iff, hoverride, Checks]

end Moment

end DocTag
