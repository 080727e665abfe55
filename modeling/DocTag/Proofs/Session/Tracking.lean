import DocTag.Proofs.Session.Scoping

/-!
# A view of the session, tracked through a run

Much of what a run leaves can be said of one view of its session: the parts that are bound, or what
is bound to one name. If it is known what each step without steps of its own makes of a view, and
the view does not depend on the override, then the view at every moment of a run is the one at the
start, taken through the moments before (`Tracks.view_at`), and what the run leaves is that view
taken through all of its moments (`Tracks.runAll`).

The induction over the tree of steps is made here once, for every view.
-/

namespace DocTag

/-- Whether a step holds steps of its own. -/
def Step.isGroup : Step → Bool
  | .block .. | .fork _ | .thread _ => true
  | _ => false

section Views

variable {β : Type} {view : Session → β} {after : β → Moment → β}

/-- **A view that can be followed through a run**: it does not depend on the override, a moment
makes of it what the step there makes of it, and a step with steps of its own makes nothing of it
besides what those do. -/
structure Tracks (view : Session → β) (after : β → Moment → β) : Prop where
  override : ∀ s value, view (s.withOverride value) = view s
  leaf : ∀ m : Moment, m.step.isGroup = false → view m.next = after (view m.session) m
  group : ∀ (m : Moment) x, m.step.isGroup = true → after x m = x

mutual
/-- A step leaves the view that its moments make of the one that it finds. -/
theorem Tracks.run (h : Tracks view after) (step : Step) (s : Session) (scope : Option Bool) :
    view (step.run s).2 = (step.moments s scope).foldl after (view s) := by
  cases step with
  | block value escaping steps =>
    have hself := h.group ⟨s, scope, .block value escaping steps⟩ (view s) rfl
    rw [Step.moments, List.foldl_cons, hself]
    cases escaping with
    | false =>
      have hsteps := h.runAll steps (s.withOverride value) value
      rw [h.override] at hsteps
      rw [Step.run, h.override, hsteps]
    | true =>
      have hsteps := h.runUntilFailure steps (s.withOverride value) value
      rw [h.override] at hsteps
      rw [Step.run, h.override, hsteps]
  | fork steps =>
    have hself := h.group ⟨s, scope, .fork steps⟩ (view s) rfl
    rw [Step.moments, List.foldl_cons, hself, Step.run, h.override, h.runAll steps s scope]
  | thread steps =>
    have hself := h.group ⟨s, scope, .thread steps⟩ (view s) rfl
    have hsteps := h.runAll steps (s.withOverride none) none
    rw [h.override] at hsteps
    rw [Step.moments, List.foldl_cons, hself, Step.run, h.override, hsteps]
  | _ => exact h.leaf ⟨s, scope, _⟩ rfl
/-- **A run leaves the view that its moments make** of the one that it finds. -/
theorem Tracks.runAll (h : Tracks view after) (steps : List Step) (s : Session)
    (scope : Option Bool) :
    view (Step.runAll s steps).2 = (Step.momentsOf false s scope steps).foldl after (view s) := by
  cases steps with
  | nil => rfl
  | cons step rest =>
    rw [Step.momentsOf, List.foldl_append, ← h.run step s scope]
    exact h.runAll rest (step.run s).2 scope
/-- The same holds of a run that ends with its first failure. -/
theorem Tracks.runUntilFailure (h : Tracks view after) (steps : List Step) (s : Session)
    (scope : Option Bool) :
    view (Step.runUntilFailure s steps).2 =
      (Step.momentsOf true s scope steps).foldl after (view s) := by
  cases steps with
  | nil => rfl
  | cons step rest =>
    rw [Step.momentsOf, List.foldl_append, ← h.run step s scope, Step.runUntilFailure]
    cases hfails : (step.run s).1.isFailure with
    | true => simp only [hfails, if_true, Bool.and_self, List.foldl_nil]
    | false =>
      simp only [hfails, Bool.false_eq_true, if_false, Bool.and_false]
      rw [← h.runUntilFailure rest (step.run s).2 scope]
      rcases Step.runUntilFailure (step.run s).2 rest with ⟨result, u⟩
      cases result <;> rfl
end

/-- Moments are met one after another, each with the view that those before it have made. -/
def Meets (view : Session → β) (after : β → Moment → β) : β → List Moment → Prop
  | _, [] => True
  | x, m :: later => view m.session = x ∧ Meets view after (after x m) later

theorem meets_append {x : β} {ms ns : List Moment} :
    Meets view after x (ms ++ ns) ↔
      Meets view after x ms ∧ Meets view after (ms.foldl after x) ns := by
  induction ms generalizing x with
  | nil => exact ⟨fun h => ⟨trivial, h⟩, And.right⟩
  | cons m later ih => rw [List.cons_append, Meets, Meets, ih, and_assoc]; rfl

mutual
theorem Tracks.meets_moments (h : Tracks view after) (step : Step) (s : Session)
    (scope : Option Bool) : Meets view after (view s) (step.moments s scope) := by
  cases step with
  | block value escaping steps =>
    refine ⟨rfl, ?_⟩
    rw [h.group _ _ rfl, ← h.override s value]
    exact h.meets_momentsOf escaping steps (s.withOverride value) value
  | fork steps =>
    refine ⟨rfl, ?_⟩
    rw [h.group _ _ rfl]
    exact h.meets_momentsOf false steps s scope
  | thread steps =>
    refine ⟨rfl, ?_⟩
    rw [h.group _ _ rfl, ← h.override s none]
    exact h.meets_momentsOf false steps (s.withOverride none) none
  | _ => exact ⟨rfl, trivial⟩
/-- Every moment of a run is met with the view that the moments before it have made. -/
theorem Tracks.meets_momentsOf (h : Tracks view after) (escaping : Bool) (steps : List Step)
    (s : Session) (scope : Option Bool) :
    Meets view after (view s) (Step.momentsOf escaping s scope steps) := by
  cases steps with
  | nil => trivial
  | cons step rest =>
    apply meets_append.2
    refine ⟨h.meets_moments step s scope, ?_⟩
    rw [← h.run step s scope]
    split
    · trivial
    · exact h.meets_momentsOf escaping rest (step.run s).2 scope
end

/-- **The view at a moment** is the one at the start, taken through the moments before it. -/
theorem Tracks.view_at (h : Tracks view after) {escaping : Bool} {s : Session}
    {scope : Option Bool} {steps : List Step} {before later : List Moment} {m : Moment}
    (hmoments : Step.momentsOf escaping s scope steps = before ++ m :: later) :
    view m.session = before.foldl after (view s) := by
  have hmeets := h.meets_momentsOf escaping steps s scope
  rw [hmoments] at hmeets
  exact (meets_append.1 hmeets).2.1

end Views

end DocTag
