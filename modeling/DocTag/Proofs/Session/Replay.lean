import DocTag.Proofs.CommandLine.Endings
import DocTag.Proofs.Session.Tracking

/-!
# The surroundings of a run, replayed

The surroundings of a session are what its settings are read from and the settings that it keeps.
What a step that holds no steps makes of them can be read off the step and the override in force
(`Surroundings.after`), so the surroundings at a moment are those at the start, replayed through the
moments before it (`Surroundings.replay`, `Step.meets_momentsOf`, `Step.runAll_surroundings`).

A run in other surroundings gives the same answers and leaves the same session, in surroundings of
its own, where the two read the same whenever the settings are asked for (`SameReadings`,
`Step.runAll_amid`). Both facts come from one induction over the tree of steps (`Step.run_amid`).
-/

namespace DocTag

/-! ## Moments and surroundings -/

/-- Whether a step that holds no steps asks for the settings while an override is in force. -/
def Step.asks (override : Option Bool) : Step → Bool
  | .make _ kind _ _ => Context.asks override kind
  | .probe => Context.asks override .keyword
  | .settings => true
  | .command inv => inv.asks
  | _ => false

/-- The surroundings after a step that holds no steps of its own: they change where the step is
there to change them, and otherwise only where it asks for the settings. -/
def Surroundings.after (x : Surroundings) (override : Option Bool) : Step → Surroundings
  | .setVariable name value => { x with environment := x.environment.set name value }
  | .dropVariable name => { x with environment := x.environment.erase name }
  | .setFile file => { x with file }
  | .clearCache => { x with kept := none }
  | step => if step.asks override then x.asked else x

namespace Moment

def asks (m : Moment) : Bool := m.step.asks m.session.override

end Moment

namespace Surroundings

/-- The surroundings after the moments of a run. -/
def replay (x : Surroundings) : List Moment → Surroundings
  | [] => x
  | m :: later => (x.after m.session.override m.step).replay later

theorem replay_append (x : Surroundings) (ms ns : List Moment) :
    x.replay (ms ++ ns) = (x.replay ms).replay ns := by
  induction ms generalizing x with
  | nil => rfl
  | cons m later ih => exact ih _

/-- A step that asks for the settings changes nothing besides. -/
theorem after_of_asks {step : Step} {override : Option Bool} (x : Surroundings)
    (h : step.asks override = true) : x.after override step = x.asked := by
  cases step with
  | make name kind raw span => exact if_pos h
  | probe => exact if_pos h
  | settings => rfl
  | command inv => exact if_pos h
  | _ => exact absurd h Bool.false_ne_true

/-- Replayed through some moments, two surroundings read the same whenever the settings are asked
for. -/
def SameReadings : Surroundings → Surroundings → List Moment → Prop
  | _, _, [] => True
  | x, y, m :: later =>
    (m.asks = true → x.given = y.given ∧ x.malformedLines = y.malformedLines) ∧
      SameReadings (x.after m.session.override m.step) (y.after m.session.override m.step) later

theorem SameReadings.refl (x : Surroundings) (ms : List Moment) : SameReadings x x ms := by
  induction ms generalizing x with
  | nil => trivial
  | cons m later ih => exact ⟨fun _ => ⟨rfl, rfl⟩, ih _⟩

theorem sameReadings_append {x y : Surroundings} {ms ns : List Moment} :
    SameReadings x y (ms ++ ns) ↔
      SameReadings x y ms ∧ SameReadings (x.replay ms) (y.replay ms) ns := by
  induction ms generalizing x y with
  | nil => exact ⟨fun h => ⟨trivial, h⟩, And.right⟩
  | cons m later ih => rw [List.cons_append, SameReadings, SameReadings, ih, and_assoc]; rfl

end Surroundings

namespace Session

def surroundings (s : Session) : Surroundings := s.context.surroundings

/-- The session in other surroundings. -/
def amid (s : Session) (x : Surroundings) : Session := { s with context := s.context.amid x }

theorem withOverride_amid (s : Session) (x : Surroundings) (override : Option Bool) :
    (s.amid x).withOverride override = (s.withOverride override).amid x := rfl

/-! ## One step -/

theorem make_amid (s : Session) (name : Text) (kind : PartKind) (raw : Text) (span : Span)
    (x : Surroundings)
    (h : Context.asks s.override kind = true → x.given = s.surroundings.given) :
    (s.amid x).make name kind raw span =
      ((s.make name kind raw span).1, (s.make name kind raw span).2.amid
        (if Context.asks s.override kind then x.asked else x)) := by
  have hmade := s.context.construct_amid kind raw span x h
  have hcontext : (s.amid x).context = s.context.amid x := rfl
  unfold make
  rw [hcontext, hmade]
  rcases s.context.construct kind raw span with ⟨⟨made, log⟩, context⟩
  cases made <;> rfl

theorem probe_amid (s : Session) (x : Surroundings)
    (h : Context.asks s.override .keyword = true → x.given = s.surroundings.given) :
    (s.amid x).probe =
      (s.probe.1, s.probe.2.amid (if Context.asks s.override .keyword then x.asked else x)) := by
  have hmade := s.context.construct_amid .keyword probeText (Span.empty 0) x h
  have hcontext : (s.amid x).context = s.context.amid x := rfl
  unfold probe
  rw [hcontext, hmade]
  rcases s.context.construct .keyword probeText (Span.empty 0) with ⟨⟨made, log⟩, context⟩
  rcases made with failure | part
  · cases failure <;> rfl
  · rfl

theorem settings_amid (s : Session) (x : Surroundings) (h : x.given = s.surroundings.given) :
    (s.amid x).settings = (s.settings.1, s.settings.2.amid x.asked) := by
  have hcontext : (s.amid x).context = s.context.amid x := rfl
  have hfound := s.context.settings_amid x
  have hsame : x.given = s.context.settings.1 := by
    rw [s.context.settings_eq]
    exact h
  unfold settings
  rw [hcontext, hfound, hsame]
  rcases s.context.settings with ⟨found, context⟩
  cases found <;> rfl

theorem command_amid (s : Session) (inv : CommandLine.Invocation) (x : Surroundings)
    (h : inv.asks = true → x.given = s.surroundings.given ∧
      x.malformedLines = s.surroundings.malformedLines) :
    (s.amid x).command inv =
      ((s.command inv).1, (s.command inv).2.amid (if inv.asks then x.asked else x)) := by
  have hcontext : (s.amid x).context = s.context.amid x := rfl
  unfold command
  rw [hcontext, CommandLine.run_amid inv s.context x h]
  rfl

/-- What is left by an action that is indifferent to its surroundings lies in those that it makes
of the ones that it finds. -/
theorem surroundings_of_amid {α : Type} {s : Session} {y : Surroundings}
    (action : Session → α × Session)
    (h : action (s.amid s.surroundings) = ((action s).1, (action s).2.amid y)) :
    (action s).2.surroundings = y :=
  congrArg (fun result => result.2.surroundings) h

theorem leave_amid (s : Session) (name : Text) (x : Surroundings) :
    (s.amid x).leave name = (s.leave name).amid x := by
  have hblocks : (s.amid x).blocks = s.blocks := rfl
  unfold leave
  rw [hblocks]
  cases s.blocks.get? name <;> rfl

end Session

/-- **A step in other surroundings** gives the same answer and leaves the same session, in the
surroundings that it makes of its own, if they read the same where it asks for the settings. -/
theorem Step.run_amid_of_not_isGroup {step : Step} (s : Session) (x : Surroundings)
    (hstep : step.isGroup = false)
    (h : step.asks s.override = true → x.given = s.surroundings.given ∧
      x.malformedLines = s.surroundings.malformedLines) :
    step.run (s.amid x) = ((step.run s).1, (step.run s).2.amid (x.after s.override step)) := by
  cases step with
  | make name kind raw span => exact s.make_amid name kind raw span x fun hasks => (h hasks).1
  | probe => exact s.probe_amid x fun hasks => (h hasks).1
  | settings => exact s.settings_amid x (h rfl).1
  | command inv => exact s.command_amid inv x h
  | leave name =>
    simp only [Step.run, s.leave_amid]
    rfl
  | block value escaping steps => exact absurd hstep Bool.noConfusion
  | fork steps => exact absurd hstep Bool.noConfusion
  | thread steps => exact absurd hstep Bool.noConfusion
  | _ => rfl

/-! ## A whole run -/

mutual
theorem Step.run_amid (step : Step) (s : Session) (scope : Option Bool) (x : Surroundings)
    (h : x.SameReadings s.surroundings (step.moments s scope)) :
    step.run (s.amid x) =
      ((step.run s).1, (step.run s).2.amid (x.replay (step.moments s scope))) := by
  cases step with
  | block value escaping steps =>
    cases escaping with
    | false =>
      have hinner := Step.runAll_amid steps (s.withOverride value) value x h.2
      simp only [Step.run, s.withOverride_amid, hinner]
      rfl
    | true =>
      have hinner := Step.runUntilFailure_amid steps (s.withOverride value) value x h.2
      simp only [Step.run, s.withOverride_amid, hinner]
      rfl
  | fork steps =>
    have hinner := Step.runAll_amid steps s scope x h.2
    simp only [Step.run, hinner]
    rfl
  | thread steps =>
    have hinner := Step.runAll_amid steps (s.withOverride none) none x h.2
    simp only [Step.run, s.withOverride_amid, hinner]
    rfl
  | _ => exact Step.run_amid_of_not_isGroup s x rfl h.1
/-- **A run in other surroundings** gives the same answers and leaves the same session, in the
surroundings that the run makes of its own, if the two read the same. -/
theorem Step.runAll_amid (steps : List Step) (s : Session) (scope : Option Bool) (x : Surroundings)
    (h : x.SameReadings s.surroundings (Step.momentsOf false s scope steps)) :
    Step.runAll (s.amid x) steps =
      ((Step.runAll s steps).1,
        (Step.runAll s steps).2.amid (x.replay (Step.momentsOf false s scope steps))) := by
  cases steps with
  | nil => rfl
  | cons step rest =>
    obtain ⟨hfirst, hlater⟩ := Surroundings.sameReadings_append.1 h
    have hstep := Step.run_amid step s scope x hfirst
    have hleft : (step.run s).2.surroundings = s.surroundings.replay (step.moments s scope) :=
      Session.surroundings_of_amid step.run (Step.run_amid step s scope s.surroundings (.refl _ _))
    have hrest := Step.runAll_amid rest (step.run s).2 scope (x.replay (step.moments s scope)) <| by
      rw [hleft]
      exact hlater
    simp only [Step.runAll, hstep, hrest, Step.momentsOf, Surroundings.replay_append]
    rfl
/-- The same holds of a run that ends with its first failure. -/
theorem Step.runUntilFailure_amid (steps : List Step) (s : Session) (scope : Option Bool)
    (x : Surroundings)
    (h : x.SameReadings s.surroundings (Step.momentsOf true s scope steps)) :
    Step.runUntilFailure (s.amid x) steps =
      ((Step.runUntilFailure s steps).1,
        (Step.runUntilFailure s steps).2.amid (x.replay (Step.momentsOf true s scope steps))) := by
  cases steps with
  | nil => rfl
  | cons step rest =>
    obtain ⟨hfirst, hlater⟩ := Surroundings.sameReadings_append.1 h
    have hstep := Step.run_amid step s scope x hfirst
    have hleft : (step.run s).2.surroundings = s.surroundings.replay (step.moments s scope) :=
      Session.surroundings_of_amid step.run (Step.run_amid step s scope s.surroundings (.refl _ _))
    cases hfails : (step.run s).1.isFailure with
    | true =>
      simp only [Step.runUntilFailure, hstep, hfails, Step.momentsOf, Bool.and_self, if_true,
        List.append_nil]
    | false =>
      rw [hfails] at hlater
      have hrest := Step.runUntilFailure_amid rest (step.run s).2 scope
        (x.replay (step.moments s scope)) (by rw [hleft]; exact hlater)
      simp only [Step.runUntilFailure, hstep, hfails, hrest, Step.momentsOf, Bool.and_false,
        Bool.false_eq_true, if_false, Surroundings.replay_append]
      rcases Step.runUntilFailure (step.run s).2 rest with ⟨result, u⟩
      cases result <;> rfl
end

/-- **A run leaves the surroundings that its moments make** of those that it finds. -/
theorem Step.runAll_surroundings (steps : List Step) (s : Session) (scope : Option Bool) :
    (Step.runAll s steps).2.surroundings =
      s.surroundings.replay (Step.momentsOf false s scope steps) :=
  Session.surroundings_of_amid (Step.runAll · steps)
    (Step.runAll_amid steps s scope s.surroundings (.refl _ _))

/-! ## The surroundings at a moment -/

namespace Surroundings

/-- Moments are met one after another, each in the surroundings that those before it have made. -/
def Meets : Surroundings → List Moment → Prop
  | _, [] => True
  | x, m :: later => m.session.surroundings = x ∧ (x.after m.session.override m.step).Meets later

theorem meets_append {x : Surroundings} {ms ns : List Moment} :
    x.Meets (ms ++ ns) ↔ x.Meets ms ∧ (x.replay ms).Meets ns := by
  induction ms generalizing x with
  | nil => exact ⟨fun h => ⟨trivial, h⟩, And.right⟩
  | cons m later ih => rw [List.cons_append, Meets, Meets, ih, and_assoc]; rfl

end Surroundings

/-- What is met in this sense is met with the surroundings as the view of the session. -/
theorem Surroundings.meets_iff {x : Surroundings} {ms : List Moment} :
    x.Meets ms ↔
      DocTag.Meets Session.surroundings (fun x m => x.after m.session.override m.step) x ms := by
  induction ms generalizing x with
  | nil => exact Iff.rfl
  | cons m later ih => exact and_congr_right fun _ => ih

/-- The surroundings can be followed through a run. -/
theorem tracks_surroundings :
    Tracks Session.surroundings fun x m => x.after m.session.override m.step where
  override _ _ := rfl
  leaf m hstep := Session.surroundings_of_amid m.step.run
    (Step.run_amid_of_not_isGroup m.session m.session.surroundings hstep fun _ => ⟨rfl, rfl⟩)
  group m x hstep := by
    obtain ⟨s, scope, step⟩ := m
    cases step with
    | block value escaping steps => rfl
    | fork steps => rfl
    | thread steps => rfl
    | _ => exact absurd hstep Bool.noConfusion

/-- **The surroundings at a moment** are those at the start, replayed through the moments before
it. -/
theorem Step.meets_momentsOf (escaping : Bool) (steps : List Step) (s : Session)
    (scope : Option Bool) : s.surroundings.Meets (Step.momentsOf escaping s scope steps) :=
  Surroundings.meets_iff.2 (tracks_surroundings.meets_momentsOf escaping steps s scope)

end DocTag
