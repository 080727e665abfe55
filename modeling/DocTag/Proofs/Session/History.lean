import DocTag.Proofs.Session.Replay

/-!
# Settings as the history of a run leaves them

Settings are read once and then kept, so what a step finds them to be depends on all that has
happened before it: whether an earlier step has read them, whether that succeeded, what has become
of the environment since, and whether they were forgotten in between. All of this is in the
surroundings that the history has left, and those are the ones replayed through the moments before
(`Moment.FollowsHistory`, `settings_follow_history`).

Two things follow for whole runs. While settings are kept and not cleared, nothing that happens to
the environment or the file changes an answer (`Step.runAll_amid_of_kept`). And in a settled block,
one that says whether parts are checked as do all blocks in it, no surroundings count at all, and
the settings that are kept stay kept unless a step clears them (`Step.run_settled`).
-/

namespace DocTag

/-! ## Clearing -/

def Step.clears : Step → Bool
  | .clearCache => true
  | _ => false

def Moment.clears (m : Moment) : Bool := m.step.clears

namespace Surroundings

/-- Where the settings are not asked for, they stay as they are kept unless they are cleared. -/
theorem kept_after_of_not_asks {step : Step} {override : Option Bool} (x : Surroundings)
    (h : step.asks override = false) :
    (x.after override step).kept = if step.clears then none else x.kept := by
  cases step with
  | setVariable name value => rfl
  | dropVariable name => rfl
  | setFile file => rfl
  | clearCache => rfl
  | _ =>
    show (if Step.asks override _ then x.asked else x).kept = x.kept
    rw [h]
    rfl

/-- Settings that are kept stay kept unless they are cleared. -/
theorem kept_after_of_kept {step : Step} {found : Settings} {x : Surroundings}
    (override : Option Bool) (hkept : x.kept = some found) (hclears : step.clears = false) :
    (x.after override step).kept = some found := by
  cases hasks : step.asks override with
  | false =>
    rw [x.kept_after_of_not_asks hasks, hclears]
    exact hkept
  | true =>
    rw [x.after_of_asks hasks, asked_of_kept hkept]
    exact hkept

theorem kept_replay_of_not_asks {ms : List Moment} (x : Surroundings)
    (h : ∀ m ∈ ms, m.asks = false) :
    (x.replay ms).kept = if ms.any Moment.clears then none else x.kept := by
  induction ms generalizing x with
  | nil => rfl
  | cons m later ih =>
    obtain ⟨hfirst, hlater⟩ := List.forall_mem_cons.1 h
    rw [replay, ih _ hlater, x.kept_after_of_not_asks hfirst, List.any_cons, Moment.clears]
    cases m.step.clears <;> simp

theorem kept_replay_of_kept {ms : List Moment} {found : Settings} {x : Surroundings}
    (hkept : x.kept = some found) (hclears : ∀ m ∈ ms, m.clears = false) :
    (x.replay ms).kept = some found := by
  induction ms generalizing x with
  | nil => exact hkept
  | cons m later ih =>
    obtain ⟨hfirst, hlater⟩ := List.forall_mem_cons.1 hclears
    exact ih (kept_after_of_kept m.session.override hkept hfirst) hlater

theorem sameReadings_of_not_asks {ms : List Moment} (x y : Surroundings)
    (h : ∀ m ∈ ms, m.asks = false) : x.SameReadings y ms := by
  induction ms generalizing x y with
  | nil => trivial
  | cons m later ih =>
    obtain ⟨hfirst, hlater⟩ := List.forall_mem_cons.1 h
    exact ⟨fun hasks => absurd (hfirst.symm.trans hasks) Bool.false_ne_true, ih _ _ hlater⟩

theorem sameReadings_of_kept {ms : List Moment} {found : Settings} {x y : Surroundings}
    (hx : x.kept = some found) (hy : y.kept = some found)
    (hclears : ∀ m ∈ ms, m.clears = false) : x.SameReadings y ms := by
  induction ms generalizing x y with
  | nil => trivial
  | cons m later ih =>
    obtain ⟨hfirst, hlater⟩ := List.forall_mem_cons.1 hclears
    refine ⟨fun _ => ⟨?_, ?_⟩, ih (kept_after_of_kept _ hx hfirst) (kept_after_of_kept _ hy hfirst)
      hlater⟩
    · rw [given_of_kept hx, given_of_kept hy]
    · rw [malformedLines_of_kept hx, malformedLines_of_kept hy]

end Surroundings

/-- **While settings are kept and not cleared**, a run gives the same answers whatever becomes of
the environment and the file. -/
theorem Step.runAll_amid_of_kept {s : Session} {steps : List Step} {found : Settings}
    (y : Surroundings) (hkept : s.surroundings.kept = some found) (hy : y.kept = some found)
    (hclears : ∀ m ∈ Step.momentsOf false s s.override steps, m.clears = false) :
    Step.runAll (s.amid y) steps =
      ((Step.runAll s steps).1,
        (Step.runAll s steps).2.amid (y.replay (Step.momentsOf false s s.override steps))) :=
  Step.runAll_amid steps s s.override y (Surroundings.sameReadings_of_kept hy hkept hclears)

/-! ## Settled steps -/

mutual
/-- Whether a step leaves nothing to the settings where an override is in force around it: every
block in it says whether parts are checked, and nothing else asks. -/
def Step.isSettled : Step → Bool
  | .block override _ steps => override.isSome && Step.areSettled steps
  | .fork steps => Step.areSettled steps
  | .command inv => !inv.asks
  | .thread _ | .enter _ _ | .leave _ | .settings => false
  | _ => true
def Step.areSettled : List Step → Bool
  | [] => true
  | step :: rest => step.isSettled && Step.areSettled rest
end

mutual
theorem Step.isBracketed_of_isSettled (step : Step) (h : step.isSettled = true) :
    step.isBracketed = true := by
  cases step with
  | block value escaping steps =>
    exact Step.areBracketed_of_areSettled steps (Bool.and_eq_true_iff.1 h).2
  | fork steps => exact Step.areBracketed_of_areSettled steps h
  | thread steps => exact absurd h Bool.false_ne_true
  | enter name value => exact absurd h Bool.false_ne_true
  | leave name => exact absurd h Bool.false_ne_true
  | _ => rfl
theorem Step.areBracketed_of_areSettled (steps : List Step) (h : Step.areSettled steps = true) :
    Step.areBracketed steps = true := by
  cases steps with
  | nil => rfl
  | cons step rest =>
    obtain ⟨hstep, hrest⟩ := Bool.and_eq_true_iff.1 h
    exact Bool.and_eq_true_iff.2
      ⟨step.isBracketed_of_isSettled hstep, Step.areBracketed_of_areSettled rest hrest⟩
end

/-- A settled step that holds no steps asks for nothing under an override. -/
theorem Step.asks_of_isSettled {step : Step} {override : Option Bool} (h : step.isSettled = true)
    (hoverride : override.isSome = true) : step.asks override = false := by
  obtain ⟨strict, rfl⟩ := Option.isSome_iff_exists.1 hoverride
  cases step with
  | command inv => simpa only [isSettled, asks, Bool.not_eq_true'] using h
  | settings => exact absurd h Bool.false_ne_true
  | _ => rfl

mutual
theorem Step.asks_of_mem_moments (step : Step) (s : Session) (scope : Option Bool)
    (h : step.isSettled = true) (hoverride : s.override.isSome = true) (m : Moment)
    (hm : m ∈ step.moments s scope) : m.asks = false := by
  cases step with
  | block value escaping steps =>
    obtain ⟨hvalue, hsteps⟩ := Bool.and_eq_true_iff.1 h
    rcases List.mem_cons.1 hm with rfl | hm
    · rfl
    · exact Step.asks_of_mem_momentsOf escaping steps (s.withOverride value) value hsteps hvalue m
        hm
  | fork steps =>
    rcases List.mem_cons.1 hm with rfl | hm
    · rfl
    · exact Step.asks_of_mem_momentsOf false steps s scope h hoverride m hm
  | thread steps => exact absurd h Bool.false_ne_true
  | _ =>
    obtain rfl := List.mem_singleton.1 hm
    exact Step.asks_of_isSettled h hoverride
/-- At no moment of settled steps are the settings asked for, if they run under an override. -/
theorem Step.asks_of_mem_momentsOf (escaping : Bool) (steps : List Step) (s : Session)
    (scope : Option Bool) (h : Step.areSettled steps = true)
    (hoverride : s.override.isSome = true) (m : Moment)
    (hm : m ∈ Step.momentsOf escaping s scope steps) : m.asks = false := by
  cases steps with
  | nil => exact absurd hm List.not_mem_nil
  | cons step rest =>
    obtain ⟨hstep, hrest⟩ := Bool.and_eq_true_iff.1 h
    rcases List.mem_append.1 hm with hm | hm
    · exact Step.asks_of_mem_moments step s scope hstep hoverride m hm
    · split at hm
      · exact absurd hm List.not_mem_nil
      · -- The step has put the override back, so the rest runs under it too.
        have hback := Step.run_override s (step.isBracketed_of_isSettled hstep)
        exact Step.asks_of_mem_momentsOf escaping rest (step.run s).2 scope hrest
          (by rw [hback]; exact hoverride) m hm
end

/-- **A settled block gives the same answer in all surroundings.** The settings that are kept around
it stay kept, unless a step in it clears them. -/
theorem Step.run_settled {strict escaping : Bool} {steps : List Step} (s : Session)
    (y : Surroundings) (h : Step.areSettled steps = true) :
    ∃ z : Surroundings,
      (Step.block (some strict) escaping steps).run (s.amid y) =
        (((Step.block (some strict) escaping steps).run s).1,
          ((Step.block (some strict) escaping steps).run s).2.amid z) ∧
      z.kept = if ((Step.block (some strict) escaping steps).moments s s.override).any
        Moment.clears then none else y.kept := by
  have hasks : ∀ m ∈ (Step.block (some strict) escaping steps).moments s s.override,
      m.asks = false := by
    refine List.forall_mem_cons.2 ⟨rfl, ?_⟩
    exact Step.asks_of_mem_momentsOf escaping steps (s.withOverride (some strict)) _ h rfl
  have hsame := Surroundings.sameReadings_of_not_asks y s.surroundings hasks
  exact ⟨_, Step.run_amid _ s s.override y hsame, y.kept_replay_of_not_asks hasks⟩

/-! ## Reading the settings -/

/-- **A step that cannot read the settings** says so, and leaves the session as it was. -/
theorem Step.run_of_unreadable {step : Step} {s : Session} {issues : List Issue}
    (hasks : step.asks s.override = true) (h : s.surroundings.given = .error issues) :
    step.run s = (.failure (.invalidSettings issues) [], s) := by
  have hgiven : s.context.surroundings.given = .error issues := h
  have hsame : s.context.amid s.context.surroundings.asked = s.context := by
    rw [(Surroundings.asked_of_error hgiven).1]
    rfl
  cases step with
  | make name kind raw span =>
    simp only [run, Session.make, Context.construct_of_asks raw span hasks, hsame, hgiven]
    rfl
  | probe =>
    simp only [run, Session.probe, Context.construct_of_asks _ _ hasks, hsame, hgiven]
    rfl
  | settings =>
    simp only [run, Session.settings, Context.settings_eq, hsame, hgiven]
  | command inv =>
    obtain ⟨hnone, r, hparse⟩ := CommandLine.Invocation.asks_iff.1 hasks
    simp only [run, Session.command, CommandLine.run, hparse, CommandLine.settingsFor, hnone,
      Context.settings_eq, hsame, hgiven]
    rfl
  | _ => exact absurd hasks Bool.false_ne_true

namespace Session

/-- A part whose making asks for the settings is made as they say. -/
theorem make_eq_part_of_asks {s : Session} {name : Text} {kind : PartKind} {raw : Text}
    {span : Span} {part : Part} {found : Settings}
    (hasks : Context.asks s.override kind = true) (h : s.surroundings.given = .ok found) :
    (∃ log, (s.make name kind raw span).1 = .value (.part part) log) ↔
      part = .of kind raw span ∧ (found.strictParts = true → Violation.find? kind raw = none) := by
  have hgiven : s.context.surroundings.given = .ok found := h
  rw [make_eq_part_iff, Context.construct_of_asks raw span hasks, hgiven]
  exact Context.attempt_eq_ok_iff

/-- A part whose making asks for the settings is refused as they say. -/
theorem make_eq_violation_of_asks {s : Session} {name : Text} {kind : PartKind} {raw : Text}
    {span : Span} {v : Violation} {found : Settings}
    (hasks : Context.asks s.override kind = true) (h : s.surroundings.given = .ok found) :
    (∃ log, (s.make name kind raw span).1 = .failure (.violation v) log) ↔
      found.strictParts = true ∧ Violation.find? kind raw = some v := by
  have hgiven : s.context.surroundings.given = .ok found := h
  rw [make_eq_violation_iff, Context.construct_of_asks raw span hasks, hgiven]
  exact Context.attempt_eq_violation_iff

theorem probe_of_asks {s : Session} {found : Settings}
    (hasks : Context.asks s.override .keyword = true) (h : s.surroundings.given = .ok found) :
    ∃ log, s.probe.1 = .value (.strict found.strictParts) log := by
  have hgiven : s.context.settings.1 = .ok found := by
    rw [s.context.settings_eq]
    exact h
  rw [probe_eq_strict_iff, Context.isStrict_eq_ok_iff]
  exact .inr ⟨(Context.asks_iff.1 hasks).1, found, hgiven, rfl⟩

end Session

/-! ## The history of a moment -/

/-- **The history of a moment decides what is read there**, by the surroundings that it has left. -/
structure Moment.FollowsHistory (m : Moment) (x : Surroundings) : Prop where
  /-- The step runs in the surroundings that its history has left. -/
  met : m.session.surroundings = x
  /-- A step reads the settings only where it asks for them, and keeps what it could read. -/
  left : m.step.isGroup = false → m.next.surroundings = x.after m.session.override m.step
  /-- Where they are not asked for, no surroundings count. -/
  unasked : m.step.isGroup = false → m.asks = false → ∀ y,
    m.step.run (m.session.amid y) = (m.answer, m.next.amid (y.after m.session.override m.step))
  /-- Where they are kept, neither the environment nor the file counts. -/
  kept : ∀ {found}, m.step.isGroup = false → x.kept = some found → ∀ y, y.kept = some found →
    m.step.run (m.session.amid y) = (m.answer, m.next.amid (y.after m.session.override m.step))
  /-- Where they are asked for and not kept, they are resolved then, and kept if they are valid. -/
  resolved : m.asks = true → x.kept = none →
    m.next.surroundings.kept = (Settings.resolve ⟨[], x.environment, x.file⟩).toOption
  /-- Where they cannot be read, none were kept, and everything stays as it was. -/
  unreadable : ∀ {issues}, m.asks = true → x.given = .error issues →
    m.answer = .failure (.invalidSettings issues) [] ∧ m.next = m.session ∧ x.kept = none
  /-- A part is made as they say. -/
  made : ∀ {name kind raw span part found}, m.step = .make name kind raw span →
    m.asks = true → x.given = .ok found →
    ((∃ log, m.answer = .value (.part part) log) ↔
      part = .of kind raw span ∧ (found.strictParts = true → Violation.find? kind raw = none))
  /-- A part is refused as they say. -/
  refused : ∀ {name kind raw span v found}, m.step = .make name kind raw span →
    m.asks = true → x.given = .ok found →
    ((∃ log, m.answer = .failure (.violation v) log) ↔
      found.strictParts = true ∧ Violation.find? kind raw = some v)
  /-- A probe answers as they say. -/
  probed : ∀ {found}, m.step = .probe → m.asks = true → x.given = .ok found →
    ∃ log, m.answer = .value (.strict found.strictParts) log
  /-- Who asks for them is given them. -/
  told : ∀ {found}, m.step = .settings → x.given = .ok found →
    m.answer = .value (.settings found) []
  /-- A command line that is given none runs under them. -/
  commanded : ∀ {inv}, m.step = .command inv → m.asks = true →
    (CommandLine.settingsFor inv m.session.context).1 = x.given
  /-- A block whose steps are settled answers the same in all surroundings, and the settings that
  are kept around it stay kept unless a step in it clears them. -/
  settled : ∀ {strict escaping steps}, m.step = .block (some strict) escaping steps →
    Step.areSettled steps = true → ∀ y, ∃ z : Surroundings,
      m.step.run (m.session.amid y) = (m.answer, m.next.amid z) ∧
        z.kept = if (m.step.moments m.session m.session.override).any Moment.clears then none
          else y.kept

/-- A moment follows the history that has left the surroundings of its session. -/
theorem Moment.followsHistory (m : Moment) : m.FollowsHistory m.session.surroundings := by
  obtain ⟨s, scope, step⟩ := m
  have hleft : step.isGroup = false →
      (step.run s).2.surroundings = s.surroundings.after s.override step := by
    intro hstep
    exact Session.surroundings_of_amid step.run
      (Step.run_amid_of_not_isGroup s s.surroundings hstep fun _ => ⟨rfl, rfl⟩)
  constructor
  case met => rfl
  case left => exact hleft
  case unasked =>
    intro hstep hasks y
    exact Step.run_amid_of_not_isGroup s y hstep fun h =>
      absurd (hasks.symm.trans h) Bool.false_ne_true
  case kept =>
    intro found hstep hkept y hy
    refine Step.run_amid_of_not_isGroup s y hstep fun _ => ⟨?_, ?_⟩
    · rw [Surroundings.given_of_kept hy, Surroundings.given_of_kept hkept]
    · rw [Surroundings.malformedLines_of_kept hy, Surroundings.malformedLines_of_kept hkept]
  case resolved =>
    intro hasks hkept
    have hstep : step.isGroup = false := by
      cases step with
      | block value escaping steps => exact absurd hasks Bool.false_ne_true
      | fork steps => exact absurd hasks Bool.false_ne_true
      | thread steps => exact absurd hasks Bool.false_ne_true
      | _ => rfl
    have hgiven : s.surroundings.given =
        Settings.resolve ⟨[], s.surroundings.environment, s.surroundings.file⟩ := by
      rw [Surroundings.given, hkept]
    show (step.run s).2.surroundings.kept = _
    rw [hleft hstep, s.surroundings.after_of_asks hasks, Surroundings.asked, hgiven]
  case unreadable =>
    intro issues hasks hgiven
    have hrun := Step.run_of_unreadable hasks hgiven
    exact ⟨congrArg Prod.fst hrun, congrArg Prod.snd hrun,
      (Surroundings.asked_of_error hgiven).2⟩
  case made =>
    rintro name kind raw span part found rfl hasks hgiven
    exact Session.make_eq_part_of_asks hasks hgiven
  case refused =>
    rintro name kind raw span v found rfl hasks hgiven
    exact Session.make_eq_violation_of_asks hasks hgiven
  case probed =>
    rintro found rfl hasks hgiven
    exact Session.probe_of_asks hasks hgiven
  case told =>
    rintro found rfl hgiven
    have hfound : s.context.surroundings.given = .ok found := hgiven
    simp only [answer, Step.run, Session.settings, Context.settings_eq, hfound]
  case commanded =>
    rintro inv rfl hasks
    obtain ⟨hnone, -⟩ := CommandLine.Invocation.asks_iff.1 hasks
    rw [CommandLine.settingsFor, hnone]
    exact congrArg Prod.fst s.context.settings_eq
  case settled =>
    rintro strict escaping steps rfl hsettled y
    exact Step.run_settled s y hsettled

/-- **Settings follow the history of a run.** From any session, every moment of a run reads what its
history has left, settings that are kept at one moment are kept at every later one unless a moment
between the two clears them, a run that starts with settings kept and does not clear them answers
the same in any environment, and a run ends in the surroundings that its whole history leaves. -/
theorem settings_follow_history (s : Session) (steps : List Step) :
    (∀ {escaping before m later},
      Step.momentsOf escaping s s.override steps = before ++ m :: later →
        m.FollowsHistory (s.surroundings.replay before)) ∧
    (∀ {escaping before between m later found},
      Step.momentsOf escaping s s.override steps = before ++ (between ++ m :: later) →
        (s.surroundings.replay before).kept = some found →
        (∀ n ∈ between, n.clears = false) → m.session.surroundings.kept = some found) ∧
    (∀ {found}, s.surroundings.kept = some found →
      (∀ m ∈ Step.momentsOf false s s.override steps, m.clears = false) →
        ∀ y : Surroundings, y.kept = some found →
          (Step.runAll (s.amid y) steps).1 = (Step.runAll s steps).1) ∧
    (Step.runAll s steps).2.surroundings =
      s.surroundings.replay (Step.momentsOf false s s.override steps) := by
  have hmet : ∀ {escaping before m later},
      Step.momentsOf escaping s s.override steps = before ++ m :: later →
        m.session.surroundings = s.surroundings.replay before := by
    intro escaping before m later hmoments
    have hmeets := Step.meets_momentsOf escaping steps s s.override
    rw [hmoments] at hmeets
    exact (Surroundings.meets_append.1 hmeets).2.1
  refine ⟨?_, ?_, ?_, Step.runAll_surroundings steps s s.override⟩
  · intro escaping before m later hmoments
    rw [← hmet hmoments]
    exact m.followsHistory
  · intro escaping before between m later found hmoments hkept hclears
    rw [← List.append_assoc] at hmoments
    rw [hmet hmoments, Surroundings.replay_append]
    exact Surroundings.kept_replay_of_kept hkept hclears
  · intro found hkept hclears y hy
    rw [Step.runAll_amid_of_kept y hkept hy hclears]

/-- A settled block does not leave settings kept that a step in it clears, so that a later change of
the environment counts. -/
theorem settled_block_clears_settings :
    Step.areSettled [.clearCache] = true ∧
      (Step.runAll (Session.start [] none) [.probe]).2.surroundings.kept =
        some ⟨true, "info".toList⟩ ∧
      (Step.runAll (Session.start [] none)
        [.probe, .block (some true) false [.clearCache]]).2.surroundings.kept = none ∧
      (Step.runAll (Session.start [] none)
        [.probe, .block (some true) false [.clearCache],
          .setVariable "JSDOC_STRICT_PARTS".toList "0".toList]).2.surroundings.given.toOption =
        some ⟨false, "info".toList⟩ := by
  decide +kernel

end DocTag
