import DocTag.Proofs.Bindings
import DocTag.Proofs.CommandLine.Description
import DocTag.Proofs.Part.Names
import DocTag.Proofs.Session.Tracking
import Mathlib.Data.Finset.Card
import Mathlib.Data.List.Dedup

/-!
# The parts that a session holds

A session holds parts under names. What stands under a name is decided by the moments of its run: it
is the part of the last one that made a part under that name (`lastMade?`), as it was asked for, and
no other step changes it (`parts_follow_making`).

The flags that a part carries, whether it is an optional name and whether it has a default, are what
its raw text says (`Part.isOptional_iff`, `Part.hasDefault_iff`), through whatever a run does. So a
part is known by its kind, its raw text and its span (`Part.identity`): parts are the same where
these are, though their flags are compared as well, and are counted by them
(`Part.countDistinct_eq_card`).
-/

namespace DocTag

/-! ## What a part is known by -/

namespace Part

/-- The kind, the raw text and the span of a part. -/
def identity (part : Part) : PartKind × Text × Span := (part.kind, part.raw, part.span)

theorem identity_injective : Function.Injective identity := by
  intro a b h
  obtain ⟨hkind, hrest⟩ := Prod.mk.inj h
  obtain ⟨hraw, hspan⟩ := Prod.mk.inj hrest
  exact eq_iff.2 ⟨hkind, hraw, hspan⟩

end Part

/-- **Parts are counted by what they are known by.** -/
theorem Part.countDistinct_eq_card (parts : List Part) :
    countDistinct parts = (parts.map identity).toFinset.card := by
  have hsame : (parts.map identity).toFinset = (parts.eraseDups.map identity).toFinset := by
    ext found
    simp only [List.mem_toFinset, List.mem_map, List.mem_eraseDups]
  have hnodup : (parts.eraseDups.map identity).Nodup :=
    (nodup_eraseDups parts).map identity_injective
  rw [hsame, List.toFinset_card_of_nodup hnodup, List.length_map, countDistinct]

/-! ## What moments make -/

namespace Moment

/-- What a moment binds: the name and the part that its step asks for, unless the step fails. -/
def made? (m : Moment) : Option (Text × Part) :=
  match m.step with
  | .make name kind raw span =>
    if m.answer.isFailure then none else some (name, .of kind raw span)
  | _ => none

end Moment

/-- The part that was made under a name by the last of some moments to make one there. -/
def lastMade? (name : Text) (ms : List Moment) : Option Part :=
  Bindings.get? (ms.filterMap Moment.made?).reverse name

/-- Moments one after another bind what each of them binds. -/
theorem foldl_made? (b : Bindings Part) (ms : List Moment) :
    ms.foldl (fun b m => b.setAll m.made?.toList) b = b.setAll (ms.filterMap Moment.made?) := by
  induction ms generalizing b with
  | nil => rfl
  | cons m later ih =>
    rw [List.foldl_cons, ih, ← Bindings.setAll_append, List.filterMap_cons]
    cases m.made? <;> rfl

/-! ## What a step does to the parts -/

namespace Step

/-- Whether a step looks at parts, or tries to set a field of one. -/
def looks : Step → Bool
  | .parsed _ | .trimmed _ | .describe _ | .fields _ | .same _ _ | .distinct _ | .assign _ _ => true
  | _ => false

/-- A step that looks at parts leaves the session as it was. -/
theorem run_of_looks {step : Step} (s : Session) (h : step.looks = true) : (step.run s).2 = s := by
  cases step with
  | parsed name => rfl
  | trimmed name => rfl
  | describe name => rfl
  | fields name => rfl
  | same first second => rfl
  | distinct names => rfl
  | assign name field => rfl
  | _ => exact absurd h Bool.false_ne_true

end Step

namespace Session

/-- A part that is made is bound to its name as it was asked for, and one that is not leaves the
bindings as they were. -/
theorem make_parts (s : Session) (name : Text) (kind : PartKind) (raw : Text) (span : Span) :
    (s.make name kind raw span).2.parts =
      if (s.make name kind raw span).1.isFailure then s.parts
      else s.parts.set name (.of kind raw span) := by
  rcases hmade : s.context.construct kind raw span with ⟨⟨made, log⟩, context⟩
  unfold make
  rw [hmade]
  cases made with
  | error failure => rfl
  | ok part =>
    have hresult : (s.context.construct kind raw span).1.1 = .ok part := by rw [hmade]
    rw [Context.construct_part hresult]
    rfl

theorem probe_parts (s : Session) : s.probe.2.parts = s.parts := by
  unfold probe
  rcases s.context.construct .keyword probeText (Span.empty 0) with ⟨⟨made, log⟩, context⟩
  rcases made with failure | part
  · cases failure <;> rfl
  · rfl

theorem settings_parts (s : Session) : s.settings.2.parts = s.parts := by
  unfold settings
  rcases s.context.settings with ⟨found, context⟩
  cases found <;> rfl

theorem leave_parts (s : Session) (name : Text) : (s.leave name).parts = s.parts := by
  unfold leave
  cases s.blocks.get? name <;> rfl

end Session

/-- **A moment without steps of its own** leaves the bindings that it finds, with what it has
bound. -/
theorem Moment.next_parts {m : Moment} (hstep : m.step.isGroup = false) :
    m.next.parts = m.session.parts.setAll m.made?.toList := by
  obtain ⟨s, scope, step⟩ := m
  cases step with
  | make name kind raw span =>
    refine (s.make_parts name kind raw span).trans ?_
    cases hfails : (s.make name kind raw span).1.isFailure with
    | true =>
      have hmade : (⟨s, scope, .make name kind raw span⟩ : Moment).made? = none := if_pos hfails
      rw [hmade]
      rfl
    | false =>
      have hmade : (⟨s, scope, .make name kind raw span⟩ : Moment).made? =
          some (name, .of kind raw span) :=
        if_neg (Bool.eq_false_iff.1 hfails)
      rw [hmade]
      rfl
  | probe => exact s.probe_parts
  | settings => exact s.settings_parts
  | leave name => exact s.leave_parts name
  | block value escaping steps => exact absurd hstep Bool.noConfusion
  | fork steps => exact absurd hstep Bool.noConfusion
  | thread steps => exact absurd hstep Bool.noConfusion
  | _ => rfl

/-- The bindings can be followed through a run. -/
theorem tracks_parts : Tracks Session.parts fun b m => b.setAll m.made?.toList where
  override _ _ := rfl
  leaf _ hstep := Moment.next_parts hstep
  group m b hstep := by
    obtain ⟨s, scope, step⟩ := m
    cases step with
    | block value escaping steps => rfl
    | fork steps => rfl
    | thread steps => rfl
    | _ => exact absurd hstep Bool.noConfusion

/-! ## Looking at parts -/

namespace Session

variable {s : Session}

theorem part_of_bound {name : Text} {part : Part} (h : s.parts.get? name = some part) :
    s.part name = .ok part := by
  rw [Session.part, h]

theorem assign_of_bound {name : Text} {part : Part} (field : Text)
    (h : s.parts.get? name = some part) :
    s.assign name field =
      .failure (if field ∈ part.fieldNames then .frozenField field else .noSuchField) [] := by
  rw [assign, part_of_bound h]
  simp only [List.contains_iff_mem]

theorem same_of_bound {first second : Text} {a b : Part} (ha : s.parts.get? first = some a)
    (hb : s.parts.get? second = some b) :
    s.same first second = .value (.truth (a == b)) [] := by
  rw [same, part_of_bound ha, part_of_bound hb]
  rfl

theorem mapM_part_of_bound {names : List Text} {parts : List Part}
    (h : names.map s.parts.get? = parts.map some) : names.mapM s.part = .ok parts := by
  induction names generalizing parts with
  | nil =>
    cases parts with
    | nil => rfl
    | cons part others => exact absurd h (List.cons_ne_nil _ _).symm
  | cons name rest ih =>
    cases parts with
    | nil => exact absurd h (List.cons_ne_nil _ _)
    | cons part others =>
      obtain ⟨hfirst, hothers⟩ := List.cons.inj h
      rw [List.mapM_cons, part_of_bound hfirst, ih hothers]
      rfl

theorem distinct_of_bound {names : List Text} {parts : List Part}
    (h : names.map s.parts.get? = parts.map some) :
    s.distinct names = .value (.count (parts.map Part.identity).toFinset.card) [] := by
  rw [distinct, mapM_part_of_bound h, ← Part.countDistinct_eq_card]
  rfl

end Session

/-- A description answers for the part that has the name. -/
theorem Step.describe_of_bound {s : Session} {name : Text} {part : Part}
    (h : s.parts.get? name = some part) :
    ((Step.describe name).run s).1 = .value (.description part.describe) part.records := by
  rw [Step.run, Session.read, Session.part_of_bound h]

/-- Names that stand for one part are looked at in the same way. -/
theorem Step.run_eq_of_bound {s : Session} {first second : Text} {part : Part}
    (hfirst : s.parts.get? first = some part) (hsecond : s.parts.get? second = some part) :
    (Step.parsed first).run s = (Step.parsed second).run s ∧
      (Step.describe first).run s = (Step.describe second).run s ∧
      (Step.fields first).run s = (Step.fields second).run s ∧
      (Step.trimmed first).run s = (Step.trimmed second).run s := by
  have hpart : s.part first = s.part second := by
    rw [Session.part_of_bound hfirst, Session.part_of_bound hsecond]
  refine ⟨?_, ?_, ?_, ?_⟩
  · simp only [Step.run, Session.read, hpart]
  · simp only [Step.run, Session.read, hpart]
  · simp only [Step.run, Session.fields, hpart]
  · simp only [Step.run, Session.trimmed, hpart]

/-! ## The parts at a moment -/

/-- **What a session holds at a moment**, as the moments before it have made it out of what it held
at the start. -/
structure Moment.FollowsMaking (m : Moment) (start : Bindings Part) (before : List Moment) :
    Prop where
  /-- Under each name stands the part that was made there last, as it was asked for, and what stood
  there at the start where none was made. -/
  bound : ∀ name, m.session.parts.get? name = (lastMade? name before).or (start.get? name)
  /-- A part that is made is answered with and bound as it was asked for. -/
  made : ∀ {name kind raw span}, m.step = .make name kind raw span → m.answer.isFailure = false →
    (∃ log, m.answer = .value (.part (.of kind raw span)) log) ∧
      m.next.parts = m.session.parts.set name (.of kind raw span)
  /-- A part that cannot be made changes nothing under any name. -/
  failed : ∀ {name kind raw span}, m.step = .make name kind raw span →
    m.answer.isFailure = true → m.next.parts = m.session.parts
  /-- No field of a part can be set, and nothing else can be set on it: that fails in a way of its
  own. Every part has a raw text and a span, and a name has its two flags besides. -/
  assigned : ∀ {name field part}, m.step = .assign name field →
    m.session.parts.get? name = some part →
    m.answer = .failure (if field ∈ part.fieldNames then .frozenField field else .noSuchField) []
  /-- Trying to set a field and looking at parts changes nothing at all. -/
  looked : m.step.looks = true → m.next = m.session
  /-- A part is optional when it is a name in brackets, and has a default when it is optional and
  has an equals sign. -/
  flagged : ∀ {name part}, m.session.parts.get? name = some part →
    (part.isOptional = true ↔
      part.kind = .name ∧ (∃ rest, part.raw = '[' :: rest) ∧
        ∃ front, part.raw = front ++ [']']) ∧
    (part.hasDefault = true ↔ part.isOptional = true ∧ '=' ∈ part.raw)
  /-- Two parts are the same exactly when they have the same kind, raw text and span. -/
  compared : ∀ {first second a b}, m.step = .same first second →
    m.session.parts.get? first = some a → m.session.parts.get? second = some b →
    ∃ same, m.answer = .value (.truth same) [] ∧
      (same = true ↔ a.kind = b.kind ∧ a.raw = b.raw ∧ a.span = b.span)
  /-- Parts that are the same are looked at in the same way, and no others are described alike. -/
  viewed : ∀ {first second a b}, m.session.parts.get? first = some a →
    m.session.parts.get? second = some b →
    (a.kind = b.kind ∧ a.raw = b.raw ∧ a.span = b.span →
      (Step.parsed first).run m.session = (Step.parsed second).run m.session ∧
      (Step.describe first).run m.session = (Step.describe second).run m.session ∧
      (Step.fields first).run m.session = (Step.fields second).run m.session ∧
      (Step.trimmed first).run m.session = (Step.trimmed second).run m.session) ∧
    (((Step.describe first).run m.session).1 = ((Step.describe second).run m.session).1 →
      a.kind = b.kind ∧ a.raw = b.raw ∧ a.span = b.span)
  /-- Parts are counted by their kinds, raw texts and spans. -/
  counted : ∀ {names : List Text} {parts : List Part}, m.step = .distinct names →
    names.map m.session.parts.get? = parts.map some →
    m.answer = .value (.count (parts.map Part.identity).toFinset.card) []

/-- A moment follows the making of the parts that it finds. -/
theorem Moment.followsMaking {m : Moment} {start : Bindings Part} {before : List Moment}
    (hparts : m.session.parts = start.setAll (before.filterMap made?)) :
    m.FollowsMaking start before := by
  obtain ⟨s, scope, step⟩ := m
  constructor
  case bound =>
    intro name
    rw [hparts, Bindings.get?_setAll, lastMade?]
  case made =>
    rintro name kind raw span rfl hmade
    have hanswer : (s.make name kind raw span).1.isFailure = false := hmade
    refine ⟨?_, (s.make_parts name kind raw span).trans (if_neg (Bool.eq_false_iff.1 hanswer))⟩
    apply Session.make_eq_part_iff.2
    rcases hfound : s.context.construct kind raw span with ⟨⟨made, log⟩, context⟩
    cases made with
    | error failure =>
      rw [Session.make, hfound] at hanswer
      exact absurd hanswer Bool.noConfusion
    | ok part =>
      have hresult : (s.context.construct kind raw span).1.1 = .ok part := by rw [hfound]
      rw [Context.construct_part hresult]
  case failed =>
    rintro name kind raw span rfl hfails
    exact (s.make_parts name kind raw span).trans (if_pos hfails)
  case assigned =>
    rintro name field part rfl hbound
    exact Session.assign_of_bound field hbound
  case looked => exact Step.run_of_looks s
  case flagged => exact fun _ => ⟨Part.isOptional_iff, Part.hasDefault_iff⟩
  case compared =>
    rintro first second a b rfl ha hb
    exact ⟨a == b, Session.same_of_bound ha hb, beq_iff_eq.trans Part.eq_iff⟩
  case viewed =>
    intro first second a b ha hb
    refine ⟨fun hsame => ?_, fun hdescribed => ?_⟩
    · obtain rfl := Part.eq_iff.2 hsame
      exact Step.run_eq_of_bound ha hb
    · rw [Step.describe_of_bound ha, Step.describe_of_bound hb] at hdescribed
      obtain ⟨hvalue, -⟩ := Answer.value.inj hdescribed
      exact Part.eq_iff.1 (Part.describe_inj (Value.description.inj hvalue))
  case counted =>
    rintro names parts rfl hbound
    exact Session.distinct_of_bound hbound

/-- **Parts follow their making.** At every moment of a run, from any session, each name stands for
the part that was made there last, as it was asked for, whatever has failed and whatever blocks were
left by a failure in between; looking at parts, trying to set their fields and failing to make one
change nothing; and parts are told apart by their kind, raw text and span. The run ends with the
parts that all of its moments have made. -/
theorem parts_follow_making (s : Session) (steps : List Step) :
    (∀ {escaping scope before m later},
      Step.momentsOf escaping s scope steps = before ++ m :: later →
        m.FollowsMaking s.parts before) ∧
    ∀ scope name, (Step.runAll s steps).2.parts.get? name =
      (lastMade? name (Step.momentsOf false s scope steps)).or (s.parts.get? name) := by
  constructor
  · intro escaping scope before m later hmoments
    apply Moment.followsMaking
    rw [← foldl_made?]
    exact tracks_parts.view_at hmoments
  · intro scope name
    have hparts := tracks_parts.runAll steps s scope
    rw [foldl_made?] at hparts
    rw [hparts, Bindings.get?_setAll, lastMade?]

end DocTag
