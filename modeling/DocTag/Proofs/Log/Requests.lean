import DocTag.Proofs.Log.Names

/-!
# Requests for levels

Levels are asked for one after another. A request that finds no thresholds sets both of them, and
every other request sets the filter alone (`Thresholds.request_some`), so after any number of
requests the log has the level of the first one and the filter that of the last
(`Thresholds.requests_some`). Everything else follows from that: what was asked for in between is
forgotten, and nothing is shown that the first request has shut out.
-/

namespace DocTag

theorem Severity.mem_all (v : Severity) : v ∈ Severity.all := by
  cases v <;> decide

namespace Thresholds

/-! ## One request -/

/-- The first request sets both thresholds. -/
theorem request_none (name : Text) :
    request none name = ⟨Level.number name, Level.number name⟩ := by
  rw [request, Level.ofName_eq_number]

/-- A later request sets the filter and keeps the threshold of the log. -/
theorem request_some (t : Thresholds) (name : Text) :
    request (some t) name = ⟨t.log, Level.number name⟩ := by
  rw [request, Level.ofName_eq_number]

theorem mem_shown {t : Thresholds} {v : Severity} :
    v ∈ t.shown ↔ max t.log t.filter ≤ v.number := by
  rw [shown, List.mem_filter, showsEvent, decide_eq_true_iff]
  exact and_iff_right v.mem_all

/-! ## Any number of requests -/

/-- Whatever is asked for, the threshold of the log stays, and the filter is that of the request. -/
theorem requests_some (t : Thresholds) (names : List Text) :
    requests (some t) names = names.map fun name => (⟨t.log, Level.number name⟩ : Thresholds) := by
  induction names generalizing t with
  | nil => rfl
  | cons name rest ih =>
    rw [requests, request_some, ih, List.map_cons]

/-- The thresholds after each request, from the first request on. -/
theorem requests_none (first : Text) (later : List Text) :
    requests none (first :: later) =
      (first :: later).map fun name =>
        (⟨Level.number first, Level.number name⟩ : Thresholds) := by
  rw [requests, request_none, requests_some, List.map_cons]

theorem getElem?_requests_none (first : Text) (later : List Text) (i : Nat) :
    (requests none (first :: later))[i]? =
      (first :: later)[i]?.map fun name =>
        (⟨Level.number first, Level.number name⟩ : Thresholds) := by
  rw [requests_none, List.getElem?_map]

/-- **What requests lead to**, where none has been made before the first of them. -/
structure FollowsFirst (first : Text) (later : List Text) : Prop where
  /-- After each request the log has the level of the first one, and an event is shown that reaches
  both this level and that of the request. -/
  level : ∀ (i : Nat) (name : Text), (first :: later)[i]? = some name →
    ∃ t : Thresholds, (requests none (first :: later))[i]? = some t ∧ t.log = Level.number first ∧
      ∀ v : Severity, v ∈ t.shown ↔ max (Level.number first) (Level.number name) ≤ v.number
  /-- What comes of a request depends on the first one and on itself alone. -/
  forgets : ∀ (others : List Text) (i j : Nat), (first :: later)[i]? = (first :: others)[j]? →
    (requests none (first :: later))[i]? = (requests none (first :: others))[j]?
  /-- No later request shows more than the first one. -/
  bounded : ∀ (i : Nat) (t : Thresholds), (requests none (first :: later))[i]? = some t →
    ∃ start : Thresholds, (requests none (first :: later))[0]? = some start ∧
      ∀ v ∈ t.shown, v ∈ start.shown
  /-- A request made again changes nothing. -/
  repeats : ∀ i : Nat, (first :: later)[i + 1]? = (first :: later)[i]? →
    (requests none (first :: later))[i + 1]? = (requests none (first :: later))[i]?

/-- **The first request is the loudest.** Levels are asked for by any texts, in any number: after
each request, what is shown is decided by the first request and that one. -/
theorem requests_follow_first (first : Text) (later : List Text) : FollowsFirst first later := by
  constructor
  case level =>
    intro i name hname
    refine ⟨⟨Level.number first, Level.number name⟩, ?_, rfl, fun v => mem_shown⟩
    rw [getElem?_requests_none, hname]
    rfl
  case forgets =>
    intro others i j hsame
    rw [getElem?_requests_none, getElem?_requests_none, hsame]
  case bounded =>
    intro i t ht
    rw [getElem?_requests_none, Option.map_eq_some_iff] at ht
    obtain ⟨name, -, rfl⟩ := ht
    refine ⟨⟨Level.number first, Level.number first⟩, ?_, ?_⟩
    · rw [getElem?_requests_none, List.getElem?_cons_zero]
      rfl
    · intro v hv
      rw [mem_shown] at hv ⊢
      exact (Nat.max_le.2 ⟨Nat.le_max_left _ _, Nat.le_max_left _ _⟩).trans hv
  case repeats =>
    intro i hsame
    rw [getElem?_requests_none, getElem?_requests_none, hsame]

example : requests none ["warn\u0131ng".toList, "debug".toList, "\u017fevere".toList] =
    [⟨30, 30⟩, ⟨30, 10⟩, ⟨30, 20⟩] := by decide +kernel

end Thresholds

end DocTag
