import DocTag.Proofs.Comment.Conservation
import DocTag.Proofs.Comment.FirstLine
import Mathlib.Dynamics.FixedPoints.Basic

/-!
# Parsing again

What parsing leaves of a comment may be taken for a comment and parsed once more. That changes it
only if it still looks like a documentation block: it has several lines, and one of them starts with
a marker (`parsed_eq_self_iff`). Such a marker belonged to the text the first time, because it stood
behind another one.

Each line that a marker opens loses it, and markers are lost in no other way (`count_marker`). So
parsing over and over comes to rest, and at the latest when each marker of the raw text has had its
turn (`isFixedPt_iterate_parsed`).
-/

namespace DocTag

namespace Text

/-- Visible characters are counted alike among all characters and among the visible ones. -/
theorem count_visible {c : Char} (t : Text) (h : isBlank c = false) :
    (visible t).count c = t.count c :=
  List.count_filter (by rw [h]; rfl)

end Text

namespace Comment

/-! ## Counting markers -/

/-- Whether the first visible character of a segment is a marker. -/
def isMarked (segment : Text) : Bool := (Text.visible segment).head? == some marker

theorem count_dropMarker (t : Text) :
    (dropMarker t).count marker + (if t.head? == some marker then 1 else 0) = t.count marker := by
  cases t with
  | nil => rfl
  | cons c rest =>
    by_cases hc : c = marker
    · simp [dropMarker, hc]
    · simp [dropMarker, hc]

/-- Each segment that a marker opens loses this one. -/
theorem count_marker_segments (segments : List Text) :
    (segments.flatMap fun s => dropMarker (Text.visible s)).count marker +
      segments.countP isMarked = (segments.flatMap Text.visible).count marker := by
  induction segments with
  | nil => rfl
  | cons segment rest ih =>
    have hfirst := count_dropMarker (Text.visible segment)
    rw [List.flatMap_cons, List.count_append, List.flatMap_cons, List.count_append,
      List.countP_cons, isMarked]
    omega

/-- **Markers are lost** one by one: as many as there are segments that a marker opens. -/
theorem count_marker (raw : Text) :
    (Text.joinLines (keptLines raw)).count marker + (Text.segments raw).countP isMarked =
      raw.count marker := by
  have hraw : Text.visible raw = (Text.segments raw).flatMap Text.visible := by
    rw [← Text.visible_joinLines, Text.joinLines_segments]
  rw [← Text.count_visible (Text.joinLines (keptLines raw)) isBlank_marker, visible_parsed,
    count_marker_segments, ← hraw, Text.count_visible raw isBlank_marker]

theorem count_marker_parsed_le (raw : Text) : (parsed raw).count marker ≤ raw.count marker := by
  by_cases hone : (Text.lines raw).length = 1
  · rw [parsed_of_one hone, ← Text.count_visible _ isBlank_marker, Text.visible_trim,
      Text.count_visible _ isBlank_marker]
  · rw [parsed_of_many hone, ← count_marker raw]
    exact Nat.le_add_right _ _

/-! ## The shape of a result -/

/-- **The shape of what parsing leaves**: lines with a line feed between neighbours, none of which
is empty or has blank characters around it. -/
structure IsTidy (p : Text) : Prop where
  joined : Text.joinLines (Text.lines p) = p
  ne_nil : ∀ line ∈ Text.lines p, line ≠ []
  trimmed : ∀ line ∈ Text.lines p, Text.isTrimmed line = true

theorem isTidy_of_not_mem {p : Text} (hfree : '\n' ∉ p) (h : Text.isTrimmed p = true) :
    IsTidy p := by
  by_cases hne : p = []
  · subst hne
    exact ⟨rfl, by simp, by simp⟩
  · have hlines := Text.lines_of_not_mem hfree hne
    constructor <;> simp [hlines, hne, h]

/-- **Whatever the raw text**, the result is tidy. -/
theorem isTidy_parsed (raw : Text) : IsTidy (parsed raw) := by
  by_cases hone : (Text.lines raw).length = 1
  · have hfree := lineFeed_not_mem_visibleLine raw
    rw [visibleLine_of_length_eq_one hone] at hfree
    rw [parsed_of_one hone]
    exact isTidy_of_not_mem hfree (Text.isTrimmed_trim raw)
  · rw [parsed_of_many hone]
    have hlines := lines_joinLines_keptLines raw
    constructor
    case joined => rw [hlines]
    case ne_nil =>
      rw [hlines]
      exact fun line => ne_nil_of_mem_keptLines
    case trimmed =>
      rw [hlines, keptLines_eq]
      intro line hline
      obtain ⟨segment, hsegment, rfl⟩ := List.mem_map.1 hline
      exact (keptFrom_unmarked (List.mem_filter.1 hsegment).2).trimmed

namespace IsTidy

variable {p : Text}

/-- A tidy text is of one line only if it is that line. -/
theorem not_mem_of_one (h : IsTidy p) (hone : (Text.lines p).length = 1) : '\n' ∉ p := by
  obtain ⟨line, hline⟩ := List.length_eq_one_iff.1 hone
  have hp := h.joined
  rw [hline, Text.joinLines_singleton] at hp
  rw [← hp]
  exact Text.not_mem_lines (by rw [hline]; exact List.mem_singleton_self line)

theorem parsed_of_not_mem (h : IsTidy p) (hfree : '\n' ∉ p) : parsed p = p := by
  by_cases hne : p = []
  · subst hne
    rfl
  · have hlines := Text.lines_of_not_mem hfree hne
    rw [parsed_of_one (by rw [hlines]; rfl)]
    exact Text.isTrimmed_eq.1 (h.trimmed p (by rw [hlines]; exact List.mem_singleton_self p))

theorem parsed_of_no_marker (h : IsTidy p)
    (hopen : ∀ line ∈ Text.lines p, line.head? ≠ some marker) : parsed p = p := by
  by_cases hone : (Text.lines p).length = 1
  · exact h.parsed_of_not_mem (h.not_mem_of_one hone)
  · have hsame : ∀ line ∈ Text.lines p, unmarked line = id line := by
      intro line hline
      have htrim : Text.trim line = line := Text.isTrimmed_eq.1 (h.trimmed line hline)
      rw [unmarked_of_no_marker (by rw [htrim]; exact hopen line hline), htrim, id]
    have hfull : ∀ line ∈ Text.lines p, (!line.isEmpty) = true := by
      intro line hline
      rw [List.isEmpty_eq_false_iff.2 (h.ne_nil line hline), Bool.not_false]
    rw [parsed_of_many hone, keptLines, List.map_congr_left hsame, List.map_id,
      List.filter_eq_self.2 hfull, h.joined]

/-- A line of several that starts with a marker loses it. -/
theorem count_marker_parsed_lt (h : IsTidy p) {line : Text} (hfeed : '\n' ∈ p)
    (hline : line ∈ Text.lines p) (hopen : line.head? = some marker) :
    (parsed p).count marker < p.count marker := by
  have hmany : (Text.lines p).length ≠ 1 := fun hone => h.not_mem_of_one hone hfeed
  have hmarked : isMarked line = true := by
    obtain ⟨rest, rfl⟩ := List.head?_eq_some_iff.1 hopen
    rw [isMarked, Text.visible_cons rest isBlank_marker]
    rfl
  have hlost : 0 < (Text.segments p).countP isMarked :=
    List.countP_pos_iff.2 ⟨line, Text.mem_segments_of_mem_lines hline, hmarked⟩
  have hcount := count_marker p
  rw [parsed_of_many hmany]
  omega

end IsTidy

/-! ## Parsing a result -/

/-- **A text that does not look like a documentation block**: it has a single line, or no marker
opens a line of it. -/
def IsPlain (p : Text) : Prop :=
  '\n' ∉ p ∨ ∀ line ∈ Text.lines p, line.head? ≠ some marker

variable {p : Text}

theorem IsTidy.count_parsed_lt (h : IsTidy p) (hplain : ¬IsPlain p) :
    (parsed p).count marker < p.count marker := by
  obtain ⟨hfeed, hlines⟩ := not_or.1 hplain
  obtain ⟨line, hline, hopen⟩ : ∃ line ∈ Text.lines p, line.head? = some marker := by
    simpa using hlines
  exact h.count_marker_parsed_lt (Decidable.not_not.1 hfeed) hline hopen

/-- **Parsing leaves a result as it is** exactly when it is plain. -/
theorem IsTidy.parsed_eq_self_iff (h : IsTidy p) : parsed p = p ↔ IsPlain p := by
  constructor
  · intro heq
    apply Classical.byContradiction
    intro hplain
    have hlt := h.count_parsed_lt hplain
    rw [heq] at hlt
    exact Nat.lt_irrefl _ hlt
  · rintro (hfree | hopen)
    · exact h.parsed_of_not_mem hfree
    · exact h.parsed_of_no_marker hopen

/-! ## Parsing over and over -/

open Function (IsFixedPt)

theorem isTidy_iterate_parsed (raw : Text) (n : Nat) : IsTidy (parsed^[n + 1] raw) := by
  rw [Function.iterate_succ_apply']
  exact isTidy_parsed _

/-- Until parsing comes to rest, each time takes at least one marker. -/
theorem isFixedPt_or_count_le (raw : Text) (n : Nat) :
    IsFixedPt parsed (parsed^[n + 1] raw) ∨
      (parsed^[n + 1] raw).count marker + n ≤ raw.count marker := by
  induction n with
  | zero => exact .inr (count_marker_parsed_le raw)
  | succ n ih =>
    have htidy := isTidy_iterate_parsed raw n
    rw [Function.iterate_succ_apply' parsed (n + 1)]
    by_cases hplain : IsPlain (parsed^[n + 1] raw)
    · have hrest := htidy.parsed_eq_self_iff.2 hplain
      rw [hrest]
      exact .inl hrest
    · have hlt := htidy.count_parsed_lt hplain
      rcases ih with hrest | hle
      · exact absurd (htidy.parsed_eq_self_iff.1 hrest) hplain
      · exact .inr (by omega)

/-- **Parsing comes to rest** when it has been done once more than there are markers. -/
theorem isFixedPt_iterate_parsed (raw : Text) :
    IsFixedPt parsed (parsed^[raw.count marker + 1] raw) := by
  rcases isFixedPt_or_count_le raw (raw.count marker) with hrest | hle
  · exact hrest
  · have htidy := isTidy_iterate_parsed raw (raw.count marker)
    refine htidy.parsed_eq_self_iff.2 (Classical.byContradiction fun hplain => ?_)
    -- No marker is left to be taken.
    have hlt := htidy.count_parsed_lt hplain
    omega

/-- **Parsing what a comment says.** It says the same again exactly when it is plain, and otherwise
it loses markers. So parsing a comment, then what it says, and so on, gives one and the same text
from the time on at which that has been done once more than there are markers in the raw text. -/
theorem parsing_comes_to_rest (raw : Text) (span again : Span) :
    let p := (Part.of .comment raw span).parsed
    let q := (Part.of .comment p again).parsed
    (q = p ↔ IsPlain p) ∧ (¬IsPlain p → q.count marker < p.count marker) ∧
      ∀ n, 1 + raw.count marker ≤ n → parsed^[n] raw = parsed^[1 + raw.count marker] raw := by
  intro p q
  have htidy : IsTidy p := isTidy_parsed raw
  refine ⟨htidy.parsed_eq_self_iff, htidy.count_parsed_lt, ?_⟩
  intro n hn
  obtain ⟨k, rfl⟩ := Nat.exists_eq_add_of_le' hn
  rw [Function.iterate_add_apply, Nat.add_comm 1]
  exact (isFixedPt_iterate_parsed raw).iterate k

example :
    parsed "\n *** a\n b\n".toList = "** a\nb".toList ∧
      parsed "** a\nb".toList = "* a\nb".toList := by decide

end Comment

end DocTag
