import DocTag.Part.Basic
import DocTag.Proofs.Comment.Lines
import Mathlib.Data.List.Forall2

/-!
# What parsing a comment keeps

A comment of several lines is parsed segment by segment. A segment has text (`hasText`) when it
holds more than blank characters and one marker, and each segment that does becomes one line of the
result, in order, while the others leave nothing (`keptLines_eq`). The line is a piece of its
segment (`KeptFrom`).

So parsing rewrites nothing. Blank characters aside, the result is the raw text without the markers
that open segments (`visible_parsed`), and the record that is left counts the lines of both.
-/

namespace DocTag

namespace Text

/-! ## Visible characters -/

/-- The characters of a text that are not blank, in order. -/
def visible (t : Text) : Text := t.filter fun c => !isBlank c

@[simp] theorem visible_append (s t : Text) : visible (s ++ t) = visible s ++ visible t :=
  List.filter_append ..

theorem visible_of_blank {t : Text} (h : blank t = true) : visible t = [] := by
  rw [visible, List.filter_eq_nil_iff]
  intro c hc
  rw [blank_iff.1 h c hc]
  exact Bool.false_ne_true

theorem visible_cons {c : Char} (rest : Text) (h : isBlank c = false) :
    visible (c :: rest) = c :: visible rest := by
  rw [visible, List.filter_cons_of_pos (by rw [h]; rfl), visible]

/-- Trimming takes no visible character. -/
theorem visible_trim (t : Text) : visible (trim t) = visible t := by
  obtain ⟨before, after, ht, hbefore, hafter⟩ := exists_padding t
  calc visible (trim t)
    _ = visible before ++ visible (trim t) ++ visible after := by
      rw [visible_of_blank hbefore, visible_of_blank hafter, List.nil_append, List.append_nil]
    _ = visible (before ++ trim t ++ after) := by rw [visible_append, visible_append]
    _ = visible t := by rw [← ht]

theorem visible_joinLines (texts : List Text) :
    visible (joinLines texts) = texts.flatMap visible := by
  induction texts with
  | nil => rfl
  | cons t rest ih =>
    cases rest with
    | nil => rw [joinLines_singleton, List.flatMap_singleton]
    | cons s others =>
      have hfeed : visible ('\n' :: joinLines (s :: others)) = visible (joinLines (s :: others)) :=
        rfl
      rw [joinLines_cons_cons, visible_append, hfeed, ih, ← List.flatMap_cons]

/-- Trimming leaves a piece of the text. -/
theorem trim_isInfix (t : Text) : trim t <:+: t := by
  obtain ⟨before, after, ht, -, -⟩ := exists_padding t
  exact ⟨before, after, ht.symm⟩

end Text

namespace Comment

/-! ## Segments -/

/-- Whether a segment holds more than blank characters and one marker. -/
def hasText (segment : Text) : Bool :=
  !(Text.trim segment).isEmpty && Text.trim segment != [marker]

/-- **What a line of the result is to its segment**: the trimmed text behind its marker, if there is
one, which is a piece of the segment that starts and ends visibly. -/
structure KeptFrom (segment line : Text) : Prop where
  taken : (∃ rest, Text.trim segment = marker :: rest ∧ line = Text.trim rest) ∨
    (Text.trim segment).head? ≠ some marker ∧ line = Text.trim segment
  ne_nil : line ≠ []
  trimmed : Text.isTrimmed line = true
  piece : line <:+: segment

theorem unmarked_of_trim {segment rest : Text} (h : Text.trim segment = marker :: rest) :
    unmarked segment = Text.trim rest := by
  rw [unmarked, h, dropMarker, if_pos rfl]

theorem unmarked_taken (segment : Text) :
    (∃ rest, Text.trim segment = marker :: rest ∧ unmarked segment = Text.trim rest) ∨
      (Text.trim segment).head? ≠ some marker ∧ unmarked segment = Text.trim segment := by
  by_cases hhead : (Text.trim segment).head? = some marker
  · obtain ⟨rest, hrest⟩ := List.head?_eq_some_iff.1 hhead
    exact .inl ⟨rest, hrest, unmarked_of_trim hrest⟩
  · exact .inr ⟨hhead, unmarked_of_no_marker hhead⟩

theorem unmarked_isInfix (segment : Text) : unmarked segment <:+: segment := by
  rcases unmarked_taken segment with ⟨rest, hrest, hline⟩ | ⟨-, hline⟩
  · have hbehind : rest <:+: Text.trim segment := hrest ▸ (List.suffix_cons marker rest).isInfix
    rw [hline]
    exact (Text.trim_isInfix rest).trans (hbehind.trans (Text.trim_isInfix segment))
  · rw [hline]
    exact Text.trim_isInfix segment

/-- Nothing is left of a segment exactly when it has no text. -/
theorem unmarked_eq_nil_iff {segment : Text} :
    unmarked segment = [] ↔ hasText segment = false := by
  rcases unmarked_taken segment with ⟨rest, hrest, hline⟩ | ⟨hhead, hline⟩
  · -- Behind the marker, a trimmed text is blank only if there is nothing of it.
    have hblank : Text.blank rest = true ↔ rest = [] := by
      refine ⟨?_, fun h => h ▸ rfl⟩
      intro h
      apply Decidable.byContradiction
      intro hne
      have hlast : rest.getLast hne ∈ (Text.trim segment).getLast? := by
        rw [hrest, List.getLast?_cons_of_ne_nil hne]
        exact List.getLast?_eq_some_getLast hne
      have hvisible := (Text.trim_ends segment).2 _ hlast
      rw [Text.blank_iff.1 h _ (List.getLast_mem hne)] at hvisible
      exact Bool.noConfusion hvisible
    rw [hline, Text.trim_eq_nil_iff, hblank, hasText, hrest]
    simp
  · have hmarker : Text.trim segment ≠ [marker] := by
      intro h
      rw [h] at hhead
      exact hhead rfl
    rw [hline, hasText]
    simp [hmarker]

theorem keptFrom_unmarked {segment : Text} (h : hasText segment = true) :
    KeptFrom segment (unmarked segment) where
  taken := unmarked_taken segment
  ne_nil := by
    rw [Ne, unmarked_eq_nil_iff, h]
    exact Bool.noConfusion
  trimmed := Text.isTrimmed_trim _
  piece := unmarked_isInfix segment

theorem kept_eq (segment : Text) : kept segment = ([segment].filter hasText).map unmarked := by
  cases h : hasText segment with
  | true =>
    have hne : (unmarked segment).isEmpty = false :=
      List.isEmpty_eq_false_iff.2 (keptFrom_unmarked h).ne_nil
    simp [kept, h, hne]
  | false => simp [kept, h, unmarked_eq_nil_iff.2 h]

/-- **The lines that are kept are those of the segments that have text**, in order. -/
theorem keptLines_eq (raw : Text) :
    keptLines raw = ((Text.segments raw).filter hasText).map unmarked := by
  induction raw using Text.segmentInduction with
  | free raw h => rw [keptLines_of_not_mem h, Text.segments_of_not_mem h, kept_eq]
  | feed segment rest h ih =>
    rw [keptLines_append_lineFeed rest h, Text.segments_append_lineFeed rest h, ih, kept_eq,
      ← List.map_append, ← List.filter_append, List.singleton_append]

theorem lines_joinLines_keptLines (raw : Text) :
    Text.lines (Text.joinLines (keptLines raw)) = keptLines raw := by
  apply Text.lines_joinLines
  intro line hline
  refine ⟨?_, ne_nil_of_mem_keptLines hline⟩
  rw [keptLines_eq] at hline
  obtain ⟨segment, hsegment, rfl⟩ := List.mem_map.1 hline
  intro hfeed
  exact Text.not_mem_segments (List.mem_filter.1 hsegment).1
    ((unmarked_isInfix segment).subset hfeed)

/-! ## Nothing is lost -/

theorem visible_unmarked (segment : Text) :
    Text.visible (unmarked segment) = dropMarker (Text.visible segment) := by
  rw [unmarked, Text.visible_trim, ← Text.visible_trim segment]
  cases htrim : Text.trim segment with
  | nil => rfl
  | cons c rest =>
    have hc : isBlank c = false := (Text.trim_ends segment).1 c (by rw [htrim]; rfl)
    rw [Text.visible_cons rest hc, dropMarker, dropMarker]
    split
    · rfl
    · exact Text.visible_cons rest hc

theorem flatMap_visible_kept (segment : Text) :
    (kept segment).flatMap Text.visible = dropMarker (Text.visible segment) := by
  rw [← visible_unmarked]
  cases h : hasText segment with
  | true => simp [kept_eq, h]
  | false => simp [kept_eq, h, unmarked_eq_nil_iff.2 h, Text.visible]

/-- **The visible characters of the result** are those of the segments without their markers. -/
theorem visible_parsed (raw : Text) : Text.visible (Text.joinLines (keptLines raw)) =
    (Text.segments raw).flatMap fun segment => dropMarker (Text.visible segment) := by
  rw [Text.visible_joinLines]
  induction raw using Text.segmentInduction with
  | free raw h =>
    rw [keptLines_of_not_mem h, Text.segments_of_not_mem h, flatMap_visible_kept,
      List.flatMap_singleton]
  | feed segment rest h ih =>
    rw [keptLines_append_lineFeed rest h, Text.segments_append_lineFeed rest h,
      List.flatMap_append, ih, flatMap_visible_kept, List.flatMap_cons]

/-! ## Comments of several lines -/

theorem length_keptLines_le (raw : Text) : (keptLines raw).length ≤ (Text.lines raw).length := by
  rw [keptLines]
  exact Nat.le_trans (List.length_filter_le ..) (Nat.le_of_eq (List.length_map ..))

/-- **What parsing a comment keeps of its segments**, and what its record tells of that. -/
structure Conserves (raw result : Text) (records : List Record) : Prop where
  /-- Each segment that has text becomes a line, and nothing else does. -/
  lines : List.Forall₂ KeptFrom ((Text.segments raw).filter hasText) (Text.lines result)
  /-- The visible characters of the raw text are those of its segments. -/
  given : Text.visible raw = (Text.segments raw).flatMap Text.visible
  /-- Of them, one marker is taken off each segment that it opens. -/
  visible : Text.visible result =
    (Text.segments raw).flatMap fun segment => dropMarker (Text.visible segment)
  /-- The one record counts lines and characters. -/
  record : ∃ lineCount keptCount r, records = [r] ∧
    r = .commentParsed lineCount keptCount raw.length ∧ r.severity = .debug ∧
    lineCount = raw.count '\n' +
      (if raw.getLast? = none ∨ raw.getLast? = some '\n' then 0 else 1) ∧
    keptCount = (Text.lines result).length ∧ keptCount ≤ lineCount

/-- **Parsing conserves the text of a comment.** A comment of one line is trimmed, and leaves no
record. Of any other comment, each segment that has text becomes a line of its own, in order,
and loses no visible character but the marker that opens it; the record that is left counts the
lines before and after. -/
theorem parsed_conserves (raw : Text) (span : Span) :
    let part : Part := .of .comment raw span
    ((Text.lines raw).length = 1 → part.parsed = Text.trim raw ∧ part.records = []) ∧
      ((Text.lines raw).length ≠ 1 → Conserves raw part.parsed part.records) := by
  intro part
  constructor
  · intro hone
    have hline : isOneLine raw = true := beq_iff_eq.2 hone
    exact ⟨if_pos hline, if_pos hline⟩
  · intro hmany
    have hline : ¬isOneLine raw = true := fun h => hmany (beq_iff_eq.1 h)
    have hparsed : part.parsed = Text.joinLines (keptLines raw) := if_neg hline
    have hrecords : part.records =
        [.commentParsed (Text.lines raw).length (keptLines raw).length raw.length] := if_neg hline
    rw [hparsed, hrecords]
    constructor
    case lines =>
      rw [lines_joinLines_keptLines, keptLines_eq, List.forall₂_map_right_iff, List.forall₂_same]
      intro segment hsegment
      exact keptFrom_unmarked (List.mem_filter.1 hsegment).2
    case given => rw [← Text.visible_joinLines, Text.joinLines_segments]
    case visible => exact visible_parsed raw
    case record =>
      refine ⟨_, _, _, rfl, rfl, rfl, Text.length_lines raw, ?_, length_keptLines_le raw⟩
      rw [lines_joinLines_keptLines]

example :
    let part : Part := .of .comment "a\n * \n\t** b\u2028\n".toList (Span.empty 0)
    part.parsed = "a\n* b".toList ∧ part.records = [.commentParsed 3 2 13] := by decide

end Comment

end DocTag
