import DocTag.Part.Comment
import DocTag.Proofs.Text.Splitting
import DocTag.Proofs.Text.Trimming

/-!
# The lines of a comment

What parsing keeps of a comment follows its lines: what it keeps of the first one, and then what it
keeps of the rest (`keptLines_append_lineFeed`). Of a line it keeps the trimmed text behind one
marker (`unmarked_marker`), or the trimmed text itself where there is no marker
(`unmarked_of_no_marker`), and nothing of a line that has no such text. So nothing is kept of the
blank characters in front of a text, however many lines they run over (`keptLines_append_left`).
-/

namespace DocTag

namespace Text

/-- A text of one line is trimmed as its line is. -/
theorem trim_of_lines_eq {t line : Text} (h : lines t = [line]) : trim t = trim line := by
  have hone : (lines t).length = 1 := by rw [h]; rfl
  obtain ⟨found, hfree, rfl | rfl⟩ := exists_of_length_lines_eq_one hone
  · have hne : t ≠ [] := by
      rintro rfl
      cases h
    rw [lines_of_not_mem hfree hne] at h
    rw [List.singleton_inj.1 h]
  · rw [lines_append_lineFeed [] hfree, lines_nil] at h
    rw [List.singleton_inj.1 h, trim_append_right line rfl]

end Text

namespace Comment

/-! ## One line -/

theorem isBlank_marker : isBlank marker = false := by decide

theorem unmarked_of_blank {line : Text} (h : Text.blank line = true) : unmarked line = [] := by
  rw [unmarked, Text.trim_eq_nil_iff.2 h]
  rfl

/-- One marker is taken off a line, with the blank characters around it. -/
theorem unmarked_marker {indent : Text} (rest : Text) (h : Text.blank indent = true) :
    unmarked (indent ++ marker :: rest) = Text.trim rest := by
  have htrim : Text.trim (indent ++ marker :: rest) = marker :: Text.trimRight rest := by
    rw [Text.trim_append_left _ h, Text.trim_cons rest isBlank_marker]
  rw [unmarked, htrim, dropMarker, if_pos rfl, Text.trim_trimRight]

/-- A line that has no marker is only trimmed. -/
theorem unmarked_of_no_marker {line : Text} (h : (Text.trim line).head? ≠ some marker) :
    unmarked line = Text.trim line := by
  have hdrop : dropMarker (Text.trim line) = Text.trim line := by
    cases ht : Text.trim line with
    | nil => rfl
    | cons c rest =>
      rw [ht, List.head?_cons] at h
      exact if_neg fun hc => h (congrArg some hc)
  rw [unmarked, hdrop, Text.isTrimmed_eq.1 (Text.isTrimmed_trim line)]

theorem unmarked_append_left {w : Text} (line : Text) (h : Text.blank w = true) :
    unmarked (w ++ line) = unmarked line := by
  rw [unmarked, Text.trim_append_left line h, unmarked]

/-! ## All lines -/

theorem parsed_of_one {raw : Text} (h : (Text.lines raw).length = 1) :
    parsed raw = Text.trim raw := if_pos (beq_iff_eq.2 h)

theorem parsed_of_many {raw : Text} (h : (Text.lines raw).length ≠ 1) :
    parsed raw = Text.joinLines (keptLines raw) := if_neg fun hone => h (beq_iff_eq.1 hone)

theorem records_of_one {raw : Text} (h : (Text.lines raw).length = 1) : records raw = [] :=
  if_pos (beq_iff_eq.2 h)

theorem records_of_many {raw : Text} (h : (Text.lines raw).length ≠ 1) :
    records raw = [.commentParsed (Text.lines raw).length (keptLines raw).length raw.length] :=
  if_neg fun hone => h (beq_iff_eq.1 hone)

/-- What is kept of one line: its text, if it has any. -/
def kept (line : Text) : List Text := [unmarked line].filter fun t => !t.isEmpty

theorem keptLines_eq_flatMap (raw : Text) : keptLines raw = (Text.lines raw).flatMap kept := by
  rw [keptLines]
  induction Text.lines raw with
  | nil => rfl
  | cons line rest ih =>
    rw [List.map_cons, List.flatMap_cons, ← ih, kept, ← List.filter_append, List.singleton_append]

/-- What is kept of a line, and then what is kept of the rest. -/
theorem keptLines_append_lineFeed {line : Text} (rest : Text) (h : '\n' ∉ line) :
    keptLines (line ++ '\n' :: rest) = kept line ++ keptLines rest := by
  rw [keptLines_eq_flatMap, Text.lines_append_lineFeed rest h, List.flatMap_cons,
    keptLines_eq_flatMap]

theorem keptLines_of_not_mem {line : Text} (h : '\n' ∉ line) : keptLines line = kept line := by
  by_cases hne : line = []
  · subst hne
    rfl
  · rw [keptLines_eq_flatMap, Text.lines_of_not_mem h hne, List.flatMap_singleton]

theorem kept_append_left {w : Text} (line : Text) (h : Text.blank w = true) :
    kept (w ++ line) = kept line := by
  rw [kept, unmarked_append_left line h, kept]

theorem kept_of_blank {line : Text} (h : Text.blank line = true) : kept line = [] := by
  rw [kept, unmarked_of_blank h]
  rfl

/-- Blank characters in front of a text do not change what is kept of it. The lines they fill are
dropped, and those behind their last line feed indent the first line of the text. -/
theorem keptLines_append_left {w : Text} (t : Text) (h : Text.blank w = true) :
    keptLines (w ++ t) = keptLines t := by
  induction w using Text.segmentInduction with
  | free w hw =>
    by_cases hfeed : '\n' ∈ t
    · obtain ⟨line, rest, hline, rfl⟩ := Text.exists_segment hfeed
      have hfirst : '\n' ∉ w ++ line := by simp [hw, hline]
      rw [← List.append_assoc, keptLines_append_lineFeed rest hfirst,
        keptLines_append_lineFeed rest hline, kept_append_left line h]
    · have hfree : '\n' ∉ w ++ t := by simp [hw, hfeed]
      rw [keptLines_of_not_mem hfree, keptLines_of_not_mem hfeed, kept_append_left t h]
  | feed segment rest hsegment ih =>
    obtain ⟨hblank, hfeed⟩ := Text.blank_append.1 h
    have hrest : Text.blank rest = true :=
      Text.blank_iff.2 fun c hc => Text.blank_iff.1 hfeed c (List.mem_cons_of_mem _ hc)
    rw [List.append_assoc, List.cons_append, keptLines_append_lineFeed _ hsegment,
      kept_of_blank hblank, List.nil_append, ih hrest]

theorem keptLines_of_blank {raw : Text} (h : Text.blank raw = true) : keptLines raw = [] := by
  have hkept := keptLines_append_left [] h
  rw [List.append_nil] at hkept
  exact hkept

theorem parsed_of_blank {raw : Text} (h : Text.blank raw = true) : parsed raw = [] := by
  by_cases hone : (Text.lines raw).length = 1
  · rw [parsed_of_one hone, Text.trim_eq_nil_iff.2 h]
  · rw [parsed_of_many hone, keptLines_of_blank h]
    rfl

end Comment

end DocTag
