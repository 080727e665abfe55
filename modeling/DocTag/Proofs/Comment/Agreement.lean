import DocTag.Proofs.Comment.Conservation
import DocTag.Proofs.Comment.FirstLine

/-!
# The result and the visible line

A comment is read in two ways. Parsing splits it first and then looks at line after line; the
trimmed span takes the blank characters off the whole text first, line feeds included, and then
looks for the next line feed. Both come to the same line: the lines in front of it are blank, so
parsing keeps nothing of them, and what it keeps first is the visible line without its marker
(`keptLines_of_visibleLine`).

The two part only where the visible line says nothing: it may be a lone marker, which parsing drops
with its line, and it is empty where no line feed follows the first visible character
(`parsed_agrees_with_trimmedSpan`).
-/

namespace DocTag.Comment

/-! ## The first line that is kept -/

theorem kept_of_unmarked {line : Text} (h : unmarked line ≠ []) : kept line = [unmarked line] := by
  rw [kept, List.filter_singleton, List.isEmpty_eq_false_iff.2 h]
  rfl

/-- What is kept of a comment is what is kept of its visible line, and then of what follows it. -/
theorem keptLines_of_visibleLine {raw rest : Text}
    (h : Text.trimLeft raw = visibleLine raw ++ '\n' :: rest) :
    keptLines raw = kept (visibleLine raw) ++ keptLines rest :=
  calc keptLines raw
    _ = keptLines (Text.indent raw ++ Text.trimLeft raw) := by rw [Text.indent_append_trimLeft]
    _ = keptLines (Text.trimLeft raw) := keptLines_append_left _ (Text.blank_indent raw)
    _ = keptLines (visibleLine raw ++ '\n' :: rest) := by rw [← h]
    _ = kept (visibleLine raw) ++ keptLines rest :=
      keptLines_append_lineFeed rest (lineFeed_not_mem_visibleLine raw)

theorem head?_keptLines {raw : Text} (hmany : (Text.lines raw).length ≠ 1)
    (h : unmarked (visibleLine raw) ≠ []) :
    (keptLines raw).head? = some (unmarked (visibleLine raw)) := by
  rcases visibleLine_cases raw with ⟨hone, -⟩ | ⟨-, ⟨rest, hraw, -⟩ | ⟨-, hline⟩⟩
  · exact absurd hone hmany
  · rw [keptLines_of_visibleLine hraw, kept_of_unmarked h]
    rfl
  · rw [hline] at h
    exact absurd rfl h

/-- Nothing is kept of the visible line of a comment of several lines in two cases only. -/
theorem marker_or_nil_of_unmarked {raw : Text} (hmany : (Text.lines raw).length ≠ 1)
    (h : unmarked (visibleLine raw) = []) :
    Text.trim (visibleLine raw) = [marker] ∨
      visibleLine raw = [] ∧ '\n' ∉ Text.trimLeft raw := by
  rcases visibleLine_cases raw with ⟨hone, -⟩ | ⟨-, ⟨rest, hraw, -⟩ | ⟨hfree, hline⟩⟩
  · exact absurd hone hmany
  · -- The visible line starts visibly, so it is no blank line that is dropped here.
    have hstart : Text.trim (visibleLine raw) ≠ [] := by
      rw [Ne, Text.trim_eq_nil_iff, Text.blank_iff]
      intro hblank
      obtain ⟨c, others, hc⟩ := List.exists_cons_of_ne_nil (ne_nil_of_trimLeft hraw)
      have hvisible : isBlank c = false := visibleLine_head raw c (by rw [hc]; rfl)
      rw [hblank c (by rw [hc]; exact List.mem_cons_self)] at hvisible
      exact Bool.noConfusion hvisible
    have htext : hasText (visibleLine raw) = false := unmarked_eq_nil_iff.1 h
    rw [hasText, List.isEmpty_eq_false_iff.2 hstart, Bool.not_false, Bool.true_and,
      bne_eq_false_iff_eq] at htext
    exact .inl htext
  · exact .inr ⟨hline, hfree⟩

/-! ## The two readings -/

/-- **What a comment's visible line and its result have in common.** -/
structure Agrees (raw line result : Text) : Prop where
  /-- A comment of one line says its visible line, marker and all. -/
  oneLine : (Text.lines raw).length = 1 → result = line
  /-- Of several lines, the first that is said is the visible one without its marker. -/
  first : (Text.lines raw).length ≠ 1 → unmarked line ≠ [] →
    result ≠ [] ∧ (Text.lines result).head? = some (unmarked line)
  /-- If that is nothing, the visible line is a lone marker, or there is none to be found. -/
  nothing : (Text.lines raw).length ≠ 1 → unmarked line = [] →
    Text.trim line = [marker] ∨ line = [] ∧ '\n' ∉ Text.trimLeft raw
  blank : Text.blank raw = true → result = [] ∧ line = []

/-- **Parsing a comment and reading its trimmed span agree**: they find the same first visible line,
whatever blank lines stand in front of it. -/
theorem parsed_agrees_with_trimmedSpan (raw : Text) :
    let part : Part := .of .comment raw (Span.covering raw 0)
    ∃ t line, part.trimmedSpan? = some t ∧ t.sourceText raw = .ok line ∧
      Agrees raw line part.parsed := by
  intro part
  refine ⟨trimmedSpan raw part.span, visibleLine raw, rfl, sourceText_trimmedSpan_self raw, ?_⟩
  show Agrees raw (visibleLine raw) (parsed raw)
  constructor
  case oneLine =>
    intro hone
    rw [visibleLine_of_length_eq_one hone, parsed_of_one hone]
  case first =>
    intro hlines hmeant
    have hhead : (Text.lines (parsed raw)).head? = some (unmarked (visibleLine raw)) := by
      rw [parsed_of_many hlines, lines_joinLines_keptLines, head?_keptLines hlines hmeant]
    refine ⟨?_, hhead⟩
    intro hnothing
    rw [hnothing, Text.lines_nil] at hhead
    cases hhead
  case nothing => exact marker_or_nil_of_unmarked
  case blank =>
    intro hblank
    refine ⟨?_, visibleLine_of_blank hblank⟩
    by_cases hone : (Text.lines raw).length = 1
    · rw [parsed_of_one hone, Text.trim_eq_nil_iff.2 hblank]
    · rw [parsed_of_many hone, keptLines_of_blank hblank]
      rfl

example :
    visibleLine "\n\t\n * \n * a\n".toList = "* ".toList ∧
      parsed "\n\t\n * \n * a\n".toList = "a".toList := by decide

end DocTag.Comment
