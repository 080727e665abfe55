import DocTag.Part.Basic
import DocTag.Proofs.Comment.Lines

/-!
# Documentation blocks

A documentation block lays a text out over lines: the first line of the text may stand behind the
opening, each of the others has a line of its own behind a marker, and what stands before the
closing is blank. `Block` is such a layout with all its free choices, and `Block.raw` writes it
down.

Parsing undoes every layout (`parsed_undoes_layout`): it gives back the lines that are not empty,
whatever blank characters stand around them, and whether or not the lines have markers of their own.
Where a layout comes to a single line, nothing but the first line of the text can be in it, and that
is what trimming leaves (`raw_of_isOneLine`).
-/

namespace DocTag.Comment

/-- Blank characters that stay on their line. -/
structure Padding where
  chars : Text
  blank : Text.blank chars = true
  onLine : '\n' ∉ chars

/-- What one line says: a text without line feeds, with nothing blank around it. -/
structure LineText where
  chars : Text
  trimmed : Text.isTrimmed chars = true
  onLine : '\n' ∉ chars

/-- A line with a marker, as it is laid out in a block. -/
structure BlockLine where
  /-- What stands before the marker. -/
  indent : Padding
  /-- What stands between the marker and the text. -/
  gap : Padding
  /-- The text of the line, which may itself start with markers, or be empty. -/
  text : LineText
  /-- What stands behind the text. -/
  tail : Padding

/-- **A documentation block**, as it is laid out. The text behind the opening may be empty, but does
not look like a line with a marker. -/
structure Block where
  head : LineText
  headUnmarked : head.chars.head? ≠ some marker
  lines : List BlockLine
  closing : Padding

/-! ## Lines -/

theorem LineText.trim_chars (t : LineText) : Text.trim t.chars = t.chars :=
  Text.isTrimmed_eq.1 t.trimmed

namespace BlockLine

def raw (line : BlockLine) : Text :=
  line.indent.chars ++ marker :: (line.gap.chars ++ line.text.chars ++ line.tail.chars)

theorem lineFeed_not_mem_raw (line : BlockLine) : '\n' ∉ line.raw := by
  have hmarker : '\n' ≠ marker := by decide
  simp [raw, line.indent.onLine, line.gap.onLine, line.text.onLine, line.tail.onLine, hmarker]

theorem unmarked_raw (line : BlockLine) : unmarked line.raw = line.text.chars := by
  rw [raw, unmarked_marker _ line.indent.blank, Text.trim_append_right _ line.tail.blank,
    Text.trim_append_left _ line.gap.blank, line.text.trim_chars]

end BlockLine

/-! ## Blocks -/

namespace Block

/-- The lines with markers as they are written, each with its line feed, and the closing. -/
def body (lines : List BlockLine) (closing : Padding) : Text :=
  (lines.flatMap fun line => line.raw ++ ['\n']) ++ closing.chars

/-- The block as it is written. -/
def raw (b : Block) : Text := b.head.chars ++ '\n' :: body b.lines b.closing

/-- What the lines of the block say, in order. -/
def texts (b : Block) : List Text := b.head.chars :: b.lines.map fun line => line.text.chars

theorem body_cons (line : BlockLine) (lines : List BlockLine) (closing : Padding) :
    body (line :: lines) closing = line.raw ++ '\n' :: body lines closing := by
  simp only [body, List.flatMap_cons, List.append_assoc, List.cons_append, List.nil_append]

theorem body_eq_nil {lines : List BlockLine} {closing : Padding} (h : body lines closing = []) :
    lines = [] := by
  cases lines with
  | nil => rfl
  | cons line lines =>
    rw [body_cons] at h
    exact absurd (List.append_eq_nil_iff.1 h).2 (List.cons_ne_nil _ _)

theorem unmarked_head (b : Block) : unmarked b.head.chars = b.head.chars := by
  have hunmarked : (Text.trim b.head.chars).head? ≠ some marker := by
    rw [b.head.trim_chars]
    exact b.headUnmarked
  rw [unmarked_of_no_marker hunmarked, b.head.trim_chars]

/-- Of the lines with markers, what is kept are their texts. -/
theorem keptLines_body (lines : List BlockLine) (closing : Padding) :
    keptLines (body lines closing) =
      (lines.map fun line => line.text.chars).filter fun t => !t.isEmpty := by
  induction lines with
  | nil =>
    rw [body, List.flatMap_nil, List.nil_append, keptLines_of_not_mem closing.onLine, kept,
      unmarked_of_blank closing.blank]
    rfl
  | cons line lines ih =>
    rw [body_cons, keptLines_append_lineFeed _ line.lineFeed_not_mem_raw, ih, kept,
      line.unmarked_raw, List.map_cons, ← List.filter_append, List.singleton_append]

theorem keptLines_raw (b : Block) : keptLines b.raw = b.texts.filter fun t => !t.isEmpty := by
  rw [raw, keptLines_append_lineFeed _ b.head.onLine, keptLines_body, kept, b.unmarked_head,
    texts, ← List.filter_append, List.singleton_append]

/-- A block that comes to one line has no lines with markers. -/
theorem raw_of_isOneLine {b : Block} (h : isOneLine b.raw = true) :
    b.raw = b.head.chars ++ ['\n'] ∧ b.texts = [b.head.chars] := by
  have hlines : (Text.lines (body b.lines b.closing)).length = 0 := by
    have hone : (Text.lines b.raw).length = 1 := beq_iff_eq.1 h
    rw [raw, Text.lines_append_lineFeed _ b.head.onLine, List.length_cons] at hone
    omega
  have hbody : body b.lines b.closing = [] :=
    Text.lines_eq_nil_iff.1 (List.length_eq_zero_iff.1 hlines)
  constructor
  · rw [raw, hbody]
  · rw [texts, body_eq_nil hbody, List.map_nil]

/-- **Parsing undoes the layout of a block**: it gives the texts of its lines that are not empty,
joined by line feeds, in order. -/
theorem parsed_undoes_layout (b : Block) (span : Span) :
    (Part.of .comment b.raw span).parsed =
      Text.joinLines (b.texts.filter fun t => !t.isEmpty) := by
  show Comment.parsed b.raw = _
  cases hone : isOneLine b.raw with
  | true =>
    -- A single line is only trimmed, so it matters that no line with a marker is left.
    obtain ⟨hraw, htexts⟩ := raw_of_isOneLine hone
    have hfeed : Text.blank ['\n'] = true := by decide
    rw [Comment.parsed, if_pos hone, hraw, htexts, Text.trim_append_right _ hfeed,
      b.head.trim_chars]
    cases b.head.chars with
    | nil => rfl
    | cons c rest => exact (Text.joinLines_singleton (c :: rest)).symm
  | false =>
    have hmany : ¬isOneLine b.raw = true := by
      rw [hone]
      exact Bool.false_ne_true
    rw [Comment.parsed, if_neg hmany, keptLines_raw]

example :
    let nothing : Padding := ⟨[], rfl, List.not_mem_nil⟩
    let line : BlockLine :=
      ⟨⟨[' '], rfl, by decide⟩, nothing, ⟨"*note*".toList, by decide, by decide⟩, nothing⟩
    let b : Block := ⟨⟨[], rfl, List.not_mem_nil⟩, by decide, [line, line], nothing⟩
    b.raw = "\n **note*\n **note*\n".toList ∧
      (Part.of .comment b.raw (Span.empty 0)).parsed = "*note*\n*note*".toList := by
  decide

end Block

end DocTag.Comment
