import DocTag.Proofs.Comment.Block
import DocTag.Proofs.Comment.LineEnds
import Mathlib.Data.List.Forall2

/-!
# Padding the lines of a comment

Parsing looks at a comment line by line, and at each line only as far as it is trimmed. So whatever
does not change the trimmed lines of a comment (`trimmedLines`) changes neither what it says nor
what its record counts (`parsedAlike_of_trimmedLines`).

Blank characters may therefore be put around the lines of a comment, or taken off them and replaced,
as long as they stay on their line (`parsed_ignores_padding`). That covers a carriage return at the
end of each line and a new indent at its start. What follows the last line feed is a line only if it
is not empty, so nothing is put where nothing is left: that would add a line.
-/

namespace DocTag

namespace Text

/-- **A text is changed line by line**, each line as a relation allows it. A line remains a line,
and no line is added at the end. -/
inductive LineByLine (allowed : Text → Text → Prop) : Text → Text → Prop
  /-- Where no line is left, none is added. -/
  | nothing : LineByLine allowed [] []
  /-- A line that no line feed ends. -/
  | last {line line' : Text} (free : '\n' ∉ line) (free' : '\n' ∉ line') (ne : line ≠ [])
      (ne' : line' ≠ []) (change : allowed line line') : LineByLine allowed line line'
  /-- A line that a line feed ends, and what follows it. -/
  | feed {line line' rest rest' : Text} (free : '\n' ∉ line) (free' : '\n' ∉ line')
      (change : allowed line line') (others : LineByLine allowed rest rest') :
      LineByLine allowed (line ++ '\n' :: rest) (line' ++ '\n' :: rest')

/-- The lines of the two texts belong together one by one. -/
theorem LineByLine.forall₂_lines {allowed : Text → Text → Prop} {t t' : Text}
    (h : LineByLine allowed t t') : List.Forall₂ allowed (lines t) (lines t') := by
  induction h with
  | nothing => exact .nil
  | last free free' ne ne' change =>
    rw [lines_of_not_mem free ne, lines_of_not_mem free' ne']
    exact .cons change .nil
  | feed free free' change _ ih =>
    rw [lines_append_lineFeed _ free, lines_append_lineFeed _ free']
    exact .cons change ih

end Text

namespace Comment

/-! ## What parsing looks at -/

/-- The lines of a comment, each trimmed. -/
def trimmedLines (raw : Text) : List Text := (Text.lines raw).map Text.trim

theorem keptLines_eq_trimmedLines (raw : Text) :
    keptLines raw = ((trimmedLines raw).map fun line => Text.trim (dropMarker line)).filter
      fun line => !line.isEmpty := by
  rw [trimmedLines, List.map_map]
  rfl

/-- **Two comments are parsed alike**: they say the same, and the records that this leaves, if it
leaves any, count the same lines. -/
structure ParsedAlike (part part' : Part) : Prop where
  parsed : part'.parsed = part.parsed
  records : part.records = [] ∧ part'.records = [] ∨
    ∃ lineCount keptCount,
      part.records = [.commentParsed lineCount keptCount part.raw.length] ∧
        part'.records = [.commentParsed lineCount keptCount part'.raw.length]

/-- **Parsing looks at the trimmed lines** of a comment, and at nothing else. -/
theorem parsedAlike_of_trimmedLines {raw raw' : Text} (span span' : Span)
    (h : trimmedLines raw' = trimmedLines raw) :
    ParsedAlike (.of .comment raw span) (.of .comment raw' span') := by
  have hlength : (Text.lines raw').length = (Text.lines raw).length := by
    have hmapped := congrArg List.length h
    rwa [trimmedLines, trimmedLines, List.length_map, List.length_map] at hmapped
  have hkept : keptLines raw' = keptLines raw := by
    rw [keptLines_eq_trimmedLines, h, ← keptLines_eq_trimmedLines]
  by_cases hone : (Text.lines raw).length = 1
  · have hone' : (Text.lines raw').length = 1 := hlength.trans hone
    obtain ⟨line, hline⟩ := List.length_eq_one_iff.1 hone
    obtain ⟨line', hline'⟩ := List.length_eq_one_iff.1 hone'
    have htrim : Text.trim line' = Text.trim line := by
      rw [trimmedLines, trimmedLines, hline, hline'] at h
      exact List.singleton_inj.1 h
    constructor
    · show parsed raw' = parsed raw
      rw [parsed_of_one hone, parsed_of_one hone', Text.trim_of_lines_eq hline,
        Text.trim_of_lines_eq hline', htrim]
    · exact .inl ⟨records_of_one hone, records_of_one hone'⟩
  · have hmany : (Text.lines raw').length ≠ 1 := by
      rw [hlength]
      exact hone
    constructor
    · show parsed raw' = parsed raw
      rw [parsed_of_many hone, parsed_of_many hmany, hkept]
    · have hrecords' := records_of_many hmany
      rw [hlength, hkept] at hrecords'
      exact .inr ⟨_, _, records_of_many hone, hrecords'⟩

theorem parsedAlike_of_lineByLine {allowed : Text → Text → Prop} {raw raw' : Text}
    (span span' : Span)
    (hkeep : ∀ line line', allowed line line' → Text.trim line' = Text.trim line)
    (h : Text.LineByLine allowed raw raw') :
    ParsedAlike (.of .comment raw span) (.of .comment raw' span') := by
  have hsame : trimmedLines raw = trimmedLines raw' := by
    rw [trimmedLines, trimmedLines, ← List.forall₂_eq_eq_eq, List.forall₂_map_left_iff,
      List.forall₂_map_right_iff]
    exact h.forall₂_lines.imp fun line line' hchange => (hkeep line line' hchange).symm
  exact parsedAlike_of_trimmedLines span span' hsame.symm

/-! ## Changes to a line -/

/-- Blank characters are put around a line. -/
def Pads (line line' : Text) : Prop :=
  ∃ before after : Padding, line' = before.chars ++ line ++ after.chars

/-- A line gets another indent. -/
def Reindents (line line' : Text) : Prop :=
  ∃ (old new : Padding) (text : Text), line = old.chars ++ text ∧ line' = new.chars ++ text

theorem trim_of_pads {line line' : Text} (h : Pads line line') :
    Text.trim line' = Text.trim line := by
  obtain ⟨before, after, rfl⟩ := h
  rw [Text.trim_append_right _ after.blank, Text.trim_append_left _ before.blank]

theorem trim_of_reindents {line line' : Text} (h : Reindents line line') :
    Text.trim line' = Text.trim line := by
  obtain ⟨old, new, text, rfl, rfl⟩ := h
  rw [Text.trim_append_left _ old.blank, Text.trim_append_left _ new.blank]

def Padding.none : Padding := ⟨[], rfl, List.not_mem_nil⟩

def Padding.carriageReturn : Padding := ⟨['\r'], rfl, by decide⟩

/-- A carriage return in front of each line feed pads each line that a line feed ends. -/
theorem lineByLine_withReturns (raw : Text) : Text.LineByLine Pads raw (Text.withReturns raw) := by
  induction raw using Text.segmentInduction with
  | free raw h =>
    rw [Text.withReturns_of_not_mem h]
    by_cases hne : raw = []
    · subst hne
      exact .nothing
    · exact .last h h hne hne ⟨.none, .none, (List.append_nil raw).symm⟩
  | feed line rest h ih =>
    rw [Text.withReturns_append_lineFeed rest h]
    exact .feed h (Text.not_mem_append_return h) ⟨.none, .carriageReturn, rfl⟩ ih

/-! ## Padded comments -/

/-- **Padding is not parsed.** Blank characters that are put around the lines of a comment, and stay
on their line, change neither what it says nor the lines that its record counts, whether they are
put there line by line as one likes, as carriage returns at the ends of lines, or in place of the
indents that the lines had. -/
theorem parsed_ignores_padding (raw : Text) (span span' : Span) :
    let part : Part := .of .comment raw span
    (∀ padded, Text.LineByLine Pads raw padded → ParsedAlike part (.of .comment padded span')) ∧
      ParsedAlike part (.of .comment (Text.withReturns raw) span') ∧
      ∀ indented, Text.LineByLine Reindents raw indented →
        ParsedAlike part (.of .comment indented span') := by
  intro part
  have hpads : ∀ padded, Text.LineByLine Pads raw padded →
      ParsedAlike part (.of .comment padded span') := fun _ h =>
    parsedAlike_of_lineByLine span span' (fun _ _ => trim_of_pads) h
  refine ⟨hpads, hpads _ (lineByLine_withReturns raw), ?_⟩
  intro indented h
  exact parsedAlike_of_lineByLine span span' (fun _ _ => trim_of_reindents) h

/-- Of two lines, the first is padded at its end and the second at both ends. -/
theorem parsed_ignores_padding_ragged :
    let padded : Text := "a\t\n\u2028 * b\r".toList
    Text.LineByLine Pads "a\n* b".toList padded ∧
      ParsedAlike (.of .comment "a\n* b".toList (Span.empty 0))
        (.of .comment padded (Span.empty 0)) := by
  intro padded
  let tab : Padding := ⟨['\t'], rfl, by decide⟩
  let indent : Padding := ⟨"\u2028 ".toList, by decide, by decide⟩
  have hlast : Text.LineByLine Pads "* b".toList "\u2028 * b\r".toList :=
    .last (by decide) (by decide) (by decide) (by decide) ⟨indent, .carriageReturn, rfl⟩
  have hpads : Text.LineByLine Pads "a\n* b".toList padded :=
    @Text.LineByLine.feed Pads ['a'] ['a', '\t'] _ _ (by decide) (by decide) ⟨.none, tab, rfl⟩ hlast
  exact ⟨hpads, (parsed_ignores_padding _ _ _).1 padded hpads⟩

/-- Blank characters behind the last line feed are another line, and then the marker is taken off
the first one. -/
example : parsed "* a\n".toList = "* a".toList ∧ parsed "* a\n ".toList = "a".toList := by decide

end Comment

end DocTag
