import DocTag.Part.Basic
import DocTag.Proofs.Comment.Lines
import DocTag.Proofs.Span.Reading

/-!
# The first visible line

The trimmed span of a comment is found by counting bytes from one end of its span or from both. What
it stands for is a text: the visible line (`visibleLine`), a piece of the raw text right behind its
indent (`exists_append_visibleLine`). The count of bytes and the text agree, because the trimmed
span is the one laid over the visible line (`trimmedSpan_covering`), and so it can be read back out
of any source that holds the comment at its place.
-/

namespace DocTag.Comment

/-- **The visible line**: the trimmed text of a comment of one line, and otherwise what stands from
the first character that is not blank to the next line feed. Nothing, where there is none. -/
def visibleLine (raw : Text) : Text :=
  if isOneLine raw then Text.trim raw
  else
    match Text.cut '\n' (Text.trimLeft raw) with
    | (line, some _) => line
    | (_, none) => []

theorem isOneLine_iff {raw : Text} : isOneLine raw = true ↔ (Text.lines raw).length = 1 :=
  beq_iff_eq

/-! ## What the visible line is -/

theorem visibleLine_of_length_eq_one {raw : Text} (h : (Text.lines raw).length = 1) :
    visibleLine raw = Text.trim raw := by
  rw [visibleLine, if_pos (isOneLine_iff.2 h)]

theorem visibleLine_of_append {raw line rest : Text} (h : (Text.lines raw).length ≠ 1)
    (hraw : Text.trimLeft raw = line ++ '\n' :: rest) (hline : '\n' ∉ line) :
    visibleLine raw = line := by
  rw [visibleLine, if_neg (isOneLine_iff.not.2 h), hraw, Text.cut_append rest hline]

theorem visibleLine_of_not_mem {raw : Text} (h : (Text.lines raw).length ≠ 1)
    (hraw : '\n' ∉ Text.trimLeft raw) : visibleLine raw = [] := by
  rw [visibleLine, if_neg (isOneLine_iff.not.2 h), Text.cut_of_not_mem hraw]

/-- The three looks of a comment: one line, several lines with a line feed behind the first visible
character, and several lines without one. -/
theorem visibleLine_cases (raw : Text) :
    ((Text.lines raw).length = 1 ∧ visibleLine raw = Text.trim raw) ∨
      (Text.lines raw).length ≠ 1 ∧
        ((∃ rest, Text.trimLeft raw = visibleLine raw ++ '\n' :: rest ∧ '\n' ∉ visibleLine raw) ∨
          '\n' ∉ Text.trimLeft raw ∧ visibleLine raw = []) := by
  by_cases hone : (Text.lines raw).length = 1
  · exact .inl ⟨hone, visibleLine_of_length_eq_one hone⟩
  refine .inr ⟨hone, ?_⟩
  by_cases hfeed : '\n' ∈ Text.trimLeft raw
  · obtain ⟨line, rest, hfree, hraw⟩ := Text.exists_segment hfeed
    rw [visibleLine_of_append hone hraw hfree]
    exact .inl ⟨rest, hraw, hfree⟩
  · exact .inr ⟨hfeed, visibleLine_of_not_mem hone hfeed⟩

theorem visibleLine_of_blank {raw : Text} (h : Text.blank raw = true) : visibleLine raw = [] := by
  rcases visibleLine_cases raw with ⟨-, hline⟩ | ⟨-, ⟨rest, hraw, -⟩ | ⟨-, hline⟩⟩
  · rw [hline, Text.trim_eq_nil_iff.2 h]
  · rw [Text.trimLeft_eq_nil_iff.2 h] at hraw
    exact (List.append_eq_nil_iff.1 hraw.symm).1
  · exact hline

theorem lineFeed_not_mem_visibleLine (raw : Text) : '\n' ∉ visibleLine raw := by
  rcases visibleLine_cases raw with ⟨hone, hline⟩ | ⟨-, ⟨-, -, hfree⟩ | ⟨-, hline⟩⟩
  · obtain ⟨only, honly⟩ := List.length_eq_one_iff.1 hone
    have hfree : '\n' ∉ only :=
      Text.not_mem_lines (by rw [honly]; exact List.mem_singleton_self only)
    rw [hline, Text.trim_of_lines_eq honly]
    exact fun h => hfree (Text.mem_of_mem_trim h)
  · exact hfree
  · rw [hline]
    exact List.not_mem_nil

theorem visibleLine_head (raw : Text) : ∀ c ∈ (visibleLine raw).head?, isBlank c = false := by
  intro c hc
  rcases visibleLine_cases raw with ⟨-, hline⟩ | ⟨-, ⟨rest, hraw, -⟩ | ⟨-, hline⟩⟩
  · rw [hline] at hc
    exact (Text.trim_ends raw).1 c hc
  · have hhead : c ∈ (Text.trimLeft raw).head? := by
      rw [hraw, List.head?_append, Option.mem_def.1 hc]
      rfl
    exact Text.trimLeft_eq_self_iff.1 (Text.trimLeft_trimLeft raw) c hhead
  · rw [hline] at hc
    exact absurd hc (Option.not_mem_none c)

/-- A line feed does not come first of what is left behind the blank characters at the start. -/
theorem ne_nil_of_trimLeft {raw line rest : Text} (h : Text.trimLeft raw = line ++ '\n' :: rest) :
    line ≠ [] := by
  rintro rfl
  have hfeed : isBlank '\n' = false := Text.trimLeft_head h
  exact absurd hfeed (by decide)

/-- **There is a visible line** in each comment that is not blank, but for one look of it: the first
visible character stands on the last of several lines, and no line feed ends that line. -/
theorem visibleLine_eq_nil_iff {raw : Text} (h : Text.blank raw = false) :
    visibleLine raw = [] ↔ (Text.lines raw).length ≠ 1 ∧ '\n' ∉ Text.trimLeft raw := by
  rcases visibleLine_cases raw with ⟨hone, hline⟩ | ⟨hmany, ⟨rest, hraw, -⟩ | ⟨hfree, hline⟩⟩
  · refine iff_of_false ?_ fun hboth => hboth.1 hone
    rw [hline, Text.trim_eq_nil_iff, h]
    exact Bool.false_ne_true
  · refine iff_of_false (ne_nil_of_trimLeft hraw) fun hboth => hboth.2 ?_
    rw [hraw]
    exact List.mem_append_right _ List.mem_cons_self
  · exact iff_of_true hline ⟨hmany, hfree⟩

/-- The visible line stands in the raw text right behind the indent. -/
theorem exists_append_visibleLine {raw : Text} (h : Text.blank raw = false) :
    ∃ after, raw = Text.indent raw ++ visibleLine raw ++ after := by
  rcases visibleLine_cases raw with ⟨-, hline⟩ | ⟨-, ⟨rest, hraw, -⟩ | ⟨-, hline⟩⟩
  · exact ⟨Text.trail raw, by rw [hline, Text.indent_append_trim_append h]⟩
  · exact ⟨'\n' :: rest, by rw [List.append_assoc, ← hraw, Text.indent_append_trimLeft]⟩
  · exact ⟨Text.trimLeft raw, by rw [hline, List.append_nil, Text.indent_append_trimLeft]⟩

/-! ## The span of the visible line -/

theorem byteLength_reverse (t : Text) : Text.byteLength t.reverse = Text.byteLength t := by
  induction t with
  | nil => rfl
  | cons c rest ih =>
    rw [List.reverse_cons, Text.byteLength_append, ih]
    simp only [Text.byteLength]
    omega

theorem trailingBytes_eq (raw : Text) : trailingBytes raw = Text.byteLength (Text.trail raw) := by
  rw [trailingBytes, Text.trail, byteLength_reverse]

theorem bytesBeforeLineFeed_eq {raw : Text} (h : (Text.lines raw).length ≠ 1) :
    bytesBeforeLineFeed (Text.trimLeft raw) = Text.byteLength (visibleLine raw) := by
  rcases visibleLine_cases raw with ⟨hone, -⟩ | ⟨-, ⟨rest, hraw, hfree⟩ | ⟨hfree, hline⟩⟩
  · exact absurd hone h
  · rw [hraw, bytesBeforeLineFeed, Text.cut_append rest hfree]
  · rw [hline, bytesBeforeLineFeed, Text.cut_of_not_mem hfree]
    rfl

/-- **The trimmed span is the one laid over the visible line**, for a comment whose own span is laid
over it. Counting from the end of the span and counting from its start come to the same. -/
theorem trimmedSpan_covering {raw : Text} (h : Text.blank raw = false) (start : Int) :
    trimmedSpan raw (Span.covering raw start) =
      Span.covering (visibleLine raw) (start + Text.byteLength (Text.indent raw)) := by
  rw [trimmedSpan, if_neg (by rw [h]; exact Bool.false_ne_true)]
  by_cases hone : (Text.lines raw).length = 1
  · rw [if_pos (isOneLine_iff.2 hone), visibleLine_of_length_eq_one hone, trailingBytes_eq]
    -- Counted back from the stop of the whole: what is left in front of the trail.
    have hsize := congrArg Text.byteLength (Text.indent_append_trim_append h)
    rw [Text.byteLength_append, Text.byteLength_append] at hsize
    simp only [Span.covering, leadingBytes, Span.mk.injEq]
    refine ⟨rfl, ?_⟩
    omega
  · rw [if_neg (isOneLine_iff.not.2 hone), bytesBeforeLineFeed_eq hone]
    rfl

theorem trimmedSpan_of_blank {raw : Text} (h : Text.blank raw = true) (span : Span) :
    trimmedSpan raw span = Span.empty span.start := by
  rw [trimmedSpan, if_pos h]

/-- Where a source holds a comment, the trimmed span reads the visible line. -/
theorem sourceText_trimmedSpan (before raw after : Text) :
    (trimmedSpan raw (Span.covering raw (Text.byteLength before))).sourceText
      (before ++ raw ++ after) = .ok (visibleLine raw) := by
  cases h : Text.blank raw with
  | true =>
    -- The span is empty, so it is the one laid over no text in front of the comment.
    have hread := Span.sourceText_covering before [] (raw ++ after)
    rw [List.append_nil, ← List.append_assoc] at hread
    rw [trimmedSpan_of_blank h, visibleLine_of_blank h, ← hread]
    simp [Span.covering, Span.empty, Text.byteLength]
  | false =>
    obtain ⟨rest, hraw⟩ := exists_append_visibleLine h
    have hsource : before ++ raw ++ after =
        (before ++ Text.indent raw) ++ visibleLine raw ++ (rest ++ after) :=
      calc before ++ raw ++ after
        _ = before ++ (Text.indent raw ++ visibleLine raw ++ rest) ++ after := by rw [← hraw]
        _ = (before ++ Text.indent raw) ++ visibleLine raw ++ (rest ++ after) := by
          simp only [List.append_assoc]
    rw [trimmedSpan_covering h, ← Int.natCast_add, ← Text.byteLength_append, hsource]
    exact Span.sourceText_covering _ _ _

theorem sourceText_trimmedSpan_self (raw : Text) :
    (trimmedSpan raw (Span.covering raw 0)).sourceText raw = .ok (visibleLine raw) := by
  have hread := sourceText_trimmedSpan [] raw []
  rw [List.nil_append, List.append_nil] at hread
  exact hread

/-- The trimmed span lies inside the span of the comment. -/
theorem trimmedSpan_within (raw : Text) (start : Int) :
    (Span.covering raw start).start ≤ (trimmedSpan raw (Span.covering raw start)).start ∧
      (trimmedSpan raw (Span.covering raw start)).start ≤
        (trimmedSpan raw (Span.covering raw start)).stop ∧
      (trimmedSpan raw (Span.covering raw start)).stop ≤ (Span.covering raw start).stop := by
  cases h : Text.blank raw with
  | true =>
    rw [trimmedSpan_of_blank h]
    simp only [Span.empty, Span.covering]
    omega
  | false =>
    obtain ⟨rest, hraw⟩ := exists_append_visibleLine h
    have hsize := congrArg Text.byteLength hraw
    rw [Text.byteLength_append, Text.byteLength_append] at hsize
    rw [trimmedSpan_covering h]
    simp only [Span.covering]
    omega

/-- **The trimmed span of a comment reads its first visible line**, in every source that holds the
comment where its span says. It lies inside that span, and what it reads is nothing of a blank
comment, the trimmed text of a comment of one line, and otherwise the text before the first line
feed behind the blank characters at the start, or nothing, at the first visible character, where no
line feed follows it. So it reads one line, which starts visibly. -/
theorem trimmedSpan_reads_visibleLine (before raw after : Text) :
    let part : Part := .of .comment raw (Span.covering raw (Text.byteLength before))
    ∃ t line, part.trimmedSpan? = some t ∧
      (part.span.start ≤ t.start ∧ t.start ≤ t.stop ∧ t.stop ≤ part.span.stop) ∧
      t.sourceText (before ++ raw ++ after) = .ok line ∧
      (Text.blank raw = true → line = []) ∧
      ((Text.lines raw).length = 1 → line = Text.trim raw) ∧
      (Text.blank raw = false → (Text.lines raw).length ≠ 1 →
        (∀ first rest, Text.trimLeft raw = first ++ '\n' :: rest → '\n' ∉ first → line = first) ∧
        ('\n' ∉ Text.trimLeft raw → line = [] ∧ ∃ indent, raw = indent ++ Text.trimLeft raw ∧
          t = Span.empty (Text.byteLength (before ++ indent)))) ∧
      '\n' ∉ line ∧ ∀ c ∈ line.head?, isBlank c = false := by
  intro part
  refine ⟨trimmedSpan raw (Span.covering raw (Text.byteLength before)), visibleLine raw, rfl,
    trimmedSpan_within raw _, sourceText_trimmedSpan before raw after, visibleLine_of_blank,
    visibleLine_of_length_eq_one, ?_, lineFeed_not_mem_visibleLine raw, visibleLine_head raw⟩
  intro hblank hlines
  constructor
  · intro first rest hraw hfirst
    exact visibleLine_of_append hlines hraw hfirst
  · intro hfree
    have hline : visibleLine raw = [] := visibleLine_of_not_mem hlines hfree
    refine ⟨hline, Text.indent raw, (Text.indent_append_trimLeft raw).symm, ?_⟩
    rw [trimmedSpan_covering hblank, hline, Text.byteLength_append]
    simp [Span.covering, Span.empty, Text.byteLength]

example :
    (Part.of .comment "\u3000 é\n".toList ⟨5, 12⟩).trimmedSpan? = some ⟨9, 11⟩ := by decide

end DocTag.Comment
