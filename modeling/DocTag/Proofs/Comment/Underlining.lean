import DocTag.Proofs.Comment.FirstLine
import DocTag.Proofs.Text.Boundary

/-!
# Where the trimmed span points

A diagnostic underlines the trimmed span of a comment, so what matters is where that span starts and
whether there is anything in it. It starts at the first visible character of the comment, and unless
it is empty it holds all bytes of that character (`trimmedSpan_points_at_text`).

It is empty for a blank comment, and for one more: a comment whose first visible character stands on
the last of several lines, with no line feed behind it. The span of several lines stops at a line
feed, and there is none to stop at.
-/

namespace DocTag

theorem Span.isEmpty_covering {t : Text} {start : Int} :
    (Span.covering t start).isEmpty = true ↔ t = [] := by
  rw [← Text.byteLength_eq_zero_iff, isEmpty, beq_iff_eq]
  simp only [covering]
  omega

/-- A text that is not blank is blank up to its first visible character. -/
theorem Text.exists_first_visible {t : Text} (h : blank t = false) :
    ∃ c after, trimLeft t = c :: after ∧ t = indent t ++ c :: after ∧ isBlank c = false := by
  have hne : trimLeft t ≠ [] := by
    rw [Ne, trimLeft_eq_nil_iff, h]
    exact Bool.false_ne_true
  obtain ⟨c, after, ht⟩ := List.exists_cons_of_ne_nil hne
  exact ⟨c, after, ht, by rw [← ht, indent_append_trimLeft], trimLeft_head ht⟩

namespace Comment

/-- The visible line, if there is one, starts with the first visible character. -/
theorem visibleLine_eq_cons {raw after : Text} {c : Char} (h : Text.trimLeft raw = c :: after)
    (hline : visibleLine raw ≠ []) : ∃ others, visibleLine raw = c :: others := by
  have hblank : Text.blank raw = false := by
    rw [← Bool.not_eq_true, ← Text.trimLeft_eq_nil_iff, h]
    exact List.cons_ne_nil c after
  obtain ⟨rest, hraw⟩ := exists_append_visibleLine hblank
  obtain ⟨d, others, hcons⟩ := List.exists_cons_of_ne_nil hline
  -- The indent is the same on both sides, so the texts behind it are.
  have hbehind : c :: after = d :: (others ++ rest) :=
    calc c :: after
      _ = Text.trimLeft (Text.indent raw ++ (visibleLine raw ++ rest)) := by
        rw [← List.append_assoc, ← hraw, h]
      _ = Text.trimLeft (d :: (others ++ rest)) := by
        rw [Text.trimLeft_append_left _ (Text.blank_indent raw), hcons, List.cons_append]
      _ = d :: (others ++ rest) :=
        Text.trimLeft_eq_self_of_head (visibleLine_head raw d (by rw [hcons]; rfl))
  rw [(List.cons_eq_cons.1 hbehind).1]
  exact ⟨others, hcons⟩

theorem isEmpty_trimmedSpan_iff {raw : Text} (h : Text.blank raw = false) (start : Int) :
    (trimmedSpan raw (Span.covering raw start)).isEmpty = true ↔
      (Text.lines raw).length ≠ 1 ∧ '\n' ∉ Text.trimLeft raw := by
  rw [trimmedSpan_covering h, Span.isEmpty_covering, visibleLine_eq_nil_iff h]

/-- **The trimmed span points at the first visible character of a comment**, and holds all its bytes
unless it is empty. It is empty for a blank comment, and where the first visible character of a
comment that does not have one line has no line feed behind it. -/
theorem trimmedSpan_points_at_text (raw : Text) (start : Int) :
    let part : Part := .of .comment raw (Span.covering raw start)
    ∃ t, part.trimmedSpan? = some t ∧
      (t.isEmpty = true ↔ Text.blank raw = true ∨
        (Text.lines raw).length ≠ 1 ∧ '\n' ∉ Text.trimLeft raw) ∧
      (Text.blank raw = false → ∃ before c after, raw = before ++ c :: after ∧
        Text.blank before = true ∧ isBlank c = false ∧ Text.trimLeft raw = c :: after ∧
        let bytes := Span.covering [c] (start + Text.byteLength before)
        t.start = bytes.start ∧ (t.isEmpty = false → bytes.stop ≤ t.stop)) := by
  intro part
  refine ⟨trimmedSpan raw (Span.covering raw start), rfl, ?_, ?_⟩
  · cases h : Text.blank raw with
    | true =>
      have hempty : (trimmedSpan raw (Span.covering raw start)).isEmpty = true := by
        rw [trimmedSpan_of_blank h]
        exact beq_self_eq_true _
      exact iff_of_true hempty (.inl rfl)
    | false => simp only [isEmpty_trimmedSpan_iff h, Bool.false_eq_true, false_or]
  · intro h
    obtain ⟨c, after, htrim, hraw, hc⟩ := Text.exists_first_visible h
    refine ⟨Text.indent raw, c, after, hraw, Text.blank_indent raw, hc, htrim, ?_⟩
    rw [trimmedSpan_covering h]
    refine ⟨rfl, ?_⟩
    intro hfull
    have hline : visibleLine raw ≠ [] := by
      rw [Ne, ← Span.isEmpty_covering, hfull]
      exact Bool.false_ne_true
    obtain ⟨others, hcons⟩ := visibleLine_eq_cons htrim hline
    simp only [hcons, Span.covering, Text.byteLength]
    omega

/-- A comment whose only visible line is the second and last one has an empty trimmed span. -/
theorem trimmedSpan_misses_last_line :
    let raw : Text := "\nx".toList
    Text.blank raw = false ∧
      (Part.of .comment raw (Span.covering raw 0)).trimmedSpan? = some (Span.empty 1) ∧
      (Span.empty 1).isEmpty = true := by
  decide

end Comment

end DocTag
