import DocTag.Part.Basic
import DocTag.Proofs.Comment.Lines

/-!
# Joining comments

A line feed between two texts starts a new line, so of the joined text parsing keeps what it keeps
of the one and then what it keeps of the other (`keptLines_append`). What a comment of one line says
is not made of that: its marker is kept, and lost when another line is joined to it. Comments of no
line and of several lines have no such exception, nor has the blank line that two empty comments
make when they are joined.

So the comments that do not have one line can be parsed one by one or all at once: what they say is
joined as they are, but for those that say nothing (`parsed_distributes`).
-/

namespace DocTag

namespace Text

/-- A text of one line has nothing behind its first line feed. -/
theorem of_length_lines_append_eq_one {s t : Text} (h : (lines (s ++ '\n' :: t)).length = 1) :
    '\n' ∉ s ∧ t = [] := by
  have hfree : '\n' ∉ s := by
    intro hfeed
    obtain ⟨segment, rest, hsegment, rfl⟩ := exists_segment hfeed
    rw [List.append_assoc, List.cons_append, lines_append_lineFeed _ hsegment, List.length_cons,
      Nat.add_eq_right, List.length_eq_zero_iff, lines_eq_nil_iff] at h
    exact List.cons_ne_nil _ _ (List.append_eq_nil_iff.1 h).2
  rw [lines_append_lineFeed t hfree, List.length_cons, Nat.add_eq_right,
    List.length_eq_zero_iff, lines_eq_nil_iff] at h
  exact ⟨hfree, h⟩

/-- Texts that do not have one line are joined to one that does not either, or is blank. -/
theorem joinLines_many_or_blank {texts : List Text} (h : ∀ t ∈ texts, (lines t).length ≠ 1) :
    (lines (joinLines texts)).length ≠ 1 ∨ blank (joinLines texts) = true := by
  cases texts with
  | nil => exact .inr rfl
  | cons t rest =>
    have ht : (lines t).length ≠ 1 := h t List.mem_cons_self
    by_cases hrest : rest = []
    · rw [hrest, joinLines_singleton]
      exact .inl ht
    · rw [joinLines_cons t hrest]
      refine Decidable.or_iff_not_imp_left.2 fun hone => ?_
      obtain ⟨hfree, hnil⟩ := of_length_lines_append_eq_one (Decidable.not_not.1 hone)
      -- Without a line feed, the first text has no line at all.
      have hempty : t = [] := by
        apply Decidable.byContradiction
        intro hne
        exact ht (by rw [lines_of_not_mem hfree hne]; rfl)
      rw [hempty, hnil]
      decide

end Text

namespace Comment

/-- **What is kept of two texts** with a line feed between them is what is kept of each. -/
theorem keptLines_append (s t : Text) :
    keptLines (s ++ '\n' :: t) = keptLines s ++ keptLines t := by
  induction s using Text.segmentInduction with
  | free s h => rw [keptLines_append_lineFeed t h, keptLines_of_not_mem h]
  | feed segment rest h ih =>
    rw [List.append_assoc, List.cons_append, keptLines_append_lineFeed _ h, ih,
      keptLines_append_lineFeed rest h, List.append_assoc]

theorem keptLines_joinLines (raws : List Text) :
    keptLines (Text.joinLines raws) = (raws.map keptLines).flatten := by
  induction raws with
  | nil => rfl
  | cons raw rest ih =>
    by_cases hrest : rest = []
    · rw [hrest, Text.joinLines_singleton, List.map_singleton, List.flatten_singleton]
    · rw [Text.joinLines_cons raw hrest, keptLines_append, ih, List.map_cons, List.flatten_cons]

/-- A comment says what is kept of it, unless it has one line with something on it. -/
theorem parsed_eq_joinLines {raw : Text}
    (h : (Text.lines raw).length ≠ 1 ∨ Text.blank raw = true) :
    parsed raw = Text.joinLines (keptLines raw) := by
  rcases h with hmany | hblank
  · exact parsed_of_many hmany
  · rw [parsed_of_blank hblank, keptLines_of_blank hblank]
    rfl

theorem parsed_joinLines {raws : List Text} (h : ∀ raw ∈ raws, (Text.lines raw).length ≠ 1) :
    parsed (Text.joinLines raws) =
      Text.joinLines ((raws.map parsed).filter fun t => !t.isEmpty) := by
  have hkept : ∀ lines ∈ raws.map keptLines, ∀ line ∈ lines, line ≠ [] := by
    intro lines hlines line hline
    obtain ⟨raw, -, rfl⟩ := List.mem_map.1 hlines
    exact ne_nil_of_mem_keptLines hline
  have hparsed : (raws.map keptLines).map Text.joinLines = raws.map parsed := by
    rw [List.map_map]
    exact List.map_congr_left fun raw hraw => (parsed_of_many (h raw hraw)).symm
  calc parsed (Text.joinLines raws)
    _ = Text.joinLines (keptLines (Text.joinLines raws)) :=
      parsed_eq_joinLines (Text.joinLines_many_or_blank h)
    _ = Text.joinLines (raws.map keptLines).flatten := by rw [keptLines_joinLines]
    _ = Text.joinLines ((raws.map parsed).filter fun t => !t.isEmpty) := by
      rw [Text.joinLines_flatten hkept, hparsed]

/-- **Parsing distributes over line feeds.** Two comments neither of which has one line, with a line
feed between them, say what each of them says, with a line feed between, and where one of them says
nothing, what the other one says. So do any number of them. -/
theorem parsed_distributes (span : Span) :
    let meant (raw : Text) : Text := (Part.of .comment raw span).parsed
    (∀ a b, (Text.lines a).length ≠ 1 → (Text.lines b).length ≠ 1 →
      meant (a ++ '\n' :: b) = Text.joinLines ([meant a, meant b].filter fun t => !t.isEmpty)) ∧
    ∀ raws : List Text, (∀ raw ∈ raws, (Text.lines raw).length ≠ 1) →
      meant (Text.joinLines raws) =
        Text.joinLines ((raws.map meant).filter fun t => !t.isEmpty) := by
  intro meant
  constructor
  · intro a b ha hb
    have hboth : ∀ raw ∈ [a, b], (Text.lines raw).length ≠ 1 :=
      List.forall_mem_cons.2 ⟨ha, List.forall_mem_singleton.2 hb⟩
    have hjoined := parsed_joinLines hboth
    rw [Text.joinLines_cons_cons, Text.joinLines_singleton] at hjoined
    exact hjoined
  · intro raws h
    exact parsed_joinLines h

/-- The second comment is empty and the fourth one says nothing. -/
theorem parsed_distributes_over_four :
    let raws : List Text := ["* a\n* b".toList, [], "c\n\n* d\n".toList, "\n *\n".toList]
    (∀ raw ∈ raws, (Text.lines raw).length ≠ 1) ∧
      (Part.of .comment (Text.joinLines raws) (Span.empty 0)).parsed = "a\nb\nc\nd".toList := by
  intro raws
  have hlines : ∀ raw ∈ raws, (Text.lines raw).length ≠ 1 := by decide
  have hmeant := (parsed_distributes (Span.empty 0)).2 raws hlines
  exact ⟨hlines, hmeant.trans (by decide)⟩

/-- A comment of one line keeps its marker by itself, and loses it when another line is joined. -/
example :
    parsed "* a".toList = "* a".toList ∧ parsed "* a\n* b\nc".toList = "a\nb\nc".toList := by
  decide

end Comment

end DocTag
