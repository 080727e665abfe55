import DocTag.Proofs.Comment.FirstLine

/-!
# Carriage returns at the ends of lines

The same comment may come with a carriage return in front of each of its line feeds
(`Text.withReturns`). That changes neither how many lines it has nor where its first visible
character stands, since a carriage return is blank and no line ends at it.

What the trimmed span reads is the same up to blank characters at its end
(`trimmedSpan_reads_withReturns`). The text of a comment of one line is trimmed at both ends, so a
carriage return at its end is not read. The visible line of a comment of several lines is read up to
its line feed, with the blank characters it ends with, and so with the carriage return.
-/

namespace DocTag

namespace Text

/-! ## Texts with carriage returns -/

/-- The text with a carriage return in front of each line feed. -/
def withReturns (t : Text) : Text := t.flatMap fun c => if c = '\n' then ['\r', '\n'] else [c]

theorem withReturns_append (s t : Text) :
    withReturns (s ++ t) = withReturns s ++ withReturns t :=
  List.flatMap_append

theorem withReturns_of_not_mem {t : Text} (h : '\n' ∉ t) : withReturns t = t := by
  induction t with
  | nil => rfl
  | cons c rest ih =>
    obtain ⟨hc, hfree⟩ := List.ne_and_not_mem_of_not_mem_cons h
    rw [withReturns, List.flatMap_cons, if_neg (Ne.symm hc), ← withReturns, ih hfree]
    rfl

/-- A line ends in a carriage return then, and the rest is treated alike. -/
theorem withReturns_append_lineFeed {line : Text} (rest : Text) (h : '\n' ∉ line) :
    withReturns (line ++ '\n' :: rest) = line ++ ['\r'] ++ '\n' :: withReturns rest := by
  have hfeed : withReturns ('\n' :: rest) = '\r' :: '\n' :: withReturns rest := rfl
  rw [withReturns_append, withReturns_of_not_mem h, hfeed, List.append_assoc]
  rfl

theorem not_mem_append_return {line : Text} (h : '\n' ∉ line) : '\n' ∉ line ++ ['\r'] := by
  simp [h]

theorem mem_withReturns {t : Text} : '\n' ∈ withReturns t ↔ '\n' ∈ t := by
  constructor
  · intro h
    apply Decidable.byContradiction
    intro hfree
    rw [withReturns_of_not_mem hfree] at h
    exact hfree h
  · intro h
    obtain ⟨line, rest, hline, rfl⟩ := exists_segment h
    rw [withReturns_append_lineFeed rest hline]
    exact List.mem_append_right _ List.mem_cons_self

theorem length_lines_withReturns (t : Text) :
    (lines (withReturns t)).length = (lines t).length := by
  induction t using segmentInduction with
  | free t h => rw [withReturns_of_not_mem h]
  | feed line rest h ih =>
    rw [withReturns_append_lineFeed rest h, lines_append_lineFeed _ (not_mem_append_return h),
      lines_append_lineFeed rest h, List.length_cons, List.length_cons, ih]

theorem blank_withReturns {t : Text} (h : blank t = true) : blank (withReturns t) = true := by
  rw [blank_iff] at h ⊢
  intro c hc
  obtain ⟨d, hd, hmem⟩ := List.mem_flatMap.1 hc
  split at hmem
  · have hend : blank ['\r', '\n'] = true := by decide
    exact blank_iff.1 hend c hmem
  · rw [List.mem_singleton.1 hmem]
    exact h d hd

theorem trimLeft_withReturns (t : Text) : trimLeft (withReturns t) = withReturns (trimLeft t) := by
  have hpieces : withReturns t = withReturns (indent t) ++ withReturns (trimLeft t) := by
    rw [← withReturns_append, indent_append_trimLeft]
  rw [hpieces, trimLeft_append_left _ (blank_withReturns (blank_indent t))]
  cases h : trimLeft t with
  | nil => rfl
  | cons c rest =>
    -- The first character is visible, so it is no line feed and stays the first.
    have hc : isBlank c = false := trimLeft_head h
    have hne : c ≠ '\n' := by
      rintro rfl
      exact absurd hc (by decide)
    rw [withReturns, List.flatMap_cons, if_neg hne]
    exact trimLeft_eq_self_of_head hc

theorem trim_withReturns {t : Text} (h : (lines t).length = 1) :
    trim (withReturns t) = trim t := by
  obtain ⟨line, hline, rfl | rfl⟩ := exists_of_length_lines_eq_one h
  · rw [withReturns_of_not_mem hline]
  · rw [withReturns_append_lineFeed [] hline, List.append_assoc, trim_append_right line rfl,
      trim_append_right line rfl]

end Text

namespace Comment

/-! ## The visible line -/

theorem visibleLine_withReturns_of_one {raw : Text} (h : (Text.lines raw).length = 1) :
    visibleLine (Text.withReturns raw) = visibleLine raw := by
  have hreturns : (Text.lines (Text.withReturns raw)).length = 1 := by
    rw [Text.length_lines_withReturns, h]
  rw [visibleLine_of_length_eq_one hreturns, visibleLine_of_length_eq_one h,
    Text.trim_withReturns h]

/-- Of a comment of several lines, the visible line is either there with and without carriage
returns, and then the one it ends in belongs to it, or it is missing both times. -/
theorem visibleLine_withReturns_of_many {raw : Text} (h : (Text.lines raw).length ≠ 1) :
    ((∃ rest, Text.trimLeft raw = visibleLine raw ++ '\n' :: rest) ∧
        visibleLine (Text.withReturns raw) = visibleLine raw ++ ['\r']) ∨
      visibleLine raw = [] ∧ visibleLine (Text.withReturns raw) = [] := by
  have hreturns : (Text.lines (Text.withReturns raw)).length ≠ 1 := by
    rw [Text.length_lines_withReturns]
    exact h
  have htrim := Text.trimLeft_withReturns raw
  rcases visibleLine_cases raw with ⟨hone, -⟩ | ⟨-, ⟨rest, hraw, hfree⟩ | ⟨hfree, hline⟩⟩
  · exact absurd hone h
  · rw [hraw, Text.withReturns_append_lineFeed rest hfree] at htrim
    exact .inl ⟨⟨rest, hraw⟩,
      visibleLine_of_append hreturns htrim (Text.not_mem_append_return hfree)⟩
  · rw [← Text.mem_withReturns, ← htrim] at hfree
    exact .inr ⟨hline, visibleLine_of_not_mem hreturns hfree⟩

/-! ## The trimmed span -/

/-- **What the trimmed spans read of a comment without and with carriage returns.** -/
structure SameButForReturn (raw line line' : Text) : Prop where
  /-- The two lines differ in nothing but blank characters at the end. -/
  trimmed : Text.trim line' = Text.trim line
  starts : (∀ c ∈ line.head?, isBlank c = false) ∧ ∀ c ∈ line'.head?, isBlank c = false
  /-- Of a comment of one line, or where nothing is read, they are the same and trimmed. -/
  same : (Text.lines raw).length = 1 ∨ line = [] → line' = line ∧ Text.isTrimmed line = true
  /-- Of several lines, the visible one is read up to its line feed. -/
  upToFeed : (Text.lines raw).length ≠ 1 → line ≠ [] →
    (∃ rest, Text.trimLeft raw = line ++ '\n' :: rest) ∧ line' = line ++ ['\r']

theorem sameButForReturn (raw : Text) :
    SameButForReturn raw (visibleLine raw) (visibleLine (Text.withReturns raw)) := by
  have hstarts := And.intro (visibleLine_head raw) (visibleLine_head (Text.withReturns raw))
  by_cases hone : (Text.lines raw).length = 1
  · have heq := visibleLine_withReturns_of_one hone
    refine ⟨congrArg Text.trim heq, hstarts, fun _ => ⟨heq, ?_⟩, fun h => absurd hone h⟩
    rw [visibleLine_of_length_eq_one hone]
    exact Text.isTrimmed_trim raw
  · rcases visibleLine_withReturns_of_many hone with ⟨⟨rest, hraw⟩, heq⟩ | ⟨hnil, hnil'⟩
    · refine ⟨?_, hstarts, ?_, fun _ _ => ⟨⟨rest, hraw⟩, heq⟩⟩
      · rw [heq, Text.trim_append_right _ rfl]
      · rintro (h | h)
        · exact absurd h hone
        · exact absurd h (ne_nil_of_trimLeft hraw)
    · rw [hnil, hnil'] at hstarts ⊢
      exact ⟨rfl, hstarts, fun _ => ⟨rfl, rfl⟩, fun _ h => absurd rfl h⟩

/-- **The trimmed span reads the same text with and without carriage returns at the ends of lines**,
but for blank characters at its end. It is the very same text for a comment of one line, and
wherever nothing is read. Otherwise it is read up to its line feed, so it goes on to the carriage
return in front of that. -/
theorem trimmedSpan_reads_withReturns (raw : Text) :
    let part : Part := .of .comment raw (Span.covering raw 0)
    let raw' := Text.withReturns raw
    let part' : Part := .of .comment raw' (Span.covering raw' 0)
    ∃ t t' line line', part.trimmedSpan? = some t ∧ part'.trimmedSpan? = some t' ∧
      t.sourceText raw = .ok line ∧ t'.sourceText raw' = .ok line' ∧
      SameButForReturn raw line line' :=
  ⟨_, _, _, _, rfl, rfl, sourceText_trimmedSpan_self raw,
    sourceText_trimmedSpan_self (Text.withReturns raw), sameButForReturn raw⟩

/-- The carriage return of the first of two lines is read, and the text that is read is then neither
the same nor trimmed. -/
theorem trimmedSpan_reads_return :
    let raw : Text := "a\nb".toList
    let raw' := Text.withReturns raw
    '\r' ∉ raw ∧ raw' = "a\r\nb".toList ∧
      (trimmedSpan raw (Span.covering raw 0)).sourceText raw = .ok "a".toList ∧
      (trimmedSpan raw' (Span.covering raw' 0)).sourceText raw' = .ok "a\r".toList ∧
      Text.isTrimmed "a\r".toList = false := by
  refine ⟨by decide, by decide, ?_, ?_, by decide⟩
  · rw [sourceText_trimmedSpan_self]
    decide
  · rw [sourceText_trimmedSpan_self]
    decide

end Comment

end DocTag
