import DocTag.Text.Basic

/-!
# Lines

A line feed, and no other character, separates the segments of a text. The lines of a text are its
segments, except that a line feed at the very end does not start another line; the empty text has no
line at all.

The main statements say that the segments are free of line feeds and give the text back when they
are joined, so that splitting loses nothing.
-/

namespace DocTag.Text

/-- The segments of a text between its line feeds: one more than there are line feeds. -/
def segments : Text → List Text
  | [] => [[]]
  | c :: rest =>
    if c = '\n' then [] :: segments rest else
      match segments rest with
      | [] => [[c]]
      | segment :: others => (c :: segment) :: others

/-- The lines of a text: its segments without an empty last one. -/
def lines (t : Text) : List Text :=
  if (segments t).getLast? = some [] then (segments t).dropLast else segments t

def joinLines (texts : List Text) : Text := join ['\n'] texts

theorem segments_ne_nil (t : Text) : segments t ≠ [] := by
  cases t with
  | nil => simp [segments]
  | cons c rest =>
    unfold segments
    split
    · simp
    · split <;> simp

theorem not_mem_segments {t segment : Text} (h : segment ∈ segments t) : '\n' ∉ segment := by
  induction t generalizing segment with
  | nil => simp_all [segments]
  | cons c rest ih =>
    unfold segments at h
    split at h
    · rcases List.mem_cons.1 h with rfl | h
      · simp
      · exact ih h
    · next hc =>
      split at h
      · next hs => exact absurd hs (segments_ne_nil rest)
      · next first others hs =>
        rcases List.mem_cons.1 h with rfl | h
        · have hf : '\n' ∉ first := ih (by simp [hs])
          simpa [Ne.symm hc] using hf
        · exact ih (by simp [hs, h])

/-- Splitting a text into segments loses nothing. -/
theorem joinLines_segments (t : Text) : joinLines (segments t) = t := by
  induction t with
  | nil => rfl
  | cons c rest ih =>
    unfold segments
    split
    · next hc =>
      cases hs : segments rest with
      | nil => exact absurd hs (segments_ne_nil rest)
      | cons first others =>
        rw [hs] at ih
        simp only [joinLines, join, List.intercalate, List.intersperse] at ih ⊢
        simp [hc, ih]
    · split
      · next hs => exact absurd hs (segments_ne_nil rest)
      · next first others hs =>
        rw [hs] at ih
        cases others <;>
          simpa [joinLines, join, List.intercalate, List.intersperse] using ih

end DocTag.Text
