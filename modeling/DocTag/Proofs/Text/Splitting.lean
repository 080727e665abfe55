import DocTag.Text.Lines

/-!
# Splitting

A text either is free of line feeds or is a segment, a line feed and a rest (`exists_segment`).
Segments and lines follow this shape: that segment comes first, and the others are those of the rest
(`segments_append_lineFeed`, `lines_append_lineFeed`). Whatever is to be shown of all lines of a
text can therefore be shown from line to line (`segmentInduction`).

Joining undoes splitting for lines that are not empty (`lines_joinLines`).
-/

namespace DocTag.Text

/-! ## Cutting at a mark -/

theorem cut_of_not_mem {mark : Char} {t : Text} (h : mark ∉ t) : cut mark t = (t, none) := by
  induction t with
  | nil => rfl
  | cons c rest ih =>
    obtain ⟨hc, hrest⟩ := List.ne_and_not_mem_of_not_mem_cons h
    simp only [cut, if_neg (Ne.symm hc), ih hrest]

theorem cut_append {mark : Char} {s : Text} (t : Text) (h : mark ∉ s) :
    cut mark (s ++ mark :: t) = (s, some t) := by
  induction s with
  | nil => simp only [List.nil_append, cut, if_pos]
  | cons c rest ih =>
    obtain ⟨hc, hrest⟩ := List.ne_and_not_mem_of_not_mem_cons h
    simp only [List.cons_append, cut, if_neg (Ne.symm hc), ih hrest]

/-! ## Segments -/

theorem exists_segment {t : Text} (h : '\n' ∈ t) :
    ∃ segment rest, '\n' ∉ segment ∧ t = segment ++ '\n' :: rest := by
  obtain ⟨segment, rest, ht, hfree⟩ := List.eq_append_cons_of_mem h
  exact ⟨segment, rest, hfree, ht⟩

theorem segments_of_not_mem {t : Text} (h : '\n' ∉ t) : segments t = [t] := by
  induction t with
  | nil => rfl
  | cons c rest ih =>
    obtain ⟨hc, hrest⟩ := List.ne_and_not_mem_of_not_mem_cons h
    simp only [segments, if_neg (Ne.symm hc), ih hrest]

/-- A line feed ends a segment and starts the next one. -/
theorem segments_append_lineFeed {s : Text} (t : Text) (h : '\n' ∉ s) :
    segments (s ++ '\n' :: t) = s :: segments t := by
  induction s with
  | nil => simp only [List.nil_append, segments, if_pos]
  | cons c rest ih =>
    obtain ⟨hc, hrest⟩ := List.ne_and_not_mem_of_not_mem_cons h
    simp only [List.cons_append, segments, if_neg (Ne.symm hc), ih hrest]

/-! ## Induction over segments -/

/-- What holds of the texts without a line feed, and of a text whenever it holds of what follows its
first line feed, holds of every text. -/
theorem segmentInduction {motive : Text → Prop} (free : ∀ t, '\n' ∉ t → motive t)
    (feed : ∀ segment rest, '\n' ∉ segment → motive rest → motive (segment ++ '\n' :: rest))
    (t : Text) : motive t := by
  induction hlength : t.length using Nat.strongRecOn generalizing t with
  | ind n ih =>
    by_cases h : '\n' ∈ t
    · obtain ⟨segment, rest, hfree, rfl⟩ := exists_segment h
      refine feed segment rest hfree (ih rest.length ?_ rest rfl)
      rw [← hlength, List.length_append, List.length_cons]
      omega
    · exact free t h

/-! ## Lines -/

@[simp] theorem lines_nil : lines [] = [] := rfl

theorem mem_segments_of_mem_lines {t line : Text} (h : line ∈ lines t) : line ∈ segments t := by
  rw [lines] at h
  split at h
  · exact List.dropLast_subset _ h
  · exact h

theorem not_mem_lines {t line : Text} (h : line ∈ lines t) : '\n' ∉ line :=
  not_mem_segments (mem_segments_of_mem_lines h)

/-- A text without a line feed is one line, unless it is empty. -/
theorem lines_of_not_mem {t : Text} (h : '\n' ∉ t) (hne : t ≠ []) : lines t = [t] := by
  rw [lines, segments_of_not_mem h, List.getLast?_singleton, if_neg (by simpa using hne)]

/-- A line feed ends a line; what follows it has the lines of its own, if any. -/
theorem lines_append_lineFeed {s : Text} (t : Text) (h : '\n' ∉ s) :
    lines (s ++ '\n' :: t) = s :: lines t := by
  have hlast : (s :: segments t).getLast? = (segments t).getLast? :=
    List.getLast?_cons_of_ne_nil (segments_ne_nil t)
  rw [lines, segments_append_lineFeed t h, hlast, lines]
  split
  · exact List.dropLast_cons_of_ne_nil (segments_ne_nil t)
  · rfl

theorem lines_eq_nil_iff {t : Text} : lines t = [] ↔ t = [] := by
  refine ⟨fun h => Decidable.byContradiction fun hne => ?_, fun h => h ▸ lines_nil⟩
  by_cases hfeed : '\n' ∈ t
  · obtain ⟨segment, rest, hfree, rfl⟩ := exists_segment hfeed
    rw [lines_append_lineFeed rest hfree] at h
    exact List.cons_ne_nil _ _ h
  · rw [lines_of_not_mem hfeed hne] at h
    exact List.cons_ne_nil _ _ h

/-- A text of one line has its only line feed, if any, at the very end. -/
theorem exists_of_length_lines_eq_one {t : Text} (h : (lines t).length = 1) :
    ∃ line, '\n' ∉ line ∧ (t = line ∨ t = line ++ ['\n']) := by
  by_cases hfeed : '\n' ∈ t
  · obtain ⟨segment, rest, hfree, rfl⟩ := exists_segment hfeed
    rw [lines_append_lineFeed rest hfree, List.length_cons, Nat.add_eq_right,
      List.length_eq_zero_iff, lines_eq_nil_iff] at h
    exact ⟨segment, hfree, .inr (by rw [h])⟩
  · exact ⟨t, hfeed, .inl rfl⟩

/-- The lines of a text are counted by its line feeds, and one more where it does not end in one. -/
theorem length_lines (t : Text) : (lines t).length =
    t.count '\n' + if t.getLast? = none ∨ t.getLast? = some '\n' then 0 else 1 := by
  induction t using segmentInduction with
  | free t h =>
    rw [List.count_eq_zero.2 h]
    by_cases hne : t = []
    · subst hne
      rfl
    · have hlast : ¬(t.getLast? = none ∨ t.getLast? = some '\n') := by
        rintro (hnone | hsome)
        · exact hne (List.getLast?_eq_none_iff.1 hnone)
        · exact h (List.mem_of_getLast? hsome)
      rw [lines_of_not_mem h hne, if_neg hlast]
      rfl
  | feed segment rest h ih =>
    have hcount : (segment ++ '\n' :: rest).count '\n' = rest.count '\n' + 1 := by
      rw [List.count_append, List.count_eq_zero.2 h, List.count_cons_self, Nat.zero_add]
    have hlast : (segment ++ '\n' :: rest).getLast? = some (rest.getLast?.getD '\n') := by
      rw [List.getLast?_append, List.getLast?_cons, Option.some_or]
    rw [lines_append_lineFeed rest h, List.length_cons, ih, hcount, hlast]
    cases rest.getLast? with
    | none => simp
    | some c => simp [Nat.add_right_comm]

/-! ## Joining -/

@[simp] theorem joinLines_singleton (t : Text) : joinLines [t] = t := by
  rw [joinLines, join, List.intercalate_singleton]

theorem joinLines_cons_cons (s t : Text) (rest : List Text) :
    joinLines (s :: t :: rest) = s ++ '\n' :: joinLines (t :: rest) := by
  simp [joinLines, join, List.intercalate, List.intersperse]

theorem joinLines_cons (t : Text) {rest : List Text} (h : rest ≠ []) :
    joinLines (t :: rest) = t ++ '\n' :: joinLines rest := by
  obtain ⟨s, others, rfl⟩ := List.exists_cons_of_ne_nil h
  exact joinLines_cons_cons t s others

theorem joinLines_append {first second : List Text} (h : first ≠ []) (h' : second ≠ []) :
    joinLines (first ++ second) = joinLines first ++ '\n' :: joinLines second := by
  induction first with
  | nil => exact absurd rfl h
  | cons t rest ih =>
    rw [List.cons_append]
    by_cases hrest : rest = []
    · rw [hrest, List.nil_append, joinLines_cons t h', joinLines_singleton]
    · have hmore : rest ++ second ≠ [] := List.append_ne_nil_of_left_ne_nil hrest second
      rw [joinLines_cons t hmore, ih hrest, joinLines_cons t hrest, List.append_assoc,
        List.cons_append]

/-- Texts that are not empty are joined to nothing only if there are none. -/
theorem joinLines_eq_nil_iff {texts : List Text} (h : ∀ t ∈ texts, t ≠ []) :
    joinLines texts = [] ↔ texts = [] := by
  constructor
  · intro hnil
    cases texts with
    | nil => rfl
    | cons t rest =>
      have ht : t ≠ [] := h t List.mem_cons_self
      by_cases hrest : rest = []
      · rw [hrest, joinLines_singleton] at hnil
        exact absurd hnil ht
      · rw [joinLines_cons t hrest] at hnil
        exact absurd (List.append_eq_nil_iff.1 hnil).1 ht
  · rintro rfl
    rfl

/-- Joining in groups is joining all at once, but for the groups that come to nothing. -/
theorem joinLines_flatten {groups : List (List Text)} (h : ∀ group ∈ groups, ∀ t ∈ group, t ≠ []) :
    joinLines groups.flatten = joinLines ((groups.map joinLines).filter fun t => !t.isEmpty) := by
  induction groups with
  | nil => rfl
  | cons group rest ih =>
    obtain ⟨hgroup, hrest⟩ := List.forall_mem_cons.1 h
    have ih := ih hrest
    have hlines : ∀ t ∈ rest.flatten, t ≠ [] := by
      intro t ht
      obtain ⟨other, hother, hmem⟩ := List.mem_flatten.1 ht
      exact hrest other hother t hmem
    have hfilled : ∀ t ∈ (rest.map joinLines).filter (fun t => !t.isEmpty), t ≠ [] := by
      rintro t ht rfl
      exact Bool.noConfusion (List.mem_filter.1 ht).2
    have hboth : rest.flatten = [] ↔ (rest.map joinLines).filter (fun t => !t.isEmpty) = [] := by
      rw [← joinLines_eq_nil_iff hlines, ← joinLines_eq_nil_iff hfilled, ih]
    rw [List.flatten_cons, List.map_cons, List.filter_cons]
    by_cases hnil : group = []
    · rw [hnil, List.nil_append, ih]
      rfl
    · have hfull : joinLines group ≠ [] := mt (joinLines_eq_nil_iff hgroup).1 hnil
      rw [if_pos (by rw [List.isEmpty_eq_false_iff.2 hfull]; rfl)]
      by_cases hflat : rest.flatten = []
      · rw [hflat, hboth.1 hflat, List.append_nil, joinLines_singleton]
      · rw [joinLines_append hnil hflat, ih, joinLines_cons _ (mt hboth.2 hflat)]

/-- Joining lines that are not empty loses none of them. -/
theorem lines_joinLines {texts : List Text} (h : ∀ t ∈ texts, '\n' ∉ t ∧ t ≠ []) :
    lines (joinLines texts) = texts := by
  induction texts with
  | nil => rfl
  | cons t rest ih =>
    obtain ⟨⟨hfree, hne⟩, hrest⟩ := List.forall_mem_cons.1 h
    cases rest with
    | nil => rw [joinLines_singleton, lines_of_not_mem hfree hne]
    | cons s others => rw [joinLines_cons_cons, lines_append_lineFeed _ hfree, ih hrest]

end DocTag.Text
