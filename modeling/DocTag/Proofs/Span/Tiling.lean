import DocTag.Proofs.Span.Reading

/-!
# Tilings

A text that is put together from pieces can be tiled: each piece gets the span that starts where the
one before it stops. A tiling is made in one pass that only carries an offset along (`tiling`), and
every tile is the span laid over its piece behind all pieces before it (`getElem?_tiling`).

Nothing is lost and nothing is read twice (`tiling_reads_pieces`): each tile reads its piece back,
neighbours meet, the last tile ends with the text, and any run of tiles reads the run of pieces.
-/

namespace DocTag.Span

/-- The spans of texts that stand one after another, the first of them at an offset. -/
def tiling (start : Int) : List Text → List Span
  | [] => []
  | piece :: rest => covering piece start :: tiling (covering piece start).stop rest

@[simp] theorem length_tiling (start : Int) (pieces : List Text) :
    (tiling start pieces).length = pieces.length := by
  induction pieces generalizing start with
  | nil => rfl
  | cons piece rest ih => rw [tiling, List.length_cons, ih, List.length_cons]

/-- A tile is the span laid over its piece, behind the pieces before it. -/
theorem getElem?_tiling (start : Int) (pieces : List Text) (i : Nat) :
    (tiling start pieces)[i]? = pieces[i]?.map fun piece =>
      covering piece (start + Text.byteLength (pieces.take i).flatten) := by
  induction pieces generalizing start i with
  | nil => rfl
  | cons piece rest ih =>
    cases i with
    | zero => simp [tiling, Text.byteLength]
    | succ i =>
      rw [tiling, List.getElem?_cons_succ, List.getElem?_cons_succ, ih, List.take_succ_cons,
        List.flatten_cons, Text.byteLength_append, covering, Int.natCast_add, Int.add_assoc]

theorem eq_covering_of_tile {pieces : List Text} {i : Nat} {s : Span}
    (h : (tiling 0 pieces)[i]? = some s) :
    ∃ piece, pieces[i]? = some piece ∧
      s = covering piece (Text.byteLength (pieces.take i).flatten) := by
  rw [getElem?_tiling, Option.map_eq_some_iff] at h
  obtain ⟨piece, hpiece, rfl⟩ := h
  exact ⟨piece, hpiece, by rw [Int.zero_add]⟩

/-- A tile stops where the pieces up to its own do. -/
theorem stop_of_tile {pieces : List Text} {i : Nat} {s : Span}
    (h : (tiling 0 pieces)[i]? = some s) :
    s.stop = Text.byteLength (pieces.take (i + 1)).flatten := by
  obtain ⟨piece, hpiece, rfl⟩ := eq_covering_of_tile h
  rw [List.take_add_one, hpiece, List.flatten_append, Text.byteLength_append]
  simp [covering]

theorem flatten_take (pieces : List Text) {i j : Nat} (h : i ≤ j) :
    (pieces.take j).flatten = (pieces.take i).flatten ++ ((pieces.take j).drop i).flatten := by
  have htake : pieces.take i = (pieces.take j).take i := by
    rw [List.take_take, Nat.min_eq_left h]
  rw [htake, ← List.flatten_append, List.take_append_drop]

/-- From the start of one tile to the stop of the same or a later one stand the pieces of these
tiles. -/
theorem sourceText_tiles {pieces : List Text} {i j : Nat} {first last : Span} (h : i ≤ j)
    (hfirst : (tiling 0 pieces)[i]? = some first) (hlast : (tiling 0 pieces)[j]? = some last) :
    (Span.mk first.start last.stop).sourceText pieces.flatten =
      .ok ((pieces.take (j + 1)).drop i).flatten := by
  obtain ⟨piece, -, rfl⟩ := eq_covering_of_tile hfirst
  have htake := flatten_take pieces (show i ≤ j + 1 by omega)
  have hsource : pieces.flatten = (pieces.take i).flatten ++
      ((pieces.take (j + 1)).drop i).flatten ++ (pieces.drop (j + 1)).flatten := by
    rw [← htake, ← List.flatten_append, List.take_append_drop]
  have hspan : Span.mk (Text.byteLength (pieces.take i).flatten) last.stop =
      covering ((pieces.take (j + 1)).drop i).flatten
        (Text.byteLength (pieces.take i).flatten) := by
    rw [stop_of_tile hlast, htake, Text.byteLength_append, Int.natCast_add, covering]
  rw [hsource, covering, hspan]
  exact sourceText_covering _ _ _

/-- **A tiling reads the pieces back.** For texts that stand one after another: the tiles are the
spans laid over the pieces, one for each; each reads its own piece and has its size; neighbours
meet, and the last tile ends with the text; and any run of tiles reads the run of their pieces. -/
theorem tiling_reads_pieces (pieces : List Text) :
    let source := pieces.flatten
    let tiles := tiling 0 pieces
    tiles.length = pieces.length ∧
      (∀ i piece, pieces[i]? = some piece → ∃ s, tiles[i]? = some s ∧
        s = covering piece (Text.byteLength (pieces.take i).flatten) ∧
        s.sourceText source = .ok piece ∧ s.size = Text.byteLength piece) ∧
      (∀ i s next, tiles[i]? = some s → tiles[i + 1]? = some next → s.stop = next.start) ∧
      (∀ last, tiles.getLast? = some last → last.stop = Text.byteLength source) ∧
      ∀ i j first last, i ≤ j → tiles[i]? = some first → tiles[j]? = some last →
        (Span.mk first.start last.stop).sourceText source =
          .ok ((pieces.take (j + 1)).drop i).flatten := by
  intro source tiles
  refine ⟨length_tiling 0 pieces, ?_, ?_, ?_, ?_⟩
  · intro i piece hpiece
    have htile : tiles[i]? = some (covering piece (Text.byteLength (pieces.take i).flatten)) := by
      rw [getElem?_tiling, hpiece, Option.map_some, Int.zero_add]
    refine ⟨_, htile, rfl, ?_, size_covering _ _⟩
    have hread := sourceText_tiles (Nat.le_refl i) htile htile
    have hlen : (pieces.take i).length = i :=
      List.length_take_of_le (Nat.le_of_lt (List.getElem?_eq_some_iff.1 hpiece).1)
    rw [List.take_add_one, hpiece, List.drop_left' hlen, Option.toList_some,
      List.flatten_singleton] at hread
    exact hread
  · intro i s next hs hnext
    obtain ⟨piece, -, rfl⟩ := eq_covering_of_tile hnext
    exact stop_of_tile hs
  · intro last hlast
    rw [List.getLast?_eq_getElem?, length_tiling] at hlast
    rw [stop_of_tile hlast, List.take_of_length_le (by omega)]
  · intro i j first last hij hfirst hlast
    exact sourceText_tiles hij hfirst hlast

example : tiling 0 ["@é".toList, " ".toList, "한x".toList] = [⟨0, 3⟩, ⟨3, 4⟩, ⟨4, 8⟩] := by decide

end DocTag.Span
