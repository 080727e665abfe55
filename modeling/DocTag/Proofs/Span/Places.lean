import DocTag.Proofs.Span.Reading
import DocTag.Proofs.Text.Boundary

/-!
# The places of a span

A span starts and stops at places of its source: a negative offset counts back from the end, and one
that lies outside is moved to the nearest end (`place_eq`). What the span reads is decided by these
two places alone. At two boundaries it reads the text between them (`sourceText_of_append`), and if
it stops no further than it starts it reads nothing (`sourceText_of_le`). Otherwise it fails: where
it starts inside a character, at its first byte (`sourceText_of_start_splits`), and where it stops
inside one, at the first byte of that character (`sourceText_of_stop_splits`).
-/

namespace DocTag

namespace Span

/-! ## What a span reads -/

/-- The place in a source where a span starts. -/
def startIn (s : Span) (source : Text) : Nat := place (Text.byteLength source) s.start

/-- The place in a source where a span stops. -/
def stopIn (s : Span) (source : Text) : Nat := place (Text.byteLength source) s.stop

theorem place_le (length : Nat) (offset : Int) : place length offset ≤ length := by
  rw [place]
  split <;> omega

theorem place_eq (length : Nat) (offset : Int) :
    (place length offset : Int) =
      max 0 (min (length : Int) (if offset < 0 then offset + length else offset)) := by
  rw [place]
  split <;> omega

theorem sourceText_eq (s : Span) (source : Text) :
    s.sourceText source =
      Utf8.decode (((Utf8.encode source).take (s.stopIn source)).drop (s.startIn source)) := by
  rw [sourceText, slice, Text.length_encode]
  rfl

variable {s : Span} {source : Text}

/-- A span that stops where it starts, or before, reads nothing. -/
theorem sourceText_of_le (h : s.stopIn source ≤ s.startIn source) :
    s.sourceText source = .ok [] := by
  rw [sourceText_eq, List.drop_eq_nil_of_le (Nat.le_trans (List.length_take_le ..) h)]
  exact Utf8.decode_encode []

theorem sourceText_of_append {before t after : Text} (hsource : source = before ++ t ++ after)
    (hstart : Text.byteLength before = s.startIn source)
    (hstop : Text.byteLength (before ++ t) = s.stopIn source) : s.sourceText source = .ok t := by
  rw [sourceText_eq, ← hstart, ← hstop, hsource, Utf8.drop_take_encode, Utf8.decode_encode]

/-- Between two boundaries stands a text. -/
theorem exists_between (hle : s.startIn source ≤ s.stopIn source)
    (hstart : source.IsBoundary (s.startIn source)) (hstop : source.IsBoundary (s.stopIn source)) :
    ∃ before t after, source = before ++ t ++ after ∧
      Text.byteLength before = s.startIn source ∧
      Text.byteLength (before ++ t) = s.stopIn source := by
  obtain ⟨before, rest, hsource, hbefore⟩ := hstart
  obtain ⟨upto, after, hsource', hupto⟩ := hstop
  obtain ⟨t, rfl, -⟩ :=
    Text.exists_append_of_byteLength_le (hsource.symm.trans hsource') (by omega)
  exact ⟨before, t, after, hsource', hbefore, hupto⟩

/-- A span that starts inside a character stops at the first byte, which starts no character. -/
theorem sourceText_of_start_splits {before after : Text} {c : Char}
    (hlt : s.startIn source < s.stopIn source)
    (hsplit : source.Splits (s.startIn source) before c after) :
    ∃ byte, (Utf8.encode source)[s.startIn source]? = some byte ∧
      s.sourceText source = .error ⟨0, byte, [], .invalidStart⟩ := by
  obtain ⟨hsource, hstarts, hstops⟩ := hsplit
  obtain ⟨first, lead, more, hspells, hsize, hencode⟩ := Utf8.exists_spells_of_append hsource
  -- The place is that of one of the bytes after the first one of the character.
  obtain ⟨k, hk⟩ : ∃ k, s.startIn source = Text.byteLength before + (k + 1) :=
    ⟨s.startIn source - Text.byteLength before - 1, by omega⟩
  have hkmore : k < more.length := by omega
  have hbytes : (Utf8.encode source)[s.startIn source]? = some more[k] := by
    rw [hencode, hk, ← Text.length_encode, List.getElem?_append_right (Nat.le_add_right ..),
      Nat.add_sub_cancel_left, List.getElem?_cons_succ, List.getElem?_append_left hkmore,
      List.getElem?_eq_getElem hkmore]
  have hcont : Utf8.isContinuation more[k] = true := hspells.goesOn _ (List.getElem_mem hkmore)
  have hhead : (((Utf8.encode source).take (s.stopIn source)).drop (s.startIn source))[0]? =
      some more[k] := by
    rw [List.getElem?_drop, Nat.add_zero, List.getElem?_take_of_lt hlt, hbytes]
  refine ⟨more[k], hbytes, ?_⟩
  rw [sourceText_eq]
  cases hslice : ((Utf8.encode source).take (s.stopIn source)).drop (s.startIn source) with
  | nil =>
    rw [hslice] at hhead
    exact absurd hhead (by simp)
  | cons byte rest =>
    rw [hslice, List.getElem?_cons_zero, Option.some.injEq] at hhead
    subst hhead
    exact Utf8.decodeFrom_of_isContinuation 0 rest hcont

/-- A span that stops inside a character, and starts at a boundary, stops at that character's first
byte, with the bytes that the span has of it. -/
theorem sourceText_of_stop_splits {before after : Text} {c : Char}
    (hlt : s.startIn source < s.stopIn source) (hstart : source.IsBoundary (s.startIn source))
    (hsplit : source.Splits (s.stopIn source) before c after) :
    s.startIn source ≤ Text.byteLength before ∧
      ∃ first more, first :: more =
          (String.utf8EncodeChar c).take (s.stopIn source - Text.byteLength before) ∧
        s.sourceText source =
          .error ⟨Text.byteLength before - s.startIn source, first, more, .unexpectedEnd⟩ := by
  obtain ⟨hsource, hstarts, hstops⟩ := hsplit
  obtain ⟨first, lead, more, hspells, hsize, hencode⟩ := Utf8.exists_spells_of_append hsource
  have hle : s.startIn source ≤ Text.byteLength before := by
    rcases hstart.le_or_le hsource with h | h <;> omega
  refine ⟨hle, ?_⟩
  obtain ⟨front, rest, hparts, hfront⟩ := hstart
  obtain ⟨t, rfl, -⟩ :=
    Text.exists_append_of_byteLength_le (hparts.symm.trans hsource) (by omega)
  -- The span has the text up to the character, and then some of its bytes.
  obtain ⟨seen, hstop⟩ :
      ∃ seen, s.stopIn source = Text.byteLength (front ++ t) + (seen + 1) :=
    ⟨s.stopIn source - Text.byteLength (front ++ t) - 1, by omega⟩
  have hseen : seen < more.length := by omega
  refine ⟨first, more.take seen, ?_, ?_⟩
  · rw [hstop, Nat.add_sub_cancel_left, hspells.encoded, List.take_succ_cons]
  have hslice : ((Utf8.encode source).take (s.stopIn source)).drop (s.startIn source) =
      Utf8.encode t ++ first :: more.take seen := by
    rw [hencode, hstop, ← Text.length_encode, List.take_length_add_append, List.take_succ_cons,
      List.take_append_of_le_length (Nat.le_of_lt hseen), Utf8.encode_append, List.append_assoc,
      ← hfront, ← Text.length_encode, List.drop_left]
  have hposition : Text.byteLength (front ++ t) - s.startIn source = Text.byteLength t := by
    rw [Text.byteLength_append, hfront, Nat.add_sub_cancel_left]
  rw [sourceText_eq, hslice, Utf8.decode, Utf8.decodeFrom_encode_append, Nat.zero_add,
    Utf8.decodeFrom_of_spells hspells _ hseen, hposition]
  rfl

/-- **What a span reads in a source**, by the places where it starts and stops. -/
structure ReadsPlaces (s : Span) (source : Text) : Prop where
  /-- A negative offset counts from the end, and no place lies outside the source. -/
  startIn_eq : (s.startIn source : Int) = max 0 (min (Text.byteLength source : Int)
    (if s.start < 0 then s.start + Text.byteLength source else s.start))
  stopIn_eq : (s.stopIn source : Int) = max 0 (min (Text.byteLength source : Int)
    (if s.stop < 0 then s.stop + Text.byteLength source else s.stop))
  /-- A place is a boundary, or it lies inside a character. -/
  inside : ∀ n ≤ Text.byteLength source,
    ¬source.IsBoundary n ↔ ∃ before c after, source.Splits n before c after
  succeeds : (∃ t, s.sourceText source = .ok t) ↔ s.stopIn source ≤ s.startIn source ∨
    source.IsBoundary (s.startIn source) ∧ source.IsBoundary (s.stopIn source)
  reversed : s.stopIn source ≤ s.startIn source → s.sourceText source = .ok []
  between : ∀ before t after, source = before ++ t ++ after →
    Text.byteLength before = s.startIn source → Text.byteLength (before ++ t) = s.stopIn source →
      s.sourceText source = .ok t
  /-- From inside a character nothing can be read: the first byte there starts no character. -/
  startsInside : s.startIn source < s.stopIn source →
    ∀ before c after, source.Splits (s.startIn source) before c after →
      ∃ byte e, (Utf8.encode source)[s.startIn source]? = some byte ∧
        s.sourceText source = .error e ∧ e = ⟨0, byte, [], .invalidStart⟩ ∧
        e.message = Utf8.aloneText byte 0 "invalid start byte".toList
  /-- Up to inside a character, the bytes break off after some of those of that character. -/
  stopsInside : s.startIn source < s.stopIn source → source.IsBoundary (s.startIn source) →
    ∀ before c after, source.Splits (s.stopIn source) before c after →
      ∃ position seen byte more e,
        s.startIn source + position = Text.byteLength before ∧
        Text.byteLength before + seen = s.stopIn source ∧ (seen = 1 ∨ seen = 2 ∨ seen = 3) ∧
        (String.utf8EncodeChar c).take seen = byte :: more ∧
        s.sourceText source = .error e ∧ e = ⟨position, byte, more, .unexpectedEnd⟩ ∧
        e.message =
          if seen = 1 then Utf8.aloneText byte position "unexpected end of data".toList
          else Utf8.rangeText position (position + seen - 1) "unexpected end of data".toList

/-- A span reads a text exactly when it stops no further than it starts, or both its places are
boundaries. -/
theorem exists_sourceText_iff : (∃ t, s.sourceText source = .ok t) ↔
    s.stopIn source ≤ s.startIn source ∨
      source.IsBoundary (s.startIn source) ∧ source.IsBoundary (s.stopIn source) := by
  constructor
  · rintro ⟨t, hread⟩
    rcases Nat.lt_or_ge (s.startIn source) (s.stopIn source) with hlt | hle
    · refine .inr ?_
      rcases Text.isBoundary_or_splits (place_le _ s.start) with hstart | ⟨before, c, after, hsplit⟩
      · rcases Text.isBoundary_or_splits (place_le _ s.stop) with hstop | ⟨before, c, after, hsplit⟩
        · exact ⟨hstart, hstop⟩
        · obtain ⟨-, first, more, -, herror⟩ := sourceText_of_stop_splits hlt hstart hsplit
          rw [hread] at herror
          exact absurd herror (by simp)
      · obtain ⟨byte, -, herror⟩ := sourceText_of_start_splits hlt hsplit
        rw [hread] at herror
        exact absurd herror (by simp)
    · exact .inl hle
  · rintro (hle | ⟨hstart, hstop⟩)
    · exact ⟨[], sourceText_of_le hle⟩
    · rcases Nat.le_total (s.startIn source) (s.stopIn source) with hle | hle
      · obtain ⟨before, t, after, hsource, hbefore, hupto⟩ := exists_between hle hstart hstop
        exact ⟨t, sourceText_of_append hsource hbefore hupto⟩
      · exact ⟨[], sourceText_of_le hle⟩

/-- **What a span reads is decided by its two places**, for every span and every source: the text
between two boundaries, nothing where the places are not in order, and an error that names the
bytes where one of them lies inside a character. -/
theorem sourceText_reads_places (s : Span) (source : Text) : ReadsPlaces s source := by
  constructor
  case startIn_eq => exact place_eq _ _
  case stopIn_eq => exact place_eq _ _
  case inside =>
    intro n hn
    exact Text.not_isBoundary_iff hn
  case succeeds => exact exists_sourceText_iff
  case reversed => exact sourceText_of_le
  case between =>
    intro before t after hsource hstart hstop
    exact sourceText_of_append hsource hstart hstop
  case startsInside =>
    intro hlt before c after hsplit
    obtain ⟨byte, hbyte, herror⟩ := sourceText_of_start_splits hlt hsplit
    exact ⟨byte, _, hbyte, herror, rfl, Utf8.message_alone 0 byte .invalidStart⟩
  case stopsInside =>
    intro hlt hstart before c after hsplit
    obtain ⟨hle, byte, more, hbytes, herror⟩ := sourceText_of_stop_splits hlt hstart hsplit
    obtain ⟨-, hstarts, hstops⟩ := hsplit
    have hsize : c.utf8Size ≤ 4 := c.utf8Size_le_four
    have hlength := congrArg List.length hbytes
    rw [List.length_cons, List.length_take_of_le
      (by rw [String.length_utf8EncodeChar]; omega)] at hlength
    refine ⟨Text.byteLength before - s.startIn source, s.stopIn source - Text.byteLength before,
      byte, more, _, by omega, by omega, by omega, hbytes.symm, herror, rfl, ?_⟩
    split
    · next hone =>
      rw [List.length_eq_zero_iff.1 (show more.length = 0 by omega)]
      exact Utf8.message_alone _ byte .unexpectedEnd
    · next hmany =>
      have hmore : more ≠ [] := by
        rintro rfl
        exact hmany hlength.symm
      rw [Utf8.message_range _ byte hmore .unexpectedEnd]
      congr 1
      omega

example : (Span.mk 1 (-1)).sourceText "aé語".toList =
    .error ⟨2, 0xE8, [0xAA], .unexpectedEnd⟩ := by cbv

end Span

end DocTag
