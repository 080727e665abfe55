import DocTag.Proofs.Text.Encoding

/-!
# Boundaries between characters

A place in a text, counted in bytes, either is a boundary, between two characters or at an end of
the text (`Text.IsBoundary`), or lies inside one character (`Text.Splits`). It is one of the two and
not both (`Text.not_isBoundary_iff`), because of two texts that a text starts with, the one of fewer
bytes starts the other.

A reader that meets part of a character says so. Bytes from inside a character start with one that
starts none (`Utf8.decodeFrom_of_isContinuation`), and bytes that break off inside a character leave
its first byte unread (`Utf8.decodeFrom_of_spells`).
-/

namespace DocTag

namespace Text

/-! ## Places in a text -/

/-- An offset stands between two characters of a text, or at one of its ends. -/
def IsBoundary (t : Text) (n : Nat) : Prop :=
  ∃ before after, t = before ++ after ∧ byteLength before = n

/-- **An offset lies inside a character** of a text, with these characters before and after it. -/
structure Splits (t : Text) (n : Nat) (before : Text) (c : Char) (after : Text) : Prop where
  text : t = before ++ c :: after
  starts : byteLength before < n
  stops : n < byteLength before + c.utf8Size

theorem byteLength_cons (c : Char) (t : Text) : byteLength (c :: t) = c.utf8Size + byteLength t :=
  rfl

theorem byteLength_eq_zero_iff {t : Text} : byteLength t = 0 ↔ t = [] := by
  constructor
  · intro h
    cases t with
    | nil => rfl
    | cons c rest =>
      have hsize : 0 < c.utf8Size := c.utf8Size_pos
      rw [byteLength_cons] at h
      omega
  · rintro rfl
    rfl

/-- Of two texts that a text starts with, the one of fewer bytes starts the other. -/
theorem exists_append_of_byteLength_le {s t s' t' : Text} (h : s ++ s' = t ++ t')
    (hle : byteLength s ≤ byteLength t) : ∃ middle, t = s ++ middle ∧ s' = middle ++ t' := by
  rcases List.append_eq_append_iff.1 h with ⟨middle, ht, hs'⟩ | ⟨middle, hs, ht'⟩
  · exact ⟨middle, ht, hs'⟩
  · have hmiddle : middle = [] := by
      rw [hs, byteLength_append] at hle
      exact byteLength_eq_zero_iff.1 (by omega)
    subst hmiddle
    exact ⟨[], by rw [hs, List.append_nil, List.append_nil], by rw [ht']; rfl⟩

/-- A boundary does not lie inside a character: what comes before it ends with the characters before
that one, or goes on behind it. -/
theorem IsBoundary.le_or_le {t before after : Text} {c : Char} {n : Nat} (h : IsBoundary t n)
    (ht : t = before ++ c :: after) :
    n ≤ byteLength before ∨ byteLength before + c.utf8Size ≤ n := by
  obtain ⟨first, last, hparts, rfl⟩ := h
  rcases Nat.le_total (byteLength first) (byteLength before) with hle | hle
  · exact .inl hle
  · obtain ⟨middle, hfirst, hlast⟩ := exists_append_of_byteLength_le (ht.symm.trans hparts) hle
    cases middle with
    | nil => exact .inl (by rw [hfirst, List.append_nil])
    | cons d rest =>
      obtain ⟨rfl, -⟩ := List.cons.inj hlast
      refine .inr ?_
      rw [hfirst, byteLength_append, byteLength_cons]
      omega

/-- Every place in a text is a boundary or lies inside a character. -/
theorem isBoundary_or_splits {t : Text} {n : Nat} (h : n ≤ byteLength t) :
    IsBoundary t n ∨ ∃ before c after, Splits t n before c after := by
  induction t generalizing n with
  | nil => exact .inl ⟨[], [], rfl, (Nat.le_zero.1 h).symm⟩
  | cons c rest ih =>
    rw [byteLength_cons] at h
    rcases Nat.lt_or_ge n c.utf8Size with hinside | hbehind
    · cases n with
      | zero => exact .inl ⟨[], c :: rest, rfl, rfl⟩
      | succ n => exact .inr ⟨[], c, rest, rfl, Nat.succ_pos n, by simpa [byteLength] using hinside⟩
    · rcases ih (n := n - c.utf8Size) (by omega) with hbound | ⟨before, d, after, hsplit⟩
      · obtain ⟨before, after, rfl, hn⟩ := hbound
        refine .inl ⟨c :: before, after, rfl, ?_⟩
        rw [byteLength_cons]
        omega
      · obtain ⟨rfl, hstarts, hstops⟩ := hsplit
        refine .inr ⟨c :: before, d, after, rfl, ?_, ?_⟩ <;> rw [byteLength_cons] <;> omega

/-- **A place in a text is no boundary exactly when it lies inside a character.** -/
theorem not_isBoundary_iff {t : Text} {n : Nat} (h : n ≤ byteLength t) :
    ¬IsBoundary t n ↔ ∃ before c after, Splits t n before c after := by
  constructor
  · intro hbound
    exact (isBoundary_or_splits h).resolve_left hbound
  · rintro ⟨before, c, after, ht, hstarts, hstops⟩ hbound
    rcases hbound.le_or_le ht with hle | hle <;> omega

end Text

namespace Utf8

/-! ## Reading part of a character -/

/-- A byte that goes on with a character starts none. -/
theorem ofByte?_of_isContinuation {byte : UInt8} (h : isContinuation byte = true) :
    Lead.ofByte? byte = none := by
  simp only [isContinuation, Bool.and_eq_true, decide_eq_true_eq] at h
  simp only [Lead.ofByte?]
  rw [if_neg (by omega), if_pos (by omega)]

/-- The bytes of a text, with those of one of its characters spelled out. -/
theorem exists_spells_of_append {t before after : Text} {c : Char} (h : t = before ++ c :: after) :
    ∃ first lead more, Spells c first lead more ∧ more.length + 1 = c.utf8Size ∧
      encode t = encode before ++ first :: (more ++ encode after) := by
  obtain ⟨first, lead, more, hspells⟩ := exists_spells c
  refine ⟨first, lead, more, hspells, ?_, ?_⟩
  · rw [← List.length_cons, ← hspells.encoded, String.length_utf8EncodeChar]
  · rw [h, encode_append, encode_cons, hspells.encoded, List.cons_append]

theorem decodeFrom_of_isContinuation {byte : UInt8} (position : Nat) (rest : List UInt8)
    (h : isContinuation byte = true) :
    decodeFrom position (byte :: rest) = .error ⟨position, byte, [], .invalidStart⟩ := by
  rw [decodeFrom, ofByte?_of_isContinuation h]

/-- Where the bytes break off inside a character, reading stops at its first byte. -/
theorem decodeFrom_of_spells {c : Char} {first : UInt8} {lead : Lead} {more : List UInt8}
    (h : Spells c first lead more) (position : Nat) {seen : Nat} (hseen : seen < more.length) :
    decodeFrom position (first :: more.take seen) =
      .error ⟨position, first, more.take seen, .unexpectedEnd⟩ := by
  have hlength : (more.take seen).length = seen := List.length_take_of_le (Nat.le_of_lt hseen)
  have hall : (more.take seen).take lead.followers = more.take seen := by
    rw [List.take_take, ← h.count, Nat.min_eq_right (Nat.le_of_lt hseen)]
  have htaken : lead.taken (more.take seen) = more.take seen := by
    have hprefix : (more.take seen).take lead.followers <+: more := by
      rw [hall]
      exact List.take_prefix seen more
    rw [h.taken hprefix, hall]
  have hshort : ¬(more.take seen).length = lead.followers := by
    rw [hlength, ← h.count]
    exact Nat.ne_of_lt hseen
  rw [decodeFrom, h.known]
  simp only [htaken]
  rw [if_neg hshort, if_pos trivial]

/-! ## Messages -/

/-- The message about one byte at a position. -/
def aloneText (byte : UInt8) (position : Nat) (why : Text) : Text :=
  "'utf-8' codec can't decode ".toList ++ "byte 0x".toList ++ Text.hex 2 byte.toNat ++
    " in position ".toList ++ Text.ofNat position ++ ": ".toList ++ why

/-- The message about the bytes from one position to another. -/
def rangeText (first last : Nat) (why : Text) : Text :=
  "'utf-8' codec can't decode ".toList ++ "bytes in position ".toList ++ Text.ofNat first ++
    "-".toList ++ Text.ofNat last ++ ": ".toList ++ why

theorem message_alone (position : Nat) (byte : UInt8) (fault : Fault) :
    (DecodeError.mk position byte [] fault).message = aloneText byte position fault.text := by
  unfold DecodeError.message aloneText
  rw [if_pos (Eq.refl _)]
  simp only [List.append_assoc]

theorem message_range (position : Nat) (byte : UInt8) {more : List UInt8} (h : more ≠ [])
    (fault : Fault) : (DecodeError.mk position byte more fault).message =
      rangeText position (position + more.length) fault.text := by
  unfold DecodeError.message rangeText
  rw [if_neg h]
  simp only [List.append_assoc]

end Utf8

end DocTag
