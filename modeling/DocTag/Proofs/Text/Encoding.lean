import DocTag.Text.Utf8
import Mathlib.Data.List.TakeWhile

/-!
# Reading what was written in UTF-8

A character is written as one byte that starts it and up to three that go on with it. `Spells` says
what a reader needs to know of these bytes: the first one announces how many follow and what the
next one may be, and together they carry the code point. Every character has such a spelling
(`exists_spells`), one lemma for each number of bytes.

Reading then undoes writing at every cut between two characters. The reading lemmas are stated with
arbitrary bytes left over (`decodeFrom_encode_append`), so that a text can be read off the front of
a longer one.
-/

namespace DocTag.Utf8

/-! ## Spellings -/

/-- **The spelling of a character**: the byte that starts it, with what a reader learns from it, and
the bytes that follow. -/
structure Spells (c : Char) (first : UInt8) (lead : Lead) (more : List UInt8) : Prop where
  /-- These are the bytes that are written. -/
  encoded : String.utf8EncodeChar c = first :: more
  /-- The first byte is known to start a character. -/
  known : Lead.ofByte? first = some lead
  /-- As many bytes follow as it announces. -/
  count : more.length = lead.followers
  /-- The next byte lies within the limits that it sets. -/
  opens : ∀ next ∈ more.head?, lead.least ≤ next.toNat ∧ next.toNat ≤ lead.greatest
  /-- The bytes that follow could not start a character. -/
  goesOn : ∀ byte ∈ more, isContinuation byte = true
  /-- Together they carry the code point. -/
  char : lead.char more = c

/-- The byte that carries the low six bits of a number. -/
def follower (n : Nat) : UInt8 := UInt8.ofNat (n % 64 + 0x80)

theorem toNat_byte {n : Nat} (h : n < 256) : (UInt8.ofNat n).toNat = n :=
  UInt8.toNat_ofNat_of_lt' h

theorem toNat_follower (n : Nat) : (follower n).toNat = n % 64 + 0x80 :=
  toNat_byte (by omega)

theorem isContinuation_follower (n : Nat) : isContinuation (follower n) = true := by
  simp only [isContinuation, toNat_follower, Bool.and_eq_true, decide_eq_true_eq]
  omega

theorem spells_one {c : Char} (h : c.toNat < 0x80) : ∃ first lead, Spells c first lead [] := by
  refine ⟨UInt8.ofNat c.toNat, ⟨0, 0x80, 0xBF, c.toNat⟩, ?_, ?_, rfl, by simp, by simp, ?_⟩
  · simp only [String.utf8EncodeChar, Char.toNat_val]
    rw [if_pos (by omega)]
  · simp only [Lead.ofByte?, toNat_byte (show c.toNat < 256 by omega)]
    rw [if_pos h]
  · exact Char.ofNat_toNat c

theorem spells_two {c : Char} (h : 0x80 ≤ c.toNat) (h' : c.toNat < 0x800) :
    ∃ first lead, Spells c first lead [follower c.toNat] := by
  have hfirst : (UInt8.ofNat (c.toNat / 64 % 32 + 0xC0)).toNat = c.toNat / 64 + 0xC0 := by
    rw [toNat_byte (by omega)]; omega
  refine ⟨UInt8.ofNat (c.toNat / 64 % 32 + 0xC0), ⟨1, 0x80, 0xBF, c.toNat / 64⟩,
    ?_, ?_, rfl, ?_, by simp [isContinuation_follower], ?_⟩
  · simp only [String.utf8EncodeChar, Char.toNat_val]
    rw [if_neg (by omega), if_pos (by omega)]
    rfl
  · simp only [Lead.ofByte?, hfirst]
    rw [if_neg (by omega), if_neg (by omega), if_pos (by omega), Nat.add_sub_cancel]
  · simp only [List.head?_cons, Option.mem_some_iff, forall_eq', toNat_follower]
    omega
  · simp only [Lead.char, List.foldl_cons, List.foldl_nil, toNat_follower]
    rw [show c.toNat / 64 * 64 + (c.toNat % 64 + 0x80 - 0x80) = c.toNat by omega,
      Char.ofNat_toNat]

theorem spells_three {c : Char} (h : 0x800 ≤ c.toNat) (h' : c.toNat < 0x10000) :
    ∃ first lead, Spells c first lead [follower (c.toNat / 64), follower c.toNat] := by
  have hfirst : (UInt8.ofNat (c.toNat / 4096 % 16 + 0xE0)).toNat = c.toNat / 4096 + 0xE0 := by
    rw [toNat_byte (by omega)]; omega
  -- Surrogates are no characters, which keeps the second byte after 0xED below its limit.
  have hvalid : c.toNat < 0xD800 ∨ 0xDFFF < c.toNat ∧ c.toNat < 0x110000 := c.valid
  refine ⟨UInt8.ofNat (c.toNat / 4096 % 16 + 0xE0),
    ⟨2, if c.toNat / 4096 = 0 then 0xA0 else 0x80, if c.toNat / 4096 = 13 then 0x9F else 0xBF,
      c.toNat / 4096⟩, ?_, ?_, rfl, ?_, by simp [isContinuation_follower], ?_⟩
  · simp only [String.utf8EncodeChar, Char.toNat_val]
    rw [if_neg (by omega), if_neg (by omega), if_pos (by omega)]
    rfl
  · simp only [Lead.ofByte?, hfirst]
    rw [if_neg (by omega), if_neg (by omega), if_neg (by omega), if_pos (by omega)]
    simp
  · simp only [List.head?_cons, Option.mem_some_iff, forall_eq', toNat_follower]
    constructor <;> split <;> omega
  · simp only [Lead.char, List.foldl_cons, List.foldl_nil, toNat_follower]
    rw [show (c.toNat / 4096 * 64 + (c.toNat / 64 % 64 + 0x80 - 0x80)) * 64 +
      (c.toNat % 64 + 0x80 - 0x80) = c.toNat by omega, Char.ofNat_toNat]

theorem spells_four {c : Char} (h : 0x10000 ≤ c.toNat) :
    ∃ first lead, Spells c first lead
      [follower (c.toNat / 4096), follower (c.toNat / 64), follower c.toNat] := by
  -- Nothing lies beyond U+10FFFF, which keeps the second byte after 0xF4 below its limit.
  have hvalid : c.toNat < 0xD800 ∨ 0xDFFF < c.toNat ∧ c.toNat < 0x110000 := c.valid
  have hfirst : (UInt8.ofNat (c.toNat / 262144 % 8 + 0xF0)).toNat = c.toNat / 262144 + 0xF0 := by
    rw [toNat_byte (by omega)]; omega
  refine ⟨UInt8.ofNat (c.toNat / 262144 % 8 + 0xF0),
    ⟨3, if c.toNat / 262144 = 0 then 0x90 else 0x80, if c.toNat / 262144 = 4 then 0x8F else 0xBF,
      c.toNat / 262144⟩, ?_, ?_, rfl, ?_, by simp [isContinuation_follower], ?_⟩
  · simp only [String.utf8EncodeChar, Char.toNat_val]
    rw [if_neg (by omega), if_neg (by omega), if_neg (by omega)]
    rfl
  · simp only [Lead.ofByte?, hfirst]
    rw [if_neg (by omega), if_neg (by omega), if_neg (by omega), if_neg (by omega),
      if_pos (by omega)]
    simp
  · simp only [List.head?_cons, Option.mem_some_iff, forall_eq', toNat_follower]
    constructor <;> split <;> omega
  · simp only [Lead.char, List.foldl_cons, List.foldl_nil, toNat_follower]
    rw [show ((c.toNat / 262144 * 64 + (c.toNat / 4096 % 64 + 0x80 - 0x80)) * 64 +
      (c.toNat / 64 % 64 + 0x80 - 0x80)) * 64 + (c.toNat % 64 + 0x80 - 0x80) = c.toNat by omega,
      Char.ofNat_toNat]

theorem exists_spells (c : Char) : ∃ first lead more, Spells c first lead more := by
  rcases Nat.lt_or_ge c.toNat 0x80 with h1 | h1
  · obtain ⟨first, lead, h⟩ := spells_one h1
    exact ⟨first, lead, _, h⟩
  rcases Nat.lt_or_ge c.toNat 0x800 with h2 | h2
  · obtain ⟨first, lead, h⟩ := spells_two h1 h2
    exact ⟨first, lead, _, h⟩
  rcases Nat.lt_or_ge c.toNat 0x10000 with h3 | h3
  · obtain ⟨first, lead, h⟩ := spells_three h2 h3
    exact ⟨first, lead, _, h⟩
  · obtain ⟨first, lead, h⟩ := spells_four h3
    exact ⟨first, lead, _, h⟩

/-! ## Reading a spelling -/

/-- A reader takes every byte that it sees of the spelling it has started to read, also when the
bytes break off before the spelling is complete. -/
theorem Spells.taken {c : Char} {first : UInt8} {lead : Lead} {more bytes : List UInt8}
    (h : Spells c first lead more) (seen : bytes.take lead.followers <+: more) :
    lead.taken bytes = bytes.take lead.followers := by
  unfold Lead.taken
  cases hb : bytes.take lead.followers with
  | nil => rfl
  | cons next others =>
    rw [hb] at seen
    obtain ⟨unseen, hmore⟩ := seen
    have hopens := h.opens next (by simp [← hmore])
    have hothers : ∀ byte ∈ others, isContinuation byte = true := by
      intro byte hbyte
      exact h.goesOn byte (by simp [← hmore, hbyte])
    simp only [if_pos hopens, List.takeWhile_eq_self_iff.2 hothers]

/-- Reading starts with the character that was written first, whatever bytes come after it. -/
theorem decodeFrom_encodeChar_append (c : Char) (position : Nat) (rest : List UInt8) :
    decodeFrom position (String.utf8EncodeChar c ++ rest) =
      (decodeFrom (position + c.utf8Size) rest).map (c :: ·) := by
  obtain ⟨first, lead, more, h⟩ := exists_spells c
  have hsize : c.utf8Size = 1 + lead.followers := by
    rw [← String.length_utf8EncodeChar, h.encoded, List.length_cons, h.count, Nat.add_comm]
  have htake : (more ++ rest).take lead.followers = more := by
    rw [← h.count, List.take_left]
  have hdrop : (more ++ rest).drop lead.followers = rest := by
    rw [← h.count, List.drop_left]
  have hseen : (more ++ rest).take lead.followers <+: more :=
    htake.symm ▸ List.prefix_rfl
  have htaken : lead.taken (more ++ rest) = more := by
    rw [h.taken hseen, htake]
  rw [h.encoded, List.cons_append, decodeFrom, h.known]
  simp only [htaken, h.count, hdrop, h.char, hsize, if_true, Nat.add_assoc]

/-! ## Reading a text -/

@[simp] theorem encode_cons (c : Char) (t : Text) :
    encode (c :: t) = String.utf8EncodeChar c ++ encode t := rfl

@[simp] theorem encode_append (s t : Text) : encode (s ++ t) = encode s ++ encode t :=
  List.flatMap_append

/-- Reading starts with the text that was written first, whatever bytes come after it. -/
theorem decodeFrom_encode_append (t : Text) (position : Nat) (rest : List UInt8) :
    decodeFrom position (encode t ++ rest) =
      (decodeFrom (position + Text.byteLength t) rest).map (t ++ ·) := by
  induction t generalizing position with
  | nil =>
    show decodeFrom position rest = (decodeFrom position rest).map id
    cases decodeFrom position rest <;> rfl
  | cons c t ih =>
    rw [encode_cons, List.append_assoc, decodeFrom_encodeChar_append, ih, Text.byteLength,
      Nat.add_assoc]
    cases decodeFrom (position + (c.utf8Size + Text.byteLength t)) rest <;> rfl

/-- **Reading undoes writing.** -/
@[simp] theorem decode_encode (t : Text) : decode (encode t) = .ok t := by
  have h := decodeFrom_encode_append t 0 []
  rw [List.append_nil] at h
  rw [decode, h, decodeFrom]
  exact congrArg Except.ok (List.append_nil t)

/-- The bytes between two boundaries are those of the text there. -/
theorem drop_take_encode (before t after : Text) :
    ((encode (before ++ t ++ after)).take (Text.byteLength (before ++ t))).drop
      (Text.byteLength before) = encode t := by
  rw [encode_append (before ++ t), ← Text.length_encode (before ++ t), List.take_left,
    encode_append, ← Text.length_encode before, List.drop_left]

end DocTag.Utf8
