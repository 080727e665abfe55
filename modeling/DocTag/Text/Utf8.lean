import DocTag.Text.Digits

/-!
# UTF-8

A text is stored as the UTF-8 encodings of its characters, one after the other, and byte offsets
count into that sequence. Reading goes the other way and is strict: it stops at the first byte that
no well-formed sequence can have at its place, and reports where that is and why.

The main statement here says that the number of bytes of a text is the length of its encoding, so it
adds up over concatenation.
-/

namespace DocTag

namespace Utf8

def encode (t : Text) : List UInt8 := t.flatMap String.utf8EncodeChar

/-! ## Reading -/

/-- Why a byte sequence cannot be read on. -/
inductive Fault
  /-- No character starts with the byte. -/
  | invalidStart
  /-- A character has started, and the next byte cannot go on with it. -/
  | invalidContinuation
  /-- A character has started, and the bytes are used up before it is complete. -/
  | unexpectedEnd
  deriving DecidableEq, Repr

/-- The place where reading stops: the offset, and the bytes there that belong to no character. -/
structure DecodeError where
  /-- Offset of the first byte that could not be read. -/
  position : Nat
  /-- That byte. -/
  first : UInt8
  /-- The bytes after it that could have been part of the same character. -/
  more : List UInt8
  /-- What is wrong there. -/
  fault : Fault
  deriving DecidableEq, Repr

/-- What a byte that starts a character says of the bytes after it. -/
structure Lead where
  /-- How many bytes follow. -/
  followers : Nat
  /-- The least byte that may come next. -/
  least : Nat
  /-- The greatest byte that may come next. -/
  greatest : Nat
  /-- The leading bits of the code point. -/
  bits : Nat
  deriving DecidableEq, Repr

/-- Reads a starting byte. The limits on the second byte leave out the sequences that are longer
than needed, the surrogates, and all code points beyond U+10FFFF. -/
def Lead.ofByte? (byte : UInt8) : Option Lead :=
  let n := byte.toNat
  if n < 0x80 then some ⟨0, 0x80, 0xBF, n⟩
  else if n < 0xC2 then none
  else if n < 0xE0 then some ⟨1, 0x80, 0xBF, n - 0xC0⟩
  else if n < 0xF0 then
    some ⟨2, if n = 0xE0 then 0xA0 else 0x80, if n = 0xED then 0x9F else 0xBF, n - 0xE0⟩
  else if n < 0xF5 then
    some ⟨3, if n = 0xF0 then 0x90 else 0x80, if n = 0xF4 then 0x8F else 0xBF, n - 0xF0⟩
  else none

/-- Whether a byte carries the low six bits of a character that has started before it. -/
def isContinuation (byte : UInt8) : Bool := 0x80 ≤ byte.toNat && byte.toNat ≤ 0xBF

/-- The bytes that go on with the character, as far as they do. -/
def Lead.taken (lead : Lead) (bytes : List UInt8) : List UInt8 :=
  match bytes.take lead.followers with
  | [] => []
  | next :: others =>
    if lead.least ≤ next.toNat ∧ next.toNat ≤ lead.greatest then
      next :: others.takeWhile isContinuation
    else []

def Lead.char (lead : Lead) (taken : List UInt8) : Char :=
  Char.ofNat (taken.foldl (fun value byte => value * 64 + (byte.toNat - 0x80)) lead.bits)

/-- Reads bytes that start at an offset as a text. -/
def decodeFrom (position : Nat) (bytes : List UInt8) : Except DecodeError Text :=
  match bytes with
  | [] => .ok []
  | byte :: rest =>
    match Lead.ofByte? byte with
    | none => .error ⟨position, byte, [], .invalidStart⟩
    | some lead =>
      let taken := lead.taken rest
      if taken.length = lead.followers then
        (decodeFrom (position + 1 + lead.followers) (rest.drop lead.followers)).map
          (lead.char taken :: ·)
      else if taken.length = rest.length then
        .error ⟨position, byte, taken, .unexpectedEnd⟩
      else
        .error ⟨position, byte, taken, .invalidContinuation⟩
termination_by bytes.length
decreasing_by simp only [List.length_cons, List.length_drop]; omega

def decode (bytes : List UInt8) : Except DecodeError Text := decodeFrom 0 bytes

/-! ## Messages -/

def Fault.text : Fault → Text
  | .invalidStart => "invalid start byte".toList
  | .invalidContinuation => "invalid continuation byte".toList
  | .unexpectedEnd => "unexpected end of data".toList

/-- The message names the byte when it stands alone, and the range of positions otherwise. -/
def DecodeError.message (e : DecodeError) : Text :=
  "'utf-8' codec can't decode ".toList ++
    (if e.more = [] then
      "byte 0x".toList ++ Text.hex 2 e.first.toNat ++ " in position ".toList ++
        Text.ofNat e.position
    else
      "bytes in position ".toList ++ Text.ofNat e.position ++ "-".toList ++
        Text.ofNat (e.position + e.more.length)) ++
    ": ".toList ++ e.fault.text

example : (DecodeError.mk 2 0xE8 [] .unexpectedEnd).message =
    "'utf-8' codec can't decode byte 0xe8 in position 2: unexpected end of data".toList := by
  decide +kernel
example : (DecodeError.mk 2 0xE8 [0xAA] .unexpectedEnd).message =
    "'utf-8' codec can't decode bytes in position 2-3: unexpected end of data".toList := by
  decide +kernel

end Utf8

/-! ## Lengths in bytes -/

namespace Text

/-- The number of bytes of a text in UTF-8. -/
def byteLength : Text → Nat
  | [] => 0
  | c :: rest => c.utf8Size + byteLength rest

theorem length_encode (t : Text) : (Utf8.encode t).length = byteLength t := by
  induction t with
  | nil => rfl
  | cons c rest ih =>
    simp only [Utf8.encode, List.flatMap_cons, List.length_append,
      String.length_utf8EncodeChar] at ih ⊢
    rw [ih, byteLength]

@[simp] theorem byteLength_append (s t : Text) :
    byteLength (s ++ t) = byteLength s + byteLength t := by
  induction s with
  | nil => simp [byteLength]
  | cons c rest ih => simp [byteLength, ih, Nat.add_assoc]

end Text

end DocTag
