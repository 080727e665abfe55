import DocTag.Text.Numeral
import DocTag.Text.Utf8

/-!
# Spans

A span is a half-open range of byte offsets into a source text, whose bytes are those of its UTF-8
encoding. Nothing ties a span to a source: it may be reversed, start before the source or end after
it, and what it covers is decided only when it is read.

The main statement says that a span laid over a text has the size of the text in bytes.
-/

namespace DocTag

/-- The bytes from `start` up to, and without, `stop`. -/
structure Span where
  /-- Offset of the first byte. -/
  start : Int
  /-- Offset after the last byte. -/
  stop : Int
  deriving DecidableEq, Repr

namespace Span

/-- The span at an offset that holds nothing. -/
def empty (offset : Int) : Span := ⟨offset, offset⟩

/-- The span that starts at an offset and holds exactly the bytes of a text. -/
def covering (t : Text) (start : Int) : Span := ⟨start, start + t.byteLength⟩

/-- The number of bytes, negative for a reversed span. -/
def size (s : Span) : Int := s.stop - s.start

/-- Whether the span starts where it stops. -/
def isEmpty (s : Span) : Bool := s.start == s.stop

/-- The place among `length` bytes that an offset stands for: a negative one counts back from the
end, and one that lies outside is moved to the nearest end. -/
def place (length : Nat) (offset : Int) : Nat :=
  if offset < 0 then (offset + length).toNat else min offset.toNat length

/-- The bytes of the span among those of a source. A reversed span holds none. -/
def slice (s : Span) (bytes : List UInt8) : List UInt8 :=
  (bytes.take (place bytes.length s.stop)).drop (place bytes.length s.start)

/-- The text of the span in a source. Fails when the span cuts a character. -/
def sourceText (s : Span) (source : Text) : Except Utf8.DecodeError Text :=
  Utf8.decode (s.slice (Utf8.encode source))

/-- Spans are ordered by where they start, and then by where they stop. -/
def le (s t : Span) : Bool := s.start < t.start || (s.start == t.start && s.stop ≤ t.stop)

/-- The different spans in a list, in order. -/
def distinct (spans : List Span) : List Span := spans.eraseDups.mergeSort le

/-- Whether both ends have few enough digits to be written. -/
def isWritable (s : Span) : Bool :=
  s.start.natAbs < Nat.pow 10 Numeral.maxDigits && s.stop.natAbs < Nat.pow 10 Numeral.maxDigits

/-- The two ends of a span that can be written. -/
def text (s : Span) : Text :=
  '[' :: Text.ofInt s.start ++ ", ".toList ++ Text.ofInt s.stop ++ [')']

/-- A span that can be written, with its ends named. -/
def fieldsText (s : Span) : Text :=
  "Span(start=".toList ++ Text.ofInt s.start ++ ", end=".toList ++ Text.ofInt s.stop ++ [')']

@[simp] theorem size_covering (t : Text) (start : Int) :
    (covering t start).size = t.byteLength := by
  simp only [size, covering]; omega

end Span

end DocTag
