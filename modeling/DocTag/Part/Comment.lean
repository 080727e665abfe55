import DocTag.Part.Record
import DocTag.Span
import DocTag.Text.Lines

/-!
# Comments

The raw text of a comment is everything between the parts around it, so it may run over several
lines, each of which may open with the `*` that continues a documentation block. Parsing takes these
markers off and drops the lines that hold nothing else. A comment of exactly one line cannot hold a
continuation, so it is only trimmed, and a `*` in it belongs to the text.

A diagnostic underlines one line at most, so a comment also has a span that is cut down to its first
visible line.
-/

namespace DocTag.Comment

/-- The character that continues a documentation block at the start of a line. -/
def marker : Char := '*'

/-- Takes one marker off the start of a text. -/
def dropMarker : Text → Text
  | c :: rest => if c = marker then rest else c :: rest
  | [] => []

/-- A line without its marker and the blank characters around both. -/
def unmarked (line : Text) : Text := Text.trim (dropMarker (Text.trim line))

/-- What is left of the lines that hold more than a marker. -/
def keptLines (raw : Text) : List Text :=
  ((Text.lines raw).map unmarked).filter fun line => !line.isEmpty

/-- Whether a raw text has exactly one line. -/
def isOneLine (raw : Text) : Bool := (Text.lines raw).length == 1

def parsed (raw : Text) : Text :=
  if isOneLine raw then Text.trim raw else Text.joinLines (keptLines raw)

/-- The records that parsing leaves: one, unless the comment was only trimmed. -/
def records (raw : Text) : List Record :=
  if isOneLine raw then []
  else [.commentParsed (Text.lines raw).length (keptLines raw).length raw.length]

/-- The number of bytes of the blank characters that a text starts with. -/
def leadingBytes (raw : Text) : Nat := Text.byteLength (raw.takeWhile isBlank)

/-- The number of bytes of the blank characters that a text ends with. -/
def trailingBytes (raw : Text) : Nat := Text.byteLength (raw.reverse.takeWhile isBlank)

/-- The number of bytes of a text before its first line feed, and zero when it has none. -/
def bytesBeforeLineFeed (t : Text) : Nat :=
  match Text.cut '\n' t with
  | (before, some _) => Text.byteLength before
  | (_, none) => 0

/-- The span of the first visible line, for a comment whose raw text has the given span: empty at
the start of a blank comment, the trimmed text of a comment of one line, and otherwise the part
from the first character that is not blank up to the next line feed. -/
def trimmedSpan (raw : Text) (span : Span) : Span :=
  if Text.blank raw then Span.empty span.start
  else if isOneLine raw then ⟨span.start + leadingBytes raw, span.stop - trailingBytes raw⟩
  else
    let first := span.start + leadingBytes raw
    ⟨first, first + bytesBeforeLineFeed (Text.trimLeft raw)⟩

/-- A comment is never kept to a line that holds nothing. -/
theorem ne_nil_of_mem_keptLines {raw line : Text} (h : line ∈ keptLines raw) : line ≠ [] := by
  have := (List.mem_filter.1 h).2
  rintro rfl
  simp at this

end DocTag.Comment
