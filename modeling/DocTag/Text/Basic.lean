/-!
# Texts and classes of characters

A text is the list of its characters: Unicode scalar values, one list entry each. Every length that
counts characters is the length of this list, and a text given as a string literal is its list of
characters.

A class of characters taken from the Unicode character database is written as the list of its ranges
of code points (`CodeRanges`), so that a table in this library can be compared with the database
line by line.
-/

namespace DocTag

/-- A text: its characters in order. -/
abbrev Text := List Char

/-- A class of characters, as ranges of code points, each given by its first and its last member. -/
abbrev CodeRanges := List (Nat × Nat)

/-- Whether a character's code point lies in one of the ranges. -/
def CodeRanges.contains (ranges : CodeRanges) (c : Char) : Bool :=
  ranges.any fun range => range.1 ≤ c.toNat && c.toNat ≤ range.2

namespace Text

/-- The texts one after the other, with a separator between neighbours. -/
def join (separator : Text) (texts : List Text) : Text :=
  separator.intercalate texts

/-- The part before the first occurrence of a character, and the part after it. The second part is
absent when the character does not occur. -/
def cut (mark : Char) : Text → Text × Option Text
  | [] => ([], none)
  | c :: rest =>
    if c = mark then ([], some rest) else
      let (before, after) := cut mark rest
      (c :: before, after)

end Text

end DocTag
