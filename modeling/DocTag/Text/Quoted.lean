import DocTag.Text.Digits
import DocTag.Text.Printable

/-!
# Quoted texts

A text is quoted in messages so that it stays on one line and can be told apart from every other
text. It stands between single quotes, or between double quotes when it has a single quote and no
double quote. A backslash precedes itself and the quote in use, the three common control characters
have a letter, and every other character that cannot be shown is given by its code point.
-/

namespace DocTag.Text

def quoteMark (t : Text) : Char :=
  if t.contains '\'' && !t.contains '"' then '"' else '\''

/-- A character as it stands inside quotes. -/
def escapeIn (mark c : Char) : Text :=
  if c = mark ∨ c = '\\' then ['\\', c]
  else if c = '\n' then "\\n".toList
  else if c = '\r' then "\\r".toList
  else if c = '\t' then "\\t".toList
  else if isPrintable c then [c]
  else if c.toNat < 0x100 then "\\x".toList ++ hex 2 c.toNat
  else if c.toNat < 0x10000 then "\\u".toList ++ hex 4 c.toNat
  else "\\U".toList ++ hex 8 c.toNat

def quote (t : Text) : Text :=
  let mark := quoteMark t
  mark :: t.flatMap (escapeIn mark) ++ [mark]

example : quote "it's".toList = "\"it's\"".toList := by decide +kernel
example : quote "a\\b\n".toList = "'a\\\\b\\n'".toList := by decide +kernel
example : quote ['\'', '"', '\x85', '\u200b'] = "'\\'\"\\x85\\u200b'".toList := by decide +kernel

end DocTag.Text
