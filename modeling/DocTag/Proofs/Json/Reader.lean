import DocTag.Json.Basic

/-!
# Reading JSON texts

A reader for the grammar of JSON texts, written without regard to how values are printed. Space may
stand around every value, every name and every mark of punctuation. A character in a string stands
for itself, after a backslash, or as one or two code units in hexadecimal digits of either case; a
control character has to be escaped, and a surrogate has to be one half of a pair. A number is an
optional minus sign and digits without a leading zero; numbers with a fraction or an exponent are no
values here, so they are refused.

A reader takes what it reads off the start of a text and hands on the rest. Values nest, so the
readers of values and of what values hold take a bound on the steps they may take; the length of the
text is one that suffices.
-/

namespace DocTag.Json

/-! ## Space -/

/-- The characters that may stand between the tokens of a text. -/
def isSpace (c : Char) : Bool := c == ' ' || c == '\t' || c == '\n' || c == '\r'

def skipSpace (t : Text) : Text := t.dropWhile isSpace

/-! ## Strings -/

/-- The value of a hexadecimal digit, in small or capital letters. -/
def hexValue? (c : Char) : Option Nat :=
  if '0' ≤ c ∧ c ≤ '9' then some (c.toNat - 48)
  else if 'a' ≤ c ∧ c ≤ 'f' then some (c.toNat - 87)
  else if 'A' ≤ c ∧ c ≤ 'F' then some (c.toNat - 55)
  else none

/-- The code unit that four hexadecimal digits stand for. -/
def unit? (a b c d : Char) : Option Nat :=
  match hexValue? a, hexValue? b, hexValue? c, hexValue? d with
  | some w, some x, some y, some z => some (((w * 16 + x) * 16 + y) * 16 + z)
  | _, _, _, _ => none

/-- Whether a code unit is the first half of a pair of surrogates. -/
def isHighSurrogate (unit : Nat) : Bool := 0xD800 ≤ unit && unit < 0xDC00

/-- Whether a code unit is the second half of a pair of surrogates. -/
def isLowSurrogate (unit : Nat) : Bool := 0xDC00 ≤ unit && unit < 0xE000

/-- The character that a pair of surrogates stands for. -/
def ofPair (high low : Nat) : Char :=
  Char.ofNat (0x10000 + (high - 0xD800) * 0x400 + (low - 0xDC00))

/-- The characters that may follow a backslash, with what they stand for after one. -/
def letterEscapes : List (Char × Char) :=
  [('"', '"'), ('\\', '\\'), ('/', '/'), ('b', '\x08'), ('f', '\x0c'), ('n', '\n'), ('r', '\r'),
   ('t', '\t')]

/-- Puts a character in front of a string that has been read. -/
def prepend (c : Char) (read : Text × Text) : Text × Text := (c :: read.1, read.2)

/-- Reads on from an opening quote: the string, and what follows the closing quote. -/
def readString : Text → Option (Text × Text)
  | [] => none
  | '"' :: rest => some ([], rest)
  | '\\' :: 'u' :: a :: b :: c :: d :: rest =>
    match unit? a b c d with
    | none => none
    | some unit =>
      if isHighSurrogate unit then
        match rest with
        | '\\' :: 'u' :: a' :: b' :: c' :: d' :: after =>
          match unit? a' b' c' d' with
          | none => none
          | some low =>
            if isLowSurrogate low then (readString after).map (prepend (ofPair unit low)) else none
        | _ => none
      else if isLowSurrogate unit then none
      else (readString rest).map (prepend (Char.ofNat unit))
  | '\\' :: c :: rest =>
    match letterEscapes.lookup c with
    | some meant => (readString rest).map (prepend meant)
    | none => none
  | c :: rest => if c.toNat < 0x20 then none else (readString rest).map (prepend c)

/-! ## Numbers and words -/

/-- Whether what follows the digits of a number makes it a fraction or gives it an exponent. -/
def continuesNumber (rest : Text) : Bool :=
  rest.head? == some '.' || rest.head? == some 'e' || rest.head? == some 'E'

/-- Reads digits without a leading zero. -/
def readDigits (t : Text) : Option (Nat × Text) :=
  let digits := t.takeWhile Char.isDigit
  let rest := t.dropWhile Char.isDigit
  if digits = [] ∨ (digits.head? = some '0' ∧ digits ≠ ['0']) ∨ continuesNumber rest then none
  else some (Nat.ofDigitChars 10 digits 0, rest)

def readInt (t : Text) : Option (Int × Text) :=
  match t with
  | '-' :: rest => (readDigits rest).map fun (n, after) => (-(n : Int), after)
  | _ => (readDigits t).map fun (n, after) => ((n : Int), after)

/-- The words that are values. -/
def words : List (Text × Json) :=
  [("null".toList, .null), ("true".toList, .bool true), ("false".toList, .bool false)]

/-- Reads a word or a number. -/
def readScalar (t : Text) : Option (Json × Text) :=
  match words.find? fun entry => entry.1.isPrefixOf t with
  | some (word, value) => some (value, t.drop word.length)
  | none => (readInt t).map fun (n, after) => (.int n, after)

/-! ## Values -/

/-- Reads a name and the colon after it. -/
def readName : Text → Option (Text × Text)
  | '"' :: rest =>
    match readString rest with
    | none => none
    | some (name, left) =>
      match skipSpace left with
      | ':' :: after => some (name, after)
      | _ => none
  | _ => none

mutual
/-- Reads a value that starts at once, in so many steps. -/
def readValue : (steps : Nat) → Text → Option (Json × Text)
  | 0, _ => none
  | steps + 1, t =>
    match t with
    | '"' :: rest => (readString rest).map fun (s, after) => (.string s, after)
    | '[' :: rest =>
      match skipSpace rest with
      | ']' :: after => some (.array [], after)
      | _ => (readItems steps rest).map fun (items, after) => (.array items, after)
    | '\x7b' :: rest =>
      match skipSpace rest with
      | '\x7d' :: after => some (.object [], after)
      | _ => (readMembers steps rest).map fun (members, after) => (.object members, after)
    | _ => readScalar t
/-- Reads the items of an array, of which there is one at least, and its closing bracket. -/
def readItems : (steps : Nat) → Text → Option (List Json × Text)
  | 0, _ => none
  | steps + 1, t =>
    match readValue steps (skipSpace t) with
    | none => none
    | some (item, rest) =>
      match skipSpace rest with
      | ',' :: after => (readItems steps after).map fun (items, left) => (item :: items, left)
      | ']' :: after => some ([item], after)
      | _ => none
/-- Reads the members of an object, of which there is one at least, and its closing brace. -/
def readMembers : (steps : Nat) → Text → Option (List (Text × Json) × Text)
  | 0, _ => none
  | steps + 1, t =>
    match readName (skipSpace t) with
    | none => none
    | some (name, opened) =>
      match readValue steps (skipSpace opened) with
      | none => none
      | some (value, rest) =>
        match skipSpace rest with
        | ',' :: after =>
          (readMembers steps after).map fun (members, left) => ((name, value) :: members, left)
        | '\x7d' :: after => some ([(name, value)], after)
        | _ => none
end

/-- Reads a text that holds one value, with space around it. -/
def read (t : Text) : Option Json :=
  match readValue t.length (skipSpace t) with
  | none => none
  | some (value, rest) => if skipSpace rest = [] then some value else none

example : (read " [ -1,\t\x7b \"\\ud83D\\ude00\" : null \x7d ]\n".toList).map print =
    some "[-1, \x7b\"😀\": null\x7d]".toList := by decide +kernel
example : (["[1,]", "\"\\ud83d\"", "\"\t\"", "01", "1.5", "[] []"].filterMap fun t =>
    (read t.toList).map print) = [] := by decide +kernel

end DocTag.Json
