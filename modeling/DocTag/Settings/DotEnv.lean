import DocTag.Bindings
import DocTag.Text.Blank
import DocTag.Text.Lines

/-!
# Environment files

An environment file assigns values to names, one a line: a name, an equals sign and a value, with
blank characters around them and perhaps the word `export` in front. A name may stand in single
quotes, and a value in quotes of either sort, in which a backslash escapes. A `#` opens a comment,
but in an unquoted value only after a blank character. A name without an equals sign is bound to no
value. A line of any other shape is malformed: it is passed over, but not silently.

The last assignment to a name decides its value. A value is taken as it is written: a name in braces
behind a dollar sign is not replaced by what it stands for, and a quoted value ends on its line.
-/

namespace DocTag.DotEnv

/-- Every carriage return is a line feed, together with a line feed after it. -/
def unifyBreaks : Text → Text
  | '\r' :: '\n' :: rest => '\n' :: unifyBreaks rest
  | '\r' :: rest => '\n' :: unifyBreaks rest
  | c :: rest => c :: unifyBreaks rest
  | [] => []

/-- The text without the byte order mark that it may start with. -/
def dropByteOrderMark : Text → Text
  | '\ufeff' :: rest => rest
  | t => t

/-! ## Quotes and escapes -/

/-- The characters that may be escaped inside single quotes, with what they stand for. -/
def singleEscapes : List (Char × Char) := [('\\', '\\'), ('\'', '\'')]

/-- The characters that may be escaped inside double quotes, with what they stand for. -/
def doubleEscapes : List (Char × Char) :=
  [('\\', '\\'), ('\'', '\''), ('"', '"'), ('a', '\x07'), ('b', '\x08'), ('f', '\x0c'),
   ('n', '\n'), ('r', '\r'), ('t', '\t'), ('v', '\x0b')]

/-- What a backslash and the character after it stand for: one character, or themselves. -/
def escaped (escapes : List (Char × Char)) (c : Char) : Text :=
  match escapes.lookup c with
  | some meant => [meant]
  | none => ['\\', c]

/-- Reads on from an opening quote: the text meant by what stands before the quote that closes it,
and what follows. A backslash goes together with the character after it, so a quote behind one
closes nothing. -/
def readQuoted (mark : Char) (escapes : List (Char × Char)) : Text → Option (Text × Text)
  | [] => none
  | '\\' :: [] => none
  | '\\' :: c :: rest =>
    (readQuoted mark escapes rest).map fun (inside, after) => (escaped escapes c ++ inside, after)
  | c :: rest =>
    if c = mark then some ([], rest)
    else (readQuoted mark escapes rest).map fun (inside, after) => (c :: inside, after)

/-! ## Lines -/

/-- What a line of an environment file is. -/
inductive Line
  /-- Nothing but blank characters. -/
  | blank
  /-- Nothing but a comment. -/
  | note
  /-- A name, with the value after its equals sign if it has one. -/
  | binding (name : Text) (value : Option Text)
  /-- Anything else. -/
  | malformed
  deriving DecidableEq, Repr

/-- Whether nothing but a comment is left of a line. -/
def isOver (rest : Text) : Bool :=
  match Text.trimLeft rest with
  | [] => true
  | c :: _ => c == '#'

/-- An unquoted value without the comment after it. -/
def dropNote : Text → Text
  | [] => []
  | c :: rest =>
    if isBlank c && (Text.trimLeft rest).head? == some '#' then [] else c :: dropNote rest

/-- Takes the word `export` off the start of a line. -/
def dropExport (line : Text) : Text :=
  if "export".toList.isPrefixOf line && ((line.drop 6).head?.map isBlank).getD false then
    Text.trimLeft (line.drop 6)
  else line

/-- Whether a character may be part of an unquoted name. -/
def isNameChar (c : Char) : Bool := c != '=' && c != '#' && !isBlank c

/-- The name at the start of a line, and what follows it. -/
def takeName? (line : Text) : Option (Text × Text) :=
  match line with
  | [] => none
  | c :: rest =>
    if c = '\'' then
      match Text.cut '\'' rest with
      | ([], _) => none
      | (_, none) => none
      | (name, some after) => some (name, after)
    else if isNameChar c then some (line.takeWhile isNameChar, line.dropWhile isNameChar)
    else none

/-- The value in quotes that have been opened, if nothing but a comment follows them. -/
def quotedValue? (mark : Char) (escapes : List (Char × Char)) (rest : Text) : Option Text :=
  match readQuoted mark escapes rest with
  | some (inside, after) => if isOver after then some inside else none
  | none => none

/-- The value after an equals sign. A comment may follow the sign at once, but not touch it. -/
def value? (rest : Text) : Option Text :=
  match Text.trimLeft rest with
  | '\'' :: inside => quotedValue? '\'' singleEscapes inside
  | '"' :: inside => quotedValue? '"' doubleEscapes inside
  | _ => some (Text.trim (dropNote rest))

/-- Reads a name with what belongs to it. -/
def Line.ofAssignment (line : Text) : Line :=
  match takeName? line with
  | none => .malformed
  | some (name, rest) =>
    match Text.trimLeft rest with
    | '=' :: after =>
      match value? after with
      | some value => .binding name (some value)
      | none => .malformed
    | left => if isOver left then .binding name none else .malformed

def Line.read (line : Text) : Line :=
  match Text.trimLeft line with
  | [] => .blank
  | start =>
    match dropExport start with
    | '#' :: _ => .note
    | assignment => .ofAssignment assignment

def Line.binding? : Line → Option (Text × Option Text)
  | .binding name value => some (name, value)
  | .blank | .note | .malformed => none

example : Line.read "export A = x # note".toList = .binding ['A'] (some ['x']) := by
  decide +kernel
example : Line.read "A='it\\'s'".toList = .binding ['A'] (some "it's".toList) := by decide +kernel
example : Line.read "A='\\'".toList = .malformed := by decide +kernel
example : Line.read "A=#x".toList = .binding ['A'] (some "#x".toList) := by decide +kernel
example : Line.read "A= #x".toList = .binding ['A'] (some []) := by decide +kernel
example : Line.read "A='x' y".toList = .malformed := by decide +kernel
example : Line.read "export # A".toList = .note := by decide +kernel

/-! ## Files -/

def lines (file : Text) : List Line :=
  (Text.segments (unifyBreaks (dropByteOrderMark file))).map Line.read

def read (file : Text) : Bindings (Option Text) :=
  Bindings.setAll [] ((lines file).filterMap Line.binding?)

/-- The numbers of the malformed lines among some lines. Blank lines belong to the first line after
them that is not blank, and the line is known by the number of the first of them: the line at hand
has the number `here`, and the blank lines before it start at the number `first`. -/
def malformedFrom (first here : Nat) : List Line → List Nat
  | [] => []
  | .blank :: rest => malformedFrom first (here + 1) rest
  | .malformed :: rest => first :: malformedFrom (here + 1) (here + 1) rest
  | .note :: rest | .binding _ _ :: rest => malformedFrom (here + 1) (here + 1) rest

/-- The numbers of the malformed lines of an environment file. -/
def malformedLines (file : Text) : List Nat := malformedFrom 1 1 (lines file)

example : malformedLines "A=1\n\nB C\n=x\n".toList = [2, 4] := by decide +kernel

end DocTag.DotEnv
