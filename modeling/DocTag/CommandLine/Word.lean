import DocTag.CommandLine.Offset
import DocTag.Part.Kind

/-!
# Words of a command line

An argument is an operand, a flag or unknown, and which of them it is depends on the argument alone.
A flag may be shortened as long as no other flag starts the same way, and a value may be attached to
it with an equals sign, or to the short spelling of help without one. An argument that starts with a
dash and is no flag is still an operand when it is a lone dash, looks like a negative number or
contains a space. After the first `--` every argument is an operand.
-/

namespace DocTag.CommandLine

/-! ## Flags -/

/-- What a command line can ask for besides its operands. -/
inductive Flag
  /-- Shows how to use the program. -/
  | help
  /-- Gives the offset of the part in its source. -/
  | start
  /-- Leaves the checks out. -/
  | noStrict
  deriving DecidableEq, Repr

namespace Flag

def all : List Flag := [.help, .start, .noStrict]

def spelling : Flag → Text
  | .help => "--help".toList
  | .start => "--start".toList
  | .noStrict => "--no-strict".toList

/-- The short spelling of the one flag that has one. -/
def shortHelp : Text := "-h".toList

/-- All spellings of a flag, as messages show them. -/
def display : Flag → Text
  | .help => "-h/--help".toList
  | flag => flag.spelling

def ofSpelling? (t : Text) : Option Flag :=
  if t = shortHelp then some .help else all.find? fun flag => flag.spelling == t

/-- The flags whose full spelling starts with a text. -/
def completions (stem : Text) : List Flag := all.filter fun flag => stem.isPrefixOf flag.spelling

end Flag

/-! ## Refusals -/

/-- Why a command line is refused. -/
inductive Refusal
  /-- A shortened flag could be any of several. -/
  | ambiguous (given : Text) (candidates : List Flag)
  /-- The first operand is not the word for a kind of part. -/
  | invalidChoice (given : Text)
  /-- A flag that takes a value has none. -/
  | missingValue (flag : Flag)
  /-- A flag that takes no value has one. -/
  | uselessValue (flag : Flag) (value : Text)
  /-- The value for the offset is no numeral, or one of too many digits. -/
  | invalidOffset (given : Text)
  /-- The value for the offset is negative. -/
  | negativeOffset (value : Int)
  /-- Some operands are not there. -/
  | missingOperands (names : List Text)
  /-- Some arguments are neither flags nor operands that are asked for. -/
  | unrecognized (arguments : List Text)
  deriving DecidableEq, Repr

/-- The message for something that is wrong with a named argument. -/
def aboutArgument (name message : Text) : Text :=
  "argument ".toList ++ name ++ ": ".toList ++ message

def Refusal.message : Refusal → Text
  | .ambiguous given candidates =>
    "ambiguous option: ".toList ++ given ++ " could match ".toList ++
      Text.join ", ".toList (candidates.map Flag.spelling)
  | .invalidChoice given =>
    aboutArgument "part".toList <| "invalid choice: ".toList ++ Text.quote given ++
      " (choose from ".toList ++
      Text.join ", ".toList (PartKind.all.map fun kind => Text.quote kind.word) ++ [')']
  | .missingValue flag => aboutArgument flag.display "expected one argument".toList
  | .uselessValue flag value =>
    aboutArgument flag.display ("ignored explicit argument ".toList ++ Text.quote value)
  | .invalidOffset given =>
    aboutArgument Flag.start.display ("invalid _offset value: ".toList ++ Text.quote given)
  | .negativeOffset value =>
    aboutArgument Flag.start.display (Offset.Fault.negative value).message
  | .missingOperands names =>
    "the following arguments are required: ".toList ++ Text.join ", ".toList names
  | .unrecognized arguments =>
    "unrecognized arguments: ".toList ++ Text.join [' '] arguments

/-! ## Arguments -/

/-- One argument, by what it is. -/
inductive Word
  /-- A flag, with the value attached to it. -/
  | flag (flag : Flag) (attached : Option Text)
  /-- An argument that stands for itself. -/
  | operand (t : Text)
  /-- The argument after which all others are operands. -/
  | terminator
  /-- An argument that looks like a flag and is none. -/
  | unknown (t : Text)
  deriving DecidableEq, Repr

namespace Word

/-- The argument after which all others are operands. -/
def terminatorText : Text := "--".toList

/-- Whether a text is one or more decimal digits. -/
def isDigits (t : Text) : Bool := !t.isEmpty && t.all fun c => (digitValue? c).isSome

/-- Whether a text after its dash is a decimal number, with or without a fraction. -/
def isUnsigned (t : Text) : Bool :=
  isDigits t ||
    match Text.cut '.' t with
    | (whole, some fraction) => (whole.isEmpty || isDigits whole) && isDigits fraction
    | (_, none) => false

/-- Whether an argument looks like a negative number. A line feed at its end does not matter. -/
def isNegativeNumber (arg : Text) : Bool :=
  match arg with
  | '-' :: rest =>
    isUnsigned rest || (rest.getLast? == some '\n' && isUnsigned rest.dropLast)
  | _ => false

/-- The value attached to the short spelling of help, given what is attached to it. Each letter `h`
at the start asks for help once more, and only what is left after them is a value. -/
def attachedToHelp (attached : Text) : Option Text :=
  if attached.isEmpty then some []
  else
    match attached.dropWhile fun c => c == 'h' with
    | [] => none
    | value => some value

/-- The flag that an argument starting with a dash is, exactly or shortened, if it is one. -/
def readFlag? (arg : Text) : Except Refusal (Option Word) :=
  match Flag.ofSpelling? arg, Text.cut '=' arg with
  | some f, _ => .ok (some (.flag f none))
  | none, (stem, attached) =>
    match attached, Flag.ofSpelling? stem with
    | some value, some f =>
      .ok (some (.flag f (if stem = Flag.shortHelp then attachedToHelp value else some value)))
    | _, _ =>
      if terminatorText.isPrefixOf arg then
        match Flag.completions stem with
        | [] => .ok none
        | [f] => .ok (some (.flag f attached))
        | candidates => .error (.ambiguous arg candidates)
      else if Flag.shortHelp.isPrefixOf arg then
        .ok (some (.flag .help (attachedToHelp (arg.drop 2))))
      else .ok none

/-- What an argument is, before any terminator. -/
def ofArgument (arg : Text) : Except Refusal Word :=
  if arg.head? ≠ some '-' ∨ arg = ['-'] then .ok (.operand arg)
  else
    match readFlag? arg with
    | .error refusal => .error refusal
    | .ok (some word) => .ok word
    | .ok none =>
      if isNegativeNumber arg || arg.contains ' ' then .ok (.operand arg)
      else .ok (.unknown arg)

/-- What the arguments of a command line are. -/
def ofArguments : List Text → Except Refusal (List Word)
  | [] => .ok []
  | arg :: rest =>
    if arg = terminatorText then .ok (.terminator :: rest.map .operand)
    else
      match ofArgument arg with
      | .error refusal => .error refusal
      | .ok word => (ofArguments rest).map (word :: ·)

example : ofArgument "--st=5".toList = .ok (.flag .start (some ['5'])) := by rfl
example : ofArgument "--no-s".toList = .ok (.flag .noStrict none) := by rfl
example : ofArgument "-hh".toList = .ok (.flag .help none) := by rfl
example : ofArgument "-hh=1".toList = .ok (.flag .help (some "=1".toList)) := by rfl
example : ofArgument "-1.5".toList = .ok (.operand "-1.5".toList) := by rfl
example : ofArgument "-x".toList = .ok (.unknown "-x".toList) := by rfl
example : ofArgument "-x y".toList = .ok (.operand "-x y".toList) := by rfl

/-- A text that does not start with a dash is an operand. -/
theorem ofArgument_of_head?_ne {arg : Text} (h : arg.head? ≠ some '-') :
    ofArgument arg = .ok (.operand arg) := by
  simp [ofArgument, h]

end Word

end DocTag.CommandLine
