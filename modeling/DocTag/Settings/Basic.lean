import DocTag.Bindings
import DocTag.Json.Basic

/-!
# Settings

Two fields configure a context: whether parts are checked when they are made, and the level of its
log. Each field has two names: that of its variable in an environment, and a plain name. The value
of a field is given as a JSON value and read by the rule for that field; a value that cannot be
read, and a name that is no field's, is an issue.
-/

namespace DocTag

/-- What configures a context. -/
structure Settings where
  /-- Whether parts are checked when they are made. -/
  strictParts : Bool
  /-- The name of the level of the log. -/
  logLevel : Text
  deriving DecidableEq, Repr

def Settings.default : Settings := ⟨true, "info".toList⟩

/-- A field of the settings. -/
inductive Field
  | strictParts
  | logLevel
  deriving DecidableEq, Repr

namespace Field

def all : List Field := [.strictParts, .logLevel]

/-- The name of the variable for a field. -/
def variableName : Field → Text
  | .strictParts => "JSDOC_STRICT_PARTS".toList
  | .logLevel => "LOG_LEVEL".toList

def name : Field → Text
  | .strictParts => "strict_parts".toList
  | .logLevel => "log_level".toList

/-- The names of a field, the one that is looked for first in front. -/
def keys (f : Field) : List Text := [f.variableName, f.name]

end Field

/-! ## Issues -/

/-- Why a value or a name is not accepted. -/
inductive Problem
  /-- A text or a number that stands for no truth value. -/
  | noTruthValue
  /-- A value that is neither a truth value nor a text nor a number that fits into a word. -/
  | notTruthLike
  /-- A value that is no text. -/
  | notText
  /-- A name that is no field's, or that a field was not taken from. -/
  | extraName
  deriving DecidableEq, Repr

/-- The words for a problem, with its code. -/
def Problem.text : Problem → Text
  | .noTruthValue =>
    "Input should be a valid boolean, unable to interpret input [bool_parsing]".toList
  | .notTruthLike => "Input should be a valid boolean [bool_type]".toList
  | .notText => "Input should be a valid string [string_type]".toList
  | .extraName => "Extra inputs are not permitted [extra_forbidden]".toList

/-- A name and what is wrong with it or with its value. -/
structure Issue where
  /-- The name under which the value was given. -/
  location : Text
  /-- What is wrong. -/
  problem : Problem
  deriving DecidableEq, Repr

def Issue.text (i : Issue) : Text := i.location ++ ": ".toList ++ i.problem.text

/-- The message for some issues has each of them in words, ordered by their characters. -/
def Issue.message (issues : List Issue) : Text :=
  Text.join "; ".toList ((issues.map Issue.text).mergeSort fun a b => decide (List.le a b))

/-! ## Reading values -/

/-- The words for true, in small letters. -/
def trueWords : List Text :=
  ["1".toList, "on".toList, "t".toList, "true".toList, "y".toList, "yes".toList]

/-- The words for false, in small letters. -/
def falseWords : List Text :=
  ["0".toList, "off".toList, "f".toList, "false".toList, "n".toList, "no".toList]

/-- Reads a word for a truth value, in small or capital letters of ASCII. -/
def truthOfWord? (word : Text) : Option Bool :=
  let small := word.map Char.toLower
  if trueWords.contains small then some true
  else if falseWords.contains small then some false
  else none

/-- Whether a number fits into a signed word of sixty-four bits. -/
def fitsWord (value : Int) : Bool := -Int.pow 2 63 ≤ value && value < Int.pow 2 63

/-- Reads a truth value: itself, the number one or zero, or a word for it. A number that does not
fit into a word is not taken for a number at all. -/
def Json.readTruth : Json → Except Problem Bool
  | .bool value => .ok value
  | .int value =>
    if value = 1 then .ok true
    else if value = 0 then .ok false
    else if fitsWord value then .error .noTruthValue
    else .error .notTruthLike
  | .string word =>
    match truthOfWord? word with
    | some value => .ok value
    | none => .error .noTruthValue
  | .null | .array _ | .object _ => .error .notTruthLike

/-- Reads a text: any, and nothing else. -/
def Json.readText : Json → Except Problem Text
  | .string value => .ok value
  | _ => .error .notText

end DocTag
