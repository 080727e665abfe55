import DocTag.Part.Rule
import DocTag.Settings.Resolve
import DocTag.Text.Numeral

/-!
# Failures

Every way in which a step can fail to do what it was asked for, with the message that says so.
-/

namespace DocTag

/-- Why a step did not do what it was asked for. -/
inductive Failure
  /-- The text of a part breaks a rule. -/
  | violation (v : Violation)
  /-- The settings cannot be read. -/
  | invalidSettings (issues : List Issue)
  /-- The fields of a part cannot be set. -/
  | frozenField (field : Text)
  /-- What was to be set is no field of the part. -/
  | noSuchField
  /-- A part of a kind has no visible lines. -/
  | noTrimmedSpan (kind : PartKind)
  /-- An offset has more digits than are written. -/
  | unwritable
  /-- A command line asks for a part without giving its text. -/
  | noText
  /-- No part has the name. -/
  | unboundPart (name : Text)
  deriving DecidableEq, Repr

def Failure.message : Failure → Text
  | .violation v => v.message
  | .invalidSettings issues => Issue.message issues
  | .frozenField field => "cannot assign to field ".toList ++ Text.quote field
  | .noSuchField => "super(type, obj): obj must be an instance or subtype of type".toList
  | .noTrimmedSpan kind =>
    Text.quote kind.label ++ " object has no attribute 'span_trimmed_first_line'".toList
  | .unwritable =>
    "Exceeds the limit (".toList ++ Text.ofNat Numeral.maxDigits ++
      " digits) for integer string conversion; ".toList ++
      "use sys.set_int_max_str_digits() to increase the limit".toList
  | .noText => "'list' object has no attribute 'encode'".toList
  | .unboundPart name => "no part is named ".toList ++ Text.quote name

end DocTag
