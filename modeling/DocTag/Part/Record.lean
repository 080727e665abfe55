import DocTag.Log.Level
import DocTag.Part.Rule

/-!
# Log records

Two things that happen to parts are worth a record: a text that breaks a rule, and a comment that is
put together from several lines.
-/

namespace DocTag

/-- What happened to a part. -/
inductive Record
  /-- A text of so many characters was refused for breaking a rule. -/
  | preconditionFailed (kind : PartKind) (rule : Rule) (length : Nat)
  /-- A comment of so many characters was put together from its lines, of which some were kept. -/
  | commentParsed (lines kept length : Nat)
  deriving DecidableEq, Repr

/-- A refused part is a warning, a comment put together a detail. -/
def Record.severity : Record → Severity
  | .preconditionFailed .. => .warning
  | .commentParsed .. => .debug

def Record.message : Record → Text
  | .preconditionFailed .. => "part_precondition_failed".toList
  | .commentParsed .. => "comment part parsed".toList

end DocTag
