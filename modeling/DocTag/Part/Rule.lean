import DocTag.Part.Kind
import DocTag.Text.Quoted

/-!
# Rules for parts

A part that was cut out of its tag correctly has a certain look, which depends on its kind. These
are the rules that a strict construction checks, in order: the first broken one is reported.
Comments have none.

The main statement says that a violation is found exactly when one of the kind's rules is broken.
-/

namespace DocTag

/-- What the text of a part can be required to look like. -/
inductive Rule
  /-- The text starts with an at sign. -/
  | startsWithAt
  /-- The text neither starts nor ends with a blank character. -/
  | isTrimmed
  /-- The text stands in braces. -/
  | inBraces
  deriving DecidableEq, Repr

def Rule.holds : Rule → Text → Bool
  | .startsWithAt, raw => raw.head? == some '@'
  | .isTrimmed, raw => Text.isTrimmed raw
  | .inBraces, raw => 2 ≤ raw.length && raw.head? == some '\x7b' && raw.getLast? == some '\x7d'

def Rule.text : Rule → Text
  | .startsWithAt => "must start with '@'".toList
  | .isTrimmed => "must not have surrounding whitespace".toList
  | .inBraces => "must be enclosed in '\x7b' and '\x7d'".toList

/-- The rules for a kind of part, in the order in which they are checked. -/
def PartKind.rules : PartKind → List Rule
  | .comment => []
  | .keyword => [.startsWithAt, .isTrimmed]
  | .name => [.isTrimmed]
  | .type => [.inBraces]

/-- A text that breaks a rule for its kind. -/
structure Violation where
  /-- The kind of part that the text was given for. -/
  kind : PartKind
  /-- The first rule it breaks. -/
  rule : Rule
  /-- The text. -/
  raw : Text
  deriving DecidableEq, Repr

/-- The first rule for the kind that a text breaks. -/
def Violation.find? (kind : PartKind) (raw : Text) : Option Violation :=
  (kind.rules.find? fun rule => !rule.holds raw).map fun rule => ⟨kind, rule, raw⟩

/-- The message for a violation names the kind and the rule and quotes the text. -/
def Violation.message (v : Violation) : Text :=
  v.kind.label ++ ": ".toList ++ v.rule.text ++ ", got ".toList ++ Text.quote v.raw

/-- There is no violation exactly when the text keeps every rule for its kind. -/
theorem Violation.find?_eq_none_iff {kind : PartKind} {raw : Text} :
    Violation.find? kind raw = none ↔ ∀ rule ∈ kind.rules, rule.holds raw = true := by
  simp [Violation.find?]

/-- No text of a comment breaks a rule. -/
theorem Violation.find?_comment (raw : Text) : Violation.find? .comment raw = none := rfl

end DocTag
