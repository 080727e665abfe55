import DocTag.Json.Basic
import DocTag.Part.Comment

/-!
# Parts

A part is a raw text of one kind together with its span, and what it means is read off that text:
the keyword of a kind without its at sign, the expression of a type without its braces, the bare
name out of the brackets that make it optional, and the text of a comment without its markers.

A part carries two flags that say whether it is an optional name and whether that has a default
value. They are fields like the others, shown and compared with them, and the part holds the proofs
that they are what its text says, so a part is known by its kind, its text and its span (`eq_iff`).

A part is made by `Part.build`, which checks the rules for its kind or leaves them out. Checking
decides only whether there is a part: a part that is made both ways is the same (`build_eq_ok`).
-/

namespace DocTag

/-- Whether a text of a kind is an optional name: it stands in brackets. -/
def Part.standsInBrackets (kind : PartKind) (raw : Text) : Bool :=
  kind == .name && raw.head? == some '[' && raw.getLast? == some ']'

/-- One part of a documentation tag. -/
structure Part where
  /-- What the part is. -/
  kind : PartKind
  /-- The text as it stands in the source. -/
  raw : Text
  /-- Where it stands in the source. -/
  span : Span
  /-- Whether the part is an optional name. -/
  isOptional : Bool
  /-- Whether the part is an optional name that has a default value. -/
  hasDefault : Bool
  /-- An optional name stands in brackets. -/
  optional_eq : isOptional = Part.standsInBrackets kind raw
  /-- An optional name has a default value when an equals sign stands in its brackets. -/
  default_eq : hasDefault = (isOptional && raw.contains '=')
  deriving DecidableEq, Repr

namespace Part

/-- The part of a kind, with its flags read off its text. -/
def of (kind : PartKind) (raw : Text) (span : Span) : Part where
  kind
  raw
  span
  isOptional := standsInBrackets kind raw
  hasDefault := standsInBrackets kind raw && raw.contains '='
  optional_eq := rfl
  default_eq := rfl

@[simp] theorem of_kind (kind : PartKind) (raw : Text) (span : Span) :
    (of kind raw span).kind = kind := rfl

@[simp] theorem of_raw (kind : PartKind) (raw : Text) (span : Span) :
    (of kind raw span).raw = raw := rfl

/-- Every part is the one of its kind, its text and its span. -/
theorem of_eq (part : Part) : of part.kind part.raw part.span = part := by
  obtain ⟨kind, raw, span, isOptional, hasDefault, hoptional, hdefault⟩ := part
  subst hoptional
  subst hdefault
  rfl

/-- **A part is known by its kind, its text and its span**, for its flags are read off the text. -/
theorem eq_iff {a b : Part} : a = b ↔ a.kind = b.kind ∧ a.raw = b.raw ∧ a.span = b.span := by
  constructor
  · rintro rfl
    exact ⟨rfl, rfl, rfl⟩
  · rintro ⟨hkind, hraw, hspan⟩
    rw [← a.of_eq, ← b.of_eq, hkind, hraw, hspan]

/-- Makes a part, in strict construction only when the text keeps the rules for its kind. A
violation leaves one record. -/
def build (strict : Bool) (kind : PartKind) (raw : Text) (span : Span) :
    Except Violation Part × List Record :=
  match if strict then Violation.find? kind raw else none with
  | some v => (.error v, [.preconditionFailed v.kind v.rule v.raw.length])
  | none => (.ok (of kind raw span), [])

/-- The text between the first and the last character. -/
def inner (raw : Text) : Text := (raw.drop 1).dropLast

def parsed (part : Part) : Text :=
  match part.kind with
  | .comment => Comment.parsed part.raw
  | .keyword => part.raw.drop 1
  | .name =>
    if part.isOptional then Text.trim (Text.cut '=' (Text.trim (inner part.raw))).1 else part.raw
  | .type => Text.trim (inner part.raw)

/-- The records that reading the part leaves. -/
def records (part : Part) : List Record :=
  match part.kind with
  | .comment => Comment.records part.raw
  | _ => []

/-- The span of the first visible line of a comment; other parts have none. -/
def trimmedSpan? (part : Part) : Option Span :=
  match part.kind with
  | .comment => some (Comment.trimmedSpan part.raw part.span)
  | _ => none

/-- A span as a pair of offsets. -/
def spanJson (span : Span) : Json := .array [.int span.start, .int span.stop]

/-- Everything there is to say of a part. -/
def describe (part : Part) : Json :=
  .object <|
    [("kind".toList, .string part.kind.word),
     ("raw".toList, .string part.raw),
     ("parsed".toList, .string part.parsed),
     ("span".toList, spanJson part.span)] ++
    match part.kind with
    | .comment =>
      [("span_trimmed_first_line".toList, spanJson (Comment.trimmedSpan part.raw part.span))]
    | .name =>
      [("optional".toList, .bool part.isOptional), ("default".toList, .bool part.hasDefault)]
    | _ => []

/-- The word for a truth value in the text of a part. -/
def truthText (b : Bool) : Text := if b then "True".toList else "False".toList

/-- A part with its fields named, its raw text quoted. -/
def fieldsText (part : Part) : Text :=
  part.kind.label ++ "(raw=".toList ++ Text.quote part.raw ++
    ", span=".toList ++ part.span.fieldsText ++
    (if part.kind = .name then
      ", optional=".toList ++ truthText part.isOptional ++
        ", default=".toList ++ truthText part.hasDefault
    else []) ++ [')']

/-- The names of the fields of a part. Only a name has flags to show. -/
def fieldNames (part : Part) : List Text :=
  ["raw".toList, "span".toList] ++
    if part.kind = .name then ["optional".toList, "default".toList] else []

/-- The number of different parts in a list. -/
def countDistinct (parts : List Part) : Nat := parts.eraseDups.length

/-- A part that is made has the kind, the text and the span it was made from, checked or not. -/
theorem build_eq_ok {strict : Bool} {kind : PartKind} {raw : Text} {span : Span} {part : Part}
    {log : List Record} (h : build strict kind raw span = (.ok part, log)) :
    part = of kind raw span ∧ log = [] := by
  unfold build at h
  split at h
  · simp at h
  · simp only [Prod.mk.injEq, Except.ok.injEq] at h
    exact ⟨h.1.symm, h.2.symm⟩

end Part

end DocTag
