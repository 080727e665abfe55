import DocTag.Text.Blank

/-!
# Kinds of parts

A documentation tag is made of up to four parts: the kind of the tag, a type, a name and a comment.
-/

namespace DocTag

/-- What a part of a documentation tag is. -/
inductive PartKind
  /-- The free text of a tag. -/
  | comment
  /-- The keyword that opens a tag, such as `@param`. -/
  | keyword
  /-- The name that a tag is about. -/
  | name
  /-- A type expression with its braces. -/
  | type
  deriving DecidableEq, Repr

namespace PartKind

/-- All kinds, in the order of their words. -/
def all : List PartKind := [.comment, .keyword, .name, .type]

def word : PartKind → Text
  | .comment => "comment".toList
  | .keyword => "kind".toList
  | .name => "name".toList
  | .type => "type".toList

/-- The kind that a word stands for. -/
def ofWord? (t : Text) : Option PartKind := all.find? fun kind => kind.word == t

/-- The label of a kind in messages and log records. -/
def label : PartKind → Text
  | .comment => "CommentPart".toList
  | .keyword => "TagKindPart".toList
  | .name => "TagTypeNamePart".toList
  | .type => "TagTypePart".toList

/-- A word is read as a kind exactly when it is the word of that kind. -/
theorem ofWord?_eq_some_iff {t : Text} {kind : PartKind} :
    ofWord? t = some kind ↔ t = kind.word := by
  constructor
  · intro h
    exact (eq_of_beq (List.find?_some h :)).symm
  · rintro rfl
    cases kind <;> decide

end PartKind

end DocTag
