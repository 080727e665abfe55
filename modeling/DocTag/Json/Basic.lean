import DocTag.Text.Digits

/-!
# JSON values

The values that settings are given as and that descriptions are printed as. Numbers are integers of
any size. The members of an object keep their order.

A value is printed on one line: a comma or a colon is followed by a space, and a string escapes the
quote, the backslash and the control characters below the space, everything else being itself.
-/

namespace DocTag

/-- A JSON value. -/
inductive Json
  | null
  | bool (value : Bool)
  | int (value : Int)
  | string (value : Text)
  | array (items : List Json)
  | object (members : List (Text × Json))
  deriving Inhabited

namespace Json

/-- A character as it stands in a JSON string. -/
def escape (c : Char) : Text :=
  if c = '"' then "\\\"".toList
  else if c = '\\' then "\\\\".toList
  else if c = '\n' then "\\n".toList
  else if c = '\r' then "\\r".toList
  else if c = '\t' then "\\t".toList
  else if c = '\x08' then "\\b".toList
  else if c = '\x0c' then "\\f".toList
  else if c.toNat < 0x20 then "\\u".toList ++ Text.hex 4 c.toNat
  else [c]

def printString (t : Text) : Text := '"' :: t.flatMap escape ++ ['"']

mutual
def print : Json → Text
  | .null => "null".toList
  | .bool value => if value then "true".toList else "false".toList
  | .int value => Text.ofInt value
  | .string value => printString value
  | .array items => '[' :: Text.join ", ".toList (printItems items) ++ [']']
  | .object members => '{' :: Text.join ", ".toList (printMembers members) ++ ['}']
/-- The items of an array, each printed. -/
def printItems : List Json → List Text
  | [] => []
  | item :: rest => item.print :: printItems rest
/-- The members of an object, each printed with its name. -/
def printMembers : List (Text × Json) → List Text
  | [] => []
  | (name, value) :: rest =>
    (printString name ++ ": ".toList ++ value.print) :: printMembers rest
end

example : (Json.object [("a".toList, .array [.int (-1), .null]), ("b".toList, .bool true)]).print =
    "\x7b\"a\": [-1, null], \"b\": true\x7d".toList := by decide +kernel
example : printString ['"', '\x1f', '\x7f'] = "\"\\\"\\u001f\x7f\"".toList := by decide +kernel

end Json

end DocTag
