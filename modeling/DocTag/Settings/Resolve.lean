import DocTag.Settings.Basic
import DocTag.Settings.DotEnv
import DocTag.Text.Lowercase

/-!
# Resolving settings

The value of a field comes from the first of three sources that has it: the arguments given for it,
the environment, and an environment file. Each source knows a field by the name of its variable or
by its plain name, whatever the case of the letters; within one source the name of the variable
comes first, and among arguments the spelling of the field itself.

A value is found under a name of its field. An argument is found under the name that it is spelled
with, if it is spelled as the field is, and under the name of the variable otherwise; a variable is
found under either name. The sources are put together name by name. When they know a field by
different names, the name of the variable decides, and the plain name is left over as a name that no
field was taken from; an argument that is spelled as the field is takes the place of both.

Unknown arguments and unknown variables of the file with a value are issues; unknown variables of
the environment are not looked at. The settings are the values read when there is no issue at all.
-/

namespace DocTag

/-- What settings are made from. -/
structure Sources where
  /-- Values given for the fields directly. -/
  arguments : Bindings Json
  /-- The variables of the environment. -/
  environment : Bindings Text
  /-- The text of the environment file, if there is one. -/
  file : Option Text

/-! ## Variables -/

/-- Variables by name in small letters. -/
abbrev Variables := Bindings (Option Text)

namespace Variables

/-- Forgets the case of the names; of names that differ in nothing else the last one stays. -/
def ofBindings (b : Bindings (Option Text)) : Variables :=
  Bindings.setAll [] (b.map fun entry => (Text.lower entry.1, entry.2))

def value? (v : Variables) (name : Text) : Option Text := (v.get? (Text.lower name)).join

end Variables

namespace Sources

def environmentVariables (s : Sources) : Variables :=
  Variables.ofBindings (s.environment.map fun entry => (entry.1, some entry.2))

def fileVariables (s : Sources) : Variables :=
  match s.file with
  | some file => Variables.ofBindings (DotEnv.read file)
  | none => []

end Sources

/-! ## Fields -/

/-- A value that a source has for a field, and the name of the field that it has it under. -/
structure Finding where
  /-- The name of the variable or the plain name. -/
  key : Text
  /-- The value. -/
  value : Json

namespace Field

/-- Whether a text is a name of the field in some spelling. -/
def isNamedBy (f : Field) (text : Text) : Bool := (f.keys.map Text.lower).contains (Text.lower text)

/-- The argument under a name: the first one that spells it, whatever the case of the letters. -/
def argument? (arguments : Bindings Json) (name : Text) : Option Json :=
  (arguments.find? fun entry => Text.lower entry.1 == Text.lower name).map Prod.snd

/-- The name of the field that some argument spells exactly, if there is one. -/
def spelledKey? (f : Field) (arguments : Bindings Json) : Option Text :=
  f.keys.find? fun key => (arguments.get? key).isSome

def inArguments? (f : Field) (arguments : Bindings Json) : Option Finding :=
  (f.keys.findSome? (argument? arguments)).map fun value =>
    ⟨(f.spelledKey? arguments).getD f.variableName, value⟩

def inVariables? (f : Field) (v : Variables) : Option Finding :=
  f.keys.findSome? fun key => (v.value? key).map fun value => ⟨key, .string value⟩

/-- What the sources say of a field, in their order. -/
def findings (f : Field) (s : Sources) : List Finding :=
  [f.inArguments? s.arguments, f.inVariables? s.environmentVariables,
    f.inVariables? s.fileVariables].filterMap id

/-- The finding that decides the value of a field, if there is any, and the names of the field that
are left over. -/
def deciding (f : Field) (s : Sources) : Option Finding × List Text :=
  if (f.spelledKey? s.arguments).isSome then (f.inArguments? s.arguments, [])
  else
    let (underVariable, underName) := (f.findings s).partition fun found =>
      found.key == f.variableName
    match underVariable with
    | found :: _ => (some found, underName.map Finding.key)
    | [] => (underName.head?, [])

/-- Reads the value of a field by the rule for it, or takes the default. -/
def readWith {α : Type} (f : Field) (s : Sources) (rule : Json → Except Problem α) (default : α) :
    Except Issue α :=
  match (f.deciding s).1 with
  | none => .ok default
  | some found =>
    match rule found.value with
    | .ok value => .ok value
    | .error problem => .error ⟨found.key, problem⟩

end Field

/-! ## Putting the fields together -/

namespace Sources

def unknownArguments (s : Sources) : List Text :=
  (s.arguments.map Prod.fst).filter fun key => !Field.all.any fun f => f.isNamedBy key

/-- The variables of the environment file that are no field's and have a value. -/
def unknownVariables (s : Sources) : List Text :=
  s.fileVariables.filterMap fun (name, value) =>
    if (value.getD []).isEmpty || Field.all.any fun f => f.isNamedBy name then none else some name

/-- The names that are left over once every field has its value. -/
def leftover (s : Sources) : List Text :=
  let unused := Field.all.flatMap fun f => (f.deciding s).2
  (s.unknownArguments ++ s.unknownVariables ++ unused).eraseDups

def strictParts (s : Sources) : Except Issue Bool :=
  Field.strictParts.readWith s Json.readTruth Settings.default.strictParts

/-- The name of the level of the log. -/
def logLevel (s : Sources) : Except Issue Text :=
  Field.logLevel.readWith s Json.readText Settings.default.logLevel

/-- Everything that is wrong with the sources. -/
def issues (s : Sources) : List Issue :=
  (match s.strictParts with
    | .ok _ => []
    | .error issue => [issue]) ++
  (match s.logLevel with
    | .ok _ => []
    | .error issue => [issue]) ++
  s.leftover.map fun name => ⟨name, .extraName⟩

end Sources

/-- The settings that some sources give, or everything that is wrong with them. -/
def Settings.resolve (s : Sources) : Except (List Issue) Settings :=
  match s.strictParts, s.logLevel, s.leftover with
  | .ok strictParts, .ok logLevel, [] => .ok ⟨strictParts, logLevel⟩
  | _, _, _ => .error s.issues

/-- Sources give settings exactly when nothing is wrong with them. -/
theorem Settings.resolve_eq_ok_iff {s : Sources} :
    (∃ settings, Settings.resolve s = .ok settings) ↔ s.issues = [] := by
  unfold Settings.resolve Sources.issues
  cases s.strictParts <;> cases s.logLevel <;> cases s.leftover <;> simp

end DocTag
