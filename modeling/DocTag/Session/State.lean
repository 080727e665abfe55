import DocTag.Session.Step

/-!
# The state of a session

A session has a context, the parts that were made under names, and the overrides that were in force
when others were put in their place by hand. The functions here are the steps that hold no steps of
their own.
-/

namespace DocTag

/-- The state of a session. -/
structure Session where
  /-- The context in which parts are made. -/
  context : Context
  /-- The parts by name. -/
  parts : Bindings Part
  /-- For each override that was put in force by hand, by name, the one that it replaced. -/
  blocks : Bindings (Option Bool)

namespace Session

/-- A session in which nothing has happened yet. -/
def start (environment : Bindings Text) (file : Option Text) : Session :=
  ⟨Context.start environment file, [], []⟩

def override (s : Session) : Option Bool := s.context.override

def withOverride (s : Session) (override : Option Bool) : Session :=
  { s with context := { s.context with override } }

/-! ## Making parts -/

/-- Makes a part and binds it to a name, in place of any part that had the name. -/
def make (s : Session) (name : Text) (kind : PartKind) (raw : Text) (span : Span) :
    Answer × Session :=
  match s.context.construct kind raw span with
  | ((.ok part, log), context) =>
    (.value (.part part) log, { s with context, parts := s.parts.set name part })
  | ((.error f, log), context) => (.failure f log, { s with context })

/-- The text that a probe tries to make a keyword of: it has no at sign. -/
def probeText : Text := "x".toList

def probe (s : Session) : Answer × Session :=
  match s.context.construct .keyword probeText (Span.empty 0) with
  | ((.ok _, log), context) => (.value (.strict false) log, { s with context })
  | ((.error (.violation _), log), context) => (.value (.strict true) log, { s with context })
  | ((.error f, log), context) => (.failure f log, { s with context })

/-! ## Looking at parts -/

def part (s : Session) (name : Text) : Except Failure Part :=
  match s.parts.get? name with
  | some part => .ok part
  | none => .error (.unboundPart name)

/-- A part with its fields named, if its span can be written. -/
def fields (s : Session) (name : Text) : Answer :=
  Answer.ofResult (do
    let part ← s.part name
    if part.span.isWritable then pure (.text part.fieldsText) else throw .unwritable) []

/-- Looks at a part in a way that reads its text. -/
def read (s : Session) (name : Text) (view : Part → Value) : Answer :=
  match s.part name with
  | .ok part => .value (view part) part.records
  | .error f => .failure f []

/-- The span of the first visible line of the part that has a name, which only a comment has. -/
def trimmed (s : Session) (name : Text) : Answer :=
  match s.part name with
  | .ok part =>
    match part.trimmedSpan? with
    | some span => .value (.span span) []
    | none => .failure (.noTrimmedSpan part.kind) []
  | .error f => .failure f []

def same (s : Session) (first second : Text) : Answer :=
  Answer.ofResult (do
    let a ← s.part first
    let b ← s.part second
    pure (.truth (a == b))) []

/-- How many of the named parts are different. -/
def distinct (s : Session) (names : List Text) : Answer :=
  Answer.ofResult (do
    let parts ← names.mapM s.part
    pure (.count (Part.countDistinct parts))) []

/-- Tries to set a field of a part, which never succeeds. -/
def assign (s : Session) (name field : Text) : Answer :=
  match s.part name with
  | .ok part =>
    .failure (if part.fieldNames.contains field then .frozenField field else .noSuchField) []
  | .error f => .failure f []

/-! ## Changing the surroundings -/

/-- Puts an override in force, and keeps the one it replaces under a name. -/
def enter (s : Session) (name : Text) (override : Option Bool) : Session :=
  { s.withOverride override with blocks := s.blocks.set name s.override }

/-- Puts the override back that was replaced under a name. Once that is done the name stands for
nothing. -/
def leave (s : Session) (name : Text) : Session :=
  match s.blocks.get? name with
  | some replaced => { s.withOverride replaced with blocks := s.blocks.erase name }
  | none => s

def changeEnvironment (s : Session) (change : Bindings Text → Bindings Text) : Session :=
  { s with context := { s.context with environment := change s.context.environment } }

def setFile (s : Session) (file : Option Text) : Session :=
  { s with context := { s.context with file } }

def clearCache (s : Session) : Session := { s with context := { s.context with cache := none } }

def settings (s : Session) : Answer × Session :=
  match s.context.settings with
  | (.ok found, context) => (.value (.settings found) [], { s with context })
  | (.error issues, context) => (.failure (.invalidSettings issues) [], { s with context })

/-- Runs a command line. A run that breaks off is a failure; what a run logs is part of its
outcome. -/
def command (s : Session) (invocation : CommandLine.Invocation) : Answer × Session :=
  let (outcome, context) := CommandLine.run invocation s.context
  (Answer.ofResult (outcome.exitCode.map fun _ => .outcome outcome) [], { s with context })

end Session

end DocTag
