import DocTag.CommandLine.Run

/-!
# Steps of a session

A session is a tree of steps: parts are made under names and looked at, the surroundings of the
settings change, command lines run, and blocks of steps run under an override of the checks. A block
may let the first failure in it escape; any other group of steps keeps its failures to itself.

Every step is answered, by what it was asked for or by a failure, together with the records that the
step itself left. A group answers with the answers of its steps.
-/

namespace DocTag

/-- One step of a session. -/
inductive Step
  /-- Makes a part and binds it to a name. -/
  | make (name : Text) (kind : PartKind) (raw : Text) (span : Span)
  /-- Finds out whether parts are checked, by making one that breaks a rule. -/
  | probe
  /-- What a part says. -/
  | parsed (name : Text)
  /-- The span of the first visible line of a comment. -/
  | trimmed (name : Text)
  /-- Everything there is to say of a part. -/
  | describe (name : Text)
  /-- A part with its fields named. -/
  | fields (name : Text)
  /-- Whether two parts are the same. -/
  | same (first second : Text)
  /-- How many of the named parts are different. -/
  | distinct (names : List Text)
  /-- Tries to set a field of a part. -/
  | assign (name field : Text)
  /-- Runs steps under an override; the first failure may escape. -/
  | block (override : Option Bool) (escaping : Bool) (steps : List Step)
  /-- Puts an override in force until it is taken back by name. -/
  | enter (name : Text) (override : Option Bool)
  /-- Takes an override back. -/
  | leave (name : Text)
  /-- Runs steps that start under the override in force and change it for themselves alone. -/
  | fork (steps : List Step)
  /-- Runs steps that start without an override and change it for themselves alone. -/
  | thread (steps : List Step)
  /-- Sets a variable of the environment. -/
  | setVariable (name value : Text)
  /-- Removes a variable from the environment. -/
  | dropVariable (name : Text)
  /-- Replaces the environment file. -/
  | setFile (file : Option Text)
  /-- Forgets the settings that are kept. -/
  | clearCache
  /-- Asks for the settings. -/
  | settings
  /-- Runs a command line. -/
  | command (invocation : CommandLine.Invocation)
  deriving Inhabited

/-- What a step was asked for. -/
inductive Value
  | nothing
  | part (p : Part)
  | strict (b : Bool)
  | text (t : Text)
  | span (s : Span)
  | description (j : Json)
  | truth (b : Bool)
  | count (n : Nat)
  | settings (s : Settings)
  | outcome (o : CommandLine.Outcome)

/-- The answer to a step. -/
inductive Answer
  /-- The step did what it was asked for. -/
  | value (v : Value) (log : List Record)
  /-- The step failed. -/
  | failure (f : Failure) (log : List Record)
  /-- The steps of a group have been run. -/
  | group (answers : List Answer)

namespace Answer

def ofResult (result : Except Failure Value) (log : List Record) : Answer :=
  match result with
  | .ok v => .value v log
  | .error f => .failure f log

/-- The answer to a block out of which a failure may have escaped. -/
def ofBlock (result : Except Answer (List Answer)) : Answer :=
  match result with
  | .ok answers => .group answers
  | .error escaped => escaped

def isFailure : Answer → Bool
  | .failure .. => true
  | _ => false

end Answer

end DocTag
