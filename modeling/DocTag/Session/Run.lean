import DocTag.Session.State

/-!
# Running a session

Steps run one after another, each in the state that the one before it has left. A group of steps
ends with the override that was in force when it started, whichever way it ends: when its steps are
used up, or when a failure escapes from a block.

The main statement says so.
-/

namespace DocTag

mutual
def Step.run (s : Session) : Step → Answer × Session
  | .make name kind raw span => s.make name kind raw span
  | .probe => s.probe
  | .parsed name => (s.read name fun part => .text part.parsed, s)
  | .trimmed name => (s.trimmed name, s)
  | .describe name => (s.read name fun part => .description part.describe, s)
  | .fields name => (s.fields name, s)
  | .same first second => (s.same first second, s)
  | .distinct names => (s.distinct names, s)
  | .assign name field => (s.assign name field, s)
  | .block override true steps =>
    match Step.runUntilFailure (s.withOverride override) steps with
    | (result, t) => (Answer.ofBlock result, t.withOverride s.override)
  | .block override false steps =>
    match Step.runAll (s.withOverride override) steps with
    | (answers, t) => (.group answers, t.withOverride s.override)
  | .enter name override => (.value .nothing [], s.enter name override)
  | .leave name => (.value .nothing [], s.leave name)
  | .fork steps =>
    match Step.runAll s steps with
    | (answers, t) => (.group answers, t.withOverride s.override)
  | .thread steps =>
    match Step.runAll (s.withOverride none) steps with
    | (answers, t) => (.group answers, t.withOverride s.override)
  | .setVariable name value =>
    (.value .nothing [], s.changeEnvironment fun environment => environment.set name value)
  | .dropVariable name =>
    (.value .nothing [], s.changeEnvironment fun environment => environment.erase name)
  | .setFile file => (.value .nothing [], s.setFile file)
  | .clearCache => (.value .nothing [], s.clearCache)
  | .settings => s.settings
  | .command invocation => s.command invocation
/-- Runs steps to the end, whatever fails. -/
def Step.runAll (s : Session) : List Step → List Answer × Session
  | [] => ([], s)
  | step :: rest =>
    let (answer, t) := step.run s
    let (answers, u) := Step.runAll t rest
    (answer :: answers, u)
/-- Runs steps up to the first one that fails; its answer is then that of the whole. -/
def Step.runUntilFailure (s : Session) : List Step → Except Answer (List Answer) × Session
  | [] => (.ok [], s)
  | step :: rest =>
    let (answer, t) := step.run s
    if answer.isFailure then (.error answer, t)
    else
      match Step.runUntilFailure t rest with
      | (.ok answers, u) => (.ok (answer :: answers), u)
      | (.error failure, u) => (.error failure, u)
end

/-- A block leaves the override as it found it, whichever way it ends. -/
theorem Step.block_override (s : Session) (override : Option Bool) (escaping : Bool)
    (steps : List Step) : ((Step.block override escaping steps).run s).2.override = s.override := by
  cases escaping <;> rw [Step.run] <;> rfl

/-- Runs the steps of a session in which nothing has happened before. -/
def Session.run (environment : Bindings Text) (file : Option Text) (steps : List Step) :
    List Answer :=
  (Step.runAll (Session.start environment file) steps).1

end DocTag
