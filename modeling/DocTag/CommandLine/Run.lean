import DocTag.CommandLine.Request
import DocTag.CommandLine.Usage
import DocTag.Context

/-!
# Running a command line

A run makes the part that the command line asks for and describes it on one line of output. What it
says besides goes to the error output: a warning for each malformed line of an environment file that
it reads, the log lines that the level of the log lets through, and one message when there is no
description.

The command line is read before the settings are looked at, and the settings before the part is
made. Whether the part is checked depends on the settings of the run and the flag alone, whatever
override is in force around it, and the main statement says that a run leaves that override as it
found it.
-/

namespace DocTag.CommandLine

/-- What a run is given. -/
structure Invocation where
  /-- The arguments. -/
  argv : List Text
  /-- The text of the input. -/
  input : Text
  /-- The settings, where they are not those of the context. -/
  settings : Option Settings

/-! ## What a run leaves -/

/-- What a run writes to the log. -/
inductive Event
  /-- A line of the environment file with this number has been passed over. -/
  | passedOver (line : Nat)
  /-- A part has been made and is about to be described. -/
  | described (kind : PartKind) (span : Span)
  /-- A record of what happened to a part. -/
  | record (r : Record)
  deriving DecidableEq, Repr

namespace Event

def isShown (t : Thresholds) : Event → Bool
  | .passedOver _ => t.showsRecord .warning
  | .described .. => t.showsEvent .debug
  | .record r => t.showsRecord r.severity

/-- The line for an event that happened at a time. -/
def line (timestamp : Text) : Event → Text
  | .passedOver line =>
    "python-dotenv could not parse statement starting at line ".toList ++ Text.ofNat line
  | .described kind span =>
    Json.print <| .object
      [("part".toList, .string kind.word), ("span".toList, .string span.text),
       ("event".toList, .string "cli.described".toList),
       ("timestamp".toList, .string timestamp), ("level".toList, .string "debug".toList)]
  | .record r => r.message

end Event

/-- How a run ends. -/
inductive Outcome
  /-- Help was asked for. -/
  | help
  /-- The command line was refused. -/
  | refused (refusal : Refusal)
  /-- The text breaks a rule for the part that was asked for. -/
  | rejected (v : Violation) (log : List Event)
  /-- The part was described. -/
  | described (part : Part) (log : List Event)
  /-- The run broke off before it had anything to say. -/
  | brokenOff (failure : Failure) (log : List Event)
  deriving DecidableEq, Repr

namespace Outcome

/-- The outcome after some events that were shown before it. -/
def after (events : List Event) : Outcome → Outcome
  | .rejected v log => .rejected v (events ++ log)
  | .described part log => .described part (events ++ log)
  | .brokenOff failure log => .brokenOff failure (events ++ log)
  | outcome => outcome

/-- The exit code, unless the run broke off. -/
def exitCode : Outcome → Except Failure Nat
  | .help | .described .. => .ok 0
  | .refused _ | .rejected .. => .ok 2
  | .brokenOff failure _ => .error failure

def output : Outcome → Text
  | .help => CommandLine.help
  | .described part _ => part.describe.print ++ ['\n']
  | .refused _ | .rejected .. | .brokenOff .. => []

/-- The events that are shown in the log. -/
def log : Outcome → List Event
  | .rejected _ log | .described _ log | .brokenOff _ log => log
  | .help | .refused _ => []

/-- The message on the error output, after the log. -/
def message : Outcome → Text
  | .refused refusal => complaint refusal
  | .rejected v _ => "error: ".toList ++ v.message ++ ['\n']
  | .help | .described .. | .brokenOff .. => []

/-- What is written to the error output by a run at a time. -/
def errorOutput (o : Outcome) (timestamp : Text) : Text :=
  (o.log.flatMap fun event => event.line timestamp ++ ['\n']) ++ o.message

end Outcome

/-! ## Answering a request -/

/-- The raw text that a request is about, if it gives any. -/
def Request.raw? (r : Request) (input : Text) : Option Text :=
  match r.operand with
  | .text t => some (if t = ['-'] then input else t)
  | .nothing => none

/-- Whether a command line asks for the input to be read. -/
def readsInput (argv : List Text) : Bool :=
  match parse argv with
  | .ok r => r.operand == .text ['-']
  | .error _ => false

/-- Makes the part that a request is about, checked as the settings and the request say. A request
that gives no text fails before anything is made. -/
def Request.make (r : Request) (input : Text) (s : Settings) (ctx : Context) :
    (Except Failure Part × List Record) × Context :=
  match r.raw? input with
  | some raw =>
    ctx.within (some (s.strictParts && !r.noStrict)) fun inner =>
      inner.construct r.kind raw (Span.covering raw r.start)
  | none => ((.error .noText, []), ctx)

/-- How a run ends once it has tried to make its part, given the records of the attempt. A part
whose span cannot be written is not described. -/
def conclude (t : Thresholds) : Except Failure Part → List Record → Outcome
  | .error (.violation v), records =>
    .rejected v ((records.map Event.record).filter (Event.isShown t))
  | .error failure, records =>
    .brokenOff failure ((records.map Event.record).filter (Event.isShown t))
  | .ok part, records =>
    if part.span.isWritable then
      .described part <| (records.map Event.record ++
        .described part.kind part.span :: part.records.map Event.record).filter (Event.isShown t)
    else .brokenOff .unwritable ((records.map Event.record).filter (Event.isShown t))

/-- Answers a request under some settings and thresholds. -/
def answer (r : Request) (input : Text) (s : Settings) (t : Thresholds) (ctx : Context) :
    Outcome × Context :=
  let (made, next) := r.make input s ctx
  (conclude t made.1 made.2, next)

/-! ## Runs -/

def settingsFor (inv : Invocation) (ctx : Context) : Except (List Issue) Settings × Context :=
  match inv.settings with
  | some s => (.ok s, ctx)
  | none => ctx.settings

/-- The warnings that a run shows while it gets its settings. They come before it asks for a level
of the log, so they are all shown unless an earlier run has asked for one. -/
def warningsFor (inv : Invocation) (ctx : Context) : List Event :=
  match inv.settings with
  | some _ => []
  | none =>
    (ctx.malformedLines.map Event.passedOver).filter fun event =>
      (ctx.thresholds.map event.isShown).getD true

def run (inv : Invocation) (ctx : Context) : Outcome × Context :=
  match parse inv.argv with
  | .error .help => (.help, ctx)
  | .error (.refused refusal) => (.refused refusal, ctx)
  | .ok request =>
    match settingsFor inv ctx with
    | (.error issues, next) =>
      (.brokenOff (.invalidSettings issues) (warningsFor inv ctx), next)
    | (.ok s, next) =>
      let t := Thresholds.request next.thresholds s.logLevel
      let (outcome, last) := answer request inv.input s t { next with thresholds := some t }
      (outcome.after (warningsFor inv ctx), last)

/-- Runs a command line under settings made from arguments for them and the environment alone. The
settings are made before anything else. -/
def runConfigured (arguments : Bindings Json) (inv : Invocation) (ctx : Context) :
    Outcome × Context :=
  match Settings.resolve ⟨arguments, ctx.environment, none⟩ with
  | .error issues => (.brokenOff (.invalidSettings issues) [], ctx)
  | .ok s => run { inv with settings := some s } ctx

/-- An answer leaves the override as it found it, whether or not there is a text to make a part
of. -/
theorem answer_override (r : Request) (input : Text) (s : Settings) (t : Thresholds)
    (ctx : Context) : (answer r input s t ctx).2.override = ctx.override := by
  show (r.make input s ctx).2.override = ctx.override
  unfold Request.make
  cases r.raw? input with
  | none => rfl
  | some raw => exact ctx.within_override _ _

/-- A run leaves the override as it found it, however it ends. -/
theorem run_override (inv : Invocation) (ctx : Context) :
    (run inv ctx).2.override = ctx.override := by
  have kept : (settingsFor inv ctx).2.override = ctx.override := by
    unfold settingsFor
    split
    · rfl
    · exact ctx.settings_override
  unfold run
  cases parse inv.argv with
  | error stop => cases stop <;> rfl
  | ok request =>
    rcases hfound : settingsFor inv ctx with ⟨result, next⟩
    rw [hfound] at kept
    cases result with
    | error issues => exact kept
    | ok s =>
      let t := Thresholds.request next.thresholds s.logLevel
      have hanswer := answer_override request inv.input s t { next with thresholds := some t }
      exact hanswer.trans kept

end DocTag.CommandLine
