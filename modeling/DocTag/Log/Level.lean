import DocTag.Text.Basic

/-!
# Log levels

How much a log shows. Severities have numbers, a level is the least number that is shown, and a
level is asked for by name. An event passes two thresholds: that of the log itself, which the first
request fixes for good, and a filter, which every request sets anew.

A name that is not known asks for the level of `INFO`.
-/

namespace DocTag

/-- How much a record or an event matters. -/
inductive Severity
  | debug
  | info
  | warning
  | error
  | critical
  deriving DecidableEq, Repr

/-- The number that severities are compared by. -/
def Severity.number : Severity → Nat
  | .debug => 10
  | .info => 20
  | .warning => 30
  | .error => 40
  | .critical => 50

def Severity.all : List Severity := [.debug, .info, .warning, .error, .critical]

namespace Level

/-- The names of levels with their numbers. -/
def named : List (Text × Nat) :=
  [("NOTSET".toList, 0), ("DEBUG".toList, 10), ("INFO".toList, 20), ("WARN".toList, 30),
   ("WARNING".toList, 30), ("ERROR".toList, 40), ("CRITICAL".toList, 50), ("FATAL".toList, 50)]

/-- The capital that a character stands for in the name of a level. Besides the small letters of
ASCII only the dotless i and the long s have an ASCII capital, so no other character can be part of
a name. -/
def capital (c : Char) : Char :=
  if c = 'ı' then 'I' else if c = 'ſ' then 'S' else c.toUpper

/-- The number of the level with a name, in capitals or not. Any other text asks for the level of
`INFO`. -/
def ofName (name : Text) : Nat :=
  match named.find? fun entry => entry.1 == name.map capital with
  | some entry => entry.2
  | none => Severity.info.number

end Level

/-- The two numbers that a severity has to reach to be shown. -/
structure Thresholds where
  /-- The threshold of the log. -/
  log : Nat
  /-- The threshold of the filter before it. -/
  filter : Nat
  deriving DecidableEq, Repr

namespace Thresholds

/-- The thresholds after a level is asked for, given those that were in force, if any: the filter
follows, the threshold of the log is only set where there was none. -/
def request (before : Option Thresholds) (name : Text) : Thresholds :=
  match before with
  | none => ⟨Level.ofName name, Level.ofName name⟩
  | some t => ⟨t.log, Level.ofName name⟩

/-- The thresholds after each of several requests in a row. -/
def requests (before : Option Thresholds) : List Text → List Thresholds
  | [] => []
  | name :: rest =>
    let now := request before name
    now :: requests (some now) rest

/-- Whether a record of this severity is shown: records go to the log directly. -/
def showsRecord (t : Thresholds) (s : Severity) : Bool := t.log ≤ s.number

/-- Whether an event of this severity is shown: events go through the filter first. -/
def showsEvent (t : Thresholds) (s : Severity) : Bool := max t.log t.filter ≤ s.number

def shown (t : Thresholds) : List Severity := Severity.all.filter t.showsEvent

end Thresholds

end DocTag
