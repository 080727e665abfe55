import DocTag.CommandLine.Word

/-!
# Requests

A command line asks for one part: two operands name its kind and give its raw text, and flags may
stand anywhere among them. Words are taken from left to right. Flags act where they stand, so a
request for help is answered before a mistake further on is seen, and of several offsets the last
one counts. Missing operands are reported when the words are used up, and what was left over after
that.

What stands behind the terminator is an operand whatever it looks like, and it may be a second
terminator. That is the raw text if the first one belongs to it. If the first one belongs to the
word for the kind, the second is taken out as well, and the command line is a request that gives no
text (`Operand.nothing`).

The main statement says that a request is made only when nothing is left over.
-/

namespace DocTag.CommandLine

/-- What a command line gives for the raw text. -/
inductive Operand
  /-- A text. A lone dash stands for the input. -/
  | text (t : Text)
  /-- A terminator that was taken out, so that nothing is left. -/
  | nothing
  deriving DecidableEq, Repr

/-- What an argument gives for the raw text. Of the arguments that belong to an operand one
terminator is taken out; `beside` says that the argument has none in front of it, because another
operand stands there. -/
def Operand.ofArgument (beside : Bool) (t : Text) : Operand :=
  if beside && t == Word.terminatorText then .nothing else .text t

theorem Operand.ofArgument_of_ne (beside : Bool) {t : Text} (h : t ≠ Word.terminatorText) :
    ofArgument beside t = .text t := by
  simp [ofArgument, h]

/-- What a command line asks for. -/
structure Request where
  /-- The kind of the part. -/
  kind : PartKind
  /-- What is given for the raw text. -/
  operand : Operand
  /-- The offset of the part in its source. -/
  start : Nat
  /-- Whether the checks are left out. -/
  noStrict : Bool
  deriving DecidableEq, Repr

/-- What ends a command line before it is a request. -/
inductive Stop
  /-- A request for help. -/
  | help
  /-- A mistake. -/
  | refused (refusal : Refusal)
  deriving DecidableEq, Repr

/-! ## Taking words -/

/-- What the words so far have given. -/
structure Draft where
  /-- The first operand. -/
  kind : Option PartKind
  /-- The second operand. -/
  operand : Option Operand
  /-- The last offset. -/
  start : Nat
  /-- Whether the checks are left out. -/
  noStrict : Bool
  /-- The words that nothing was taken from. -/
  extras : List Text
  deriving DecidableEq, Repr

namespace Draft

/-- What a command line without words gives. -/
def blank : Draft := ⟨none, none, 0, false, []⟩

def isFull (d : Draft) : Bool := d.kind.isSome && d.operand.isSome

def leave (d : Draft) (t : Text) : Draft := { d with extras := d.extras ++ [t] }

/-- Takes an operand: for the kind, for the raw text, or for neither. -/
def giveOperand (d : Draft) (beside : Bool) (t : Text) : Except Stop Draft :=
  match d.kind, d.operand with
  | none, _ =>
    match PartKind.ofWord? t with
    | some kind => .ok { d with kind := some kind }
    | none => .error (.refused (.invalidChoice t))
  | some _, none => .ok { d with operand := some (.ofArgument beside t) }
  | some _, some _ => .ok (d.leave t)

def giveStart (d : Draft) (t : Text) : Except Stop Draft :=
  match Offset.read t with
  | .ok start => .ok { d with start }
  | .error (.negative value) => .error (.refused (.negativeOffset value))
  | .error _ => .error (.refused (.invalidOffset t))

/-- Takes the words from left to right. A terminator belongs to the operand before it, when that one
was asked for, or else to the one after it, and is left over where there is neither; `beside` says
that an operand which was asked for stands right before these words, with the terminator that
belongs to it or without. -/
def take (d : Draft) (beside : Bool) : List Word → Except Stop Draft
  | [] => .ok d
  | .operand t :: rest =>
    match d.giveOperand beside t with
    | .ok next => next.take (!d.isFull) rest
    | .error stop => .error stop
  | .terminator :: rest =>
    if beside || (!d.isFull && !rest.isEmpty) then d.take beside rest
    else (d.leave Word.terminatorText).take false rest
  | .unknown t :: rest => (d.leave t).take false rest
  | .flag .help none :: _ => .error .help
  | .flag .noStrict none :: rest => { d with noStrict := true }.take false rest
  | .flag .start (some value) :: rest =>
    match d.giveStart value with
    | .ok next => next.take false rest
    | .error stop => .error stop
  | .flag .start none :: .operand value :: rest =>
    match d.giveStart value with
    | .ok next => next.take false rest
    | .error stop => .error stop
  | .flag .start none :: _ => .error (.refused (.missingValue .start))
  | .flag flag (some value) :: _ => .error (.refused (.uselessValue flag value))

/-- The request that a draft amounts to. -/
def finish (d : Draft) : Except Stop Request :=
  match d.kind, d.operand with
  | none, _ => .error (.refused (.missingOperands ["part".toList, "raw".toList]))
  | some _, none => .error (.refused (.missingOperands ["raw".toList]))
  | some kind, some operand =>
    if d.extras = [] then .ok ⟨kind, operand, d.start, d.noStrict⟩
    else .error (.refused (.unrecognized d.extras))

/-- A request is made of a draft only when nothing is left over. -/
theorem finish_eq_ok_iff {d : Draft} {r : Request} :
    d.finish = .ok r ↔
      d = ⟨some r.kind, some r.operand, r.start, r.noStrict, []⟩ := by
  obtain ⟨kind, operand, start, noStrict, extras⟩ := d
  obtain ⟨kind', operand', start', noStrict'⟩ := r
  cases kind <;> cases operand <;> cases extras <;> simp [finish]

end Draft

def parse (argv : List Text) : Except Stop Request :=
  match Word.ofArguments argv with
  | .error refusal => .error (.refused refusal)
  | .ok words =>
    match Draft.blank.take false words with
    | .error stop => .error stop
    | .ok d => d.finish

example : parse ["comment".toList, "--".toList, "--".toList] =
    .ok ⟨.comment, .nothing, 0, false⟩ := by rfl
example : parse ["comment".toList, "--no-strict".toList, "--".toList, "--".toList] =
    .ok ⟨.comment, .text "--".toList, 0, true⟩ := by rfl

end DocTag.CommandLine
