import DocTag.CommandLine.Run
import Std.Time.Format

/-!
# The program

Gathers what a run depends on, runs the command line and writes what comes of it. Everything that is
decided is decided by `CommandLine.run`.
-/

namespace DocTag.Main

/-- A text as the string that is written. -/
def string (t : Text) : String := String.ofList t

/-- The variables in a block of bytes whose entries, each of them a name, an equals sign and a
value, end in zero bytes. An entry that is no text is left out. -/
def environmentOf (block : List UInt8) : Bindings Text :=
  (block.splitOn 0).filterMap fun entry =>
    match (Utf8.decode entry).map (Text.cut '=') with
    | .ok (name, some value) => some (name, value)
    | _ => none

/-- The environment, or nothing of it where it cannot be listed. -/
def readEnvironment : IO (Bindings Text) := do
  try
    return environmentOf (← IO.FS.readBinFile "/proc/self/environ").toList
  catch _ =>
    return []

/-- The environment file of the directory, if there is one. -/
def readFile : IO (Option Text) := do
  try
    return some (← IO.FS.readFile ".env").toList
  catch _ =>
    return none

/-- The whole input. -/
partial def readInput (stream : IO.FS.Stream) (before : ByteArray) : IO ByteArray := do
  let chunk ← stream.read 65536
  if chunk.isEmpty then return before else readInput stream (before ++ chunk)

/-- The time, as the log shows it. -/
def timestamp : IO Text := do
  let now := Std.Time.DateTime.ofTimestampWithZone (← Std.Time.Timestamp.now) Std.Time.TimeZone.UTC
  return (now.format "uuuu-MM-dd'T'HH:mm:ss.SSSSSS'Z'").toList

end DocTag.Main

open DocTag in
/-- Describes the part that the command line asks for. -/
def main (args : List String) : IO UInt32 := do
  let argv := args.map String.toList
  let bytes ←
    if CommandLine.readsInput argv then Main.readInput (← IO.getStdin) ByteArray.empty
    else pure ByteArray.empty
  match Utf8.decode bytes.toList with
  | .error e =>
    IO.eprintln (Main.string e.message)
    return 1
  | .ok input =>
    let context := Context.start (← Main.readEnvironment) (← Main.readFile)
    let (outcome, _) := CommandLine.run ⟨argv, input, none⟩ context
    IO.eprint (Main.string (outcome.errorOutput (← Main.timestamp)))
    IO.print (Main.string outcome.output)
    match outcome.exitCode with
    | .ok code => return code.toUInt32
    | .error failure =>
      IO.eprintln (Main.string failure.message)
      return 1
