/-
  EventAlerts/Main.lean
  =====================
  **The program** — reads what a command needs and prints its answer.
-/
import EventAlerts.Program.CommandLine
import Std.Time.DateTime.Timestamp

namespace EventAlerts.Program

/-- The bytes of a file, if it can be read. -/
def readFile? (path : String) : IO (Option ByteArray) :=
  try
    return some (← IO.FS.readBinFile path)
  catch _ =>
    return none

/-- All that is left of a stream. -/
partial def readAll (stream : IO.FS.Stream) (sofar : ByteArray) : IO ByteArray := do
  let bytes ← stream.read 65536
  if bytes.isEmpty then return sofar
  readAll stream (sofar ++ bytes)

/-- The time in UTC. -/
def wallTime : IO Time.Stamp := do
  let t ← Std.Time.Timestamp.now
  return ⟨t.toNanosecondsSinceUnixEpoch.val⟩

/-- Reads what the words ask for. -/
def gather (words : List String) : IO Invocation.Inputs := do
  let some c := Invocation.parse? words | return { file := fun _ => none }
  let files ← c.paths.mapM fun path => do return (path, ← readFile? path)
  let stdin ← if c.readsStdin then readAll (← IO.getStdin) ByteArray.empty else pure ByteArray.empty
  return { file := fun path => (files.lookup path).bind id, stdin := stdin, now := ← wallTime }

end EventAlerts.Program

/-- Prints what the program answers to its words. -/
def main (words : List String) : IO UInt32 := do
  let r := EventAlerts.execute (← EventAlerts.Program.gather words) words
  IO.print r.stdout
  IO.eprint r.stderr
  return r.code.toUInt32
