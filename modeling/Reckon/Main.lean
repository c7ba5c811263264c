import Reckon.Cli.Run

/-!
# The program

Collects the command line, the environment and, if a descriptor is read from it, the input, and hands out
what the run leaves behind. Where the run takes words from outside, there are none.
-/

/-- Reads the rest of a stream. -/
partial def Reckon.readRest (stream : IO.FS.Stream) (read : ByteArray) : IO ByteArray := do
  let bytes ← stream.read 65536
  if bytes.isEmpty then return read
  else readRest stream (read ++ bytes)

def main (args : List String) : IO UInt32 := do
  let environment ← IO.getEnv "RUST_LOG"
  let stdin ←
    if Reckon.Cli.readsInput args then Reckon.readRest (← IO.getStdin) ByteArray.empty
    else pure ByteArray.empty
  let outcome := Reckon.Cli.run .silent args stdin environment
  IO.print outcome.stdout
  IO.eprint outcome.stderr
  return outcome.code.toUInt32
