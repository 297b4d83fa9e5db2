import RowQuery.Command.Run
/-!
# The command

Runs the command line, with the standard input read where it is wanted and
no terminal.
-/

namespace RowQuery

namespace Command

/-- All bytes of a stream, behind those that were read before. -/
partial def readBytes (stream : IO.FS.Stream) (before : ByteArray) : IO ByteArray := do
  let bytes ← stream.read 65536
  if bytes.isEmpty then pure before else readBytes stream (before ++ bytes)

end Command

end RowQuery

open RowQuery Command in
/-- The command. -/
def main (args : List String) : IO UInt32 := do
  let stdin ← IO.getStdin
  let reads := (requestOf args).any Request.readsInput
  let bytes ← if reads && !(← stdin.isTty) then some <$> readBytes stdin .empty else pure none
  let outcome := run .plain args bytes
  IO.print outcome.output
  IO.eprint outcome.errors
  pure (UInt32.ofNat outcome.code)
