import LexicalScan.Program

namespace LexicalScan

def ReadFailure.ofIO : IO.Error → ReadFailure
  | .noFileOrDirectory .. => notFound
  | .inappropriateType _ 21 _ => isDirectory
  | .inappropriateType .. => notDirectory
  | .invalidArgument _ 4294967260 _ => nameTooLong
  | .permissionDenied .. => system "Permission denied".toList 13
  | e => system e.toString.toList 0

partial def readToEnd (stream : IO.FS.Stream) (bytes : ByteArray) : IO ByteArray := do
  let chunk ← stream.read 65536
  if chunk.isEmpty then return bytes else readToEnd stream (bytes ++ chunk)

def readSource (path : Text) : IO (Except ReadFailure Text) := do
  try
    if path = ['-'] then
      return decode (← readToEnd (← IO.getStdin) .empty)
    else
      return decode (← IO.FS.readBinFile (String.ofList path))
  catch e =>
    return .error (.ofIO e)

end LexicalScan

open LexicalScan in
def main (args : List String) : IO UInt32 := do
  let outcome ← Program.run readSource (args.map String.toList)
  IO.print (String.ofList outcome.stdout)
  IO.eprint (String.ofList outcome.stderr)
  return outcome.exit
