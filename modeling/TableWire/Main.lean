import TableWire.CommandLine.Run

/-!
The program on the command line.
-/
namespace TableWire.CommandLine

/-- All bytes that a stream still holds, behind those already found. -/
partial def readToEnd (stream : IO.FS.Stream) (found : ByteArray) : IO ByteArray := do
  let more ← stream.read 65536
  if more.isEmpty then return found else readToEnd stream (found ++ more)

/-- Files on disk and the standard streams. -/
def disk : Host IO where
  readInput := do return (← readToEnd (← IO.getStdin) .empty).data.toList
  readFile path := do
    try return some (← IO.FS.readBinFile path).data.toList catch _ => return none
  writeFile path text := do
    try
      IO.FS.writeFile path text
      return true
    catch _ => return false
  print text := IO.print text

/-- What is told about a problem. -/
def Problem.message : Problem → String
  | .usage => "usage: kserial gen [OPTIONS] | kserial layout [OPTIONS] | kserial --version"
  | .access => "a file could not be read or written"
  | .schema diagnostic => diagnostic.message

end TableWire.CommandLine

open TableWire.CommandLine in
def main (args : List String) : IO UInt32 := do
  let result ← run disk args
  if let .error problem := result then IO.eprintln problem.message
  return (exitStatus result).toUInt32
