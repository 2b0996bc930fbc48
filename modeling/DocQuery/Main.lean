import DocQuery.Command.Outcome
/-! The program `gq`. -/

namespace DocQuery

/-- Why a file cannot be read, as the system tells it. -/
def systemError : IO.Error → Command.ReadError
  | .noFileOrDirectory _ code _ => .system "No such file or directory" code.toNat
  | .permissionDenied _ code _ => .system "Permission denied" code.toNat
  | .inappropriateType _ code _ => .system "Is a directory" code.toNat
  | .invalidArgument _ code details => .system details code.toNat
  | .resourceBusy code details => .system details code.toNat
  | .otherError code details => .system details code.toNat
  | e => .system e.toString 0

/-- The files and the input of the system. -/
def systemHost : Command.Host IO where
  fileBytes name := do
    try
      return .ok (← IO.FS.readBinFile name).toList
    catch e => return .error (systemError e)
  inputBytes := do
    let input ← IO.getStdin
    let mut bytes := ByteArray.empty
    let mut more := true
    while more do
      let next ← input.read 65536
      bytes := bytes ++ next
      more := !next.isEmpty
    return bytes.toList

end DocQuery

/-- Runs the program on its arguments. -/
def main (arguments : List String) : IO UInt32 := do
  let outcome ← DocQuery.Command.run DocQuery.systemHost arguments
  IO.print outcome.output
  IO.eprint outcome.errors
  return outcome.code
