import StackTemplate.Command

namespace StackTemplate

-- Some calls of the system report the number of a cause negated.
def errorNumber (code : UInt32) : UInt32 := if code < 0x80000000 then code else 0 - code

def FileError.ofNumber (number : UInt32) (said : String) : FileError :=
  match number with
  | 2 => .notFound
  | 20 => .notDirectory
  | 21 => .isDirectory
  | 36 => .nameTooLong
  | _ => .system s!"{said.capitalize} (os error {number})"

def FileError.ofSystem : IO.Error → FileError
  | .noFileOrDirectory _ _ _ => .notFound
  | .inappropriateType _ code said | .invalidArgument _ code said | .permissionDenied _ code said
  | .resourceExhausted _ code said => .ofNumber (errorNumber code) said
  | other => .system (toString other)

def machineFiles : FileAccess IO where
  read path := do
    try return .ok (← IO.FS.readBinFile path)
    catch cause => return .error (.ofSystem cause)
  write path text := do
    try
      IO.FS.withFile path .write fun file => do
        file.putStr text
        file.flush
      return .ok ()
    catch cause => return .error (.ofSystem cause)

end StackTemplate

open StackTemplate in
def main (arguments : List String) : IO UInt32 := do
  let outcome ← Command.run machineFiles arguments
  (← IO.getStdout).putStr outcome.output
  (← IO.getStderr).putStr outcome.errors
  return outcome.status
