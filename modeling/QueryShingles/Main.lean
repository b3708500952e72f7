import QueryShingles.Command.Run

/-!
The program as it is started: what its command line names is read, and what comes of it is printed.
-/

set_option autoImplicit false

namespace QueryShingles

def FileError.ofIO : IO.Error → FileError
  | .noFileOrDirectory _ _ _ => .notFound
  | .permissionDenied _ code _ => .system code.toNat "Permission denied"
  | .inappropriateType _ 20 _ => .notADirectory
  | .inappropriateType _ _ _ => .isADirectory
  | error => .system 5 (toString error)

def readAs (bytes : IO ByteArray) : IO (Except FileError String) := do
  try
    pure (Directory.decode (← bytes))
  catch error =>
    pure (.error (.ofIO error))

def gatherInputs (arguments : Arguments) : IO Inputs := do
  let mut files : List (String × Except FileError String) := []
  for path in arguments.input.toList ++ arguments.config.toList do
    files := (path, ← readAs (IO.FS.readBinFile path)) :: files
  let stdin ←
    if arguments.input.any Command.isStandardInput then readAs (do (← IO.getStdin).readBinToEnd)
    else pure (.ok "")
  let known := files
  pure { file := fun path => (known.lookup path).getD (.error .notFound), stdin }

end QueryShingles

open QueryShingles in
def main (words : List String) : IO UInt32 := do
  let inputs ←
    match Arguments.ofWords words with
    | .ok arguments => gatherInputs arguments
    | .error _ => pure { file := fun _ => .error .notFound, stdin := .ok "" }
  let outcome := Command.program inputs words
  IO.print outcome.stdout
  IO.eprint outcome.stderr
  pure (UInt32.ofNat outcome.status)
