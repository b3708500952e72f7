/-!
What a user asks of the program.
-/

set_option autoImplicit false

namespace QueryShingles

inductive OutputFormat where
  | human
  | json
deriving DecidableEq, Repr

structure Arguments where
  verbose : Nat
  quiet : Bool
  format : OutputFormat
  pretty : Bool
  tokens : List String
  input : Option String
  config : Option String
  acceptGenerated : Bool
deriving DecidableEq, Repr

def Arguments.verbosity (arguments : Arguments) : Nat :=
  if arguments.quiet then 0
  else if arguments.verbose = 0 then 1
  else arguments.verbose

end QueryShingles
