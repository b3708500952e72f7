/-!
The kinds of failure that a user is told about.
-/

set_option autoImplicit false

namespace QueryShingles

inductive ErrorKind where
  | io
  | json
  | config
  | query
  | invalidArgument
deriving DecidableEq, Repr

namespace ErrorKind

def heading : ErrorKind → String
  | .io => "I/O error"
  | .json => "JSON error"
  | .config => "Configuration error"
  | .query => "Query error"
  | .invalidArgument => "Invalid argument"

def describe (kind : ErrorKind) (reason : String) : String := kind.heading ++ ": " ++ reason

end ErrorKind

end QueryShingles
