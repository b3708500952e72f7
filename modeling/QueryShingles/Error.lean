import QueryShingles.Command.Directory
import QueryShingles.Document.Reader
import QueryShingles.Token

/-!
All that can go wrong around the making of shingles, which itself never fails.
-/

set_option autoImplicit false

namespace QueryShingles

inductive ConfigError where
  | unreadable (path : String) (error : FileError)
  | unusable (error : ReadError)
deriving DecidableEq, Repr

def ConfigError.message : ConfigError → String
  | .unreadable path error =>
      "Failed to read shingle rewriter config '" ++ path ++ "': " ++ error.message
  | .unusable error => "Failed to parse shingle rewriter config: " ++ error.message

inductive ArgumentError where
  | token (error : TokenError)
  | tokensAndInput
  | noQuery
deriving DecidableEq, Repr

def ArgumentError.message : ArgumentError → String
  | .token error => error.message
  | .tokensAndInput => "Pass either query tokens or --input, not both"
  | .noQuery => "No query given. Pass query tokens or --input"

inductive Error where
  | io (error : FileError)
  | json (error : ReadError)
  | config (error : ConfigError)
  | query (error : StructureError)
  | invalidArgument (error : ArgumentError)
deriving DecidableEq, Repr

namespace Error

def kind : Error → ErrorKind
  | .io _ => .io
  | .json _ => .json
  | .config _ => .config
  | .query _ => .query
  | .invalidArgument _ => .invalidArgument

def reason : Error → String
  | .io cause => cause.message
  | .json cause => cause.message
  | .config cause => cause.message
  | .query cause => cause.message
  | .invalidArgument cause => cause.message

def message (error : Error) : String := error.kind.describe error.reason

def textFault? : Error → Option TextFault
  | .json (.text fault) => some fault
  | .config (.unusable (.text fault)) => some fault
  | _ => none

def ofQueryText : QueryTextError → Error
  | .json cause => .json cause
  | .structure cause => .query cause

def ofToken (cause : TokenError) : Error := .invalidArgument (.token cause)

end Error

end QueryShingles
