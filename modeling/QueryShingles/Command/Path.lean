/-!
Paths: names with slashes between them, followed from left to right. An empty name and a dot stay
where they are, two dots go one directory up.
-/

set_option autoImplicit false

namespace QueryShingles

structure Path where
  first : String
  rest : List String
deriving DecidableEq, Repr

namespace Path

def split : List Char → List Char × List (List Char)
  | [] => ([], [])
  | c :: rest =>
      let names := split rest
      if c = '/' then ([], names.1 :: names.2) else (c :: names.1, names.2)

def ofString (text : String) : Path :=
  let names := split text.toList
  ⟨String.ofList names.1, names.2.map String.ofList⟩

def names (path : Path) : List String := path.first :: path.rest

def staysPut (name : String) : Bool := name = "" || name = "."

def goesUp (name : String) : Bool := name = ".."

def isTooLong (name : String) : Bool := 255 < name.utf8ByteSize

/-- A lone dash stands for the standard input, also with steps behind it that stay put. -/
def isStandardInput (path : Path) : Bool := path.first = "-" && path.rest.all staysPut

end Path

end QueryShingles
