import QueryShingles.Command.Path

/-!
Reading files. A directory holds files by name and no directories, and a path is followed through
it name by name.
-/

set_option autoImplicit false

namespace QueryShingles

inductive FileError where
  | system (code : Nat) (description : String)
  | notText
  | nulInPath
deriving DecidableEq, Repr

namespace FileError

def notFound : FileError := .system 2 "No such file or directory"

def notADirectory : FileError := .system 20 "Not a directory"

def isADirectory : FileError := .system 21 "Is a directory"

def nameTooLong : FileError := .system 36 "File name too long"

def message : FileError → String
  | .system code description => description ++ " (os error " ++ toString code ++ ")"
  | .notText => "stream did not contain valid UTF-8"
  | .nulInPath => "file name contained an unexpected NUL byte"

end FileError

structure Directory where
  files : List (String × ByteArray)

namespace Directory

def decode (bytes : ByteArray) : Except FileError String :=
  match String.fromUTF8? bytes with
  | some text => .ok text
  | none => .error .notText

def followFile (bytes : ByteArray) (rest : List String) : Except FileError String :=
  if rest.isEmpty then decode bytes else .error .notADirectory

def followOutside : List String → Except FileError String
  | [] => .error .isADirectory
  | name :: rest =>
      if Path.staysPut name || Path.goesUp name then followOutside rest
      else if Path.isTooLong name then .error .nameTooLong
      else .error .notFound

def follow (directory : Directory) : List String → Except FileError String
  | [] => .error .isADirectory
  | name :: rest =>
      if Path.staysPut name then directory.follow rest
      else if Path.goesUp name then followOutside rest
      else if Path.isTooLong name then .error .nameTooLong
      else
        match directory.files.lookup name with
        | some bytes => followFile bytes rest
        | none => .error .notFound

def read (directory : Directory) (text : String) : Except FileError String :=
  if text.toList.contains '\x00' then .error .nulInPath
  else if text = "" then .error .notFound
  else if 4095 < text.utf8ByteSize then .error .nameTooLong
  else
    let path := Path.ofString text
    if path.first = "" then followOutside path.rest else directory.follow path.names

end Directory

end QueryShingles
