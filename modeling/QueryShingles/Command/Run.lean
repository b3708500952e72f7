import QueryShingles.Command.Line
import QueryShingles.Error
import QueryShingles.Shingle.Report

/-!
Carrying out a command: the query is loaded, then the settings, then the shingles are made and the
result is printed. Nothing is printed unless all of it went well.
-/

set_option autoImplicit false

namespace QueryShingles

structure Inputs where
  file : String → Except FileError String
  stdin : Except FileError String

def Command.isStandardInput (path : String) : Bool := (Path.ofString path).isStandardInput

def Inputs.source (inputs : Inputs) (path : String) : Except FileError String :=
  if Command.isStandardInput path then inputs.stdin else inputs.file path

inductive LogLevel where
  | info
  | debug
deriving DecidableEq, Repr

structure LogLine where
  level : LogLevel
  text : String
deriving DecidableEq, Repr

def LogLevel.threshold : LogLevel → Nat
  | .info => 2
  | .debug => 3

def LogLevel.name : LogLevel → String
  | .info => "INFO"
  | .debug => "DEBUG"

def LogLine.render (line : LogLine) : String := "[" ++ line.level.name ++ "] " ++ line.text ++ "\n"

namespace ShingleReport

def human (message : String) (arguments : Arguments) (report : ShingleReport) : String :=
  let level := arguments.verbosity
  (if 0 < level then message ++ "\n\n" else "")
    ++ (if 1 < level then "Original:    " ++ report.before ++ "\n" else "")
    ++ "Rewritten:   " ++ report.after ++ "\n"
    ++ (if 0 < level then "Terms added: " ++ toString report.termsAdded ++ "\n" else "")

def output (message : String) (arguments : Arguments) (report : ShingleReport) : String :=
  match arguments.format with
  | .human => report.human message arguments
  | .json =>
      report.query.toJson.text (if arguments.pretty then .pretty else .compact) ++ "\n"

end ShingleReport

def Arguments.lines (arguments : Arguments) (query rewritten : Query) : List String :=
  match arguments.format with
  | .json => [rewritten.toDocument.toJson.text (if arguments.pretty then .pretty else .compact)]
  | .human =>
      (if 0 < arguments.verbosity then ["Shingled query", ""] else [])
        ++ (if 1 < arguments.verbosity then ["Original:    " ++ query.text] else [])
        ++ ["Rewritten:   " ++ rewritten.text]
        ++ if 0 < arguments.verbosity then ["Terms added: " ++ toString (rewritten.size - query.size)] else []

namespace Command

def loadQuery (inputs : Inputs) (arguments : Arguments) : Except Error Query :=
  match arguments.input, arguments.tokens with
  | some _, _ :: _ => .error (.invalidArgument .tokensAndInput)
  | none, [] => .error (.invalidArgument .noQuery)
  | none, words => (Query.ofWords words).mapError .ofToken
  | some path, [] =>
      match inputs.source path with
      | .error error => .error (.io error)
      | .ok text => (Query.ofText text).mapError .ofQueryText

def readShingling (text : String) : Except Error Shingling :=
  (Shingling.ofText text).mapError fun error => .config (.unusable error)

/-- The settings of a file, or the usual ones; the command line can only switch on. -/
def loadShingling (inputs : Inputs) (arguments : Arguments) : Except Error Shingling := do
  let shingling ←
    match arguments.config with
    | none => pure Shingling.default
    | some path =>
        match inputs.file path with
        | .error error => throw (.config (.unreadable path error))
        | .ok text => readShingling text
  pure (if arguments.acceptGenerated then shingling.setAcceptGenerated true else shingling)

def outputOf (arguments : Arguments) (query : Query) (shingling : Shingling) : String :=
  (ShingleReport.ofRun shingling query).output "Shingled query" arguments

def execute (inputs : Inputs) (arguments : Arguments) : Except Error String := do
  let query ← loadQuery inputs arguments
  let shingling ← loadShingling inputs arguments
  pure (outputOf arguments query shingling)

/-- What has been printed stays printed when a later step fails. -/
abbrev Printing : Type → Type := ExceptT Error (StateM String)

namespace Printing

def line (text : String) : Printing Unit := modify fun printed => printed ++ (text ++ "\n")

def ofResult {α : Type} (result : Except Error α) : Printing α := ExceptT.mk (pure result)

def follow {α : Type} (step : Printing α) (printed : String) : Except Error α × String := step.run.run printed

end Printing

def perform (inputs : Inputs) (arguments : Arguments) : Printing Unit := do
  let query ← Printing.ofResult (loadQuery inputs arguments)
  let shingling ← Printing.ofResult (loadShingling inputs arguments)
  (arguments.lines query (shingling.run query)).forM Printing.line

def loadQueryLog (arguments : Arguments) : List LogLine :=
  match arguments.input, arguments.tokens with
  | some path, [] =>
      if isStandardInput path then [] else [⟨.debug, "Reading query from: " ++ path⟩]
  | _, _ => []

def loadShinglingLog (arguments : Arguments) : List LogLine :=
  match arguments.config with
  | some path => [⟨.debug, "Loading config from: " ++ path⟩]
  | none => []

def runLog (query : Query) (shingling : Shingling) : List LogLine :=
  let places := query.clauses.length
  ⟨.debug, "Rewriting with " ++ shingling.describe⟩
    :: (if places < 2 then []
      else
        [⟨.debug, "shingle: adding " ++ toString (shingling.shingles query).length
          ++ " shingles to a query of " ++ toString places ++ " positions"⟩])
    ++ [⟨.info, Shingling.name ++ " added "
      ++ toString (ShingleReport.ofRun shingling query).termsAdded ++ " terms"⟩]

def log (inputs : Inputs) (arguments : Arguments) : List LogLine :=
  loadQueryLog arguments
    ++ match loadQuery inputs arguments with
      | .error _ => []
      | .ok query =>
          loadShinglingLog arguments
            ++ match loadShingling inputs arguments with
              | .error _ => []
              | .ok shingling => runLog query shingling

def shownLog (inputs : Inputs) (arguments : Arguments) : String :=
  String.join (((log inputs arguments).filter fun line =>
    line.level.threshold ≤ arguments.verbosity).map LogLine.render)

structure Outcome where
  status : Nat
  stdout : String
  stderr : String
deriving DecidableEq, Repr

def version : String := "shingler 0.1.0"

def help : String :=
  "Adds shingles of adjacent terms to a query tree\n\n"
    ++ "Usage: shingler [OPTIONS] rewrite [OPTIONS] [TOKEN]...\n"

def outcome (inputs : Inputs) (arguments : Arguments) : Outcome :=
  let log := shownLog inputs arguments
  match execute inputs arguments with
  | .ok stdout => ⟨0, stdout, log⟩
  | .error error => ⟨1, "", log ++ "Error: " ++ error.message ++ "\n"⟩

def usageOutcome : UsageError → Outcome
  | .displayHelp => ⟨0, help, ""⟩
  | .displayVersion => ⟨0, version ++ "\n", ""⟩
  | _ => ⟨2, "", help⟩

def program (inputs : Inputs) (words : List String) : Outcome :=
  match Arguments.ofWords words with
  | .ok arguments => outcome inputs arguments
  | .error error => usageOutcome error

end Command

end QueryShingles
