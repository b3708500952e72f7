import QueryShingles.Command.Arguments
import QueryShingles.Command.Grammar

/-!
The command line: options for every use, then the name of the command, then options and words of
its own. The words of the command are read to their end before options in front of it that are
still pending take effect.
-/

set_option autoImplicit false

namespace QueryShingles

inductive CommonOption where
  | verbose
  | quiet
  | format
  | pretty
  | help
  | version
deriving DecidableEq, Repr

structure CommonRecord where
  verbose : Nat
  quiet : Bool
  format : Option OutputFormat
  pretty : Bool
deriving DecidableEq, Repr

def switchOn {ρ : Type} (isOn : Bool) (record : ρ) : Except UsageError ρ :=
  if isOn then .error .argumentConflict else .ok record

def setOnce {α ρ : Type} (old : Option α) (value : Option α) (record : α → ρ) :
    Except UsageError ρ :=
  if old.isSome then .error .argumentConflict
  else
    match value with
    | some value => .ok (record value)
    | none => .error .invalidValue

namespace CommonRecord

def empty : CommonRecord := ⟨0, false, none, false⟩

def formatNamed (name : Option String) : Option OutputFormat :=
  match name with
  | some "human" => some .human
  | some "json" => some .json
  | _ => none

def apply (record : CommonRecord) (option : CommonOption) (value : Option String) :
    Except UsageError CommonRecord :=
  match option with
  | .verbose => .ok { record with verbose := min (record.verbose + 1) 255 }
  | .quiet => switchOn record.quiet { record with quiet := true }
  | .pretty => switchOn record.pretty { record with pretty := true }
  | .format => setOnce record.format (formatNamed value) fun format => { record with format }
  | .help => .error .displayHelp
  | .version => .error .displayVersion

def grammar : Grammar CommonOption CommonRecord where
  short
    | 'v' => some .verbose
    | 'q' => some .quiet
    | 'f' => some .format
    | 'h' => some .help
    | 'V' => some .version
    | _ => none
  long
    | "verbose" => some .verbose
    | "quiet" => some .quiet
    | "format" => some .format
    | "pretty" => some .pretty
    | "help" => some .help
    | "version" => some .version
    | _ => none
  takesValue option := option = .format
  apply := apply

end CommonRecord

inductive ShingleOption where
  | input
  | config
  | acceptGenerated
  | help
deriving DecidableEq, Repr

structure ShingleRecord where
  tokens : List String
  input : Option String
  config : Option String
  acceptGenerated : Bool
deriving DecidableEq, Repr

namespace ShingleRecord

def empty : ShingleRecord := ⟨[], none, none, false⟩

def path (value : Option String) : Option String := value.filter fun path => path ≠ ""

def apply (record : ShingleRecord) (option : ShingleOption) (value : Option String) :
    Except UsageError ShingleRecord :=
  match option with
  | .input => setOnce record.input (path value) fun path => { record with input := some path }
  | .config => setOnce record.config (path value) fun path => { record with config := some path }
  | .acceptGenerated => switchOn record.acceptGenerated { record with acceptGenerated := true }
  | .help => .error .displayHelp

def grammar : Grammar ShingleOption ShingleRecord where
  short
    | 'i' => some .input
    | 'c' => some .config
    | 'h' => some .help
    | _ => none
  long
    | "input" => some .input
    | "config" => some .config
    | "accept-generated-terms" => some .acceptGenerated
    | "help" => some .help
    | _ => none
  takesValue option := option = .input || option = .config
  apply := apply

def check (record : ShingleRecord) : Except UsageError ShingleRecord :=
  if record.input.isSome && !record.tokens.isEmpty then .error .argumentConflict else .ok record

def ofWords (progress : Progress ShingleOption ShingleRecord) :
    List String → Except UsageError ShingleRecord
  | [] => do check (← progress.settle grammar).record
  | word :: rest =>
      match progress.takeWord? grammar word with
      | some (.ok next) => ofWords next rest
      | some (.error error) => .error error
      | none =>
          match progress.settle grammar with
          | .error error => .error error
          | .ok settled =>
              let record := { settled.record with tokens := settled.record.tokens ++ [word] }
              ofWords { settled with record } rest

end ShingleRecord

namespace Arguments

def commandNames : List String := ["rewrite", "help"]

def helpOn : List String → UsageError
  | [] => .displayHelp
  | [name] => if name ∈ commandNames then .displayHelp else .invalidSubcommand
  | _ :: _ :: _ => .invalidSubcommand

def withoutCommand (record : CommonRecord) : UsageError :=
  if record = .empty then .displayHelpOnMissing else .missingSubcommand

def join (common : CommonRecord) (own : ShingleRecord) : Arguments :=
  { verbose := common.verbose
    quiet := common.quiet
    format := common.format.getD .human
    pretty := common.pretty
    tokens := own.tokens
    input := own.input
    config := own.config
    acceptGenerated := own.acceptGenerated }

def notACommand (plain : Bool) (word : String) : UsageError :=
  if plain ∧ word ∈ commandNames then .unknownArgument else .invalidSubcommand

/-- A word is looked up as a command unless it has to be a value. -/
def namesCommand (progress : Progress CommonOption CommonRecord) (word : String) : Bool :=
  match progress.pending with
  | .waiting _ => false
  | _ => !progress.plain && word ∈ commandNames

def ofProgress (progress : Progress CommonOption CommonRecord) :
    List String → Except UsageError Arguments
  | [] => do throw (withoutCommand (← progress.settle CommonRecord.grammar).record)
  | word :: rest =>
      if namesCommand progress word then
        if word = "help" then .error (helpOn rest)
        else do
          let own ← ShingleRecord.ofWords (.start .empty) rest
          let settled ← progress.settle CommonRecord.grammar
          pure (join settled.record own)
      else
        match progress.takeWord? CommonRecord.grammar word with
        | some (.ok next) => ofProgress next rest
        | some (.error error) => .error error
        | none => .error (notACommand progress.plain word)

def ofWords (words : List String) : Except UsageError Arguments := ofProgress (.start .empty) words

end Arguments

end QueryShingles
