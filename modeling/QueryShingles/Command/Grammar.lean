/-!
Words of a command line and the options among them. An option that takes a value may have it in the
same word or in the next. Such an option has no effect before the next one is met, or the next word
that is no option, or the end; only then its value is looked at.
-/

set_option autoImplicit false

namespace QueryShingles

inductive UsageError where
  | argumentConflict
  | displayHelp
  | displayHelpOnMissing
  | displayVersion
  | invalidSubcommand
  | invalidValue
  | missingSubcommand
  | tooManyValues
  | unknownArgument
deriving DecidableEq, Repr

structure Grammar (ω ρ : Type) where
  short : Char → Option ω
  long : String → Option ω
  takesValue : ω → Bool
  apply : ρ → ω → Option String → Except UsageError ρ

inductive Pending (ω : Type) where
  | nothing
  | waiting (option : ω)
  | holding (option : ω) (value : String)
deriving DecidableEq, Repr

/-- Behind a lone double dash every word is `plain`. -/
structure Progress (ω ρ : Type) where
  record : ρ
  pending : Pending ω
  plain : Bool
deriving DecidableEq, Repr

namespace Progress

variable {ω ρ : Type}

def start (record : ρ) : Progress ω ρ := ⟨record, .nothing, false⟩

def settle (grammar : Grammar ω ρ) (progress : Progress ω ρ) : Except UsageError (Progress ω ρ) :=
  match progress.pending with
  | .nothing => .ok progress
  | .waiting _ => .error .invalidValue
  | .holding option value => do
      let record ← grammar.apply progress.record option (some value)
      pure { progress with record, pending := .nothing }

def takeOption (grammar : Grammar ω ρ) (progress : Progress ω ρ) (option : ω)
    (value : Option String) : Except UsageError (Progress ω ρ) := do
  let settled ← progress.settle grammar
  if grammar.takesValue option && value.isNone then
    pure { settled with pending := .waiting option }
  else
    let record ← grammar.apply settled.record option value
    pure { settled with record }

def splitEquals : List Char → List Char × Option String
  | [] => ([], none)
  | '=' :: rest => ([], some (String.ofList rest))
  | c :: rest =>
      let parts := splitEquals rest
      (c :: parts.1, parts.2)

def takeLong (grammar : Grammar ω ρ) (progress : Progress ω ρ) (word : List Char) :
    Except UsageError (Progress ω ρ) :=
  let parts := splitEquals word
  match grammar.long (String.ofList parts.1) with
  | none => .error .unknownArgument
  | some option =>
      if !grammar.takesValue option && parts.2.isSome then .error .tooManyValues
      else progress.takeOption grammar option parts.2

def attached (rest : List Char) : Option String :=
  match rest with
  | [] => none
  | '=' :: value => some (String.ofList value)
  | value => some (String.ofList value)

def takeShort (grammar : Grammar ω ρ) (progress : Progress ω ρ) :
    List Char → Except UsageError (Progress ω ρ)
  | [] => .ok progress
  | c :: rest =>
      match grammar.short c with
      | none => .error .unknownArgument
      | some option =>
          if grammar.takesValue option then progress.takeOption grammar option (attached rest)
          else
            match progress.takeOption grammar option none with
            | .ok next => takeShort grammar next rest
            | .error error => .error error

/-- Takes a word that is an option or the value of one; `none` if it is neither. -/
def takeWord? (grammar : Grammar ω ρ) (progress : Progress ω ρ) (word : String) :
    Option (Except UsageError (Progress ω ρ)) :=
  if progress.plain then none
  else
    match word.toList with
    | ['-', '-'] => some (.ok { progress with plain := true })
    | '-' :: '-' :: rest => some (progress.takeLong grammar rest)
    | '-' :: c :: rest => some (progress.takeShort grammar (c :: rest))
    | _ =>
        match progress.pending with
        | .waiting option => some (.ok { progress with pending := .holding option word })
        | _ => none

end Progress

end QueryShingles
