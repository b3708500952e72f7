import Mathlib.Data.List.Perm.Basic
import QueryShingles.Command.Grammar
import QueryShingles.Proofs.Results

/-!
The words that spell options, for any table of options. A reader takes words that spell options to their
end and then stands where the options, applied one after the other, have brought the record. Options that
may be exchanged can be spelled in any order.
-/

set_option autoImplicit false

namespace QueryShingles

section

variable {ω ρ : Type}

abbrev Use (ω : Type) : Type := ω × Option String

def Grammar.take (grammar : Grammar ω ρ) (result : Except UsageError ρ) (use : Use ω) : Except UsageError ρ :=
  result >>= fun record => grammar.apply record use.1 use.2

inductive Grammar.Spells (grammar : Grammar ω ρ) : List String → Use ω → Prop where
  | short (word : String) (letter : Char) (option : ω) (known : grammar.short letter = some option)
      (alone : grammar.takesValue option = false) (spelled : word.toList = ['-', letter]) (plain : letter ≠ '-') :
      grammar.Spells [word] (option, none)
  | long (word name : String) (option : ω) (known : grammar.long name = some option)
      (alone : grammar.takesValue option = false) (spelled : word.toList = '-' :: '-' :: name.toList)
      (nonempty : name ≠ "") (whole : '=' ∉ name.toList) : grammar.Spells [word] (option, none)
  | joined (word name value : String) (option : ω) (known : grammar.long name = some option)
      (takes : grammar.takesValue option = true)
      (spelled : word.toList = '-' :: '-' :: (name.toList ++ '=' :: value.toList)) (whole : '=' ∉ name.toList) :
      grammar.Spells [word] (option, some value)
  | apart (word name value : String) (option : ω) (known : grammar.long name = some option)
      (takes : grammar.takesValue option = true) (spelled : word.toList = '-' :: '-' :: name.toList)
      (nonempty : name ≠ "") (whole : '=' ∉ name.toList) (visible : value.toList.head? ≠ some '-') :
      grammar.Spells [word, value] (option, some value)

inductive Grammar.SpellsAll (grammar : Grammar ω ρ) : List String → List (Use ω) → Prop where
  | nil : grammar.SpellsAll [] []
  | cons (words rest : List String) (use : Use ω) (uses : List (Use ω)) (first : grammar.Spells words use)
      (later : grammar.SpellsAll rest uses) : grammar.SpellsAll (words ++ rest) (use :: uses)

inductive Progress.Takes (grammar : Grammar ω ρ) : Progress ω ρ → List String → Progress ω ρ → Prop where
  | nil (progress : Progress ω ρ) : Progress.Takes grammar progress [] progress
  | cons (progress next later : Progress ω ρ) (word : String) (rest : List String)
      (taken : progress.takeWord? grammar word = some (.ok next)) (behind : Progress.Takes grammar next rest later) :
      Progress.Takes grammar progress (word :: rest) later

def Progress.Settles (grammar : Grammar ω ρ) (progress : Progress ω ρ) (record : ρ) : Prop :=
  progress.settle grammar = .ok (.start record)

variable (grammar : Grammar ω ρ)

theorem settles_open (progress : Progress ω ρ) (record : ρ) (settles : progress.Settles grammar record) :
    progress.plain = false ∧ ∀ option, progress.pending ≠ .waiting option := by
  obtain ⟨before, pending, plain⟩ := progress
  cases pending with
  | nothing =>
      cases settles
      exact ⟨rfl, by simp⟩
  | waiting option => cases settles
  | holding option value =>
      obtain ⟨_, _, same⟩ := bind_ok_steps _ _ _ settles
      cases same
      exact ⟨rfl, by simp⟩

theorem settle_plain (progress : Progress ω ρ) (record : ρ) (settles : progress.Settles grammar record) :
    ({ progress with plain := true } : Progress ω ρ).settle grammar = .ok ⟨record, .nothing, true⟩ := by
  obtain ⟨before, pending, plain⟩ := progress
  cases pending with
  | nothing =>
      cases settles
      rfl
  | waiting option => cases settles
  | holding option value =>
      obtain ⟨next, applied, same⟩ := bind_ok_steps _ _ _ settles
      cases same
      simp only [Progress.settle, applied, ok_bind, pure_is_ok]

theorem split_equals_whole (name : List Char) (whole : '=' ∉ name) : Progress.splitEquals name = (name, none) := by
  induction name with
  | nil => rfl
  | cons c rest ih =>
      rw [List.mem_cons, not_or] at whole
      rw [Progress.splitEquals, ih whole.2]
      exact Ne.symm whole.1

theorem split_equals_joined (name value : List Char) (whole : '=' ∉ name) :
    Progress.splitEquals (name ++ '=' :: value) = (name, some (String.ofList value)) := by
  induction name with
  | nil => rfl
  | cons c rest ih =>
      rw [List.mem_cons, not_or] at whole
      rw [List.cons_append, Progress.splitEquals, ih whole.2]
      exact Ne.symm whole.1

theorem take_option_now (progress : Progress ω ρ) (record next : ρ) (option : ω) (value : Option String)
    (settles : progress.Settles grammar record) (now : (grammar.takesValue option && value.isNone) = false)
    (applied : grammar.apply record option value = .ok next) :
    progress.takeOption grammar option value = .ok (.start next) := by
  rw [Progress.takeOption, settles, ok_bind, if_neg (by simp [now])]
  simp only [Progress.start, applied, ok_bind, pure_is_ok]

theorem take_option_waiting (progress : Progress ω ρ) (record : ρ) (option : ω)
    (settles : progress.Settles grammar record) (takes : grammar.takesValue option = true) :
    progress.takeOption grammar option none = .ok ⟨record, .waiting option, false⟩ := by
  rw [Progress.takeOption, settles, ok_bind, if_pos (by simp [takes])]
  rfl

theorem take_long (progress : Progress ω ρ) (word name : String) (rest : List Char) (value : Option String) (option : ω)
    (open_ : progress.plain = false) (known : grammar.long name = some option)
    (spelled : word.toList = '-' :: '-' :: rest) (visible : rest ≠ [])
    (parts : Progress.splitEquals rest = (name.toList, value))
    (fits : grammar.takesValue option = true ∨ value = none) :
    progress.takeWord? grammar word = some (progress.takeOption grammar option value) := by
  have inside : progress.takeLong grammar rest = progress.takeOption grammar option value := by
    rw [Progress.takeLong, parts]
    simp only [String.ofList_toList, known]
    rw [if_neg]
    rcases fits with takes | bare
    · simp [takes]
    · simp [bare]
  obtain _ | ⟨c, rest⟩ := rest
  · exact absurd rfl visible
  · rw [Progress.takeWord?, open_, spelled, ← inside]
    rfl

theorem take_short (progress next : Progress ω ρ) (word : String) (letter : Char) (option : ω)
    (open_ : progress.plain = false) (known : grammar.short letter = some option)
    (alone : grammar.takesValue option = false) (spelled : word.toList = ['-', letter]) (plain : letter ≠ '-')
    (taken : progress.takeOption grammar option none = .ok next) :
    progress.takeWord? grammar word = some (.ok next) := by
  have inside : progress.takeShort grammar [letter] = .ok next := by
    simp only [Progress.takeShort, known, alone, taken, Bool.false_eq_true, if_false]
  simp [Progress.takeWord?, open_, spelled, plain, inside]

theorem take_value (progress : Progress ω ρ) (option : ω) (value : String) (open_ : progress.plain = false)
    (waits : progress.pending = .waiting option) (visible : value.toList.head? ≠ some '-') :
    progress.takeWord? grammar value = some (.ok { progress with pending := .holding option value }) := by
  cases letters : value.toList with
  | nil => simp [Progress.takeWord?, open_, waits, letters]
  | cons c rest =>
      have notDash : c ≠ '-' := by simpa [letters] using visible
      simp [Progress.takeWord?, open_, waits, letters, notDash]

theorem takes_one (progress next : Progress ω ρ) (word : String)
    (taken : progress.takeWord? grammar word = some (.ok next)) : progress.Takes grammar [word] next :=
  .cons progress next next word [] taken (.nil next)

theorem takes_append (progress later last : Progress ω ρ) (words rest : List String)
    (first : progress.Takes grammar words later) (second : later.Takes grammar rest last) :
    progress.Takes grammar (words ++ rest) last := by
  induction first with
  | nil progress => exact second
  | cons progress next later word words taken behind ih => exact .cons progress next last word _ taken (ih second)

/-- An option whose value is the next word takes effect later than one that has it, but with the same outcome. -/
theorem takes_spelled (progress : Progress ω ρ) (record next : ρ) (words : List String) (use : Use ω)
    (spelled : grammar.Spells words use) (settles : progress.Settles grammar record)
    (applied : grammar.apply record use.1 use.2 = .ok next) :
    ∃ later, progress.Takes grammar words later ∧ later.Settles grammar next := by
  have open_ := (settles_open grammar progress record settles).1
  cases spelled with
  | short word letter option known alone spelled plain =>
      have taken := take_option_now grammar progress record next option none settles (by simp [alone]) applied
      exact ⟨.start next, takes_one grammar progress _ word
        (take_short grammar progress _ word letter option open_ known alone spelled plain taken), rfl⟩
  | long word name option known alone spelled nonempty whole =>
      have taken := take_long grammar progress word name name.toList none option open_ known spelled
        (by simpa using nonempty) (split_equals_whole _ whole) (.inr rfl)
      rw [take_option_now grammar progress record next option none settles (by simp [alone]) applied] at taken
      exact ⟨.start next, takes_one grammar progress _ word taken, rfl⟩
  | joined word name value option known takes spelled whole =>
      have taken := take_long grammar progress word name _ _ option open_ known spelled (by simp)
        (split_equals_joined name.toList value.toList whole) (.inl takes)
      rw [String.ofList_toList,
        take_option_now grammar progress record next option (some value) settles (by simp) applied] at taken
      exact ⟨.start next, takes_one grammar progress _ word taken, rfl⟩
  | apart word name value option known takes spelled nonempty whole visible =>
      have first := take_long grammar progress word name name.toList none option open_ known spelled
        (by simpa using nonempty) (split_equals_whole _ whole) (.inr rfl)
      rw [take_option_waiting grammar progress record option settles takes] at first
      have second := take_value grammar ⟨record, .waiting option, false⟩ option value rfl rfl visible
      have holds : (⟨record, .holding option value, false⟩ : Progress ω ρ).Settles grammar next := by
        change (grammar.apply record option (some value) >>= _) = _
        rw [show grammar.apply record option (some value) = .ok next from applied]
        rfl
      exact ⟨_, .cons progress _ _ word [value] first (takes_one grammar _ _ value second), holds⟩

theorem take_fault (fault : UsageError) (uses : List (Use ω)) :
    uses.foldl grammar.take (.error fault) = .error fault := by
  induction uses with
  | nil => rfl
  | cons use uses ih => exact ih

theorem takes_all (words : List String) (uses : List (Use ω)) (spelled : grammar.SpellsAll words uses) :
    ∀ (progress : Progress ω ρ) (record next : ρ), progress.Settles grammar record →
      uses.foldl grammar.take (.ok record) = .ok next →
      ∃ later, progress.Takes grammar words later ∧ later.Settles grammar next := by
  induction spelled with
  | nil =>
      intro progress record next settles applied
      cases applied
      exact ⟨progress, .nil progress, settles⟩
  | cons words rest use uses first later ih =>
      intro progress record next settles applied
      rw [List.foldl_cons] at applied
      cases once : grammar.take (.ok record) use with
      | error fault => rw [once, take_fault] at applied; cases applied
      | ok middle =>
          rw [once] at applied
          obtain ⟨between, taken, holds⟩ := takes_spelled grammar progress record middle words use first settles once
          obtain ⟨last, followed, settled⟩ := ih between middle next holds applied
          exact ⟨last, takes_append grammar progress between last words rest taken followed, settled⟩

theorem spells_all_append (words rest : List String) (uses others : List (Use ω))
    (first : grammar.SpellsAll words uses) (second : grammar.SpellsAll rest others) :
    grammar.SpellsAll (words ++ rest) (uses ++ others) := by
  induction first with
  | nil => exact second
  | cons words between use uses first later ih =>
      rw [List.append_assoc]
      exact .cons words _ use _ first ih

theorem spells_all_flatten (groups : List (List String)) (uses : List (List (Use ω)))
    (each : List.Forall₂ grammar.SpellsAll groups uses) : grammar.SpellsAll groups.flatten uses.flatten := by
  induction each with
  | nil => exact .nil
  | cons first later ih => exact spells_all_append grammar _ _ _ _ first ih

theorem spells_all_one (words : List String) (use : Use ω) (spelled : grammar.Spells words use) :
    grammar.SpellsAll words [use] := by
  have whole := Grammar.SpellsAll.cons words [] use [] spelled .nil
  rwa [List.append_nil] at whole

theorem spells_all_if (isOn : Bool) (words : List String) (use : Use ω) (spelled : grammar.Spells words use) :
    grammar.SpellsAll (if isOn then words else []) (if isOn then [use] else []) := by
  cases isOn with
  | false => exact .nil
  | true => exact spells_all_one grammar words use spelled

theorem spells_all_given (given : Option String) (word : String → String) (use : String → Use ω)
    (spelled : ∀ value, grammar.Spells [word value] (use value)) :
    grammar.SpellsAll (given.map word).toList (given.map use).toList := by
  cases given with
  | none => exact .nil
  | some value => exact spells_all_one grammar [word value] (use value) (spelled value)

theorem spells_all_replicate (word : String) (use : Use ω) (spelled : grammar.Spells [word] use) (count : Nat) :
    grammar.SpellsAll (List.replicate count word) (List.replicate count use) := by
  induction count with
  | zero => exact .nil
  | succ count ih => exact .cons [word] _ use _ spelled ih

def Grammar.Exchanges (grammar : Grammar ω ρ) (first second : Use ω) : Prop :=
  ∀ record, grammar.take (grammar.apply record first.1 first.2) second =
    grammar.take (grammar.apply record second.1 second.2) first

/-- Groups of words in any order have the effect of the groups in the given order, if all options may be exchanged. -/
theorem takes_in_any_order (progress : Progress ω ρ) (record next : ρ) (groups ordered : List (List String))
    (uses : List (List (Use ω))) (order : groups.Perm ordered) (each : List.Forall₂ grammar.SpellsAll ordered uses)
    (exchanged : ∀ first ∈ uses.flatten, ∀ second ∈ uses.flatten, grammar.Exchanges first second)
    (settles : progress.Settles grammar record)
    (applied : uses.flatten.foldl grammar.take (.ok record) = .ok next) :
    ∃ later, progress.Takes grammar groups.flatten later ∧ later.Settles grammar next := by
  obtain ⟨met, spelled, same⟩ := List.perm_comp_forall₂ order each
  have exchange : uses.flatten.foldl grammar.take (.ok record) = met.flatten.foldl grammar.take (.ok record) := by
    refine same.symm.flatten.foldl_eq' (fun first known second also result => ?_) _
    cases result with
    | error fault => rfl
    | ok record => exact exchanged first known second also record
  exact takes_all grammar _ _ (spells_all_flatten grammar groups met spelled) progress record next settles
    (exchange.symm.trans applied)

end

end QueryShingles
