import QueryShingles.Command.Run
import QueryShingles.Proofs.Members
import QueryShingles.Proofs.Recognition

/-!
The texts that hold settings. A text is read as settings if it spells one of few values, and as what this value says;
every other text is refused as a whole.
-/

set_option autoImplicit false

namespace QueryShingles

namespace Shingling

/-- The values that settings may have: by name or by place, and with nothing said the usual ones. -/
inductive GivenBy : Shingling → Json → Prop where
  | noMember : GivenBy ⟨false⟩ (.object [])
  | member (accept : Bool) : GivenBy ⟨accept⟩ (.object [("acceptGeneratedTerms", .bool accept)])
  | noItem : GivenBy ⟨false⟩ (.array [])
  | item (accept : Bool) : GivenBy ⟨accept⟩ (.array [.bool accept])

def SpelledBy (shingling : Shingling) (text : String) : Prop :=
  ∃ json, shingling.GivenBy json ∧ json.TextSpelling text

end Shingling

open Shingling

theorem read_setting_iff (seen next : Option Bool) (key : String) (item : Draft) :
    readMember seen key item = .ok next ↔
      seen = none ∧ ∃ accept, key = "acceptGeneratedTerms" ∧ item = .bool accept ∧ next = some accept := by
  rw [readMember, member]
  by_cases known : key = "acceptGeneratedTerms"
  · simp [known, draft_fill_iff, read_bool_iff]
  · simp [known]

theorem settings_fold_iff (named : List (String × Draft)) (place seen : Option Bool) :
    named.foldlM (fun seen member => readMember seen member.1 member.2) place = .ok seen ↔
      named = [] ∧ seen = place ∨
      place = none ∧ ∃ accept, named = [("acceptGeneratedTerms", .bool accept)] ∧ seen = some accept := by
  induction named generalizing place with
  | nil => simp [eq_comm]
  | cons first rest ih =>
      obtain ⟨key, item⟩ := first
      simp only [List.foldlM_cons, bind_ok_iff, read_setting_iff, ih]
      grind

theorem settings_object_iff (left : Nat) (members : List (Option String × Draft)) (ending : Ending)
    (shingling : Shingling) :
    Shingling.read (left + 1) (.object members ending) = .ok shingling ↔
      ∃ json, Draft.object members ending = Draft.ofJson json ∧ shingling.GivenBy json := by
  simp only [Shingling.read, Draft.enter, ok_bind, bind_ok_iff, fold_members_iff, settings_fold_iff, pure_is_ok,
    Except.ok.injEq]
  constructor
  · rintro ⟨seen, ⟨rfl, named, rfl, held⟩, rfl⟩
    rcases held with ⟨rfl, rfl⟩ | ⟨_, accept, rfl, rfl⟩
    · exact ⟨.object [], rfl, .noMember⟩
    · exact ⟨.object [("acceptGeneratedTerms", .bool accept)], rfl, .member accept⟩
  · rintro ⟨json, same, gives⟩
    cases gives with
    | noMember =>
        cases same
        exact ⟨none, ⟨rfl, [], rfl, .inl ⟨rfl, rfl⟩⟩, rfl⟩
    | member accept =>
        cases same
        exact ⟨some accept, ⟨rfl, [_], rfl, .inr ⟨trivial, accept, rfl, rfl⟩⟩, rfl⟩
    | noItem => cases same
    | item accept => cases same

theorem settings_array_iff (left : Nat) (items : List Draft) (ending : Ending) (shingling : Shingling) :
    Shingling.read (left + 1) (.array items ending) = .ok shingling ↔
      ∃ json, Draft.array items ending = Draft.ofJson json ∧ shingling.GivenBy json := by
  simp only [Shingling.read, Draft.enter, ok_bind, bind_ok_iff, next_item_iff]
  constructor
  · rintro ⟨_, ⟨rfl, rfl, rfl⟩ | ⟨first, rest, rfl, rfl⟩, read⟩
    · cases read
      exact ⟨.array [], rfl, .noItem⟩
    · simp only [bind_ok_iff, read_bool_iff, no_more_items_iff] at read
      obtain ⟨accept, rfl, _, ⟨rfl, rfl⟩, made⟩ := read
      cases made
      exact ⟨.array [.bool accept], rfl, .item accept⟩
  · rintro ⟨json, same, gives⟩
    cases gives with
    | noItem =>
        cases same
        exact ⟨none, .inl ⟨rfl, rfl, rfl⟩, rfl⟩
    | item accept =>
        cases same
        exact ⟨some (.bool accept, []), .inr ⟨_, _, rfl, rfl⟩, rfl⟩
    | noMember => cases same
    | member accept => cases same

theorem settings_read_iff (left : Nat) (draft : Draft) (shingling : Shingling) :
    Shingling.read (left + 1) draft = .ok shingling ↔ ∃ json, draft = Draft.ofJson json ∧ shingling.GivenBy json := by
  cases draft with
  | object members ending => exact settings_object_iff left members ending shingling
  | array items ending => exact settings_array_iff left items ending shingling
  | _ =>
      constructor
      · intro read
        exact absurd read (refuse_never _ _ shingling)
      · rintro ⟨json, same, gives⟩
        cases gives <;> cases same

theorem settings_text_iff (text : String) (shingling : Shingling) :
    Shingling.ofText text = .ok shingling ↔ shingling.SpelledBy text :=
  read_text_iff Shingling.read GivenBy (settings_read_iff (nestingLimit - 1)) text shingling

/-- A text is read as the settings that it spells. If it spells none it is refused, as a fault of the settings. -/
theorem settings_spelled_or_refused (text : String) :
    (∀ shingling, Command.readShingling text = .ok shingling ↔ shingling.SpelledBy text) ∧
    ((∃ error, Command.readShingling text = .error error ∧ error.kind = .config) ↔
      ¬ ∃ shingling : Shingling, shingling.SpelledBy text) := by
  simp only [← settings_text_iff, Command.readShingling]
  cases Shingling.ofText text with
  | ok shingling => simp
  | error error => simp [Error.kind]

theorem settings_spelled_or_refused_escaped :
    let text := " \x7b\"\\u0061cceptGeneratedTerms\" : true\n\x7d"
    let twice := "\x7b\"acceptGeneratedTerms\":true,\"acceptGeneratedTerms\":true\x7d"
    Command.readShingling text = .ok ⟨true⟩ ∧ ¬ ∃ shingling : Shingling, shingling.SpelledBy twice := by
  intro text twice
  have name : Json.StringSpelling "acceptGeneratedTerms" _ :=
    ⟨_, ⟨_, _, .unit _ ⟨'0', '0', '6', '1', rfl, by decide⟩, escapes_spelling _, rfl⟩, rfl⟩
  have value : (Json.object [("acceptGeneratedTerms", .bool true)]).Spelling _ :=
    ⟨[], _, [' '], [' '], _, _, by simp [Json.Gap], name, by simp [Json.Gap], by simp [Json.Gap], rfl,
      ⟨['\n'], by simp [Json.Gap], rfl⟩, rfl⟩
  have spelled : Shingling.SpelledBy ⟨true⟩ text :=
    ⟨_, .member true, [' '], _, [], by simp [Json.Gap], by simp [Json.Gap], value, by decide +kernel⟩
  have refused : Command.readShingling twice =
      .error (.config (.unusable (.mismatch (.duplicateField "acceptGeneratedTerms")))) := by
    decide +kernel
  exact ⟨((settings_spelled_or_refused text).1 _).mpr spelled,
    (settings_spelled_or_refused twice).2.mp ⟨_, refused, rfl⟩⟩

end QueryShingles
