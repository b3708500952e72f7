import QueryShingles.Command.Run
import QueryShingles.Proofs.Words

/-!
A query that is typed as words, and the same query kept as a document in a file or given on the
standard input. Both are the same request: what is loaded is equal node by node, so all that is made
of it is equal too.
-/

set_option autoImplicit false

namespace QueryShingles

def Arguments.stored (arguments : Arguments) (path : String) : Arguments :=
  { arguments with tokens := [], input := some path }

def Inputs.SameSettings (arguments : Arguments) (a b : Inputs) : Prop :=
  ∀ path, arguments.config = some path → a.file path = b.file path

theorem written_loads_same (document : Document) (query : Query) (loaded : document.toQuery = .ok query)
    (shallow : document.nest ≤ nestingLimit) (layout : Json.Layout) :
    Query.ofText (query.toDocument.toJson.text layout) = .ok query := by
  have reloadable := loaded_reloadable document query loaded shallow
  have written : Document.ofText (query.toDocument.toJson.text layout) = .ok query.toDocument :=
    (of_text_written query.toDocument layout).trans (within_ok _ _ _ reloadable.nest)
  rw [Query.ofText, written]
  simp only [loaded_again document query loaded]

namespace Command

theorem load_typed (inputs : Inputs) (arguments : Arguments) (typed : arguments.input = none)
    (present : arguments.tokens ≠ []) :
    loadQuery inputs arguments = (Query.ofWords arguments.tokens).mapError .ofToken := by
  rw [loadQuery, typed]
  cases words : arguments.tokens with
  | nil => exact absurd words present
  | cons word rest => rfl

theorem load_named (inputs : Inputs) (arguments : Arguments) (path : String) (wordless : arguments.tokens = [])
    (named : arguments.input = some path) :
    loadQuery inputs arguments =
      match inputs.source path with
      | .error error => .error (.io error)
      | .ok text => (Query.ofText text).mapError .ofQueryText := by
  cases arguments
  cases wordless
  cases named
  rfl

theorem load_settings_same (inputs other : Inputs) (arguments : Arguments) (path : String)
    (same : Inputs.SameSettings arguments other inputs) :
    loadShingling other (arguments.stored path) = loadShingling inputs arguments := by
  rw [loadShingling, loadShingling]
  cases named : arguments.config with
  | none => simp only [Arguments.stored, named]
  | some config => simp only [Arguments.stored, named, same config named]

theorem execute_loaded (inputs : Inputs) (arguments : Arguments) (query : Query)
    (loaded : loadQuery inputs arguments = .ok query) :
    execute inputs arguments = (loadShingling inputs arguments).map (outputOf arguments query) := by
  rw [execute, loaded, ok_bind]
  cases loadShingling inputs arguments <;> rfl

theorem outcome_same (inputs other : Inputs) (arguments request : Arguments)
    (same : execute other request = execute inputs arguments) :
    (outcome other request).status = (outcome inputs arguments).status ∧
      (outcome other request).stdout = (outcome inputs arguments).stdout := by
  simp only [outcome, same]
  cases execute inputs arguments <;> exact ⟨rfl, rfl⟩

/-- The settings alone decide whether a request with sound words goes well, however its query is handed over, and
both ways print the same or fail with the same error. -/
theorem words_stored (arguments : Arguments) (typed : arguments.input = none) (present : arguments.tokens ≠ [])
    (accepted : ∀ word ∈ arguments.tokens, ∃ token, Token.ofString word = .ok token) :
    ∃ query, Query.ofWords arguments.tokens = .ok query ∧
      ∀ (inputs other : Inputs) (path : String) (layout : Json.Layout),
        Inputs.SameSettings arguments other inputs →
        other.source path = .ok (query.toDocument.toJson.text layout) →
        loadQuery other (arguments.stored path) = .ok query ∧
        execute inputs arguments = (loadShingling inputs arguments).map (outputOf arguments query) ∧
        execute other (arguments.stored path) = execute inputs arguments ∧
        (outcome other (arguments.stored path)).status = (outcome inputs arguments).status ∧
        (outcome other (arguments.stored path)).stdout = (outcome inputs arguments).stdout := by
  obtain ⟨query, loaded, _⟩ := of_words_text arguments.tokens accepted
  refine ⟨query, loaded, ?_⟩
  intro inputs other path layout settings found
  obtain ⟨document, built, shallow⟩ := of_words_document arguments.tokens query loaded
  have again : loadQuery other (arguments.stored path) = .ok query := by
    rw [load_named other (arguments.stored path) path rfl rfl, found]
    simp only [written_loads_same document query built shallow layout, map_error_of_ok]
  have first : loadQuery inputs arguments = .ok query := by
    rw [load_typed inputs arguments typed present, loaded, map_error_of_ok]
  have typedRun := execute_loaded inputs arguments query first
  have same : execute other (arguments.stored path) = execute inputs arguments := by
    rw [execute_loaded other _ query again, load_settings_same inputs other arguments path settings, typedRun]
    rfl
  exact ⟨again, typedRun, same, outcome_same inputs other arguments _ same⟩

theorem words_stored_quote :
    let arguments : Arguments := ⟨0, false, .human, false, ["a\"", "b*"], none, none, true⟩
    let query : Query := ⟨#[.boolean ⟨none, .should, false, [1, 3]⟩, .disjunctionMax ⟨⟨0⟩, .should, false, [2]⟩,
      .term ⟨⟨1⟩, none, "a\"", false⟩, .disjunctionMax ⟨⟨0⟩, .should, true, [4]⟩, .term ⟨⟨3⟩, none, "b", true⟩]⟩
    let stored : Inputs := ⟨fun _ => .error .notFound, .ok (query.toDocument.toJson.text .pretty)⟩
    Query.ofWords arguments.tokens = .ok query ∧ loadQuery stored (arguments.stored "-") = .ok query ∧
      execute stored (arguments.stored "-") =
        .ok "Shingled query\n\nRewritten:   (\x7ba\" | a\"b*\x7d \x7bb* | a\"b*\x7d*)\nTerms added: 2\n" := by
  intro arguments query stored
  have accepted : ∀ word ∈ arguments.tokens, ∃ token, Token.ofString word = .ok token := by
    intro word member
    rcases List.mem_pair.mp member with rfl | rfl
    · exact ⟨⟨none, "a\"", false⟩, by decide⟩
    · exact ⟨⟨none, "b", true⟩, by decide⟩
  obtain ⟨loaded, made, both⟩ := words_stored arguments rfl (by simp [arguments]) accepted
  have isQuery : Query.ofWords arguments.tokens = .ok query := by decide
  cases isQuery.symm.trans made
  obtain ⟨again, typed, same, _⟩ := both ⟨fun _ => .error .notFound, .ok ""⟩ stored "-" .pretty
    (by simp [Inputs.SameSettings, arguments]) rfl
  exact ⟨isQuery, again, same.trans (typed.trans (by decide +kernel))⟩

end Command

end QueryShingles
