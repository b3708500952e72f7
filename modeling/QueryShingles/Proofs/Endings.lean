import QueryShingles.Proofs.StoredQuery

/-!
How a command ends. The rules say what is reported, whatever else is wrong: a query that is asked for in
two ways or in none comes first, then the first thing wrong with the query, then the settings. A command
that is followed line by line as it prints has printed nothing if it fails.
-/

set_option autoImplicit false

namespace QueryShingles

def ended (lines : List String) : String := String.join (lines.map (· ++ "\n"))

namespace Command

inductive ReadsQuery (inputs : Inputs) (arguments : Arguments) : Except Error Query → Prop where
  | refused (front back : List String) (bad : String) (cause : TokenError) (typed : arguments.input = none)
      (words : arguments.tokens = front ++ bad :: back)
      (accepted : ∀ word ∈ front, ∃ token, Token.ofString word = .ok token)
      (failed : Token.ofString bad = .error cause) :
      ReadsQuery inputs arguments (.error (.invalidArgument (.token cause)))
  | typed (query : Query) (typed : arguments.input = none) (present : arguments.tokens ≠ [])
      (made : Query.ofWords arguments.tokens = .ok query) : ReadsQuery inputs arguments (.ok query)
  | unreadable (path : String) (error : FileError) (wordless : arguments.tokens = [])
      (named : arguments.input = some path) (failed : inputs.source path = .error error) :
      ReadsQuery inputs arguments (.error (.io error))
  | malformed (path text : String) (error : ReadError) (wordless : arguments.tokens = [])
      (named : arguments.input = some path) (found : inputs.source path = .ok text)
      (failed : Document.ofText text = .error error) : ReadsQuery inputs arguments (.error (.json error))
  | faulty (path text : String) (document : Document) (fault : StructureError) (wordless : arguments.tokens = [])
      (named : arguments.input = some path) (found : inputs.source path = .ok text)
      (read : Document.ofText text = .ok document) (failed : document.toQuery = .error fault) :
      ReadsQuery inputs arguments (.error (.query fault))
  | stored (path text : String) (document : Document) (query : Query) (wordless : arguments.tokens = [])
      (named : arguments.input = some path) (found : inputs.source path = .ok text)
      (read : Document.ofText text = .ok document) (made : document.toQuery = .ok query) :
      ReadsQuery inputs arguments (.ok query)

inductive ReadsSettings (inputs : Inputs) (arguments : Arguments) : Except Error Shingling → Prop where
  | usual (unnamed : arguments.config = none) : ReadsSettings inputs arguments (.ok ⟨arguments.acceptGenerated⟩)
  | unreadable (path : String) (error : FileError) (named : arguments.config = some path)
      (failed : inputs.file path = .error error) :
      ReadsSettings inputs arguments (.error (.config (.unreadable path error)))
  | unusable (path text : String) (error : ReadError) (named : arguments.config = some path)
      (found : inputs.file path = .ok text) (failed : Shingling.ofText text = .error error) :
      ReadsSettings inputs arguments (.error (.config (.unusable error)))
  | stored (path text : String) (shingling : Shingling) (named : arguments.config = some path)
      (found : inputs.file path = .ok text) (read : Shingling.ofText text = .ok shingling) :
      ReadsSettings inputs arguments (.ok ⟨shingling.acceptGenerated || arguments.acceptGenerated⟩)

inductive Ends (inputs : Inputs) (arguments : Arguments) : Except Error String → Prop where
  | both (path : String) (named : arguments.input = some path) (present : arguments.tokens ≠ []) :
      Ends inputs arguments (.error (.invalidArgument .tokensAndInput))
  | neither (unnamed : arguments.input = none) (wordless : arguments.tokens = []) :
      Ends inputs arguments (.error (.invalidArgument .noQuery))
  | noQuery (error : Error) (failed : ReadsQuery inputs arguments (.error error)) :
      Ends inputs arguments (.error error)
  | noSettings (query : Query) (error : Error) (read : ReadsQuery inputs arguments (.ok query))
      (failed : ReadsSettings inputs arguments (.error error)) : Ends inputs arguments (.error error)
  | done (query : Query) (shingling : Shingling) (read : ReadsQuery inputs arguments (.ok query))
      (set : ReadsSettings inputs arguments (.ok shingling)) :
      Ends inputs arguments (.ok (ended (arguments.lines query (shingling.run query))))

theorem follow_ok {α β : Type} (value : α) (next : α → Printing β) (printed : String) :
    (Printing.ofResult (.ok value) >>= next).follow printed = (next value).follow printed := rfl

theorem follow_error {α β : Type} (error : Error) (next : α → Printing β) (printed : String) :
    (Printing.ofResult (.error error) >>= next).follow printed = (.error error, printed) := rfl

theorem lines_follow (lines : List String) (printed : String) :
    (lines.forM Printing.line).follow printed = (.ok (), printed ++ ended lines) := by
  induction lines generalizing printed with
  | nil => exact congrArg (Prod.mk (Except.ok ())) String.append_empty.symm
  | cons first rest ih =>
      have step : ((first :: rest).forM Printing.line).follow printed =
          (rest.forM Printing.line).follow (printed ++ (first ++ "\n")) := rfl
      rw [step, ih, ended, ended, List.map_cons, String.join_cons, String.append_assoc]

theorem ended_one (line : String) : ended [line] = line ++ "\n" := by
  rw [ended, List.map_singleton, String.join_cons]
  exact String.append_empty

theorem ended_append (front back : List String) : ended (front ++ back) = ended front ++ ended back := by
  rw [ended, List.map_append, String.join_append]
  rfl

theorem ended_if (condition : Prop) [Decidable condition] (lines : List String) :
    ended (if condition then lines else []) = if condition then ended lines else "" := by
  split <;> rfl

theorem lines_ended (arguments : Arguments) (query : Query) (shingling : Shingling) :
    outputOf arguments query shingling = ended (arguments.lines query (shingling.run query)) := by
  rw [outputOf, ShingleReport.output, Arguments.lines]
  cases arguments.format with
  | json => exact (ended_one _).symm
  | human =>
      have heading : ended ["Shingled query", ""] = "Shingled query" ++ "\n\n" := by decide
      simp only [ShingleReport.human, ended_append, ended_if, ended_one, heading, String.append_assoc]
      rfl

theorem reads_query_loads (inputs : Inputs) (arguments : Arguments) (result : Except Error Query)
    (reads : ReadsQuery inputs arguments result) : loadQuery inputs arguments = result := by
  cases reads with
  | refused front back bad cause typed words accepted failed =>
      have present : arguments.tokens ≠ [] := by simp [words]
      have stopped := (add_words_error_iff (Query.new false) arguments.tokens cause).mpr
        ⟨front, bad, back, words, accepted, failed⟩
      rw [load_typed inputs arguments typed present, Query.ofWords, stopped]
      rfl
  | typed query typed present made =>
      rw [load_typed inputs arguments typed present, made, map_error_of_ok]
  | unreadable path error wordless named failed =>
      rw [load_named inputs arguments path wordless named, failed]
  | malformed path text error wordless named found failed =>
      rw [load_named inputs arguments path wordless named, found]
      simp only [Query.ofText, failed]
      rfl
  | faulty path text document fault wordless named found read failed =>
      rw [load_named inputs arguments path wordless named, found]
      simp only [Query.ofText, read, failed]
      rfl
  | stored path text document query wordless named found read made =>
      rw [load_named inputs arguments path wordless named, found]
      simp only [Query.ofText, read, made, map_error_of_ok]

theorem some_query_read (inputs : Inputs) (arguments : Arguments)
    (one : arguments.input = none ↔ arguments.tokens ≠ []) : ∃ result, ReadsQuery inputs arguments result := by
  cases named : arguments.input with
  | none =>
      have present := one.mp named
      cases made : Query.ofWords arguments.tokens with
      | ok query => exact ⟨_, .typed query named present made⟩
      | error cause =>
          obtain ⟨front, bad, back, words, accepted, failed⟩ :=
            (add_words_error_iff (Query.new false) arguments.tokens cause).mp made
          exact ⟨_, .refused front back bad cause named words accepted failed⟩
  | some path =>
      have wordless : arguments.tokens = [] := by
        by_contra present
        simp [one.mpr present] at named
      cases found : inputs.source path with
      | error error => exact ⟨_, .unreadable path error wordless named found⟩
      | ok text =>
          cases read : Document.ofText text with
          | error error => exact ⟨_, .malformed path text error wordless named found read⟩
          | ok document =>
              cases made : document.toQuery with
              | error fault => exact ⟨_, .faulty path text document fault wordless named found read made⟩
              | ok query => exact ⟨_, .stored path text document query wordless named found read made⟩

theorem set_accepts (shingling : Shingling) (accept : Bool) :
    (if accept then shingling.setAcceptGenerated true else shingling) = ⟨shingling.acceptGenerated || accept⟩ := by
  cases accept <;> simp [Shingling.setAcceptGenerated]

theorem reads_settings_loads (inputs : Inputs) (arguments : Arguments) (result : Except Error Shingling)
    (reads : ReadsSettings inputs arguments result) : loadShingling inputs arguments = result := by
  cases reads with
  | usual unnamed =>
      simp only [loadShingling, unnamed, set_accepts]
      rfl
  | unreadable path error named failed =>
      simp only [loadShingling, named, failed]
      rfl
  | unusable path text error named found failed =>
      simp only [loadShingling, named, found, readShingling, failed]
      rfl
  | stored path text shingling named found read =>
      simp only [loadShingling, named, found, readShingling, read, set_accepts]
      rfl

theorem some_settings_read (inputs : Inputs) (arguments : Arguments) :
    ∃ result, ReadsSettings inputs arguments result := by
  cases named : arguments.config with
  | none => exact ⟨_, .usual named⟩
  | some path =>
      cases found : inputs.file path with
      | error error => exact ⟨_, .unreadable path error named found⟩
      | ok text =>
          cases read : Shingling.ofText text with
          | error error => exact ⟨_, .unusable path text error named found read⟩
          | ok shingling => exact ⟨_, .stored path text shingling named found read⟩

theorem ends_execute (inputs : Inputs) (arguments : Arguments) (result : Except Error String)
    (ends : Ends inputs arguments result) : execute inputs arguments = result := by
  cases ends with
  | both path named present =>
      cases words : arguments.tokens with
      | nil => exact absurd words present
      | cons word rest =>
          simp only [execute, loadQuery, named, words]
          rfl
  | neither unnamed wordless =>
      simp only [execute, loadQuery, unnamed, wordless]
      rfl
  | noQuery error failed => rw [execute, reads_query_loads inputs arguments _ failed, error_bind]
  | noSettings query error read failed =>
      rw [execute_loaded inputs arguments query (reads_query_loads inputs arguments _ read),
        reads_settings_loads inputs arguments _ failed, map_error]
  | done query shingling read set =>
      rw [execute_loaded inputs arguments query (reads_query_loads inputs arguments _ read),
        reads_settings_loads inputs arguments _ set, map_ok, lines_ended]

theorem some_end (inputs : Inputs) (arguments : Arguments) : ∃ result, Ends inputs arguments result := by
  by_cases one : arguments.input = none ↔ arguments.tokens ≠ []
  · obtain ⟨query, read⟩ := some_query_read inputs arguments one
    obtain ⟨settings, set⟩ := some_settings_read inputs arguments
    cases query with
    | error error => exact ⟨_, .noQuery error read⟩
    | ok query =>
        cases settings with
        | error error => exact ⟨_, .noSettings query error read set⟩
        | ok shingling => exact ⟨_, .done query shingling read set⟩
  · cases named : arguments.input with
    | none =>
        have wordless : arguments.tokens = [] := by
          by_contra present
          exact one (iff_of_true named present)
        exact ⟨_, .neither named wordless⟩
    | some path =>
        have present : arguments.tokens ≠ [] := by
          intro wordless
          exact one (iff_of_false (by simp [named]) (by simp [wordless]))
        exact ⟨_, .both path named present⟩

theorem execute_ends_iff (inputs : Inputs) (arguments : Arguments) (result : Except Error String) :
    Ends inputs arguments result ↔ execute inputs arguments = result := by
  constructor
  · exact ends_execute inputs arguments result
  · intro same
    obtain ⟨other, ends⟩ := some_end inputs arguments
    rw [← same, ends_execute inputs arguments other ends]
    exact ends

theorem perform_ends (inputs : Inputs) (arguments : Arguments) (printed : String) :
    (perform inputs arguments).follow printed =
      match execute inputs arguments with
      | .ok text => (.ok (), printed ++ text)
      | .error error => (.error error, printed) := by
  rw [perform, execute]
  cases loadQuery inputs arguments with
  | error error => rw [follow_error, error_bind]
  | ok query =>
      rw [follow_ok, ok_bind]
      cases loadShingling inputs arguments with
      | error error => rw [follow_error, error_bind]
      | ok shingling =>
          rw [follow_ok, ok_bind, lines_follow, ← lines_ended]
          rfl

theorem output_visible (arguments : Arguments) (query : Query) (shingling : Shingling) :
    outputOf arguments query shingling ≠ "" := by
  have present : arguments.lines query (shingling.run query) ≠ [] := by
    rw [Arguments.lines]
    cases arguments.format <;> simp
  obtain ⟨first, rest, same⟩ := List.exists_cons_of_ne_nil present
  rw [lines_ended, same, ended, List.map_cons, String.join_cons]
  simp

theorem executed_visible (inputs : Inputs) (arguments : Arguments) (text : String)
    (executed : execute inputs arguments = .ok text) : text ≠ "" := by
  rw [execute] at executed
  obtain ⟨query, _, executed⟩ := bind_ok_steps _ _ _ executed
  obtain ⟨shingling, _, executed⟩ := bind_ok_steps _ _ _ executed
  cases executed
  exact output_visible arguments query shingling

/-- A command ends as the rules say and in no other way. It prints if it goes well and only then, whatever was
printed before, and what it prints is the output of the program. -/
theorem command_ends (inputs : Inputs) (arguments : Arguments) (printed : String) :
    (∀ result, Ends inputs arguments result ↔ execute inputs arguments = result) ∧
    (∀ text, Ends inputs arguments (.ok text) →
      (perform inputs arguments).follow printed = (.ok (), printed ++ text) ∧
      (outcome inputs arguments).status = 0 ∧ (outcome inputs arguments).stdout = text) ∧
    (∀ error, Ends inputs arguments (.error error) →
      (perform inputs arguments).follow printed = (.error error, printed) ∧
      (outcome inputs arguments).status = 1 ∧ (outcome inputs arguments).stdout = "") ∧
    (((perform inputs arguments).follow printed).2 ≠ printed ↔ ∃ text, Ends inputs arguments (.ok text)) := by
  refine ⟨execute_ends_iff inputs arguments, ?_, ?_, ?_⟩
  · intro text ends
    have executed := ends_execute inputs arguments _ ends
    simp only [perform_ends, outcome, executed, and_self]
  · intro error ends
    have executed := ends_execute inputs arguments _ ends
    simp only [perform_ends, outcome, executed, and_self]
  · simp only [execute_ends_iff, perform_ends]
    cases executed : execute inputs arguments with
    | error error => simp
    | ok text => simpa using executed_visible inputs arguments text executed

theorem command_ends_faulty :
    let document : Document := ⟨true, [.disjunctionMax .must true []]⟩
    let inputs : Inputs :=
      ⟨fun path => .ok (if path = "q" then document.toJson.text .pretty else "[1]"), .error .notText⟩
    let arguments : Arguments := ⟨3, false, .human, false, [], some "q", some "s", true⟩
    Ends inputs arguments (.error (.query .emptyDisjunctionMax)) ∧
      (perform inputs arguments).follow "before" = (.error (.query .emptyDisjunctionMax), "before") ∧
      execute inputs { arguments with input := some "s", tokens := ["a"] } =
        .error (.invalidArgument .tokensAndInput) ∧
      execute inputs { arguments with input := none, tokens := ["a"] } =
        .error (.config (.unusable (.mismatch (.wrongType (.number (.natural 1)) "a boolean")))) := by
  intro document inputs arguments
  have read : Document.ofText (document.toJson.text .pretty) = .ok document :=
    (of_text_written document .pretty).trans (within_ok _ _ _ (by decide))
  have ends : Ends inputs arguments (.error (.query .emptyDisjunctionMax)) :=
    .noQuery _ (.faulty "q" _ document _ rfl rfl rfl read rfl)
  have typed : ReadsQuery inputs { arguments with input := none, tokens := ["a"] } (.ok _) := .typed _ rfl (by simp) rfl
  refine ⟨ends, ((command_ends inputs arguments "before").2.2.1 _ ends).1, ?_, ?_⟩
  · exact ((command_ends inputs _ "").1 _).mp (.both "s" rfl (by simp))
  · exact ((command_ends inputs _ "").1 _).mp (.noSettings _ _ typed (.unusable "s" "[1]" _ rfl rfl (by decide +kernel)))

end Command

end QueryShingles
