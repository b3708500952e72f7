import QueryShingles.Command.Run
import QueryShingles.Proofs.Passes
import QueryShingles.Proofs.Reloading

/-!
Runs of the program in a row, each reading what the one in front of it printed, make the same shingles
as passes over one query that is kept in memory.
-/

set_option autoImplicit false

namespace QueryShingles

namespace Command

structure JsonRun where
  inputs : Inputs
  words : List String
  arguments : Arguments
  accept : Bool
  understood : Arguments.ofWords words = .ok arguments
  asked : arguments.format = .json
  settings : loadShingling inputs arguments = .ok ⟨accept⟩

namespace JsonRun

def outcome (run : JsonRun) : Outcome := program run.inputs run.words

def source (run : JsonRun) : Except Error Query := loadQuery run.inputs run.arguments

def layout (run : JsonRun) : Json.Layout := if run.arguments.pretty then .pretty else .compact

def Reads (run : JsonRun) (text : String) : Prop :=
  run.arguments.tokens = [] ∧ ∃ path, run.arguments.input = some path ∧ run.inputs.source path = .ok text

end JsonRun

/-- Every run but the first reads all that the one in front of it printed. -/
def Pipeline (runs : List JsonRun) : Prop := runs.IsChain fun run next => next.Reads run.outcome.stdout

theorem source_reloadable (inputs : Inputs) (arguments : Arguments) (query : Query)
    (loaded : loadQuery inputs arguments = .ok query) : query.Reloadable := by
  unfold loadQuery at loaded
  split at loaded
  · cases loaded
  · cases loaded
  · exact of_words_reloadable _ query (map_error_ok _ _ query loaded)
  · split at loaded
    · cases loaded
    · exact of_text_reloadable _ query (map_error_ok _ _ query loaded)

theorem reads_source (run : JsonRun) (text : String) (query : Query) (reads : run.Reads text)
    (loaded : Query.ofText text = .ok query) : run.source = .ok query := by
  obtain ⟨wordless, path, named, found⟩ := reads
  rw [JsonRun.source, loadQuery, named, wordless]
  simp only [found, loaded]
  rfl

theorem run_prints (run : JsonRun) (query : Query) (loaded : run.source = .ok query) :
    run.outcome.status = 0 ∧
      run.outcome.stdout = ((Shingling.mk run.accept).run query).toDocument.toJson.text run.layout ++ "\n" := by
  have executed : execute run.inputs run.arguments = .ok (outputOf run.arguments query ⟨run.accept⟩) := by
    rw [execute, show loadQuery run.inputs run.arguments = .ok query from loaded, run.settings]
    rfl
  rw [JsonRun.outcome, program, run.understood]
  simp only [Command.outcome, executed, true_and]
  rw [outputOf, ShingleReport.output, run.asked]
  rfl

theorem run_prints_memory (run : JsonRun) (source memory : Query) (loaded : run.source = .ok source)
    (reloadable : source.Reloadable) (linked : memory.Linked) (same : source.toDocument = memory.toDocument) :
    ((Shingling.mk run.accept).run source).toDocument = ((Shingling.mk run.accept).run memory).toDocument ∧
      run.outcome.status = 0 ∧
      run.outcome.stdout = (memory.passes [run.accept]).toDocument.toJson.text run.layout ++ "\n" := by
  obtain ⟨status, printed⟩ := run_prints run source loaded
  have shows : ((Shingling.mk run.accept).run source).toDocument =
      ((Shingling.mk run.accept).run memory).toDocument := by
    rw [run_document _ source reloadable.linked, run_document _ memory linked, same]
  refine ⟨shows, status, printed.trans ?_⟩
  rw [shows]
  rfl

theorem pipeline_from (first : JsonRun) (rest : List JsonRun) (pipeline : Pipeline (first :: rest))
    (source memory : Query) (loaded : first.source = .ok source) (reloadable : source.Reloadable)
    (linked : memory.Linked) (same : source.toDocument = memory.toDocument) (i : Nat) (run : JsonRun)
    (found : (first :: rest)[i]? = some run) :
    run.outcome.status = 0 ∧
      run.outcome.stdout =
        (memory.passes (((first :: rest).take (i + 1)).map JsonRun.accept)).toDocument.toJson.text run.layout
          ++ "\n" := by
  induction rest generalizing first source memory i with
  | nil =>
      cases i with
      | zero =>
          have isFirst : first = run := Option.some.inj found
          subst isFirst
          exact (run_prints_memory first source memory loaded reloadable linked same).2
      | succ i => simp at found
  | cons next more ih =>
      obtain ⟨shows, status, printed⟩ := run_prints_memory first source memory loaded reloadable linked same
      cases i with
      | zero =>
          have isFirst : first = run := Option.some.inj found
          subst isFirst
          exact ⟨status, printed⟩
      | succ i =>
          obtain ⟨fed, behind⟩ := List.isChain_cons_cons.mp pipeline
          -- The query in memory goes through the same pass, so it shows what the next run loads.
          have grown := run_reloadable ⟨first.accept⟩ source reloadable
          obtain ⟨again, loadedAgain, sameAgain⟩ := reload _ grown first.layout
          have nextLoaded : next.source = .ok again := by
            refine reads_source next _ again fed ?_
            rw [printed, ← loadedAgain, shows]
            rfl
          exact ih next behind again ((Shingling.mk first.accept).run memory) nextLoaded
            (of_text_reloadable _ again loadedAgain) (run_linked _ memory linked) (sameAgain.trans shows) i found

/-- Every run of a pipeline goes well, and prints the document that the passes up to it make of the query that the
first run loads. -/
theorem pipeline_prints_passes (first : JsonRun) (rest : List JsonRun) (pipeline : Pipeline (first :: rest))
    (source : Query) (loaded : first.source = .ok source) (i : Nat) (run : JsonRun)
    (found : (first :: rest)[i]? = some run) :
    run.outcome.status = 0 ∧
      run.outcome.stdout =
        (source.passes (((first :: rest).take (i + 1)).map JsonRun.accept)).toDocument.toJson.text run.layout
          ++ "\n" := by
  have reloadable := source_reloadable first.inputs first.arguments source loaded
  exact pipeline_from first rest pipeline source source loaded reloadable reloadable.linked rfl i run found

def twoWords : JsonRun where
  inputs := ⟨fun _ => .error .notFound, .ok ""⟩
  words := ["-f", "json", "rewrite", "a", "b*"]
  arguments := ⟨0, false, .json, false, ["a", "b*"], none, none, false⟩
  accept := false
  understood := rfl
  asked := rfl
  settings := rfl

def afterTwoWords : JsonRun where
  inputs := ⟨fun _ => .error .notFound, .ok twoWords.outcome.stdout⟩
  words := ["--pretty", "-f", "json", "rewrite", "--input", "-", "--accept-generated-terms"]
  arguments := ⟨0, false, .json, true, [], some "-", none, true⟩
  accept := true
  understood := rfl
  asked := rfl
  settings := rfl

theorem pipeline_prints_two_words :
    afterTwoWords.outcome.status = 0 ∧
      afterTwoWords.outcome.stdout = (Document.mk false
        [.disjunctionMax .should false [.term none "a" false, .term none ("a" ++ "b") true],
         .disjunctionMax .should true [.term none "b" true, .term none ("a" ++ "b") true]]).toJson.text .pretty
          ++ "\n" := by
  have fed : afterTwoWords.Reads twoWords.outcome.stdout := ⟨rfl, "-", rfl, rfl⟩
  have pipeline : Pipeline [twoWords, afterTwoWords] := List.isChain_cons_cons.mpr ⟨fed, .singleton _⟩
  obtain ⟨status, printed⟩ := pipeline_prints_passes twoWords [afterTwoWords] pipeline _ rfl 1 afterTwoWords rfl
  exact ⟨status, printed.trans rfl⟩

end Command

end QueryShingles
