import QueryShingles.Command.Line
import QueryShingles.Proofs.OptionWords

/-!
Writing a request as a command line. The options of a request spell out its parts, whatever their order, and
behind a lone double dash all words are tokens, so every request has its line.
-/

set_option autoImplicit false

namespace QueryShingles

def OutputFormat.name : OutputFormat → String
  | .human => "human"
  | .json => "json"

namespace CommonRecord

inductive Fits : Use CommonOption → Prop where
  | verbose : Fits (.verbose, none)
  | quiet : Fits (.quiet, none)
  | pretty : Fits (.pretty, none)
  | format (format : OutputFormat) : Fits (.format, some format.name)

theorem fitting_exchanged (first second : Use CommonOption) (fits : Fits first) (also : Fits second) :
    grammar.Exchanges first second := by
  rintro ⟨verbose, quiet, format, pretty⟩
  rcases fits with _ | _ | _ | (_ | _) <;> rcases also with _ | _ | _ | (_ | _) <;>
    cases quiet <;> cases pretty <;> cases format <;> rfl

theorem counted (count verbose : Nat) (quiet pretty : Bool) (format : Option OutputFormat) (bounded : verbose ≤ 255) :
    (List.replicate count (CommonOption.verbose, none)).foldl grammar.take (.ok ⟨verbose, quiet, format, pretty⟩) =
      .ok ⟨min (verbose + count) 255, quiet, format, pretty⟩ := by
  induction count generalizing verbose with
  | zero => simp [bounded]
  | succ count ih =>
      have once : grammar.take (.ok ⟨verbose, quiet, format, pretty⟩) (.verbose, none) =
          .ok ⟨min (verbose + 1) 255, quiet, format, pretty⟩ := rfl
      rw [List.replicate_succ, List.foldl_cons, once, ih _ (Nat.min_le_right _ _)]
      congr 2
      omega

end CommonRecord

namespace Arguments

def commonGroups (arguments : Arguments) (joined : Bool) : List (List String) :=
  [ List.replicate arguments.verbose "-v",
    if arguments.quiet then ["--quiet"] else [],
    if joined then ["--format=" ++ arguments.format.name] else ["--format", arguments.format.name],
    if arguments.pretty then ["--pretty"] else [] ]

def commonUses (arguments : Arguments) : List (List (Use CommonOption)) :=
  [ List.replicate arguments.verbose (.verbose, none),
    if arguments.quiet then [(CommonOption.quiet, none)] else [],
    [(.format, some arguments.format.name)],
    if arguments.pretty then [(CommonOption.pretty, none)] else [] ]

theorem common_spelled (arguments : Arguments) (joined : Bool) :
    List.Forall₂ CommonRecord.grammar.SpellsAll (arguments.commonGroups joined) arguments.commonUses := by
  have verbose : CommonRecord.grammar.Spells ["-v"] (.verbose, none) := .short _ 'v' _ rfl rfl rfl (by decide)
  have quiet : CommonRecord.grammar.Spells ["--quiet"] (.quiet, none) :=
    .long _ "quiet" _ rfl rfl rfl (by decide) (by decide)
  have pretty : CommonRecord.grammar.Spells ["--pretty"] (.pretty, none) :=
    .long _ "pretty" _ rfl rfl rfl (by decide) (by decide)
  have format : CommonRecord.grammar.Spells
      (if joined then ["--format=" ++ arguments.format.name] else ["--format", arguments.format.name])
      (.format, some arguments.format.name) := by
    split
    · exact .joined _ "format" _ _ rfl rfl (by rw [String.toList_append]; rfl) (by decide)
    · refine .apart _ "format" _ _ rfl rfl rfl (by decide) (by decide) ?_
      cases arguments.format <;> decide
  exact .cons (spells_all_replicate _ _ _ verbose _) (.cons (spells_all_if _ _ _ _ quiet)
    (.cons (spells_all_one _ _ _ format) (.cons (spells_all_if _ _ _ _ pretty) .nil)))

theorem common_fits (arguments : Arguments) (use : Use CommonOption) (used : use ∈ arguments.commonUses.flatten) :
    CommonRecord.Fits use := by
  simp only [commonUses, List.flatten_cons, List.flatten_nil, List.append_nil, List.mem_append, List.mem_replicate,
    List.mem_ite_nil_right, List.mem_singleton] at used
  rcases used with ⟨_, rfl⟩ | ⟨_, rfl⟩ | rfl | ⟨_, rfl⟩
  · exact .verbose
  · exact .quiet
  · exact .format arguments.format
  · exact .pretty

theorem common_applied (arguments : Arguments) :
    arguments.commonUses.flatten.foldl CommonRecord.grammar.take (.ok .empty) =
      .ok ⟨min arguments.verbose 255, arguments.quiet, some arguments.format, arguments.pretty⟩ := by
  obtain ⟨verbose, quiet, format, pretty, tokens, input, config, acceptGenerated⟩ := arguments
  simp only [commonUses, List.flatten_cons, List.flatten_nil, List.append_nil, List.foldl_append]
  rw [CommonRecord.empty, CommonRecord.counted _ _ _ _ _ (by decide), Nat.zero_add]
  cases quiet <;> cases pretty <;> cases format <;> rfl

theorem common_taken (arguments : Arguments) (joined : Bool) (common : List (List String))
    (order : common.Perm (arguments.commonGroups joined)) :
    ∃ later, (Progress.start .empty).Takes CommonRecord.grammar common.flatten later ∧
      later.Settles CommonRecord.grammar
        ⟨min arguments.verbose 255, arguments.quiet, some arguments.format, arguments.pretty⟩ := by
  refine takes_in_any_order _ _ CommonRecord.empty _ _ _ _ order (arguments.common_spelled joined) ?_ rfl
    arguments.common_applied
  intro first used second also
  exact CommonRecord.fitting_exchanged first second (arguments.common_fits first used) (arguments.common_fits second also)

end Arguments

namespace ShingleRecord

inductive Fits : Use ShingleOption → Prop where
  | input (path : String) (named : path ≠ "") : Fits (.input, some path)
  | config (path : String) (named : path ≠ "") : Fits (.config, some path)
  | acceptGenerated : Fits (.acceptGenerated, none)

theorem path_named (value : String) (named : value ≠ "") : path (some value) = some value := by
  simp [path, named]

theorem fitting_exchanged (first second : Use ShingleOption) (fits : Fits first) (also : Fits second) :
    grammar.Exchanges first second := by
  rintro ⟨tokens, input, config, acceptGenerated⟩
  cases fits <;> cases also <;> cases input <;> cases config <;> cases acceptGenerated <;>
    simp [Grammar.take, grammar, apply, setOnce, switchOn, path_named, *]

theorem of_words_taken (progress later : Progress ShingleOption ShingleRecord) (words rest : List String)
    (taken : progress.Takes grammar words later) : ofWords progress (words ++ rest) = ofWords later rest := by
  induction taken with
  | nil progress => rfl
  | cons progress next later word words taken behind ih => rw [List.cons_append, ofWords, taken, ← ih]

theorem of_words_plain (words : List String) :
    ∀ (progress : Progress ShingleOption ShingleRecord) (record : ShingleRecord), progress.plain = true →
      progress.settle grammar = .ok ⟨record, .nothing, true⟩ →
      ofWords progress words = check { record with tokens := record.tokens ++ words } := by
  induction words with
  | nil =>
      intro progress record plain settled
      rw [ofWords, settled, List.append_nil]
      rfl
  | cons word words ih =>
      intro progress record plain settled
      have none_taken : progress.takeWord? grammar word = none := by rw [Progress.takeWord?, if_pos plain]
      rw [ofWords, none_taken]
      simp only [settled]
      rw [ih _ _ rfl rfl, List.append_assoc]
      rfl

theorem of_words_dashes (progress : Progress ShingleOption ShingleRecord) (record : ShingleRecord)
    (words : List String) (settles : progress.Settles grammar record) :
    ofWords progress ("--" :: words) = check { record with tokens := record.tokens ++ words } := by
  have open_ := (settles_open grammar progress record settles).1
  have dashes : progress.takeWord? grammar "--" = some (.ok { progress with plain := true }) := by
    rw [Progress.takeWord?, open_]
    rfl
  have settled : ({ progress with plain := true } : Progress ShingleOption ShingleRecord).settle grammar =
      .ok ⟨record, .nothing, true⟩ := settle_plain grammar progress record settles
  rw [ofWords, dashes]
  exact of_words_plain words _ record rfl settled

end ShingleRecord

namespace Arguments

def ownGroups (arguments : Arguments) : List (List String) :=
  [ (arguments.input.map fun path => "--input=" ++ path).toList,
    (arguments.config.map fun path => "--config=" ++ path).toList,
    if arguments.acceptGenerated then ["--accept-generated-terms"] else [] ]

def ownUses (arguments : Arguments) : List (List (Use ShingleOption)) :=
  [ (arguments.input.map fun path => (ShingleOption.input, some path)).toList,
    (arguments.config.map fun path => (ShingleOption.config, some path)).toList,
    if arguments.acceptGenerated then [(ShingleOption.acceptGenerated, none)] else [] ]

/-- An empty path is no path, and there is no way to ask for one. -/
structure PathsNamed (arguments : Arguments) : Prop where
  input : ∀ path, arguments.input = some path → path ≠ ""
  config : ∀ path, arguments.config = some path → path ≠ ""

theorem own_spelled (arguments : Arguments) :
    List.Forall₂ ShingleRecord.grammar.SpellsAll arguments.ownGroups arguments.ownUses := by
  have input (path : String) : ShingleRecord.grammar.Spells ["--input=" ++ path] (.input, some path) :=
    .joined _ "input" path _ rfl rfl (by rw [String.toList_append]; rfl) (by decide)
  have config (path : String) : ShingleRecord.grammar.Spells ["--config=" ++ path] (.config, some path) :=
    .joined _ "config" path _ rfl rfl (by rw [String.toList_append]; rfl) (by decide)
  have accept : ShingleRecord.grammar.Spells ["--accept-generated-terms"] (.acceptGenerated, none) :=
    .long _ "accept-generated-terms" _ rfl rfl rfl (by decide) (by decide)
  exact .cons (spells_all_given _ _ _ _ input) (.cons (spells_all_given _ _ _ _ config)
    (.cons (spells_all_if _ _ _ _ accept) .nil))

theorem own_fits (arguments : Arguments) (named : arguments.PathsNamed) (use : Use ShingleOption)
    (used : use ∈ arguments.ownUses.flatten) : ShingleRecord.Fits use := by
  simp only [ownUses, List.flatten_cons, List.flatten_nil, List.append_nil, List.mem_append, Option.mem_toList,
    Option.map_eq_some_iff, List.mem_ite_nil_right, List.mem_singleton] at used
  rcases used with ⟨path, given, rfl⟩ | ⟨path, given, rfl⟩ | ⟨_, rfl⟩
  · exact .input path (named.input path given)
  · exact .config path (named.config path given)
  · exact .acceptGenerated

theorem own_applied (arguments : Arguments) (named : arguments.PathsNamed) :
    arguments.ownUses.flatten.foldl ShingleRecord.grammar.take (.ok .empty) =
      .ok ⟨[], arguments.input, arguments.config, arguments.acceptGenerated⟩ := by
  obtain ⟨verbose, quiet, format, pretty, tokens, input, config, acceptGenerated⟩ := arguments
  obtain ⟨inputNamed, configNamed⟩ := named
  cases input <;> cases config <;> cases acceptGenerated <;>
    simp_all [ownUses, Grammar.take, ShingleRecord.grammar, ShingleRecord.apply, ShingleRecord.empty,
      ShingleRecord.path_named, setOnce, switchOn]

theorem own_taken (arguments : Arguments) (named : arguments.PathsNamed) (own : List (List String))
    (order : own.Perm arguments.ownGroups) :
    ∃ later, (Progress.start .empty).Takes ShingleRecord.grammar own.flatten later ∧
      later.Settles ShingleRecord.grammar
        ⟨[], arguments.input, arguments.config, arguments.acceptGenerated⟩ := by
  refine takes_in_any_order _ _ ShingleRecord.empty _ _ _ _ order arguments.own_spelled ?_ rfl (arguments.own_applied named)
  intro first used second also
  exact ShingleRecord.fitting_exchanged first second (arguments.own_fits named first used)
    (arguments.own_fits named second also)

theorem taken_names_no_command (progress next : Progress CommonOption CommonRecord) (word : String)
    (taken : progress.takeWord? CommonRecord.grammar word = some (.ok next)) : namesCommand progress word = false := by
  obtain ⟨record, pending, plain⟩ := progress
  by_contra names
  simp only [namesCommand, commandNames, Bool.not_eq_false] at names
  split at names
  · exact absurd names Bool.false_ne_true
  · simp only [Bool.and_eq_true, Bool.not_eq_eq_eq_not, Bool.not_true, decide_eq_true_eq, List.mem_cons,
      List.not_mem_nil, or_false] at names
    obtain ⟨rfl, rfl | rfl⟩ := names
    · simp [Progress.takeWord?] at taken
    · simp [Progress.takeWord?] at taken

theorem of_progress_taken (progress later : Progress CommonOption CommonRecord) (words rest : List String)
    (taken : progress.Takes CommonRecord.grammar words later) :
    ofProgress progress (words ++ rest) = ofProgress later rest := by
  induction taken with
  | nil progress => rfl
  | cons progress next later word words taken behind ih =>
      rw [List.cons_append, ofProgress, taken_names_no_command progress next word taken, taken, ← ih]
      rfl

theorem of_progress_rewrite (progress : Progress CommonOption CommonRecord) (record : CommonRecord)
    (words : List String) (settles : progress.Settles CommonRecord.grammar record) :
    ofProgress progress ("rewrite" :: words) =
      (ShingleRecord.ofWords (.start .empty) words).map fun own => join record own := by
  obtain ⟨open_, ready⟩ := settles_open CommonRecord.grammar progress record settles
  have names : namesCommand progress "rewrite" = true := by
    rw [namesCommand]
    split
    · exact absurd ‹_› (ready _)
    · simp [open_, commandNames]
  rw [ofProgress, names, settles]
  cases ShingleRecord.ofWords (.start .empty) words <;> rfl

/-- Every request has its line, whatever its tokens look like and in whatever order its options are written. The line
is refused if the request would take its words from two places. -/
theorem line_expresses (arguments : Arguments) (joined : Bool) (common own : List (List String))
    (named : arguments.PathsNamed) (commonOrder : common.Perm (arguments.commonGroups joined))
    (ownOrder : own.Perm arguments.ownGroups) :
    ofWords (common.flatten ++ "rewrite" :: (own.flatten ++ "--" :: arguments.tokens)) =
      if arguments.input.isSome ∧ arguments.tokens ≠ [] then .error .argumentConflict
      else .ok { arguments with verbose := min arguments.verbose 255 } := by
  obtain ⟨front, frontTaken, frontSettles⟩ := common_taken arguments joined common commonOrder
  obtain ⟨back, backTaken, backSettles⟩ := own_taken arguments named own ownOrder
  rw [ofWords, of_progress_taken _ front common.flatten _ frontTaken, of_progress_rewrite front _ _ frontSettles,
    ShingleRecord.of_words_taken _ back own.flatten _ backTaken, ShingleRecord.of_words_dashes back _ _ backSettles,
    ShingleRecord.check, List.nil_append]
  by_cases both : arguments.input.isSome ∧ arguments.tokens ≠ []
  · rw [if_pos both, if_pos (by simpa using both)]
    rfl
  · rw [if_neg both, if_neg (by simpa using both)]
    rfl

theorem line_expresses_lookalikes :
    let arguments : Arguments := ⟨2, true, .json, true, ["", "-v", "rewrite", "--"], none, some "--config=c", true⟩
    arguments.PathsNamed ∧
      ofWords ["--pretty", "--format", "json", "-v", "-v", "--quiet", "rewrite", "--accept-generated-terms",
        "--config=--config=c", "--", "", "-v", "rewrite", "--"] = .ok arguments ∧
      ofWords ["-v", "-v", "--quiet", "--format=json", "--pretty", "rewrite", "--input=-", "--config=--config=c",
        "--accept-generated-terms", "--", "", "-v", "rewrite", "--"] = .error .argumentConflict := by
  intro arguments
  have named : arguments.PathsNamed := ⟨by simp [arguments], by simp [arguments]⟩
  have both : { arguments with input := some "-" }.PathsNamed := ⟨by simp, named.config⟩
  refine ⟨named, ?_, ?_⟩
  · exact line_expresses arguments false [["--pretty"], ["--format", "json"], ["-v", "-v"], ["--quiet"]]
      [["--accept-generated-terms"], ["--config=--config=c"], []] named (by decide) (by decide)
  · exact line_expresses _ true _ _ both (.refl _) (.refl _)

end Arguments

end QueryShingles
