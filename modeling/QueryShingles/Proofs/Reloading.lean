import QueryShingles.Proofs.Depth
import QueryShingles.Proofs.Renumbering
import QueryShingles.Proofs.RoundTrip
import QueryShingles.Token

/-!
Queries whose document can be written and loaded again: all that come out of a text or out of words
are, and a pass of the shingles leaves them so. What is loaded again may be numbered differently, but
it shows the same document.
-/

set_option autoImplicit false

namespace QueryShingles

open ClauseDocument

structure Query.Reloadable (query : Query) : Prop where
  linked : query.Linked
  fits : query.toDocument.fits = true
  settled : query.toDocument.settle = query.toDocument
  nest : query.toDocument.nest ≤ nestingLimit

theorem document_settle_fits (document : Document) : document.settle.fits = document.fits :=
  settle_all_fits false false document.clauses

theorem document_settle_settle (document : Document) : document.settle.settle = document.settle :=
  congrArg (Document.mk document.generated) (settle_all_settle false document.clauses)

theorem document_settle_nest (document : Document) : document.settle.nest = document.nest :=
  congrArg (2 + ·) (settle_all_nest false document.clauses)

theorem loaded_reloadable (document : Document) (query : Query) (loaded : document.toQuery = .ok query)
    (shallow : document.nest ≤ nestingLimit) : query.Reloadable := by
  have shows := to_query_document document query loaded
  refine ⟨loaded_linked document query loaded, ?_, ?_, ?_⟩
  · rw [shows, document_settle_fits]
    exact (to_query_ok_iff document).mp ⟨query, loaded⟩
  · rw [shows, document_settle_settle]
  · rw [shows, document_settle_nest]
    exact shallow

theorem of_text_steps (text : String) (query : Query) (loaded : Query.ofText text = .ok query) :
    ∃ document, Document.ofText text = .ok document ∧ document.toQuery = .ok query := by
  rw [Query.ofText] at loaded
  cases read : Document.ofText text with
  | error fault => simp [read] at loaded
  | ok document =>
      cases built : document.toQuery with
      | error fault => simp [read, built] at loaded
      | ok other =>
          simp only [read, built] at loaded
          cases loaded
          exact ⟨document, rfl, built⟩

theorem of_text_reloadable (text : String) (query : Query) (loaded : Query.ofText text = .ok query) :
    query.Reloadable := by
  obtain ⟨document, read, built⟩ := of_text_steps text query loaded
  exact loaded_reloadable document query built (of_text_nest text document read)

def Token.clause (token : Token) : ClauseDocument :=
  .disjunctionMax .should token.generated [.term token.field token.value token.generated]

theorem add_token_clause (query : Query) (token : Token) :
    query.addClause Query.root token.clause =
      .ok (query.addToken token.field token.value token.generated).1 := rfl

theorem add_words_clauses (query grown : Query) (words : List String) (added : query.addWords words = .ok grown) :
    ∃ tokens : List Token, query.addClauses Query.root (tokens.map Token.clause) = .ok grown := by
  induction words generalizing query with
  | nil =>
      cases added
      exact ⟨[], rfl⟩
  | cons word rest ih =>
      cases read : Token.ofString word with
      | error fault => simp [Query.addWords, read] at added
      | ok token =>
          simp only [Query.addWords, read] at added
          obtain ⟨tokens, behind⟩ := ih _ added
          refine ⟨token :: tokens, ?_⟩
          simp only [List.map_cons, Query.addClauses, add_token_clause]
          exact behind

theorem of_words_document (words : List String) (query : Query) (loaded : Query.ofWords words = .ok query) :
    ∃ document : Document, document.toQuery = .ok query ∧ document.nest ≤ nestingLimit := by
  obtain ⟨tokens, added⟩ := add_words_clauses (Query.new false) query words loaded
  refine ⟨⟨false, tokens.map Token.clause⟩, added, ?_⟩
  have flat : nestAll (tokens.map Token.clause) ≤ 3 := by
    refine (nest_all_le_iff _ 3).mpr ?_
    intro clause member
    obtain ⟨token, _, same⟩ := List.mem_map.mp member
    rw [← same]
    simp [Token.clause, ClauseDocument.nest, nestAll]
  rw [document_nest, nestingLimit]
  omega

theorem of_words_reloadable (words : List String) (query : Query) (loaded : Query.ofWords words = .ok query) :
    query.Reloadable := by
  obtain ⟨document, built, shallow⟩ := of_words_document words query loaded
  exact loaded_reloadable document query built shallow

theorem run_reloadable (shingling : Shingling) (query : Query) (reloadable : query.Reloadable) :
    (shingling.run query).Reloadable := by
  have shows := run_document shingling query reloadable.linked
  refine ⟨run_linked shingling query reloadable.linked, ?_, ?_, ?_⟩
  · rw [shows]
    exact shingled_fits shingling _ reloadable.fits
  · rw [shows]
    exact shingled_settled shingling _ reloadable.settled
  · rw [shows]
    exact Nat.le_trans (shingled_nest shingling _ reloadable.fits) reloadable.nest

theorem reload (query : Query) (reloadable : query.Reloadable) (layout : Json.Layout) :
    ∃ again, Query.ofText (query.toDocument.toJson.text layout ++ "\n") = .ok again ∧
      again.toDocument = query.toDocument := by
  have read : Document.ofText (query.toDocument.toJson.text layout ++ "\n") = .ok query.toDocument :=
    (of_text_blanks query.toDocument layout ['\n'] (by simp [Scan.isBlank])).trans
      (within_ok _ _ _ reloadable.nest)
  obtain ⟨again, built⟩ := (to_query_ok_iff query.toDocument).mpr reloadable.fits
  refine ⟨again, ?_, ?_⟩
  · rw [Query.ofText, read]
    simp only [built]
  · rw [to_query_document _ again built, reloadable.settled]

theorem loaded_again (document : Document) (query : Query) (loaded : document.toQuery = .ok query) :
    query.toDocument.toQuery = .ok query := by
  obtain ⟨fitting, same⟩ := (to_query_iff document query).mp loaded
  apply (to_query_iff query.toDocument query).mpr
  rw [to_query_document document query loaded, document_settle_fits, document_settle_settle]
  exact ⟨fitting, same⟩

theorem loaded_in_order (document : Document) (query : Query) (loaded : document.toQuery = .ok query) :
    query.preorder = List.range query.size := by
  have linked := loaded_linked document query loaded
  have same := ((reload_iff query query linked).mp (loaded_again document query loaded)).2
  exact (renumbered_same_iff query linked).mp same.symm

/-- However a query was spelled, it is numbered in pre-order, and its own text loads as the very same query. -/
theorem of_text_normal (text : String) (query : Query) (loaded : Query.ofText text = .ok query) :
    query.preorder = List.range query.size ∧
      ∀ layout, Query.ofText (query.toDocument.toJson.text layout) = .ok query := by
  obtain ⟨document, read, built⟩ := of_text_steps text query loaded
  refine ⟨loaded_in_order document query built, ?_⟩
  intro layout
  have shallow := (of_text_reloadable text query loaded).nest
  have written : Document.ofText (query.toDocument.toJson.text layout) = .ok query.toDocument :=
    (of_text_written query.toDocument layout).trans (within_ok _ _ _ shallow)
  rw [Query.ofText, written]
  simp only [loaded_again document query built]

theorem of_text_normal_arrays :
    let text := "[true, [[\"dmq\", \"must\", false, [\x7b\"value\": \"\\u0061\", \"x\": [null], \"type\": \"term\"\x7d, "
      ++ "[\"bool\", \"must\", true, []]]]]]"
    let query : Query := ⟨#[.boolean ⟨none, .should, true, [1]⟩, .disjunctionMax ⟨⟨0⟩, .must, false, [2, 3]⟩,
      .term ⟨⟨1⟩, none, "a", false⟩, .boolean ⟨some 1, .should, true, []⟩]⟩
    Query.ofText text = .ok query ∧ query.preorder = List.range 4 ∧
      Query.ofText (query.toDocument.toJson.text .pretty) = .ok query := by
  intro text query
  have loaded : Query.ofText text = .ok query := by decide +kernel
  obtain ⟨ordered, again⟩ := of_text_normal text query loaded
  exact ⟨loaded, ordered, again .pretty⟩

end QueryShingles
