import Mathlib.Control.Monad.Basic
import QueryShingles.Document.Reader
import QueryShingles.Proofs.Results

/-!
Two ways from a text to a query. Where a text holds nothing but a query, the whole text is known to be
sound before the tree is looked at; where a query is read like any part of a text, its tree is looked at
as soon as its document ends. Both ways take the same texts and build the same queries. What they report
only differs for a text with a faulty tree and something behind it.
-/

set_option autoImplicit false

namespace QueryShingles

def StructureError.refusal (fault : StructureError) : ReadError :=
  .mismatch (.refused (ErrorKind.query.describe fault.message))

def Draft.Alone (text : String) : Prop := (Scan.skipBlank (Draft.ofChars text.toList).2).isEmpty = true

theorem read_query_steps (budget : Nat) (draft : Draft) :
    Query.read budget draft =
      Document.read budget draft >>= fun document => document.toQuery.mapError StructureError.refusal := by
  rw [Query.read]
  cases Document.read budget draft with
  | error error => rfl
  | ok document =>
      rw [ok_bind, ok_bind]
      cases document.toQuery <;> rfl

section

variable {α : Type} (read : Nat → Draft → Except ReadError α) (text : String)

theorem read_text_error (error : ReadError) (failed : read nestingLimit (Draft.ofChars text.toList).1 = .error error) :
    Draft.readText read text = .error error := by
  rw [Draft.readText]
  simp only [failed, error_bind]

theorem read_text_alone (value : α) (went : read nestingLimit (Draft.ofChars text.toList).1 = .ok value)
    (alone : Draft.Alone text) : Draft.readText read text = .ok value := by
  rw [Draft.Alone] at alone
  rw [Draft.readText]
  simp only [went, ok_bind, if_pos alone, pure_is_ok]

theorem read_text_behind (value : α) (went : read nestingLimit (Draft.ofChars text.toList).1 = .ok value)
    (behind : ¬ Draft.Alone text) : Draft.readText read text = .error (.text .malformed) := by
  rw [Draft.Alone] at behind
  rw [Draft.readText]
  simp only [went, ok_bind, if_neg behind]
  rfl

end

theorem of_text_unread (text : String) (error : ReadError) (failed : Document.ofText text = .error error) :
    Query.ofText text = .error (.json error) := by
  simp only [Query.ofText, failed]

theorem routes_cases (text : String) :
    (∃ error, Draft.readText Query.read text = .error error ∧ Query.ofText text = .error (.json error)) ∨
    (∃ query, Draft.readText Query.read text = .ok query ∧ Query.ofText text = .ok query) ∨
    ∃ fault, Draft.readText Query.read text = .error (StructureError.refusal fault) ∧
      (Query.ofText text = .error (.structure fault) ∨
        ¬ Draft.Alone text ∧ Query.ofText text = .error (.json (.text .malformed))) := by
  have direct := read_query_steps nestingLimit (Draft.ofChars text.toList).1
  cases read : Document.read nestingLimit (Draft.ofChars text.toList).1 with
  | error error =>
      rw [read, error_bind] at direct
      exact .inl ⟨error, read_text_error _ text error direct,
        of_text_unread text error (read_text_error _ text error read)⟩
  | ok document =>
      rw [read, ok_bind] at direct
      -- Only here do the two ways look at the same thing next, the tree.
      by_cases alone : Draft.Alone text
      · have whole : Document.ofText text = .ok document := read_text_alone _ text document read alone
        cases built : document.toQuery with
        | ok query =>
            rw [built] at direct
            refine .inr (.inl ⟨query, read_text_alone _ text query direct alone, ?_⟩)
            simp only [Query.ofText, whole, built]
        | error fault =>
            rw [built] at direct
            refine .inr (.inr ⟨fault, read_text_error _ text _ direct, .inl ?_⟩)
            simp only [Query.ofText, whole, built]
      · have unread := of_text_unread text _ (read_text_behind _ text document read alone)
        cases built : document.toQuery with
        | ok query =>
            rw [built] at direct
            exact .inl ⟨_, read_text_behind _ text query direct alone, unread⟩
        | error fault =>
            rw [built] at direct
            exact .inr (.inr ⟨fault, read_text_error _ text _ direct, .inr ⟨alone, unread⟩⟩)

/-- The two ways build the same query from the same texts. A fault of the tree that the one finds is found by the
other and said in the same words. Whatever else is wrong with a text is reported by both, but where something stands
behind a document with a faulty tree, the one only sees the former and the other only the latter. -/
theorem routes_agree (text : String) :
    (∀ query, Draft.readText Query.read text = .ok query ↔ Query.ofText text = .ok query) ∧
    (∀ fault, Query.ofText text = .error (.structure fault) →
      ∃ cause, Draft.readText Query.read text = .error (.mismatch cause) ∧
        cause.message = "Query error: " ++ fault.message) ∧
    ∀ error, Query.ofText text = .error (.json error) →
      Draft.readText Query.read text = .error error ∨
        error = .text .malformed ∧ ¬ Draft.Alone text ∧
          ∃ fault, Draft.readText Query.read text = .error (StructureError.refusal fault) := by
  rcases routes_cases text with
    ⟨error, direct, whole⟩ | ⟨query, direct, whole⟩ | ⟨fault, direct, whole | ⟨behind, whole⟩⟩
  · rw [direct, whole]
    refine ⟨by simp, by simp, ?_⟩
    intro other same
    cases same
    exact .inl rfl
  · rw [direct, whole]
    exact ⟨by simp, by simp, by simp⟩
  · rw [direct, whole]
    refine ⟨by simp, ?_, by simp⟩
    intro other same
    cases same
    exact ⟨_, rfl, rfl⟩
  · rw [direct, whole]
    refine ⟨by simp, by simp, ?_⟩
    intro other same
    cases same
    exact .inr ⟨rfl, behind, fault, rfl⟩

theorem routes_agree_nested :
    let faulty := "[false, [[\"dmq\", \"must\", false, [[\"dmq\", \"must\", false, []]]]]]"
    (∃ cause, Draft.readText Query.read faulty = .error (.mismatch cause) ∧
      cause.message = "Query error: disjunction max query cannot directly contain another disjunction max query") ∧
    ∃ fault, Draft.readText Query.read (faulty ++ "]") = .error (StructureError.refusal fault) := by
  intro faulty
  have found : Query.ofText faulty = .error (.structure .nestedDisjunctionMax) := by decide +kernel
  have trailing : Query.ofText (faulty ++ "]") = .error (.json (.text .malformed)) := by decide +kernel
  refine ⟨(routes_agree faulty).2.1 _ found, ?_⟩
  rcases (routes_agree (faulty ++ "]")).2.2 _ trailing with same | ⟨_, _, hidden⟩
  · exact absurd same (by decide +kernel)
  · exact hidden

end QueryShingles
