import QueryShingles.Error
import QueryShingles.Proofs.Display
import QueryShingles.Proofs.Reloading

/-!
The words of a user. A word is read as a token exactly if it is the spelling of that token, and the tokens that
have a spelling are those that are well-formed; so what is refused is known from the word alone. A query of
words shows them as they were typed.
-/

set_option autoImplicit false

namespace QueryShingles

namespace Token

def spelling (token : Token) : String :=
  token.field.elim "" (· ++ ":") ++ token.value ++ if token.generated then "*" else ""

/-- No part is empty, and no star or colon of its own stands where the word would be taken apart. -/
structure WellFormed (token : Token) : Prop where
  field : ∀ name, token.field = some name → name ≠ "" ∧ ':' ∉ name.toList
  value : token.value ≠ ""
  colon : token.field = none → ':' ∉ token.value.toList
  star : token.generated = false → token.value.toList.getLast? ≠ some '*'

def starred (word : String) : Bool := word.toList.getLast? = some '*'

def starless (word : String) : List Char := if starred word then word.toList.dropLast else word.toList

def shown (word : String) : String := "\x7b" ++ word ++ "\x7d" ++ if starred word then "*" else ""

end Token

open Token

theorem strip_star_word (word : String) : stripStar word.toList = (starless word, starred word) := by
  unfold stripStar starless starred
  by_cases star : word.toList.getLast? = some '*' <;> simp [star]

theorem starless_star (word : String) : starless word ++ ClauseDocument.star (starred word) = word.toList := by
  unfold starless
  cases star : starred word with
  | true => exact List.dropLast_append_getLast? '*' (of_decide_eq_true star)
  | false => exact List.append_nil _

theorem starless_last (word : String) (plain : starred word = false) : (starless word).getLast? ≠ some '*' := by
  rw [starless, plain]
  exact of_decide_eq_false plain

theorem strip_star_back (base : List Char) (generated : Bool)
    (plain : generated = false → base.getLast? ≠ some '*') :
    stripStar (base ++ ClauseDocument.star generated) = (base, generated) := by
  cases generated with
  | true => simp [stripStar, ClauseDocument.star]
  | false => simp [stripStar, ClauseDocument.star, plain rfl]

theorem split_colon_none_iff (text : List Char) : splitColon text = none ↔ ':' ∉ text := by
  induction text with
  | nil => simp [splitColon]
  | cons c rest ih =>
      by_cases colon : c = ':'
      · simp [colon, splitColon]
      · rw [splitColon, Option.map_eq_none_iff, ih, List.mem_cons, not_or]
        · exact ⟨fun free => ⟨Ne.symm colon, free⟩, And.right⟩
        · exact colon

theorem split_colon_first (before behind : List Char) (free : ':' ∉ before) :
    splitColon (before ++ ':' :: behind) = some (before, behind) := by
  induction before with
  | nil => rfl
  | cons c rest ih =>
      rw [List.mem_cons, not_or] at free
      rw [List.cons_append, splitColon, ih free.2]
      · rfl
      · exact Ne.symm free.1

theorem split_colon_parts (text before behind : List Char) (split : splitColon text = some (before, behind)) :
    text = before ++ ':' :: behind ∧ ':' ∉ before := by
  have colon : ':' ∈ text := by
    by_contra free
    rw [(split_colon_none_iff text).mpr free] at split
    cases split
  obtain ⟨front, back, same, free⟩ := List.eq_append_cons_of_mem colon
  rw [same, split_colon_first front back free] at split
  cases split
  exact ⟨same, free⟩

theorem of_string_cases (word : String) :
    (':' ∉ starless word ∧ Token.ofString word =
      if starless word = [] then .error (.emptyValue (String.ofList (starless word)))
      else .ok ⟨none, String.ofList (starless word), starred word⟩) ∨
    ∃ before behind, starless word = before ++ ':' :: behind ∧ ':' ∉ before ∧ Token.ofString word =
      if before = [] then .error (.emptyField (String.ofList (starless word)))
      else if behind = [] then .error (.emptyValue (String.ofList (starless word)))
      else .ok ⟨some (String.ofList before), String.ofList behind, starred word⟩ := by
  rw [Token.ofString, ofChars, strip_star_word word]
  cases split : splitColon (starless word) with
  | none =>
      refine .inl ⟨(split_colon_none_iff _).mp split, ?_⟩
      cases starless word <;> rfl
  | some parts =>
      obtain ⟨before, behind⟩ := parts
      obtain ⟨whole, free⟩ := split_colon_parts _ before behind split
      refine .inr ⟨before, behind, whole, free, ?_⟩
      cases before with
      | nil => rfl
      | cons first front => cases behind <;> rfl

theorem first_colon_unique (before behind front : List Char) (free : ':' ∉ before) (alsoFree : ':' ∉ front)
    (same : before ++ ':' :: behind = front ++ [':']) : behind = [] := by
  have split := split_colon_first before behind free
  rw [same, split_colon_first front [] alsoFree] at split
  cases split
  rfl

theorem refused_iff (word : String) :
    (∃ cause, Token.ofString word = .error cause) ↔
      starless word = [] ∨ (starless word).head? = some ':' ∨
        ∃ front, starless word = front ++ [':'] ∧ ':' ∉ front := by
  rcases of_string_cases word with ⟨free, read⟩ | ⟨before, behind, whole, free, read⟩
  · rw [read]
    have noColon : (starless word).head? ≠ some ':' := fun first => free (List.mem_of_mem_head? first)
    have noLast : ¬ ∃ front, starless word = front ++ [':'] ∧ ':' ∉ front := by
      rintro ⟨front, same, _⟩
      simp [same] at free
    by_cases empty : starless word = [] <;> simp [empty, noColon, noLast]
  · rw [read, whole]
    have colonLast : (∃ front, before ++ ':' :: behind = front ++ [':'] ∧ ':' ∉ front) ↔ behind = [] := by
      constructor
      · rintro ⟨front, same, alsoFree⟩
        exact first_colon_unique before behind front free alsoFree same
      · intro empty
        exact ⟨before, by rw [empty], free⟩
    rw [colonLast]
    cases before with
    | nil => simp
    | cons first rest =>
        have different : first ≠ ':' := fun same => free (by simp [same])
        by_cases empty : behind = [] <;> simp [empty, different]

def Token.body (token : Token) : List Char :=
  token.field.elim [] (fun name => name.toList ++ [':']) ++ token.value.toList

theorem spelling_chars (token : Token) :
    token.spelling.toList = token.body ++ ClauseDocument.star token.generated := by
  cases field : token.field <;> cases generated : token.generated <;>
    simp [spelling, body, field, generated, ClauseDocument.star]

theorem body_last (token : Token) (present : token.value ≠ "") :
    token.body.getLast? = token.value.toList.getLast? := by
  have nonempty : token.value.toList ≠ [] := by simpa using present
  rw [body, List.getLast?_append, List.getLast?_eq_getLast_of_ne_nil nonempty, Option.some_or]

theorem of_string_spelling (token : Token) (formed : token.WellFormed) :
    Token.ofString token.spelling = .ok token := by
  have plain : token.generated = false → token.body.getLast? ≠ some '*' := by
    rw [body_last token formed.value]
    exact formed.star
  have present : token.value.toList ≠ [] := by simpa using formed.value
  rw [Token.ofString, ofChars, spelling_chars, strip_star_back _ _ plain]
  obtain ⟨field, value, generated⟩ := token
  cases field with
  | none =>
      have whole : splitColon value.toList = none := (split_colon_none_iff _).mpr (formed.colon rfl)
      simp [body, whole, present]
  | some name =>
      obtain ⟨named, free⟩ := formed.field name rfl
      have parts : splitColon (name.toList ++ ':' :: value.toList) = some (name.toList, value.toList) :=
        split_colon_first _ _ free
      simp [body, parts, named]

theorem spelling_of_parts (word : String) (token : Token) (base : token.body = starless word)
    (generated : token.generated = starred word) : token.spelling = word := by
  apply String.toList_injective
  rw [spelling_chars, base, generated, starless_star]

theorem of_string_formed (word : String) (token : Token) (read : Token.ofString word = .ok token) :
    token.WellFormed ∧ token.spelling = word := by
  -- The last character of the value is the last one of the word, less its star.
  have plain (base : token.body = starless word) (generated : token.generated = starred word)
      (present : token.value ≠ "") (user : token.generated = false) : token.value.toList.getLast? ≠ some '*' := by
    rw [← body_last token present, base]
    exact starless_last word (generated.symm.trans user)
  rcases of_string_cases word with ⟨free, cases⟩ | ⟨before, behind, whole, free, cases⟩
  · rw [cases] at read
    split at read
    · cases read
    · cases read
      have base : body ⟨none, String.ofList (starless word), starred word⟩ = starless word := by simp [body]
      have present : String.ofList (starless word) ≠ "" := by simpa using ‹¬ starless word = []›
      exact ⟨⟨by simp, present, fun _ => by simpa using free, plain base rfl present⟩,
        spelling_of_parts word _ base rfl⟩
  · rw [cases] at read
    split at read
    · cases read
    · split at read
      · cases read
      · cases read
        have base : body ⟨some (String.ofList before), String.ofList behind, starred word⟩ = starless word := by
          simp [body, whole]
        have present : String.ofList behind ≠ "" := by simpa using ‹¬ behind = []›
        have named : String.ofList before ≠ "" := by simpa using ‹¬ before = []›
        exact ⟨⟨by simp [named, free], present, by simp, plain base rfl present⟩,
          spelling_of_parts word _ base rfl⟩

theorem of_string_iff (word : String) (token : Token) :
    Token.ofString word = .ok token ↔ token.WellFormed ∧ token.spelling = word := by
  constructor
  · exact of_string_formed word token
  · rintro ⟨formed, same⟩
    rw [← same]
    exact of_string_spelling token formed

theorem token_starred (word : String) (token : Token) (read : Token.ofString word = .ok token) :
    token.generated = starred word := by
  obtain ⟨formed, same⟩ := of_string_formed word token read
  have plain : token.generated = false → token.body.getLast? ≠ some '*' := by
    rw [body_last token formed.value]
    exact formed.star
  have stripped := strip_star_back token.body token.generated plain
  rw [← spelling_chars, same, strip_star_word] at stripped
  exact (congrArg Prod.snd stripped).symm

theorem token_shown (word : String) (token : Token) (read : Token.ofString word = .ok token) :
    token.clause.chars = (shown word).toList := by
  have spelled : token.body ++ ClauseDocument.star token.generated = word.toList := by
    rw [← spelling_chars, (of_string_formed word token read).2]
  have star : ClauseDocument.star token.generated = (if starred word then "*" else "").toList := by
    rw [token_starred word token read]
    cases starred word <;> rfl
  rw [shown, String.toList_append, String.toList_append, String.toList_append, ← spelled, ← star]
  simp [clause, body, ClauseDocument.chars, ClauseDocument.charsOf, Occur.sign]

theorem tokens_settled (tokens : List Token) :
    ClauseDocument.settleAll false (tokens.map Token.clause) = tokens.map Token.clause := by
  rw [settle_all_map, List.map_map]
  rfl

theorem add_words_shown (query : Query) (words : List String)
    (accepted : ∀ word ∈ words, ∃ token, Token.ofString word = .ok token) :
    ∃ (tokens : List Token) (grown : Query), query.addWords words = .ok grown ∧
      query.addClauses Query.root (tokens.map Token.clause) = .ok grown ∧
      ClauseDocument.charsOf (tokens.map Token.clause) = words.map fun word => (shown word).toList := by
  induction words generalizing query with
  | nil => exact ⟨[], query, rfl, rfl, rfl⟩
  | cons word rest ih =>
      obtain ⟨token, read⟩ := accepted word (by simp)
      obtain ⟨tokens, grown, added, built, chars⟩ := ih (query.addToken token.field token.value token.generated).1
        fun other member => accepted other (by simp [member])
      refine ⟨token :: tokens, grown, ?_, ?_, ?_⟩
      · simp only [Query.addWords, read, added]
      · simp only [List.map_cons, Query.addClauses, add_token_clause, built]
      · rw [List.map_cons, ClauseDocument.charsOf, chars, token_shown word token read, List.map_cons]

theorem of_words_text (words : List String)
    (accepted : ∀ word ∈ words, ∃ token, Token.ofString word = .ok token) :
    ∃ query, Query.ofWords words = .ok query ∧
      query.text = "(" ++ " ".intercalate (words.map shown) ++ ")" := by
  obtain ⟨tokens, query, added, built, chars⟩ := add_words_shown (Query.new false) words accepted
  have document : query.toDocument = ⟨false, tokens.map Token.clause⟩ := by
    rw [to_query_document ⟨false, tokens.map Token.clause⟩ query built, Document.settle, tokens_settled]
  have linked := loaded_linked ⟨false, tokens.map Token.clause⟩ query built
  refine ⟨query, added, ?_⟩
  apply String.toList_injective
  rw [linked_text query linked, document, Document.text, String.toList_ofList, ClauseDocument.chars, chars]
  simp [Occur.sign, ClauseDocument.star, Function.comp_def]

theorem add_words_error_iff (query : Query) (words : List String) (cause : TokenError) :
    query.addWords words = .error cause ↔ ∃ front bad back, words = front ++ bad :: back ∧
      (∀ word ∈ front, ∃ token, Token.ofString word = .ok token) ∧ Token.ofString bad = .error cause := by
  induction words generalizing query with
  | nil => simp [Query.addWords]
  | cons word rest ih =>
      cases read : Token.ofString word with
      | error fault =>
          simp only [Query.addWords, read]
          constructor
          · intro same
            cases same
            exact ⟨[], word, rest, rfl, by simp, read⟩
          · rintro ⟨front, bad, back, whole, accepted, refused⟩
            cases front with
            | nil =>
                rw [(List.cons.inj whole).1, refused] at read
                cases read
                rfl
            | cons first front =>
                obtain ⟨token, first⟩ := accepted first (by simp)
                rw [← (List.cons.inj whole).1, read] at first
                cases first
      | ok token =>
          simp only [Query.addWords, read, ih]
          constructor
          · rintro ⟨front, bad, back, whole, accepted, refused⟩
            exact ⟨word :: front, bad, back, by rw [whole]; rfl,
              List.forall_mem_cons.mpr ⟨⟨token, read⟩, accepted⟩, refused⟩
          · rintro ⟨front, bad, back, whole, accepted, refused⟩
            cases front with
            | nil =>
                rw [(List.cons.inj whole).1, refused] at read
                cases read
            | cons first front =>
                exact ⟨front, bad, back, (List.cons.inj whole).2, (List.forall_mem_cons.mp accepted).2, refused⟩

/-- Words and well-formed tokens belong to each other one to one, and a query shows the words it was made of. The
first word that is refused decides what is reported. -/
theorem words_spell_tokens (word : String) (token : Token) (words : List String) :
    (Token.ofString word = .ok token ↔ token.WellFormed ∧ token.spelling = word) ∧
    ((∃ cause, Token.ofString word = .error cause ∧ (Error.ofToken cause).kind = .invalidArgument) ↔
      starless word = [] ∨ (starless word).head? = some ':' ∨
        ∃ front, starless word = front ++ [':'] ∧ ':' ∉ front) ∧
    ((∀ word ∈ words, ∃ token, Token.ofString word = .ok token) → ∃ query, Query.ofWords words = .ok query ∧
      query.text = "(" ++ " ".intercalate (words.map shown) ++ ")") ∧
    ∀ cause, Query.ofWords words = .error cause ↔ ∃ front bad back, words = front ++ bad :: back ∧
      (∀ word ∈ front, ∃ token, Token.ofString word = .ok token) ∧ Token.ofString bad = .error cause := by
  refine ⟨of_string_iff word token, ?_, of_words_text words, add_words_error_iff _ words⟩
  rw [← refused_iff word]
  constructor
  · rintro ⟨cause, refused, _⟩
    exact ⟨cause, refused⟩
  · rintro ⟨cause, refused⟩
    exact ⟨cause, refused, rfl⟩

theorem words_spell_tokens_stars :
    Token.ofString "f:*:b" = .ok ⟨some "f", "*:b", false⟩ ∧ (∃ cause, Token.ofString "f:*" = .error cause) ∧
      ∃ query, Query.ofWords ["a**", "f:*:b"] = .ok query ∧ query.text = "(\x7ba**\x7d* \x7bf:*:b\x7d)" := by
  have formed : Token.WellFormed ⟨some "f", "*:b", false⟩ :=
    ⟨by rintro name ⟨⟩; decide, by decide, by simp, by decide⟩
  obtain ⟨read, _, shows, _⟩ := words_spell_tokens "f:*:b" ⟨some "f", "*:b", false⟩ ["a**", "f:*:b"]
  have known := read.mpr ⟨formed, by decide⟩
  obtain ⟨query, made, text⟩ := shows (by
    intro word member
    rcases List.mem_pair.mp member with rfl | rfl
    · exact ⟨⟨none, "a*", true⟩, by decide⟩
    · exact ⟨_, known⟩)
  obtain ⟨cause, refused, _⟩ := (words_spell_tokens "f:*" ⟨none, "f:", true⟩ []).2.1.mpr
    (.inr (.inr ⟨['f'], by decide, by decide⟩))
  exact ⟨known, ⟨cause, refused⟩, query, made, text.trans (by decide)⟩

end QueryShingles
