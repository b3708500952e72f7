import QueryShingles.Proofs.Display
import QueryShingles.Proofs.Session
import QueryShingles.Proofs.Shown

/-!
The text shown for a query says which document it is, if all its words are plain. A clause is read from its
text in one way only, whatever comes behind it, as long as the clause cannot go on there.
-/

set_option autoImplicit false

namespace QueryShingles

/-- The characters that the notation itself uses. A sign may begin a plain word or stand in it. -/
def delimiters : List Char := [' ', '(', ')', '{', '}', '|', ':', '*']

structure PlainWord (word : String) : Prop where
  present : word ≠ ""
  plain : ∀ c ∈ word.toList, c ∉ delimiters

instance (word : String) : Decidable (PlainWord word) :=
  decidable_of_iff (word ≠ "" ∧ (word.toList.all fun c => !delimiters.contains c) = true)
    ⟨fun both => ⟨both.1, by simpa using both.2⟩, fun word => ⟨word.present, by simpa using word.plain⟩⟩

namespace ClauseDocument

mutual
def Plain : ClauseDocument → Prop
  | .boolean _ _ clauses => PlainAll clauses
  | .disjunctionMax _ _ clauses => PlainAll clauses
  | .term field value _ => (∀ name, field = some name → PlainWord name) ∧ PlainWord value
def PlainAll : List ClauseDocument → Prop
  | [] => True
  | clause :: rest => clause.Plain ∧ PlainAll rest
end

def lead : ClauseDocument → List Char
  | .boolean occur _ _ => occur.sign.toList
  | .disjunctionMax occur _ _ => occur.sign.toList
  | .term field value _ => (field.getD value).toList

def trail : ClauseDocument → List Char
  | .boolean _ generated clauses => '(' :: [' '].intercalate (charsOf clauses) ++ ')' :: star generated
  | .disjunctionMax _ generated clauses =>
      '{' :: [' ', '|', ' '].intercalate (charsOf clauses) ++ '}' :: star generated
  | .term none _ generated => star generated
  | .term (some _) value generated => ':' :: value.toList ++ star generated

def Stops (rest : List Char) : Prop := ∀ c ∈ rest.head?, c = ' ' ∨ c = ')' ∨ c = '}'

def Readable (clause : ClauseDocument) : Prop :=
  ∀ (other : ClauseDocument) (rest behind : List Char), clause.Plain → other.Plain → Stops rest → Stops behind →
    clause.chars ++ rest = other.chars ++ behind → clause = other ∧ rest = behind

end ClauseDocument

open ClauseDocument

theorem plain_all_iff (clauses : List ClauseDocument) : PlainAll clauses ↔ ∀ clause ∈ clauses, clause.Plain := by
  induction clauses with
  | nil => simp [PlainAll]
  | cons clause rest ih => rw [PlainAll, ih, List.forall_mem_cons]

theorem chars_parts (clause : ClauseDocument) : clause.chars = clause.lead ++ clause.trail := by
  cases clause with
  | boolean occur generated clauses => simp [ClauseDocument.chars, lead, trail]
  | disjunctionMax occur generated clauses => simp [ClauseDocument.chars, lead, trail]
  | term field value generated => cases field <;> simp [ClauseDocument.chars, lead, trail]

theorem split_unique (first second rest behind : List Char) (plain : ∀ c ∈ first, c ∉ delimiters)
    (alsoPlain : ∀ c ∈ second, c ∉ delimiters) (ends : ∀ c ∈ rest.head?, c ∈ delimiters)
    (alsoEnds : ∀ c ∈ behind.head?, c ∈ delimiters) (same : first ++ rest = second ++ behind) :
    first = second ∧ rest = behind := by
  induction first generalizing second with
  | nil =>
      cases second with
      | nil => exact ⟨rfl, same⟩
      | cons c more =>
          have atHead : c ∈ rest.head? := by rw [show rest = c :: (more ++ behind) from same]; rfl
          exact absurd (ends c atHead) (alsoPlain c (by simp))
  | cons c more ih =>
      cases second with
      | nil =>
          have atHead : c ∈ behind.head? := by rw [show behind = c :: (more ++ rest) from same.symm]; rfl
          exact absurd (alsoEnds c atHead) (plain c (by simp))
      | cons d others =>
          obtain ⟨head, tail⟩ := List.cons.inj same
          obtain ⟨front, back⟩ := ih others (fun x member => plain x (List.mem_cons_of_mem _ member))
            (fun x member => alsoPlain x (List.mem_cons_of_mem _ member)) tail
          exact ⟨by rw [head, front], back⟩

theorem sign_plain (occur : Occur) : ∀ c ∈ occur.sign.toList, c ∉ delimiters := by
  cases occur <;> simp [Occur.sign, delimiters]

theorem sign_injective (a b : Occur) (same : a.sign.toList = b.sign.toList) : a = b := by
  revert same
  cases a <;> cases b <;> decide

theorem lead_plain (clause : ClauseDocument) (plain : clause.Plain) : ∀ c ∈ clause.lead, c ∉ delimiters := by
  cases clause with
  | boolean occur generated clauses => exact sign_plain occur
  | disjunctionMax occur generated clauses => exact sign_plain occur
  | term field value generated =>
      cases field with
      | none => exact plain.2.plain
      | some name => exact (plain.1 name rfl).plain

theorem star_ends (generated : Bool) (rest : List Char) (stops : Stops rest) :
    ∀ c ∈ (star generated ++ rest).head?, c ∈ ['*', ' ', ')', '}'] := by
  intro c member
  cases generated with
  | true =>
      cases member
      decide
  | false => rcases stops c member with rfl | rfl | rfl <;> decide

theorem star_delimiter (generated : Bool) (rest : List Char) (stops : Stops rest) :
    ∀ c ∈ (star generated ++ rest).head?, c ∈ delimiters := by
  have among : ['*', ' ', ')', '}'] ⊆ delimiters := by decide
  exact fun c member => among (star_ends generated rest stops c member)

theorem star_unique (a b : Bool) (rest behind : List Char) (stops : Stops rest) (alsoStops : Stops behind)
    (same : star a ++ rest = star b ++ behind) : a = b ∧ rest = behind := by
  have noStar (list : List Char) (ends : Stops list) : '*' ∉ list.head? := by
    intro member
    rcases ends '*' member with h | h | h <;> cases h
  cases a with
  | true =>
      cases b with
      | true => exact ⟨rfl, (List.cons.inj same).2⟩
      | false => exact absurd (by rw [← show '*' :: rest = behind from same]; rfl) (noStar behind alsoStops)
  | false =>
      cases b with
      | true => exact absurd (by rw [show rest = '*' :: behind from same]; rfl) (noStar rest stops)
      | false => exact ⟨rfl, same⟩

theorem trail_ends (clause : ClauseDocument) (rest : List Char) (stops : Stops rest) :
    ∀ c ∈ (clause.trail ++ rest).head?, c ∈ delimiters := by
  intro c member
  cases clause with
  | boolean occur generated clauses =>
      cases member
      decide
  | disjunctionMax occur generated clauses =>
      cases member
      decide
  | term field value generated =>
      cases field with
      | none => exact star_delimiter generated rest stops c member
      | some name =>
          cases member
          decide

theorem chars_begin (clause : ClauseDocument) (plain : clause.Plain) :
    ∃ c more, clause.chars = c :: more ∧ c ≠ ' ' ∧ c ≠ ')' ∧ c ≠ '}' := by
  cases clause with
  | boolean occur generated clauses =>
      cases occur <;> exact ⟨_, _, rfl, by decide⟩
  | disjunctionMax occur generated clauses =>
      cases occur <;> exact ⟨_, _, rfl, by decide⟩
  | term field value generated =>
      have present : (ClauseDocument.term field value generated).lead ≠ [] := by
        cases field with
        | none => simpa [lead] using plain.2.present
        | some name => simpa [lead] using (plain.1 name rfl).present
      obtain ⟨c, more, same⟩ := List.exists_cons_of_ne_nil present
      have free := lead_plain _ plain c (by rw [same]; exact List.mem_cons_self)
      refine ⟨c, more ++ (ClauseDocument.term field value generated).trail, by rw [chars_parts, same]; rfl, ?_⟩
      refine ⟨?_, ?_, ?_⟩ <;> rintro rfl <;> exact free (by decide)

def followers (gap : List Char) (clauses : List ClauseDocument) : List Char :=
  clauses.flatMap fun clause => ' ' :: gap ++ clause.chars

theorem intercalate_followers (gap : List Char) (clause : ClauseDocument) (rest : List ClauseDocument) :
    (' ' :: gap).intercalate (charsOf (clause :: rest)) = clause.chars ++ followers gap rest := by
  induction rest generalizing clause with
  | nil => simp [chars_of_map, followers]
  | cons next rest ih =>
      rw [charsOf, charsOf, List.intercalate_cons_cons, ← charsOf, ih next, followers, followers, List.flatMap_cons,
        List.append_assoc, List.append_assoc]

section

variable (gap : List Char) (close : Char) (closes : close = ')' ∨ close = '}')

include closes

theorem followers_stop (clauses : List ClauseDocument) (rest : List Char) :
    Stops (followers gap clauses ++ close :: rest) := by
  intro c member
  cases clauses with
  | nil =>
      cases member
      exact .inr closes
  | cons clause more =>
      cases member
      exact .inl rfl

theorem followers_unique (clauses others : List ClauseDocument) (readable : ∀ clause ∈ clauses, clause.Readable)
    (plain : PlainAll clauses) (alsoPlain : PlainAll others) (rest behind : List Char)
    (same : followers gap clauses ++ close :: rest = followers gap others ++ close :: behind) :
    clauses = others ∧ rest = behind := by
  have notBlank : close ≠ ' ' := by rcases closes with rfl | rfl <;> decide
  induction clauses generalizing others with
  | nil =>
      cases others with
      | nil => exact ⟨rfl, (List.cons.inj same).2⟩
      | cons other more => exact absurd (List.cons.inj same).1 notBlank
  | cons clause more ih =>
      cases others with
      | nil => exact absurd (List.cons.inj same).1.symm notBlank
      | cons other others =>
          simp only [followers, List.flatMap_cons, List.append_assoc] at same
          have tails := List.append_cancel_left same
          obtain ⟨first, tail⟩ := readable clause List.mem_cons_self other _ _ plain.1 alsoPlain.1
            (followers_stop gap close closes more rest) (followers_stop gap close closes others behind) tails
          obtain ⟨front, back⟩ := ih others (fun next member => readable next (List.mem_cons_of_mem _ member))
            plain.2 alsoPlain.2 tail
          exact ⟨by rw [first, front], back⟩

theorem body_unique (clauses others : List ClauseDocument) (readable : ∀ clause ∈ clauses, clause.Readable)
    (plain : PlainAll clauses) (alsoPlain : PlainAll others) (rest behind : List Char)
    (same : (' ' :: gap).intercalate (charsOf clauses) ++ close :: rest =
      (' ' :: gap).intercalate (charsOf others) ++ close :: behind) : clauses = others ∧ rest = behind := by
  have opens (clause : ClauseDocument) (plain : clause.Plain) (more tail : List Char) :
      close :: tail ≠ clause.chars ++ more := by
    obtain ⟨c, chars, begins, _, round, curly⟩ := chars_begin clause plain
    rw [begins]
    intro same
    have head := (List.cons.inj same).1
    rcases closes with rfl | rfl
    · exact round head.symm
    · exact curly head.symm
  cases clauses with
  | nil =>
      cases others with
      | nil => exact ⟨rfl, (List.cons.inj same).2⟩
      | cons other more =>
          rw [intercalate_followers, List.append_assoc] at same
          exact absurd same (opens other alsoPlain.1 _ rest)
  | cons clause more =>
      cases others with
      | nil =>
          rw [intercalate_followers, List.append_assoc] at same
          exact absurd same.symm (opens clause plain.1 _ behind)
      | cons other others =>
          rw [intercalate_followers, intercalate_followers, List.append_assoc, List.append_assoc] at same
          obtain ⟨first, tail⟩ := readable clause List.mem_cons_self other _ _ plain.1 alsoPlain.1
            (followers_stop gap close closes more rest) (followers_stop gap close closes others behind) same
          obtain ⟨front, back⟩ := followers_unique gap close closes more others
            (fun next member => readable next (List.mem_cons_of_mem _ member)) plain.2 alsoPlain.2 rest behind tail
          exact ⟨by rw [first, front], back⟩

end

theorem readable_parts (clause other : ClauseDocument) (rest behind : List Char) (plain : clause.Plain)
    (alsoPlain : other.Plain) (stops : Stops rest) (alsoStops : Stops behind)
    (same : clause.chars ++ rest = other.chars ++ behind) :
    clause.lead = other.lead ∧ clause.trail ++ rest = other.trail ++ behind := by
  rw [chars_parts clause, chars_parts other, List.append_assoc, List.append_assoc] at same
  exact split_unique _ _ _ _ (lead_plain clause plain) (lead_plain other alsoPlain) (trail_ends clause rest stops)
    (trail_ends other behind alsoStops) same

theorem term_trail_ends (field : Option String) (value : String) (generated : Bool) (rest : List Char)
    (stops : Stops rest) :
    ∀ c ∈ ((ClauseDocument.term field value generated).trail ++ rest).head?, c ∈ [':', '*', ' ', ')', '}'] := by
  intro c member
  cases field with
  | none => exact List.mem_cons_of_mem _ (star_ends generated rest stops c member)
  | some name =>
      cases member
      exact List.mem_cons_self

theorem bracket_no_term (bracket : Char) (field : Option String) (value : String) (generated : Bool)
    (more rest : List Char) (stops : Stops rest) (opens : bracket ∉ [':', '*', ' ', ')', '}']) :
    bracket :: more ≠ (ClauseDocument.term field value generated).trail ++ rest := by
  intro same
  exact opens (term_trail_ends field value generated rest stops bracket (by rw [← same]; rfl))

theorem boolean_trail (occur : Occur) (generated : Bool) (clauses : List ClauseDocument) (rest : List Char) :
    (ClauseDocument.boolean occur generated clauses).trail ++ rest =
      '(' :: ([' '].intercalate (charsOf clauses) ++ ')' :: (star generated ++ rest)) := by
  simp [trail]

theorem disjunction_max_trail (occur : Occur) (generated : Bool) (clauses : List ClauseDocument) (rest : List Char) :
    (ClauseDocument.disjunctionMax occur generated clauses).trail ++ rest =
      '{' :: ([' ', '|', ' '].intercalate (charsOf clauses) ++ '}' :: (star generated ++ rest)) := by
  simp [trail]

theorem boolean_readable (occur : Occur) (generated : Bool) (clauses : List ClauseDocument)
    (readable : ∀ clause ∈ clauses, clause.Readable) :
    (ClauseDocument.boolean occur generated clauses).Readable := by
  intro other rest behind plain alsoPlain stops alsoStops same
  obtain ⟨leads, trails⟩ := readable_parts _ other rest behind plain alsoPlain stops alsoStops same
  rw [boolean_trail] at trails
  cases other with
  | boolean otherOccur otherGenerated others =>
      rw [boolean_trail] at trails
      obtain ⟨bodies, stars⟩ := body_unique [] ')' (.inl rfl) clauses others readable plain alsoPlain _ _
        (List.cons.inj trails).2
      obtain ⟨flags, tails⟩ := star_unique generated otherGenerated rest behind stops alsoStops stars
      rw [sign_injective occur otherOccur leads, flags, bodies]
      exact ⟨rfl, tails⟩
  | disjunctionMax otherOccur otherGenerated others => exact absurd (List.cons.inj trails).1 (by decide)
  | term field value flag => exact absurd trails (bracket_no_term '(' field value flag _ behind alsoStops (by decide))

theorem disjunction_max_readable (occur : Occur) (generated : Bool) (clauses : List ClauseDocument)
    (readable : ∀ clause ∈ clauses, clause.Readable) :
    (ClauseDocument.disjunctionMax occur generated clauses).Readable := by
  intro other rest behind plain alsoPlain stops alsoStops same
  obtain ⟨leads, trails⟩ := readable_parts _ other rest behind plain alsoPlain stops alsoStops same
  rw [disjunction_max_trail] at trails
  cases other with
  | boolean otherOccur otherGenerated others => exact absurd (List.cons.inj trails).1 (by decide)
  | disjunctionMax otherOccur otherGenerated others =>
      rw [disjunction_max_trail] at trails
      obtain ⟨bodies, stars⟩ := body_unique ['|', ' '] '}' (.inr rfl) clauses others readable plain alsoPlain _ _
        (List.cons.inj trails).2
      obtain ⟨flags, tails⟩ := star_unique generated otherGenerated rest behind stops alsoStops stars
      rw [sign_injective occur otherOccur leads, flags, bodies]
      exact ⟨rfl, tails⟩
  | term field value flag => exact absurd trails (bracket_no_term '{' field value flag _ behind alsoStops (by decide))

theorem term_readable (field : Option String) (value : String) (generated : Bool) :
    (ClauseDocument.term field value generated).Readable := by
  intro other rest behind plain alsoPlain stops alsoStops same
  obtain ⟨leads, trails⟩ := readable_parts _ other rest behind plain alsoPlain stops alsoStops same
  cases other with
  | boolean occur flag clauses =>
      rw [boolean_trail] at trails
      exact absurd trails.symm (bracket_no_term '(' field value generated _ rest stops (by decide))
  | disjunctionMax occur flag clauses =>
      rw [disjunction_max_trail] at trails
      exact absurd trails.symm (bracket_no_term '{' field value generated _ rest stops (by decide))
  | term otherField otherValue flag =>
      -- A colon behind the first word tells a field from a value.
      have noColon (mark : Bool) (tail : List Char) (ends : Stops tail) : ':' ∉ (star mark ++ tail).head? :=
        fun member => absurd (star_ends mark tail ends ':' member) (by decide)
      cases field with
      | none =>
          cases otherField with
          | none =>
              obtain ⟨flags, tails⟩ := star_unique generated flag rest behind stops alsoStops trails
              have values : value = otherValue := String.toList_injective leads
              rw [flags, values]
              exact ⟨rfl, tails⟩
          | some name =>
              have colon : ':' ∈ (star generated ++ rest).head? := by
                rw [show star generated ++ rest = ':' :: (otherValue.toList ++ star flag ++ behind) from trails]
                rfl
              exact absurd colon (noColon generated rest stops)
      | some name =>
          cases otherField with
          | none =>
              have colon : ':' ∈ (star flag ++ behind).head? := by
                rw [show star flag ++ behind = ':' :: (value.toList ++ star generated ++ rest) from trails.symm]
                rfl
              exact absurd colon (noColon flag behind alsoStops)
          | some otherName =>
              have words : value.toList ++ (star generated ++ rest) = otherValue.toList ++ (star flag ++ behind) := by
                simpa [trail] using trails
              obtain ⟨values, stars⟩ := split_unique _ _ _ _ plain.2.plain alsoPlain.2.plain
                (star_delimiter generated rest stops) (star_delimiter flag behind alsoStops) words
              obtain ⟨flags, tails⟩ := star_unique generated flag rest behind stops alsoStops stars
              have names : name = otherName := String.toList_injective leads
              rw [names, flags, String.toList_injective values]
              exact ⟨rfl, tails⟩

mutual
theorem clause_readable (clause : ClauseDocument) : clause.Readable := by
  cases clause with
  | boolean occur generated clauses => exact boolean_readable occur generated clauses (clauses_readable clauses)
  | disjunctionMax occur generated clauses =>
      exact disjunction_max_readable occur generated clauses (clauses_readable clauses)
  | term field value generated => exact term_readable field value generated
theorem clauses_readable (clauses : List ClauseDocument) : ∀ clause ∈ clauses, clause.Readable := by
  cases clauses with
  | nil => simp
  | cons clause rest => exact List.forall_mem_cons.mpr ⟨clause_readable clause, clauses_readable rest⟩
end

def Clause.Plain : Clause → Prop
  | .term word => (∀ name, word.field = some name → PlainWord name) ∧ PlainWord word.value
  | _ => True

instance : DecidablePred Clause.Plain
  | .boolean _ => inferInstanceAs (Decidable True)
  | .disjunctionMax _ => inferInstanceAs (Decidable True)
  | .term word => inferInstanceAs (Decidable ((∀ name ∈ word.field, PlainWord name) ∧ PlainWord word.value))

def Query.PlainWords (query : Query) : Prop := ∀ node ∈ query.nodes, node.Plain

instance (query : Query) : Decidable query.PlainWords := inferInstanceAs (Decidable (∀ node ∈ query.nodes, node.Plain))

theorem view_plain (query : Query) (linked : query.Linked) (plain : query.PlainWords) (id : ClauseId)
    (bound : id < query.size) : ∀ clause, query.view id = some clause → clause.Plain := by
  apply linked_induction query linked (fun id => ∀ clause, query.view id = some clause → clause.Plain) _ id bound
  intro id bound ih clause shown
  obtain ⟨node, found⟩ := clause_present query id bound
  have children : PlainAll (query.contents id) := by
    refine (plain_all_iff _).mpr ?_
    intro inner member
    obtain ⟨child, listed, shown⟩ := (contents_member query id inner).mp member
    exact ih child listed inner shown
  rw [view_of query linked id node clause found shown]
  cases node with
  | boolean group => exact children
  | disjunctionMax group => exact children
  | term word => exact plain _ (Array.mem_of_getElem? found)

theorem document_plain (query : Query) (linked : query.Linked) (plain : query.PlainWords) :
    PlainAll query.toDocument.clauses := by
  refine (plain_all_iff _).mpr ?_
  intro clause member
  obtain ⟨child, listed, shown⟩ := (contents_member query 0 clause).mp member
  exact view_plain query linked plain child (linked_child query linked 0 child listed).2.1 clause shown

theorem text_unique (a b : Document) (plain : PlainAll a.clauses) (alsoPlain : PlainAll b.clauses)
    (same : a.text = b.text) : a = b := by
  have chars := String.ofList_injective same
  obtain ⟨roots, _⟩ := clause_readable (.boolean .should a.generated a.clauses) (.boolean .should b.generated b.clauses)
    [] [] plain alsoPlain (by simp [Stops]) (by simp [Stops]) (congrArg (· ++ []) chars)
  obtain ⟨generated, clauses⟩ := a
  cases roots
  rfl

/-- Queries of plain words that are shown alike have one document. -/
theorem plain_text_iff (query other : Query) (reachable : query.Reachable) (otherReachable : other.Reachable)
    (plain : query.PlainWords) (otherPlain : other.PlainWords) :
    query.text = other.text ↔ query.toDocument = other.toDocument := by
  have linked := reachable_linked query reachable
  have otherLinked := reachable_linked other otherReachable
  rw [linked_text query linked, linked_text other otherLinked]
  constructor
  · exact text_unique _ _ (document_plain query linked plain) (document_plain other otherLinked otherPlain)
  · intro same
    exact congrArg Document.text same

theorem plain_text_iff_signs : ∃ query other : Query, query ≠ other ∧ query.text = "(\x7b+a | ()*\x7d \x7b-:b*\x7d*)" ∧
    query.text = other.text ∧ query.toDocument = other.toDocument := by
  have first := Session.Reached.step _ _ (.new false)
    (.add (.token none "+a" false) _ _ (by simp [Addition.parent?]) rfl)
  have second := Session.Reached.step _ _ first
    (.add (.token (some "-") "b" true) _ _ (by simp [Addition.parent?]) rfl)
  have reached := Session.Reached.step _ _ second
    (.add (.alternative ⟨1⟩ true) _ _ (by simp [Addition.parent?]; decide) rfl)
  have loaded := Session.Reached.load ⟨false, [.disjunctionMax .should false [.term none "+a" false,
    .boolean .must true []], .disjunctionMax .should true [.term (some "-") "b" true]]⟩ _ rfl
  have same := (plain_text_iff _ _ ⟨_, reached⟩ ⟨_, loaded⟩ (by decide) (by decide)).mp (by decide)
  exact ⟨_, _, by decide, by decide, by decide, same⟩

end QueryShingles
