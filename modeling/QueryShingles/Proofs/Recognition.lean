import Mathlib.Data.List.TakeWhile
import QueryShingles.Json.Reader
import QueryShingles.Proofs.Results
import QueryShingles.Proofs.Scanning

/-!
Only what spells a value is scanned as this value. As everything that spells it is, the values that a reader asks for
tell which texts it takes.
-/

set_option autoImplicit false

namespace QueryShingles

open Json

theorem blanks_skipped (text : List Char) : ∃ gap, Gap gap ∧ text = gap ++ Scan.skipBlank text := by
  refine ⟨text.takeWhile Scan.isBlank, ?_, List.takeWhile_append_dropWhile.symm⟩
  intro c member
  simpa [Scan.isBlank, or_assoc] using List.mem_takeWhile_imp member

theorem literal_found (word : Draft) (expected text rest : List Char) (draft : Draft) (whole : draft.break? = none)
    (scanned : Scan.literal word expected text = (draft, rest)) : draft = word ∧ text = expected ++ rest := by
  induction expected generalizing text with
  | nil =>
      cases scanned
      exact ⟨rfl, rfl⟩
  | cons e expected ih =>
      cases text with
      | nil =>
          cases scanned
          cases whole
      | cons c text =>
          rw [Scan.literal] at scanned
          split at scanned
          · next same =>
              obtain ⟨isWord, behind⟩ := ih text scanned
              exact ⟨isWord, by rw [same, behind]; rfl⟩
          · cases scanned
            cases whole

theorem hex_digit_found (c : Char) (n : Nat) (read : Scan.hexDigit? c = some n) : HexDigit n c := by
  have each : ∀ code < 128, ∀ n ∈ Scan.hexDigit? (Char.ofNat code), HexDigit n (Char.ofNat code) := by
    decide
  have small : c.toNat < 128 := by
    rw [Scan.hexDigit?] at read
    split_ifs at read with decimal lower upper
    · exact Nat.lt_of_le_of_lt decimal.2 (by decide)
    · exact Nat.lt_of_le_of_lt lower.2 (by decide)
    · exact Nat.lt_of_le_of_lt upper.2 (by decide)
  have found := each c.toNat small
  rw [Char.ofNat_toNat] at found
  exact found n read

theorem hex_unit_found (a b c d : Char) (unit : Nat) (read : Scan.hex4? a b c d = some unit) :
    unit < 0x10000 ∧ HexUnit unit [a, b, c, d] := by
  simp only [Scan.hex4?, Option.bind_eq_bind, Option.bind_eq_some_iff] at read
  obtain ⟨first, isFirst, second, isSecond, third, isThird, fourth, isFourth, same⟩ := read
  have value : (first * 16 + second) * 256 + third * 16 + fourth = unit := Option.some.inj same
  have digitFirst := hex_digit_found a first isFirst
  have digitSecond := hex_digit_found b second isSecond
  have digitThird := hex_digit_found c third isThird
  have digitFourth := hex_digit_found d fourth isFourth
  have small : first < 16 ∧ second < 16 ∧ third < 16 ∧ fourth < 16 :=
    ⟨digitFirst.1, digitSecond.1, digitThird.1, digitFourth.1⟩
  refine ⟨by omega, a, b, c, d, rfl, ?_, ?_, ?_, ?_⟩
  · rwa [show unit / 4096 = first by omega]
  · rwa [show unit / 256 % 16 = second by omega]
  · rwa [show unit / 16 % 16 = third by omega]
  · rwa [show unit % 16 = fourth by omega]

theorem letter_found (letter c : Char) (read : Scan.simpleEscape? letter = some c) : (letter, c) ∈ letters := by
  unfold Scan.simpleEscape? at read
  split at read <;> cases read <;> decide

theorem code_char (code : Nat) (valid : code < 0xD800 ∨ 0xDFFF < code ∧ code < 0x110000) :
    (Char.ofNat code).toNat = code := by
  rw [Char.ofNat, dif_pos valid]
  rfl

theorem unit_spells (unit : Nat) (written : List Char) (spelled : HexUnit unit written) (small : unit < 0x10000)
    (notTrailing : ¬ Scan.isTrailing unit = true) (notLeading : ¬ Scan.isLeading unit = true) :
    CharSpelling (Char.ofNat unit) ('\\' :: 'u' :: written) := by
  simp only [Scan.isTrailing, Scan.isLeading, Bool.and_eq_true, decide_eq_true_eq] at notTrailing notLeading
  refine .unit written ?_
  rwa [code_char unit (by omega)]

theorem pair_spells (unit second : Nat) (leading trailing : List Char) (isLeading : Scan.isLeading unit = true)
    (isTrailing : Scan.isTrailing second = true) (first : HexUnit unit leading) (other : HexUnit second trailing) :
    CharSpelling (Scan.joinPair unit second) ('\\' :: 'u' :: leading ++ '\\' :: 'u' :: trailing) := by
  simp only [Scan.isTrailing, Scan.isLeading, Bool.and_eq_true, decide_eq_true_eq] at isTrailing isLeading
  have code : (Scan.joinPair unit second).toNat = 0x10000 + (unit - 0xD800) * 0x400 + (second - 0xDC00) :=
    code_char _ (by omega)
  refine .pair leading trailing (by omega) ?_ ?_
  · rwa [show 0xD800 + ((Scan.joinPair unit second).toNat - 0x10000) / 0x400 = unit by omega]
  · rwa [show 0xDC00 + ((Scan.joinPair unit second).toNat - 0x10000) % 0x400 = second by omega]

def Scan.Closes (before text : List Char) (found : String) (rest : List Char) : Prop :=
  ∃ spelled written, CharsSpelling spelled written ∧ found = String.ofList (before.reverse ++ spelled) ∧
    text = written ++ '"' :: rest

theorem closes_behind (c : Char) (first before text : List Char) (found : String) (rest : List Char)
    (here : CharSpelling c first) (closes : Scan.Closes (c :: before) text found rest) :
    Scan.Closes before (first ++ text) found rest := by
  obtain ⟨spelled, written, behind, rfl, rfl⟩ := closes
  exact ⟨c :: spelled, first ++ written, ⟨first, written, here, behind, rfl⟩, by simp, by simp⟩

theorem string_found (paired : Bool) (before text : List Char) (found : String) (rest : List Char)
    (scanned : Scan.string paired before text = .ok (some found, rest)) :
    paired = true ∧ Scan.Closes before text found rest := by
  fun_induction Scan.string paired before text with
  | case2 paired before more =>
      cases paired with
      | false => cases scanned
      | true =>
          cases scanned
          exact ⟨rfl, [], [], rfl, by simp, rfl⟩
  | case5 paired before a b c d more unit read trailing ih => cases (ih scanned).1
  | case10 paired before a b c d first readFirst _ leading a' b' c' d' more second readSecond alone ih =>
      cases (ih scanned).1
  | case12 paired before a b c d unit read _ leading more _ _ _ alone ih => cases (ih scanned).1
  | case9 paired before a b c d first readFirst _ leading a' b' c' d' more second readSecond trailing ih =>
      obtain ⟨isPaired, closes⟩ := ih scanned
      have spelled := pair_spells first second _ _ leading trailing (hex_unit_found a b c d first readFirst).2
        (hex_unit_found a' b' c' d' second readSecond).2
      exact ⟨isPaired, closes_behind _ _ before more found rest spelled closes⟩
  | case13 paired before a b c d more unit read notTrailing notLeading ih =>
      obtain ⟨isPaired, closes⟩ := ih scanned
      obtain ⟨small, isUnit⟩ := hex_unit_found a b c d unit read
      have spelled := unit_spells unit _ isUnit small notTrailing notLeading
      exact ⟨isPaired, closes_behind _ _ before more found rest spelled closes⟩
  | case15 paired before letter more _ _ plain read ih =>
      obtain ⟨isPaired, closes⟩ := ih scanned
      have spelled := CharSpelling.letter letter (letter_found letter plain read)
      exact ⟨isPaired, closes_behind plain _ before more found rest spelled closes⟩
  | case18 paired before c more notQuote notLast _ _ notEscape visible ih =>
      obtain ⟨isPaired, closes⟩ := ih scanned
      have notBackslash : c ≠ '\\' := by
        intro same
        cases more with
        | nil => exact notLast same rfl
        | cons letter more => exact notEscape letter more same rfl
      have spelled := CharSpelling.plain (Nat.le_of_not_lt visible) notQuote notBackslash
      exact ⟨isPaired, closes_behind c [c] before more found rest spelled closes⟩
  | _ => cases scanned

theorem quoted_found (inside : List Char) (found : String) (rest : List Char)
    (scanned : Scan.string true [] inside = .ok (some found, rest)) :
    ∃ written, StringSpelling found written ∧ '"' :: inside = written ++ rest := by
  obtain ⟨_, spelled, written, behind, rfl, rfl⟩ := string_found true [] inside found rest scanned
  exact ⟨'"' :: (written ++ ['"']), ⟨written, by simpa using behind, rfl⟩, by simp⟩

theorem of_json_unbroken (draft : Draft) (json : Json) (same : draft = Draft.ofJson json) : draft.break? = none := by
  rw [same]
  exact of_json_whole json

theorem word_found (word json : Json) (first : Char) (expected text rest : List Char)
    (spells : word.Spelling (first :: expected)) (only : Draft.ofJson json = Draft.ofJson word → json = word)
    (scanned : Scan.literal (Draft.ofJson word) expected text = (Draft.ofJson json, rest)) :
    ∃ written, json.Spelling written ∧ first :: text = written ++ rest := by
  obtain ⟨isWord, behind⟩ := literal_found _ expected text rest _ (of_json_whole json) scanned
  rw [only isWord, behind]
  exact ⟨first :: expected, spells, rfl⟩

theorem of_json_members_nil (members : List (String × Json)) (none : [] = Draft.ofJsonMembers members) :
    members = [] := by
  cases members with
  | nil => rfl
  | cons member rest => cases none

theorem last_item (before : List Draft) (item : Draft) (values : List Json)
    (same : (item :: before).reverse = values.map Draft.ofJson) :
    ∃ earlier value, values = earlier ++ [value] ∧ before.reverse = earlier.map Draft.ofJson ∧
      item = Draft.ofJson value := by
  rw [List.reverse_cons] at same
  obtain ⟨earlier, last, rfl, front, back⟩ := List.map_eq_append_iff.mp same.symm
  obtain ⟨value, rfl, isLast⟩ := List.map_eq_singleton_iff.mp back
  exact ⟨earlier, value, rfl, front.symm, isLast.symm⟩

theorem last_member (before : List (Option String × Draft)) (key : Option String) (item : Draft)
    (values : List (String × Json)) (same : ((key, item) :: before).reverse = Draft.ofJsonMembers values) :
    ∃ earlier name value, values = earlier ++ [(name, value)] ∧ before.reverse = Draft.ofJsonMembers earlier ∧
      key = some name ∧ item = Draft.ofJson value := by
  rw [List.reverse_cons, of_json_members_map, List.map_map] at same
  obtain ⟨earlier, last, rfl, front, back⟩ := List.map_eq_append_iff.mp same.symm
  obtain ⟨⟨name, value⟩, rfl, isLast⟩ := List.map_eq_singleton_iff.mp back
  obtain ⟨isKey, isItem⟩ := Prod.mk.inj isLast
  refine ⟨earlier, name, value, rfl, ?_, isKey.symm, isItem.symm⟩
  rw [of_json_members_map, List.map_map, front]

theorem items_step (fuel : Nat) (before : List Draft) (text rest : List Char) (json : Json)
    (scanned : Scan.items (fuel + 1) before text = (Draft.ofJson json, rest)) :
    ∃ item next, Scan.value fuel text = (item, next) ∧
      Scan.itemsBehind fuel (item :: before) next = (Draft.ofJson json, rest) := by
  rw [Scan.items] at scanned
  cases found : Scan.value fuel text with
  | mk item next =>
      refine ⟨item, next, rfl, ?_⟩
      rw [found] at scanned
      dsimp only at scanned
      split at scanned
      · cases of_json_unbroken _ json (Prod.mk.inj scanned).1
      · exact scanned

theorem members_step (fuel : Nat) (before : List (Option String × Draft)) (text rest : List Char) (json : Json)
    (scanned : Scan.members (fuel + 1) before text = (Draft.ofJson json, rest)) :
    ∃ key inside colon after item next, Scan.skipBlank text = '"' :: inside ∧
      Scan.string true [] inside = .ok (key, colon) ∧ Scan.skipBlank colon = ':' :: after ∧
      Scan.value fuel after = (item, next) ∧
      Scan.membersBehind fuel ((key, item) :: before) next = (Draft.ofJson json, rest) := by
  rw [Scan.members] at scanned
  split at scanned
  · next inside start =>
      split at scanned
      · cases of_json_unbroken _ json (Prod.mk.inj scanned).1
      · next key colon named =>
          split at scanned
          next item next member =>
            dsimp only at scanned
            split at scanned
            · cases of_json_unbroken _ json (Prod.mk.inj scanned).1
            · next whole =>
                split at member
                · next after behind =>
                    exact ⟨key, inside, colon, after, item, next, start, named, behind, member, scanned⟩
                · cases member
                  cases whole
                · cases member
                  cases whole
  · cases of_json_unbroken _ json (Prod.mk.inj scanned).1
  · cases of_json_unbroken _ json (Prod.mk.inj scanned).1

section

variable (space written : List Char) (isSpace : Gap space)

include isSpace

theorem array_spaced (item : Json) (others : List Json)
    (spelled : (Json.array (item :: others)).Spelling ('[' :: written)) :
    (Json.array (item :: others)).Spelling ('[' :: (space ++ written)) := by
  obtain ⟨gap, first, behind, isGap, here, left, same⟩ := spelled
  refine ⟨space ++ gap, first, behind, List.forall_mem_append.mpr ⟨isSpace, isGap⟩, here, left, ?_⟩
  rw [(List.cons.inj same).2, List.append_assoc]

theorem object_spaced (member : String × Json) (others : List (String × Json))
    (spelled : (Json.object (member :: others)).Spelling ('\x7b' :: written)) :
    (Json.object (member :: others)).Spelling ('\x7b' :: (space ++ written)) := by
  obtain ⟨gap, name, before, after, first, behind, isGap, named, isBefore, isAfter, here, left, same⟩ := spelled
  refine ⟨space ++ gap, name, before, after, first, behind, List.forall_mem_append.mpr ⟨isSpace, isGap⟩, named,
    isBefore, isAfter, here, left, ?_⟩
  rw [(List.cons.inj same).2, List.append_assoc]

theorem items_continued (item : Json) (others : List Json)
    (spelled : (Json.array (item :: others)).Spelling ('[' :: written)) :
    ItemsSpelling (item :: others) (space ++ ',' :: written) := by
  obtain ⟨gap, first, behind, isGap, here, left, same⟩ := spelled
  rw [(List.cons.inj same).2]
  exact ⟨space, gap, first, behind, isSpace, isGap, here, left, rfl⟩

theorem members_continued (member : String × Json) (others : List (String × Json))
    (spelled : (Json.object (member :: others)).Spelling ('\x7b' :: written)) :
    MembersSpelling (member :: others) (space ++ ',' :: written) := by
  obtain ⟨gap, name, before, after, first, behind, isGap, named, isBefore, isAfter, here, left, same⟩ := spelled
  rw [(List.cons.inj same).2]
  exact ⟨space, gap, name, before, after, first, behind, isSpace, isGap, named, isBefore, isAfter, here, left, rfl⟩

end

-- By induction on the fuel. Of the items that are already scanned only the drafts are there; that they are drafts of
-- values is known from the whole, as a draft of a value holds no others.
mutual
theorem value_found (fuel : Nat) (json : Json) (text rest : List Char)
    (scanned : Scan.value fuel text = (Draft.ofJson json, rest)) :
    ∃ gap written, Gap gap ∧ json.Spelling written ∧ text = gap ++ (written ++ rest) := by
  obtain ⟨gap, isGap, same⟩ := blanks_skipped text
  suffices spelled : ∃ written, json.Spelling written ∧ Scan.skipBlank text = written ++ rest by
    obtain ⟨written, spells, behind⟩ := spelled
    exact ⟨gap, written, isGap, spells, by rw [← behind, ← same]⟩
  cases fuel with
  | zero => cases of_json_unbroken _ json (Prod.mk.inj scanned).1
  | succ fuel =>
      rw [Scan.value] at scanned
      split at scanned
      · cases of_json_unbroken _ json (Prod.mk.inj scanned).1
      · next more start =>
          rw [start]
          exact word_found .null json 'n' _ more rest rfl (by cases json <;> rintro ⟨⟩; rfl) scanned
      · next more start =>
          rw [start]
          exact word_found (.bool true) json 't' _ more rest rfl (by cases json <;> rintro ⟨⟩; rfl) scanned
      · next more start =>
          rw [start]
          exact word_found (.bool false) json 'f' _ more rest rfl (by cases json <;> rintro ⟨⟩; rfl) scanned
      · next inside start =>
          split at scanned
          · next found _ named =>
              obtain ⟨isString, rfl⟩ := Prod.mk.inj scanned
              cases json <;> cases isString
              rw [start]
              exact quoted_found inside _ _ named
          · cases of_json_unbroken _ json (Prod.mk.inj scanned).1
      · next inside start =>
          rw [start]
          obtain ⟨space, isSpace, behind⟩ := blanks_skipped inside
          split at scanned
          · cases of_json_unbroken _ json (Prod.mk.inj scanned).1
          · next more closing =>
              obtain ⟨isArray, rfl⟩ := Prod.mk.inj scanned
              obtain ⟨values, rfl, drafts⟩ := array_of_json _ _ json isArray
              obtain rfl := List.map_eq_nil_iff.mp drafts.symm
              exact ⟨_, ⟨space, isSpace, rfl⟩, by rw [behind, closing]; simp⟩
          · obtain ⟨earlier, item, others, written, rfl, none, spelled, parts⟩ :=
              items_found fuel [] _ rest json scanned
            obtain rfl := List.map_eq_nil_iff.mp none.symm
            exact ⟨_, array_spaced space written isSpace item others spelled, by rw [behind, parts]; simp⟩
      · next inside start =>
          rw [start]
          obtain ⟨space, isSpace, behind⟩ := blanks_skipped inside
          split at scanned
          · cases of_json_unbroken _ json (Prod.mk.inj scanned).1
          · next more closing =>
              obtain ⟨isObject, rfl⟩ := Prod.mk.inj scanned
              obtain ⟨values, rfl, drafts⟩ := object_of_json _ _ json isObject
              obtain rfl := of_json_members_nil values drafts
              exact ⟨_, ⟨space, isSpace, rfl⟩, by rw [behind, closing]; simp⟩
          · obtain ⟨earlier, member, others, written, rfl, none, spelled, parts⟩ :=
              members_found fuel [] _ rest json scanned
            obtain rfl := of_json_members_nil earlier none
            exact ⟨_, object_spaced space written isSpace member others spelled, by rw [behind, parts]; simp⟩
      · split at scanned
        · next numeral _ spelled =>
            obtain ⟨isNumber, rfl⟩ := Prod.mk.inj scanned
            cases json <;> cases isNumber
            exact numeral_found _ _ numeral spelled
        · cases of_json_unbroken _ json (Prod.mk.inj scanned).1
termination_by 2 * fuel
theorem items_found (fuel : Nat) (before : List Draft) (text rest : List Char) (json : Json)
    (scanned : Scan.items fuel before text = (Draft.ofJson json, rest)) :
    ∃ earlier item others written, json = .array (earlier ++ item :: others) ∧
      before.reverse = earlier.map Draft.ofJson ∧ (Json.array (item :: others)).Spelling ('[' :: written) ∧
      text = written ++ rest := by
  cases fuel with
  | zero => cases of_json_unbroken _ json (Prod.mk.inj scanned).1
  | succ fuel =>
      obtain ⟨draft, next, found, left⟩ := items_step fuel before text rest json scanned
      obtain ⟨front, others, behind, rfl, listed, spelled, rfl⟩ :=
        items_behind_found fuel (draft :: before) next rest json left
      obtain ⟨earlier, item, rfl, known, rfl⟩ := last_item before draft front listed
      obtain ⟨gap, first, isGap, here, rfl⟩ := value_found fuel item text _ found
      exact ⟨earlier, item, others, _, by simp, known, ⟨gap, first, behind, isGap, here, spelled, rfl⟩, by simp⟩
termination_by 2 * fuel
theorem items_behind_found (fuel : Nat) (before : List Draft) (text rest : List Char) (json : Json)
    (scanned : Scan.itemsBehind fuel before text = (Draft.ofJson json, rest)) :
    ∃ earlier others written, json = .array (earlier ++ others) ∧ before.reverse = earlier.map Draft.ofJson ∧
      ItemsSpelling others written ∧ text = written ++ rest := by
  obtain ⟨gap, isGap, same⟩ := blanks_skipped text
  rw [Scan.itemsBehind] at scanned
  split at scanned
  · cases of_json_unbroken _ json (Prod.mk.inj scanned).1
  · next more comma =>
      obtain ⟨earlier, item, others, written, isArray, listed, spelled, rfl⟩ :=
        items_found fuel before more rest json scanned
      refine ⟨earlier, item :: others, _, isArray, listed, items_continued gap written isGap item others spelled, ?_⟩
      rw [same, comma, List.append_assoc, List.cons_append]
  · next more closing =>
      obtain ⟨isArray, rfl⟩ := Prod.mk.inj scanned
      obtain ⟨values, rfl, drafts⟩ := array_of_json _ _ json isArray
      refine ⟨values, [], _, by rw [List.append_nil], drafts, ⟨gap, isGap, rfl⟩, ?_⟩
      rw [same, closing, List.append_assoc, List.singleton_append]
  · cases of_json_unbroken _ json (Prod.mk.inj scanned).1
termination_by 2 * fuel + 1
theorem members_found (fuel : Nat) (before : List (Option String × Draft)) (text rest : List Char) (json : Json)
    (scanned : Scan.members fuel before text = (Draft.ofJson json, rest)) :
    ∃ earlier member others written, json = .object (earlier ++ member :: others) ∧
      before.reverse = Draft.ofJsonMembers earlier ∧
      (Json.object (member :: others)).Spelling ('\x7b' :: written) ∧ text = written ++ rest := by
  cases fuel with
  | zero => cases of_json_unbroken _ json (Prod.mk.inj scanned).1
  | succ fuel =>
      obtain ⟨found, inside, colon, back, draft, next, start, quoted, stop, value, left⟩ :=
        members_step fuel before text rest json scanned
      obtain ⟨front, others, behind, rfl, listed, spelled, rfl⟩ :=
        members_behind_found fuel ((found, draft) :: before) next rest json left
      obtain ⟨earlier, key, item, rfl, known, rfl, rfl⟩ := last_member before found draft front listed
      obtain ⟨gap, isGap, same⟩ := blanks_skipped text
      obtain ⟨name, named, nameSame⟩ := quoted_found inside key colon quoted
      obtain ⟨space, isSpace, colonSame⟩ := blanks_skipped colon
      obtain ⟨after, first, isAfter, here, rfl⟩ := value_found fuel item back _ value
      refine ⟨earlier, (key, item), others, _, by simp, known,
        ⟨gap, name, space, after, first, behind, isGap, named, isSpace, isAfter, here, spelled, rfl⟩, ?_⟩
      rw [same, start, nameSame, colonSame, stop]
      simp
termination_by 2 * fuel
theorem members_behind_found (fuel : Nat) (before : List (Option String × Draft)) (text rest : List Char)
    (json : Json) (scanned : Scan.membersBehind fuel before text = (Draft.ofJson json, rest)) :
    ∃ earlier others written, json = .object (earlier ++ others) ∧ before.reverse = Draft.ofJsonMembers earlier ∧
      MembersSpelling others written ∧ text = written ++ rest := by
  obtain ⟨gap, isGap, same⟩ := blanks_skipped text
  rw [Scan.membersBehind] at scanned
  split at scanned
  · cases of_json_unbroken _ json (Prod.mk.inj scanned).1
  · next more comma =>
      obtain ⟨earlier, member, others, written, isObject, listed, spelled, rfl⟩ :=
        members_found fuel before more rest json scanned
      refine ⟨earlier, member :: others, _, isObject, listed,
        members_continued gap written isGap member others spelled, ?_⟩
      rw [same, comma, List.append_assoc, List.cons_append]
  · next more closing =>
      obtain ⟨isObject, rfl⟩ := Prod.mk.inj scanned
      obtain ⟨values, rfl, drafts⟩ := object_of_json _ _ json isObject
      refine ⟨values, [], _, by rw [List.append_nil], drafts, ⟨gap, isGap, rfl⟩, ?_⟩
      rw [same, closing, List.append_assoc, List.singleton_append]
  · cases of_json_unbroken _ json (Prod.mk.inj scanned).1
termination_by 2 * fuel + 1
end

theorem skip_gap_iff (text : List Char) : Scan.skipBlank text = [] ↔ Gap text := by
  constructor
  · intro none
    obtain ⟨gap, isGap, same⟩ := blanks_skipped text
    rw [same, none, List.append_nil]
    exact isGap
  · exact skip_gap_all text

theorem text_spelling_iff (json : Json) (text : String) :
    json.TextSpelling text ↔ ∃ back, Draft.ofChars text.toList = (Draft.ofJson json, back) ∧ Gap back := by
  constructor
  · rintro ⟨front, written, back, isFront, isBack, spelled, chars⟩
    rw [chars]
    exact ⟨back, of_chars_spelled json front written back isFront spelled (gap_blank back isBack), isBack⟩
  · rintro ⟨back, scanned, isBack⟩
    obtain ⟨gap, written, isGap, spelled, chars⟩ := value_found _ json _ back scanned
    exact ⟨gap, written, back, isGap, isBack, spelled, chars⟩

theorem read_text_ok_iff {α : Type} (read : Nat → Draft → Except ReadError α) (text : String) (value : α) :
    Draft.readText read text = .ok value ↔ read nestingLimit (Draft.ofChars text.toList).1 = .ok value ∧
      Gap (Draft.ofChars text.toList).2 := by
  rw [Draft.readText]
  generalize Draft.ofChars text.toList = scanned
  constructor
  · intro whole
    obtain ⟨found, went, behind⟩ := bind_ok_steps _ _ _ whole
    split at behind
    · next alone =>
        cases behind
        exact ⟨went, (skip_gap_iff _).mp (List.isEmpty_iff.mp alone)⟩
    · cases behind
  · rintro ⟨went, isGap⟩
    simp only [went, skip_gap_all _ isGap, ok_bind]
    rfl

/-- A reader of whole values takes just the texts that spell a value it asks for. -/
theorem read_text_iff {α : Type} (read : Nat → Draft → Except ReadError α) (Gives : α → Json → Prop)
    (reads : ∀ draft value, read nestingLimit draft = .ok value ↔ ∃ json, draft = Draft.ofJson json ∧ Gives value json)
    (text : String) (value : α) :
    Draft.readText read text = .ok value ↔ ∃ json, Gives value json ∧ json.TextSpelling text := by
  rw [read_text_ok_iff, reads]
  constructor
  · rintro ⟨⟨json, draft, gives⟩, isGap⟩
    exact ⟨json, gives, (text_spelling_iff json text).mpr ⟨_, Prod.ext draft rfl, isGap⟩⟩
  · rintro ⟨json, gives, spelled⟩
    obtain ⟨back, scanned, isGap⟩ := (text_spelling_iff json text).mp spelled
    rw [scanned]
    exact ⟨⟨json, rfl, gives⟩, isGap⟩

end QueryShingles
