import QueryShingles.Proofs.Spelling

/-!
A value is scanned out of every text that spells it, if no number goes on behind it; so a value that was written is
scanned back. A document holds no numbers at all.
-/

set_option autoImplicit false

namespace QueryShingles

open Json

mutual
/-- The draft of a text that says just this value. -/
def Draft.ofJson : Json → Draft
  | .null => .null
  | .bool b => .bool b
  | .number numeral => .number numeral
  | .string text => .string (some text)
  | .array items => .array (Draft.ofJsonItems items) .closed
  | .object members => .object (Draft.ofJsonMembers members) .closed
def Draft.ofJsonItems : List Json → List Draft
  | [] => []
  | item :: rest => Draft.ofJson item :: Draft.ofJsonItems rest
def Draft.ofJsonMembers : List (String × Json) → List (Option String × Draft)
  | [] => []
  | (key, item) :: rest => (some key, Draft.ofJson item) :: Draft.ofJsonMembers rest
end

mutual
def Json.numberless : Json → Bool
  | .number _ => false
  | .array items => Json.numberlessItems items
  | .object members => Json.numberlessMembers members
  | _ => true
def Json.numberlessItems : List Json → Bool
  | [] => true
  | item :: rest => item.numberless && Json.numberlessItems rest
def Json.numberlessMembers : List (String × Json) → Bool
  | [] => true
  | (_, item) :: rest => item.numberless && Json.numberlessMembers rest
end

theorem proper_items_iff (items : List Json) : Json.ProperItems items ↔ ∀ item ∈ items, item.Proper := by
  induction items with
  | nil => simp [Json.ProperItems]
  | cons item rest ih => rw [Json.ProperItems, ih, List.forall_mem_cons]

mutual
theorem numberless_proper (json : Json) (plain : json.numberless = true) : json.Proper := by
  cases json with
  | null => trivial
  | bool b => trivial
  | number numeral => simp [Json.numberless] at plain
  | string text => trivial
  | array items => exact numberless_proper_items items plain
  | object members => exact numberless_proper_members members plain
theorem numberless_proper_items (items : List Json) (plain : Json.numberlessItems items = true) :
    Json.ProperItems items := by
  cases items with
  | nil => trivial
  | cons item rest =>
      rw [Json.numberlessItems, Bool.and_eq_true] at plain
      exact ⟨numberless_proper item plain.1, numberless_proper_items rest plain.2⟩
theorem numberless_proper_members (members : List (String × Json)) (plain : Json.numberlessMembers members = true) :
    Json.ProperMembers members := by
  cases members with
  | nil => trivial
  | cons member rest =>
      rw [Json.numberlessMembers, Bool.and_eq_true] at plain
      exact ⟨numberless_proper member.2 plain.1, numberless_proper_members rest plain.2⟩
end

theorem of_json_whole (json : Json) : (Draft.ofJson json).break? = none := by
  cases json <;> rfl

theorem of_json_items_map (items : List Json) : Draft.ofJsonItems items = items.map Draft.ofJson := by
  induction items with
  | nil => rfl
  | cons item rest ih => rw [Draft.ofJsonItems, ih, List.map_cons]

theorem of_json_members_map (members : List (String × Json)) :
    Draft.ofJsonMembers members = (members.map (Prod.map id Draft.ofJson)).map (Prod.map some id) := by
  induction members with
  | nil => rfl
  | cons member rest ih => rw [Draft.ofJsonMembers, ih, List.map_cons, List.map_cons, Prod.map, Prod.map]; rfl

theorem object_of_json (members : List (Option String × Draft)) (ending : Ending) (json : Json)
    (same : Draft.object members ending = Draft.ofJson json) :
    ∃ values, json = .object values ∧ members = Draft.ofJsonMembers values := by
  cases json with
  | object values => exact ⟨values, rfl, (Draft.object.inj same).1⟩
  | null => cases same
  | bool b => cases same
  | number numeral => cases same
  | string text => cases same
  | array items => cases same

theorem array_of_json (items : List Draft) (ending : Ending) (json : Json)
    (same : Draft.array items ending = Draft.ofJson json) :
    ∃ values, json = .array values ∧ items = values.map Draft.ofJson := by
  cases json with
  | array values => exact ⟨values, rfl, (Draft.array.inj same).1.trans (of_json_items_map values)⟩
  | null => cases same
  | bool b => cases same
  | number numeral => cases same
  | string text => cases same
  | object members => cases same

theorem skip_blank_all (blanks text : List Char) (blank : ∀ c ∈ blanks, Scan.isBlank c = true) :
    Scan.skipBlank (blanks ++ text) = Scan.skipBlank text := by
  induction blanks with
  | nil => rfl
  | cons c rest ih =>
      rw [List.cons_append, Scan.skipBlank, List.dropWhile_cons, if_pos (blank c (by simp))]
      exact ih fun other member => blank other (by simp [member])

theorem skip_blank_only (blanks : List Char) (blank : ∀ c ∈ blanks, Scan.isBlank c = true) :
    Scan.skipBlank blanks = [] := by
  have all := skip_blank_all blanks [] blank
  rw [List.append_nil] at all
  exact all

theorem skip_blank_stops (c : Char) (text : List Char) (plain : Scan.isBlank c = false) :
    Scan.skipBlank (c :: text) = c :: text := by
  rw [Scan.skipBlank, List.dropWhile_cons, if_neg (by simp [plain])]

theorem gap_blank (gap : List Char) (isGap : Gap gap) : ∀ c ∈ gap, Scan.isBlank c = true := by
  intro c member
  simpa [Scan.isBlank, or_assoc] using isGap c member

theorem skip_gap (gap text : List Char) (isGap : Gap gap) : Scan.skipBlank (gap ++ text) = Scan.skipBlank text :=
  skip_blank_all gap text (gap_blank gap isGap)

theorem skip_gap_all (gap : List Char) (isGap : Gap gap) : Scan.skipBlank gap = [] :=
  skip_blank_only gap (gap_blank gap isGap)

theorem string_closed (text rest : List Char) :
    Scan.string true text ('"' :: rest) = .ok (some (String.ofList text.reverse), rest) := by
  simp [Scan.string]

theorem string_plain (c : Char) (text rest : List Char) (notQuote : c ≠ '"') (notBackslash : c ≠ '\\')
    (visible : ¬ c.toNat < 32) : Scan.string true text (c :: rest) = Scan.string true (c :: text) rest := by
  rw [Scan.string]
  · rw [if_neg visible]
  all_goals simp_all

theorem string_simple (letter plain : Char) (text rest : List Char) (notHex : letter ≠ 'u')
    (means : Scan.simpleEscape? letter = some plain) :
    Scan.string true text ('\\' :: letter :: rest) = Scan.string true (plain :: text) rest := by
  rw [Scan.string]
  · rw [means]
  all_goals simp_all

theorem hex_digit_read (n : Nat) (c : Char) (digit : HexDigit n c) : Scan.hexDigit? c = some n := by
  have each : ∀ n : Fin 16, Scan.hexDigit? n.val.digitChar = some n.val ∧
      Scan.hexDigit? n.val.digitChar.toUpper = some n.val := by
    decide
  obtain ⟨small, lower | upper⟩ := digit
  · rw [lower]
    exact (each ⟨n, small⟩).1
  · rw [upper]
    exact (each ⟨n, small⟩).2

theorem hex_unit_read (unit : Nat) (written : List Char) (spelled : HexUnit unit written) :
    ∃ a b c d, written = [a, b, c, d] ∧ Scan.hex4? a b c d = some unit := by
  obtain ⟨a, b, c, d, same, first, second, third, fourth⟩ := spelled
  refine ⟨a, b, c, d, same, ?_⟩
  simp only [Scan.hex4?, hex_digit_read _ _ first, hex_digit_read _ _ second, hex_digit_read _ _ third,
    hex_digit_read _ _ fourth]
  exact congrArg some (by omega)

theorem char_no_surrogate (c : Char) : Scan.isLeading c.toNat = false ∧ Scan.isTrailing c.toNat = false := by
  have valid : c.toNat < 0xD800 ∨ 0xDFFF < c.toNat ∧ c.toNat < 0x110000 := c.valid
  constructor
  · simp [Scan.isLeading]
    omega
  · simp [Scan.isTrailing]
    omega

theorem string_unit (c : Char) (written text rest : List Char) (spelled : HexUnit c.toNat written) :
    Scan.string true text ('\\' :: 'u' :: written ++ rest) = Scan.string true (c :: text) rest := by
  obtain ⟨notLeading, notTrailing⟩ := char_no_surrogate c
  obtain ⟨_, _, _, _, rfl, read⟩ := hex_unit_read c.toNat written spelled
  simp only [List.cons_append, List.nil_append]
  rw [Scan.string, read]
  simp only [notTrailing, notLeading, Char.ofNat_toNat]
  rfl

theorem string_pair (c : Char) (leading trailing text rest : List Char) (large : 0x10000 ≤ c.toNat)
    (first : HexUnit (0xD800 + (c.toNat - 0x10000) / 0x400) leading)
    (second : HexUnit (0xDC00 + (c.toNat - 0x10000) % 0x400) trailing) :
    Scan.string true text ('\\' :: 'u' :: leading ++ '\\' :: 'u' :: trailing ++ rest) =
      Scan.string true (c :: text) rest := by
  have valid : c.toNat < 0xD800 ∨ 0xDFFF < c.toNat ∧ c.toNat < 0x110000 := c.valid
  obtain ⟨_, _, _, _, rfl, read⟩ := hex_unit_read _ leading first
  obtain ⟨_, _, _, _, rfl, alsoRead⟩ := hex_unit_read _ trailing second
  have notTrailing : Scan.isTrailing (0xD800 + (c.toNat - 0x10000) / 0x400) = false := by
    simp [Scan.isTrailing]
    omega
  have isLeading : Scan.isLeading (0xD800 + (c.toNat - 0x10000) / 0x400) = true := by
    simp [Scan.isLeading]
    omega
  have isTrailing : Scan.isTrailing (0xDC00 + (c.toNat - 0x10000) % 0x400) = true := by
    simp [Scan.isTrailing]
    omega
  have joined : Scan.joinPair (0xD800 + (c.toNat - 0x10000) / 0x400) (0xDC00 + (c.toNat - 0x10000) % 0x400) = c := by
    have same : 0x10000 + (0xD800 + (c.toNat - 0x10000) / 0x400 - 0xD800) * 0x400 +
        (0xDC00 + (c.toNat - 0x10000) % 0x400 - 0xDC00) = c.toNat := by
      omega
    rw [Scan.joinPair, same, Char.ofNat_toNat]
  simp only [List.cons_append, List.nil_append]
  rw [Scan.string, read]
  simp only [notTrailing, isLeading, alsoRead, isTrailing, joined]
  rfl

theorem letter_read (letter c : Char) (stands : (letter, c) ∈ letters) :
    letter ≠ 'u' ∧ Scan.simpleEscape? letter = some c := by
  simp only [letters, List.mem_cons, Prod.mk.injEq, List.not_mem_nil, or_false] at stands
  rcases stands with ⟨rfl, rfl⟩ | ⟨rfl, rfl⟩ | ⟨rfl, rfl⟩ | ⟨rfl, rfl⟩ | ⟨rfl, rfl⟩ | ⟨rfl, rfl⟩ | ⟨rfl, rfl⟩ |
    ⟨rfl, rfl⟩ <;> exact ⟨by decide, rfl⟩

theorem string_char (c : Char) (written text rest : List Char) (spelled : CharSpelling c written) :
    Scan.string true text (written ++ rest) = Scan.string true (c :: text) rest := by
  cases spelled with
  | plain visible notQuote notBackslash =>
      exact string_plain c text rest notQuote notBackslash (Nat.not_lt_of_le visible)
  | letter letter stands =>
      obtain ⟨notHex, means⟩ := letter_read letter c stands
      exact string_simple letter c text rest notHex means
  | unit written spelled => exact string_unit c written text rest spelled
  | pair leading trailing large first second => exact string_pair c leading trailing text rest large first second

theorem string_chars (spelled written text rest : List Char) (spells : CharsSpelling spelled written) :
    Scan.string true text (written ++ '"' :: rest) = .ok (some (String.ofList (text.reverse ++ spelled)), rest) := by
  induction spelled generalizing text written with
  | nil =>
      rw [show written = [] from spells, List.append_nil]
      exact string_closed text rest
  | cons c more ih =>
      obtain ⟨first, behind, here, others, rfl⟩ := spells
      rw [List.append_assoc, string_char c first text _ here, ih behind (c :: text) others]
      simp

theorem string_scanned (text : String) (written rest : List Char) (spelled : StringSpelling text written) :
    ∃ inside, written ++ rest = '"' :: inside ∧ Scan.string true [] inside = .ok (some text, rest) := by
  obtain ⟨inside, spells, rfl⟩ := spelled
  refine ⟨inside ++ '"' :: rest, by simp, ?_⟩
  rw [string_chars text.toList inside [] rest spells]
  simp

theorem blank_free (c : Char) (blank : Scan.isBlank c = true) :
    Digit.isDigit c = false ∧ c ≠ '.' ∧ c ≠ 'e' ∧ c ≠ 'E' := by
  simp only [Scan.isBlank, Bool.or_eq_true, decide_eq_true_eq] at blank
  rcases blank with ((rfl | rfl) | rfl) | rfl <;> decide

theorem number_head_visible (c : Char) (begins : c = '-' ∨ Digit.isDigit c = true) :
    Scan.isBlank c = false ∧ c ∉ ['n', 't', 'f', '"', '[', ']', '\x7b'] := by
  rcases begins with rfl | digit
  · decide
  · constructor
    · cases blank : Scan.isBlank c with
      | false => rfl
      | true =>
          rw [(blank_free c blank).1] at digit
          cases digit
    · intro member
      simp only [List.mem_cons, List.not_mem_nil, or_false] at member
      rcases member with rfl | rfl | rfl | rfl | rfl | rfl | rfl <;> cases digit

theorem spelling_head (json : Json) (written : List Char) (spelled : json.Spelling written) :
    ∃ c more, written = c :: more ∧ Scan.isBlank c = false ∧ c ≠ ']' := by
  cases json with
  | null => exact ⟨_, _, spelled, rfl, by decide⟩
  | bool b => cases b <;> exact ⟨_, _, spelled, rfl, by decide⟩
  | number numeral =>
      obtain ⟨c, more, head, begins⟩ := numeral_head numeral written spelled
      obtain ⟨visible, others⟩ := number_head_visible c begins
      exact ⟨c, more, head, visible, fun same => others (by simp [same])⟩
  | string text =>
      obtain ⟨inside, _, rfl⟩ := spelled
      exact ⟨_, _, rfl, rfl, by decide⟩
  | array items =>
      cases items with
      | nil =>
          obtain ⟨gap, _, rfl⟩ := spelled
          exact ⟨_, _, rfl, rfl, by decide⟩
      | cons item rest =>
          obtain ⟨gap, first, behind, _, _, _, rfl⟩ := spelled
          exact ⟨_, _, rfl, rfl, by decide⟩
  | object members =>
      cases members with
      | nil =>
          obtain ⟨gap, _, rfl⟩ := spelled
          exact ⟨_, _, rfl, rfl, by decide⟩
      | cons member rest =>
          obtain ⟨gap, name, before, after, first, behind, _, _, _, _, _, _, rfl⟩ := spelled
          exact ⟨_, _, rfl, rfl, by decide⟩

theorem gap_free (gap rest : List Char) (c : Char) (isGap : Gap gap) (mark : c ∈ [',', ']', '\x7d']) :
    Scan.NoNumber (gap ++ c :: rest) := by
  cases gap with
  | nil =>
      rintro other member
      cases member
      simp only [List.mem_cons, List.not_mem_nil, or_false] at mark
      rcases mark with rfl | rfl | rfl <;> decide
  | cons blank more =>
      rintro other member
      cases member
      exact blank_free blank (gap_blank _ isGap blank List.mem_cons_self)

theorem items_free (items : List Json) (written rest : List Char) (spelled : ItemsSpelling items written) :
    Scan.NoNumber (written ++ rest) := by
  cases items with
  | nil =>
      obtain ⟨gap, isGap, rfl⟩ := spelled
      rw [List.append_assoc]
      exact gap_free gap _ ']' isGap (by simp)
  | cons item more =>
      obtain ⟨front, gap, first, behind, isFront, _, _, _, rfl⟩ := spelled
      rw [List.append_assoc]
      exact gap_free front _ ',' isFront (by simp)

theorem members_free (members : List (String × Json)) (written rest : List Char)
    (spelled : MembersSpelling members written) : Scan.NoNumber (written ++ rest) := by
  cases members with
  | nil =>
      obtain ⟨gap, isGap, rfl⟩ := spelled
      rw [List.append_assoc]
      exact gap_free gap _ '\x7d' isGap (by simp)
  | cons member more =>
      obtain ⟨front, gap, name, before, after, first, behind, isFront, _, _, _, _, _, _, rfl⟩ := spelled
      rw [List.append_assoc]
      exact gap_free front _ ',' isFront (by simp)

theorem value_blank (fuel : Nat) (text other : List Char) (same : Scan.skipBlank text = Scan.skipBlank other) :
    Scan.value (fuel + 1) text = Scan.value (fuel + 1) other := by
  rw [Scan.value, Scan.value, same]

theorem value_string (fuel : Nat) (text : String) (written rest : List Char) (spelled : StringSpelling text written) :
    Scan.value (fuel + 1) (written ++ rest) = (.string (some text), rest) := by
  obtain ⟨inside, begins, scanned⟩ := string_scanned text written rest spelled
  rw [begins, Scan.value, skip_blank_stops '"' _ rfl]
  simp only [scanned]

theorem value_number (fuel : Nat) (numeral : Numeral) (written rest : List Char) (spelled : numeral.Spelling written)
    (free : Scan.NoNumber rest) : Scan.value (fuel + 1) (written ++ rest) = (.number numeral, rest) := by
  have scanned := numeral_scanned numeral written rest spelled free
  obtain ⟨c, more, head, begins⟩ := numeral_head numeral written spelled
  obtain ⟨visible, others⟩ := number_head_visible c begins
  rw [head, List.cons_append] at scanned ⊢
  rw [Scan.value, skip_blank_stops c _ visible]
  split <;> simp_all

theorem value_empty_array (fuel : Nat) (gap rest : List Char) (isGap : Gap gap) :
    Scan.value (fuel + 1) ('[' :: (gap ++ ']' :: rest)) = (.array [] .closed, rest) := by
  have closed : Scan.skipBlank (gap ++ ']' :: rest) = ']' :: rest := by
    rw [skip_gap gap _ isGap, skip_blank_stops ']' rest rfl]
  simp [Scan.value, skip_blank_stops '[' _ rfl, closed]

theorem value_empty_object (fuel : Nat) (gap rest : List Char) (isGap : Gap gap) :
    Scan.value (fuel + 1) ('\x7b' :: (gap ++ '\x7d' :: rest)) = (.object [] .closed, rest) := by
  have closed : Scan.skipBlank (gap ++ '\x7d' :: rest) = '\x7d' :: rest := by
    rw [skip_gap gap _ isGap, skip_blank_stops '\x7d' rest rfl]
  simp [Scan.value, skip_blank_stops '\x7b' _ rfl, closed]

theorem value_array (fuel : Nat) (c : Char) (gap more : List Char) (isGap : Gap gap)
    (visible : Scan.isBlank c = false) (item : c ≠ ']') :
    Scan.value (fuel + 1) ('[' :: (gap ++ c :: more)) = Scan.items fuel [] (c :: more) := by
  have first : Scan.skipBlank (gap ++ c :: more) = c :: more := by
    rw [skip_gap gap _ isGap, skip_blank_stops c more visible]
  rw [Scan.value, skip_blank_stops '[' _ rfl]
  simp only [first]
  split
  · simp_all
  · simp_all
  · rfl

theorem value_object (fuel : Nat) (gap more : List Char) (isGap : Gap gap) :
    Scan.value (fuel + 1) ('\x7b' :: (gap ++ '"' :: more)) = Scan.members fuel [] ('"' :: more) := by
  have first : Scan.skipBlank (gap ++ '"' :: more) = '"' :: more := by
    rw [skip_gap gap _ isGap, skip_blank_stops '"' more rfl]
  rw [Scan.value, skip_blank_stops '\x7b' _ rfl]
  simp only [first]
  rfl

def Scan.itemsBehind (fuel : Nat) (before : List Draft) (text : List Char) : Draft × List Char :=
  match Scan.skipBlank text with
  | [] => (.array before.reverse (.broken .truncated), [])
  | ',' :: rest => Scan.items fuel before rest
  | ']' :: rest => (.array before.reverse .closed, rest)
  | _ => (.array before.reverse (.broken .malformed), [])

def Scan.membersBehind (fuel : Nat) (before : List (Option String × Draft)) (text : List Char) :
    Draft × List Char :=
  match Scan.skipBlank text with
  | [] => (.object before.reverse (.broken .truncated), [])
  | ',' :: rest => Scan.members fuel before rest
  | '}' :: rest => (.object before.reverse .closed, rest)
  | _ => (.object before.reverse (.broken .malformed), [])

theorem items_next (fuel : Nat) (before : List Draft) (text next : List Char) (item : Draft)
    (whole : item.break? = none) (scanned : Scan.value fuel text = (item, next)) :
    Scan.items (fuel + 1) before text = Scan.itemsBehind fuel (item :: before) next := by
  rw [Scan.items, scanned]
  simp only [whole]
  rfl

theorem members_next (fuel : Nat) (previous : List (Option String × Draft)) (key : String)
    (gap name before text next : List Char) (isGap : Gap gap) (spelled : StringSpelling key name)
    (isBefore : Gap before) (item : Draft) (whole : item.break? = none)
    (scanned : Scan.value fuel text = (item, next)) :
    Scan.members (fuel + 1) previous (gap ++ (name ++ (before ++ ':' :: text))) =
      Scan.membersBehind fuel ((some key, item) :: previous) next := by
  obtain ⟨inside, begins, read⟩ := string_scanned key name (before ++ ':' :: text) spelled
  have colon : Scan.skipBlank (before ++ ':' :: text) = ':' :: text := by
    rw [skip_gap before _ isBefore, skip_blank_stops ':' text rfl]
  rw [begins, Scan.members, skip_gap gap _ isGap, skip_blank_stops '"' _ rfl]
  simp only [read, colon, scanned, whole]
  rfl

theorem fuel_left (fuel needed : Nat) (enough : needed ≤ fuel) (positive : 0 < needed) :
    ∃ less, fuel = less + 1 :=
  Nat.exists_eq_succ_of_ne_zero (Nat.ne_of_gt (Nat.lt_of_lt_of_le positive enough))

mutual
theorem value_spelled (fuel : Nat) (json : Json) (written : List Char) (spelled : json.Spelling written)
    (enough : 2 * written.length ≤ fuel) (gap rest : List Char) (isGap : Gap gap) (free : Scan.NoNumber rest) :
    Scan.value fuel (gap ++ (written ++ rest)) = (Draft.ofJson json, rest) := by
  obtain ⟨c, more, head, visible, notEnd⟩ := spelling_head json written spelled
  obtain ⟨less, same⟩ := fuel_left fuel _ enough (by simp [head])
  subst same
  rw [value_blank less _ _ (skip_gap gap _ isGap)]
  cases json with
  | null =>
      rw [show written = ['n', 'u', 'l', 'l'] from spelled]
      simp [Scan.value, Scan.skipBlank, Scan.isBlank, Scan.literal, Draft.ofJson]
  | bool b =>
      cases b with
      | true =>
          rw [show written = ['t', 'r', 'u', 'e'] from spelled]
          simp [Scan.value, Scan.skipBlank, Scan.isBlank, Scan.literal, Draft.ofJson]
      | false =>
          rw [show written = ['f', 'a', 'l', 's', 'e'] from spelled]
          simp [Scan.value, Scan.skipBlank, Scan.isBlank, Scan.literal, Draft.ofJson]
  | number numeral => exact value_number less numeral written rest spelled free
  | string text => exact value_string less text written rest spelled
  | array items =>
      cases items with
      | nil =>
          obtain ⟨gap, isGap, rfl⟩ := spelled
          rw [List.cons_append, List.append_assoc]
          exact value_empty_array less gap rest isGap
      | cons item tail =>
          obtain ⟨gap, first, behind, isGap, here, others, rfl⟩ := spelled
          simp only [List.length_cons, List.length_append] at enough
          obtain ⟨c, more, head, visible, notEnd⟩ := spelling_head item first here
          obtain ⟨less, same⟩ := fuel_left less 1 (by omega) (by omega)
          subst same
          have scanned := value_spelled less item first here (by omega) [] (behind ++ rest) (by simp [Gap])
            (items_free tail behind rest others)
          have left := items_behind_spelled less [Draft.ofJson item] tail behind others (by omega) rest
          simp only [List.cons_append, List.append_assoc]
          rw [List.nil_append, head] at scanned
          rw [head, List.cons_append, value_array _ c gap _ isGap visible notEnd]
          exact (items_next less [] _ _ _ (of_json_whole item) scanned).trans left
  | object members =>
      cases members with
      | nil =>
          obtain ⟨gap, isGap, rfl⟩ := spelled
          rw [List.cons_append, List.append_assoc]
          exact value_empty_object less gap rest isGap
      | cons member tail =>
          obtain ⟨key, item⟩ := member
          obtain ⟨gap, name, before, after, first, behind, isGap, named, isBefore, isAfter, here, others, rfl⟩ :=
            spelled
          simp only [List.length_cons, List.length_append] at enough
          obtain ⟨less, same⟩ := fuel_left less 1 (by omega) (by omega)
          subst same
          have scanned := value_spelled less item first here (by omega) after (behind ++ rest) isAfter
            (members_free tail behind rest others)
          have left := members_behind_spelled less [(some key, Draft.ofJson item)] tail behind others (by omega) rest
          have next := members_next less [] key [] name before _ _ (by simp [Gap]) named isBefore _ (of_json_whole item)
            scanned
          obtain ⟨inside, begins, _⟩ := string_scanned key name
            (before ++ ':' :: (after ++ (first ++ (behind ++ rest)))) named
          simp only [List.cons_append, List.append_assoc, List.nil_append] at next ⊢
          rw [begins] at next ⊢
          rw [value_object _ gap _ isGap]
          exact next.trans left
theorem items_behind_spelled (fuel : Nat) (before : List Draft) (items : List Json) (written : List Char)
    (spelled : ItemsSpelling items written) (enough : 2 * written.length ≤ fuel) (rest : List Char) :
    Scan.itemsBehind fuel before (written ++ rest) =
      (.array (before.reverse ++ Draft.ofJsonItems items) .closed, rest) := by
  cases items with
  | nil =>
      obtain ⟨gap, isGap, rfl⟩ := spelled
      rw [List.append_assoc, Scan.itemsBehind, skip_gap gap _ isGap, List.singleton_append,
        skip_blank_stops ']' rest rfl, Draft.ofJsonItems, List.append_nil]
      rfl
  | cons item tail =>
      obtain ⟨front, gap, first, behind, isFront, isGap, here, others, rfl⟩ := spelled
      simp only [List.length_cons, List.length_append] at enough
      obtain ⟨less, same⟩ := fuel_left fuel 1 (by omega) (by omega)
      subst same
      have scanned := value_spelled less item first here (by omega) gap (behind ++ rest) isGap
        (items_free tail behind rest others)
      have left := items_behind_spelled less (Draft.ofJson item :: before) tail behind others (by omega) rest
      simp only [List.cons_append, List.append_assoc]
      rw [Scan.itemsBehind, skip_gap front _ isFront, skip_blank_stops ',' _ rfl]
      simp only [items_next less before _ _ _ (of_json_whole item) scanned, left]
      simp [Draft.ofJsonItems]
theorem members_behind_spelled (fuel : Nat) (previous : List (Option String × Draft)) (members : List (String × Json))
    (written : List Char) (spelled : MembersSpelling members written) (enough : 2 * written.length ≤ fuel)
    (rest : List Char) :
    Scan.membersBehind fuel previous (written ++ rest) =
      (.object (previous.reverse ++ Draft.ofJsonMembers members) .closed, rest) := by
  cases members with
  | nil =>
      obtain ⟨gap, isGap, rfl⟩ := spelled
      rw [List.append_assoc, Scan.membersBehind, skip_gap gap _ isGap, List.singleton_append,
        skip_blank_stops '\x7d' rest rfl, Draft.ofJsonMembers, List.append_nil]
      rfl
  | cons member tail =>
      obtain ⟨key, item⟩ := member
      obtain ⟨front, gap, name, before, after, first, behind, isFront, isGap, named, isBefore, isAfter, here, others,
        rfl⟩ := spelled
      simp only [List.length_cons, List.length_append] at enough
      obtain ⟨less, same⟩ := fuel_left fuel 1 (by omega) (by omega)
      subst same
      have scanned := value_spelled less item first here (by omega) after (behind ++ rest) isAfter
        (members_free tail behind rest others)
      have left := members_behind_spelled less ((some key, Draft.ofJson item) :: previous) tail behind others
        (by omega) rest
      have next := members_next less previous key gap name before _ _ isGap named isBefore _ (of_json_whole item)
        scanned
      simp only [List.cons_append, List.append_assoc]
      rw [Scan.membersBehind, skip_gap front _ isFront, skip_blank_stops ',' _ rfl]
      simp only [next, left]
      simp [Draft.ofJsonMembers]
end

theorem blanks_free (blanks : List Char) (blank : ∀ c ∈ blanks, Scan.isBlank c = true) : Scan.NoNumber blanks :=
  fun c member => blank_free c (blank c (List.mem_of_mem_head? member))

theorem of_chars_spelled (json : Json) (front written back : List Char) (isFront : Gap front)
    (spelled : json.Spelling written) (blank : ∀ c ∈ back, Scan.isBlank c = true) :
    Draft.ofChars (front ++ (written ++ back)) = (Draft.ofJson json, back) := by
  refine value_spelled _ json written spelled ?_ front back isFront (blanks_free back blank)
  simp only [List.length_append]
  omega

theorem of_chars_text (layout : Json.Layout) (json : Json) (proper : json.Proper) (blanks : List Char)
    (blank : ∀ c ∈ blanks, Scan.isBlank c = true) :
    Draft.ofChars (json.chars layout 0 ++ blanks) = (Draft.ofJson json, blanks) :=
  of_chars_spelled json [] _ blanks (by simp [Gap]) (chars_spelling layout 0 json proper) blank

end QueryShingles
