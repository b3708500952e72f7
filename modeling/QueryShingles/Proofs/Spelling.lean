import Mathlib.Tactic.SplitIfs
import QueryShingles.Json.Basic
import QueryShingles.Proofs.Numerals

/-!
The texts that spell a value: any blanks between the tokens, every character of a string as itself or in any of its
escapes, every number with any mark and sign of its exponent. What is written of a value is one of them.
-/

set_option autoImplicit false

namespace QueryShingles

namespace Json

def Gap (written : List Char) : Prop := ∀ c ∈ written, c ∈ [' ', '\n', '\t', '\r']

def HexDigit (n : Nat) (c : Char) : Prop := n < 16 ∧ (c = n.digitChar ∨ c = n.digitChar.toUpper)

def HexUnit (unit : Nat) (written : List Char) : Prop :=
  ∃ a b c d, written = [a, b, c, d] ∧ HexDigit (unit / 4096) a ∧ HexDigit (unit / 256 % 16) b ∧
    HexDigit (unit / 16 % 16) c ∧ HexDigit (unit % 16) d

def letters : List (Char × Char) :=
  [('"', '"'), ('\\', '\\'), ('/', '/'), ('b', '\x08'), ('f', '\x0c'), ('n', '\n'), ('r', '\r'), ('t', '\t')]

/-- A character that has more than one code unit is escaped as a leading one and a trailing one. Neither of them
spells a character alone. -/
inductive CharSpelling (c : Char) : List Char → Prop where
  | plain (visible : 32 ≤ c.toNat) (notQuote : c ≠ '"') (notBackslash : c ≠ '\\') : CharSpelling c [c]
  | letter (letter : Char) (stands : (letter, c) ∈ letters) : CharSpelling c ['\\', letter]
  | unit (written : List Char) (spelled : HexUnit c.toNat written) : CharSpelling c ('\\' :: 'u' :: written)
  | pair (leading trailing : List Char) (large : 0x10000 ≤ c.toNat)
      (first : HexUnit (0xD800 + (c.toNat - 0x10000) / 0x400) leading)
      (second : HexUnit (0xDC00 + (c.toNat - 0x10000) % 0x400) trailing) :
      CharSpelling c ('\\' :: 'u' :: leading ++ '\\' :: 'u' :: trailing)

def CharsSpelling : List Char → List Char → Prop
  | [], written => written = []
  | c :: text, written => ∃ first rest, CharSpelling c first ∧ CharsSpelling text rest ∧ written = first ++ rest

def StringSpelling (text : String) (written : List Char) : Prop :=
  ∃ inside, CharsSpelling text.toList inside ∧ written = '"' :: (inside ++ ['"'])

mutual
def Spelling : Json → List Char → Prop
  | .null, written => written = ['n', 'u', 'l', 'l']
  | .bool true, written => written = ['t', 'r', 'u', 'e']
  | .bool false, written => written = ['f', 'a', 'l', 's', 'e']
  | .number numeral, written => numeral.Spelling written
  | .string text, written => StringSpelling text written
  | .array [], written => ∃ gap, Gap gap ∧ written = '[' :: (gap ++ [']'])
  | .array (item :: rest), written => ∃ gap first behind, Gap gap ∧ Spelling item first ∧
      ItemsSpelling rest behind ∧ written = '[' :: (gap ++ (first ++ behind))
  | .object [], written => ∃ gap, Gap gap ∧ written = '\x7b' :: (gap ++ ['\x7d'])
  | .object ((key, item) :: rest), written => ∃ gap name before after first behind, Gap gap ∧
      StringSpelling key name ∧ Gap before ∧ Gap after ∧ Spelling item first ∧ MembersSpelling rest behind ∧
      written = '\x7b' :: (gap ++ (name ++ (before ++ ':' :: (after ++ (first ++ behind)))))
def ItemsSpelling : List Json → List Char → Prop
  | [], written => ∃ gap, Gap gap ∧ written = gap ++ [']']
  | item :: rest, written => ∃ front gap first behind, Gap front ∧ Gap gap ∧ Spelling item first ∧
      ItemsSpelling rest behind ∧ written = front ++ ',' :: (gap ++ (first ++ behind))
def MembersSpelling : List (String × Json) → List Char → Prop
  | [], written => ∃ gap, Gap gap ∧ written = gap ++ ['\x7d']
  | (key, item) :: rest, written => ∃ front gap name before after first behind, Gap front ∧ Gap gap ∧
      StringSpelling key name ∧ Gap before ∧ Gap after ∧ Spelling item first ∧ MembersSpelling rest behind ∧
      written = front ++ ',' :: (gap ++ (name ++ (before ++ ':' :: (after ++ (first ++ behind)))))
end

def TextSpelling (json : Json) (text : String) : Prop :=
  ∃ front written back, Gap front ∧ Gap back ∧ json.Spelling written ∧ text.toList = front ++ (written ++ back)

end Json

open Json

mutual
def Json.Proper : Json → Prop
  | .number numeral => numeral.Proper
  | .array items => Json.ProperItems items
  | .object members => Json.ProperMembers members
  | _ => True
def Json.ProperItems : List Json → Prop
  | [] => True
  | item :: rest => item.Proper ∧ Json.ProperItems rest
def Json.ProperMembers : List (String × Json) → Prop
  | [] => True
  | (_, item) :: rest => item.Proper ∧ Json.ProperMembers rest
end

instance (n : Nat) (c : Char) : Decidable (HexDigit n c) := inferInstanceAs (Decidable (_ ∧ _))

theorem line_gap (layout : Layout) (depth : Nat) : Gap (layout.line depth) := by
  cases layout with
  | compact => simp [Gap, Layout.line]
  | pretty =>
      intro c member
      rcases List.mem_cons.mp member with newline | space
      · simp [newline]
      · simp [List.eq_of_mem_replicate space]

theorem colon_gap (layout : Layout) : ∃ gap, layout.colon = ':' :: gap ∧ Gap gap := by
  cases layout with
  | compact => exact ⟨[], rfl, by simp [Gap]⟩
  | pretty => exact ⟨[' '], rfl, by simp [Gap]⟩

theorem control_digits : ∀ n < 32, HexDigit (n / 4096) '0' ∧ HexDigit (n / 256 % 16) '0' ∧
    HexDigit (n / 16 % 16) (hexChar (n / 16)) ∧ HexDigit (n % 16) (hexChar (n % 16)) := by
  decide

theorem escape_spelling (c : Char) : CharSpelling c (escape c) := by
  unfold escape
  split_ifs with quote backslash backspace feed newline carriage tab control
  · exact .letter '"' (by simp [quote, letters])
  · exact .letter '\\' (by simp [backslash, letters])
  · exact .letter 'b' (by simp [backspace, letters])
  · exact .letter 'f' (by simp [feed, letters])
  · exact .letter 'n' (by simp [newline, letters])
  · exact .letter 'r' (by simp [carriage, letters])
  · exact .letter 't' (by simp [tab, letters])
  · exact .unit _ ⟨_, _, _, _, rfl, control_digits c.toNat control⟩
  · exact .plain (Nat.le_of_not_lt control) quote backslash

theorem escapes_spelling (text : List Char) : CharsSpelling text (text.flatMap escape) := by
  induction text with
  | nil => rfl
  | cons c rest ih => exact ⟨_, _, escape_spelling c, ih, List.flatMap_cons⟩

theorem quoted_spelling (text : String) : StringSpelling text (quoted text) :=
  ⟨_, escapes_spelling text.toList, rfl⟩

mutual
theorem chars_spelling (layout : Layout) (depth : Nat) (json : Json) (proper : json.Proper) :
    json.Spelling (json.chars layout depth) := by
  cases json with
  | null => rfl
  | bool b => cases b <;> rfl
  | number numeral => exact numeral_chars_spelling numeral proper
  | string text => exact quoted_spelling text
  | array items =>
      cases items with
      | nil => exact ⟨[], by simp [Gap], rfl⟩
      | cons item rest =>
          exact ⟨_, _, _, line_gap layout (depth + 1), chars_spelling layout (depth + 1) item proper.1,
            items_chars_spelling layout depth rest proper.2, by simp [chars]⟩
  | object members =>
      cases members with
      | nil => exact ⟨[], by simp [Gap], rfl⟩
      | cons member rest =>
          obtain ⟨key, item⟩ := member
          obtain ⟨gap, colon, isGap⟩ := colon_gap layout
          exact ⟨_, _, [], gap, _, _, line_gap layout (depth + 1), quoted_spelling key, by simp [Gap], isGap,
            chars_spelling layout (depth + 1) item proper.1, members_chars_spelling layout depth rest proper.2,
            by simp [chars, colon]⟩
theorem items_chars_spelling (layout : Layout) (depth : Nat) (items : List Json) (proper : ProperItems items) :
    ItemsSpelling items (itemsChars layout depth items) := by
  cases items with
  | nil => exact ⟨_, line_gap layout depth, rfl⟩
  | cons item rest =>
      exact ⟨[], _, _, _, by simp [Gap], line_gap layout (depth + 1),
        chars_spelling layout (depth + 1) item proper.1, items_chars_spelling layout depth rest proper.2,
        by simp [itemsChars]⟩
theorem members_chars_spelling (layout : Layout) (depth : Nat) (members : List (String × Json))
    (proper : ProperMembers members) : MembersSpelling members (membersChars layout depth members) := by
  cases members with
  | nil => exact ⟨_, line_gap layout depth, rfl⟩
  | cons member rest =>
      obtain ⟨key, item⟩ := member
      obtain ⟨gap, colon, isGap⟩ := colon_gap layout
      exact ⟨[], _, _, [], gap, _, _, by simp [Gap], line_gap layout (depth + 1), quoted_spelling key, by simp [Gap],
        isGap, chars_spelling layout (depth + 1) item proper.1, members_chars_spelling layout depth rest proper.2,
        by simp [membersChars, colon]⟩
end

end QueryShingles
