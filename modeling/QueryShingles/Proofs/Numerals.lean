import Mathlib.Algebra.Ring.Nat
import Mathlib.Data.List.TakeWhile
import QueryShingles.Json.Draft
import QueryShingles.Proofs.Results

/-!
Spelled numbers. A number that is spelled properly is scanned back, if it cannot go on in what stands
behind it, and scanned only where it is spelled so. The digits of a natural number spell it, and begin
with no zero but for zero itself.
-/

set_option autoImplicit false

namespace QueryShingles

@[simp] theorem digit_of_char (digit : Digit) : Digit.ofChar? digit.char = some digit := by
  revert digit
  decide

@[simp] theorem char_is_digit (digit : Digit) : Digit.isDigit digit.char = true := by
  rw [Digit.isDigit, digit_of_char]
  rfl

theorem char_not_zero (digit : Digit) (other : digit ≠ .zero) : digit.char ≠ '0' := by
  intro same
  have spelled := digit_of_char digit
  rw [same] at spelled
  exact other (Option.some.inj spelled).symm

def Scan.NoDigit (text : List Char) : Prop := ∀ c ∈ text.head?, Digit.isDigit c = false

def Scan.NoNumber (text : List Char) : Prop :=
  ∀ c ∈ text.head?, Digit.isDigit c = false ∧ c ≠ '.' ∧ c ≠ 'e' ∧ c ≠ 'E'

theorem digits_scanned (digits : List Digit) (rest : List Char) (free : Scan.NoDigit rest) :
    Scan.digits (digits.map Digit.char ++ rest) = (digits, rest) := by
  have none : rest.takeWhile Digit.isDigit = [] ∧ rest.dropWhile Digit.isDigit = rest := by
    cases rest with
    | nil => exact ⟨rfl, rfl⟩
    | cons c more => simp [free c rfl]
  have all : ∀ c ∈ digits.map Digit.char, Digit.isDigit c = true := by simp
  have read : (digits.map Digit.char).filterMap Digit.ofChar? = digits := by
    have back : Digit.ofChar? ∘ Digit.char = some := funext digit_of_char
    rw [List.filterMap_map, back, List.filterMap_some]
  rw [Scan.digits, List.takeWhile_append_of_pos all, List.dropWhile_append_of_pos all, none.1, none.2, List.append_nil,
    read]

theorem some_digits_scanned (digits : List Digit) (rest : List Char) (present : digits ≠ [])
    (free : Scan.NoDigit rest) : Scan.someDigits (digits.map Digit.char ++ rest) = .ok (digits, rest) := by
  rw [← digits_scanned digits rest free]
  cases digits with
  | nil => exact absurd rfl present
  | cons digit more => simp [Scan.someDigits]

/-- Whole digits as a reader wants them: a zero stands alone, and an exponent has digits. -/
structure Numeral.Proper (numeral : Numeral) : Prop where
  whole : numeral.whole = [.zero] ∨ ∃ first rest, numeral.whole = first :: rest ∧ first ≠ .zero
  exponent : ∀ exponent, numeral.exponent = some exponent → exponent.digits ≠ []

def Exponent.Sign : (negative : Bool) → List Char → Prop
  | true, written => written = ['-']
  | false, written => written = [] ∨ written = ['+']

def Exponent.Spelling : Option Exponent → List Char → Prop
  | none, written => written = []
  | some exponent, written => ∃ mark sign, (mark = 'e' ∨ mark = 'E') ∧ Exponent.Sign exponent.negative sign ∧
      written = mark :: (sign ++ exponent.digits.map Digit.char)

def Numeral.Spelling (numeral : Numeral) (written : List Char) : Prop :=
  numeral.Proper ∧ ∃ power, Exponent.Spelling numeral.exponent power ∧
    written = (if numeral.negative then ['-'] else []) ++ numeral.whole.map Digit.char
      ++ Numeral.fractionChars numeral.fraction ++ power

theorem exponent_chars_spelling (exponent : Option Exponent) :
    Exponent.Spelling exponent (Numeral.exponentChars exponent) := by
  cases exponent with
  | none => rfl
  | some exponent =>
      obtain ⟨negative, digits⟩ := exponent
      cases negative with
      | true => exact ⟨'e', ['-'], .inl rfl, rfl, rfl⟩
      | false => exact ⟨'e', ['+'], .inl rfl, .inr rfl, rfl⟩

theorem numeral_chars_spelling (numeral : Numeral) (proper : numeral.Proper) : numeral.Spelling numeral.chars :=
  ⟨proper, _, exponent_chars_spelling numeral.exponent, rfl⟩

theorem zero_scanned (rest : List Char) (free : Scan.NoDigit rest) :
    Scan.whole ('0' :: rest) = .ok ([.zero], rest) := by
  cases rest with
  | nil => rfl
  | cons c more => simp [Scan.whole, free c rfl]

theorem whole_scanned (numeral : Numeral) (proper : numeral.Proper) (rest : List Char) (free : Scan.NoDigit rest) :
    Scan.whole (numeral.whole.map Digit.char ++ rest) = .ok (numeral.whole, rest) := by
  rcases proper.whole with zero | ⟨first, more, same, positive⟩
  · rw [zero]
    exact zero_scanned rest free
  · have all := some_digits_scanned (first :: more) rest (List.cons_ne_nil _ _) free
    rw [same, ← all, List.map_cons, List.cons_append, Scan.whole]
    intro c other found
    exact absurd (List.cons.inj found).1 (char_not_zero first positive)

theorem fraction_scanned (digits : List Digit) (rest : List Char)
    (free : ∀ c ∈ rest.head?, Digit.isDigit c = false ∧ c ≠ '.') :
    Scan.fraction (Numeral.fractionChars digits ++ rest) = .ok (digits, rest) := by
  cases digits with
  | nil =>
      rw [Numeral.fractionChars, List.nil_append, Scan.fraction]
      rintro more rfl
      exact (free '.' rfl).2 rfl
  | cons digit more =>
      exact some_digits_scanned (digit :: more) rest (List.cons_ne_nil _ _) fun c member => (free c member).1

theorem exponent_sign_scanned (negative : Bool) (sign text : List Char) (signs : Exponent.Sign negative sign)
    (digits : ∀ c ∈ text.head?, Digit.isDigit c = true) : Scan.exponentSign (sign ++ text) = (negative, text) := by
  cases negative with
  | true =>
      rw [show sign = ['-'] from signs]
      rfl
  | false =>
      rcases signs with absent | plus
      · rw [absent, List.nil_append, Scan.exponentSign]
        · rintro rest rfl
          cases digits '-' rfl
        · rintro rest rfl
          cases digits '+' rfl
      · rw [plus]
        rfl

theorem exponent_scanned (exponent : Option Exponent) (present : ∀ found, exponent = some found → found.digits ≠ [])
    (written rest : List Char) (spelled : Exponent.Spelling exponent written) (free : Scan.NoNumber rest) :
    Scan.exponent (written ++ rest) = .ok (exponent, rest) := by
  cases exponent with
  | none =>
      rw [show written = [] from spelled, List.nil_append]
      cases rest with
      | nil => rfl
      | cons c more =>
          obtain ⟨_, _, lower, upper⟩ := free c rfl
          simp [Scan.exponent, lower, upper]
  | some exponent =>
      obtain ⟨negative, digits⟩ := exponent
      obtain ⟨mark, sign, marked, signs, rfl⟩ := spelled
      have begins : ∀ c ∈ (digits.map Digit.char ++ rest).head?, Digit.isDigit c = true := by
        cases digits with
        | nil => exact absurd rfl (present _ rfl)
        | cons digit more =>
            rintro c member
            cases member
            exact char_is_digit digit
      have all := some_digits_scanned digits rest (present _ rfl) fun c member => (free c member).1
      rw [List.cons_append, List.append_assoc, Scan.exponent, if_pos marked,
        exponent_sign_scanned negative sign _ signs begins]
      simp only [all]
      rfl

theorem exponent_chars_free (exponent : Option Exponent) (written rest : List Char)
    (spelled : Exponent.Spelling exponent written) (free : Scan.NoNumber rest) :
    ∀ c ∈ (written ++ rest).head?, Digit.isDigit c = false ∧ c ≠ '.' := by
  cases exponent with
  | none =>
      rw [show written = [] from spelled]
      exact fun c member => ⟨(free c member).1, (free c member).2.1⟩
  | some exponent =>
      obtain ⟨mark, sign, marked, signs, rfl⟩ := spelled
      rintro c member
      cases member
      rcases marked with rfl | rfl <;> decide

theorem fraction_chars_free (digits : List Digit) (rest : List Char) (free : Scan.NoDigit rest) :
    Scan.NoDigit (Numeral.fractionChars digits ++ rest) := by
  cases digits with
  | nil => exact free
  | cons digit more =>
      rintro c member
      cases member
      decide

theorem unsigned_scanned (numeral : Numeral) (proper : numeral.Proper) (power rest : List Char)
    (spelled : Exponent.Spelling numeral.exponent power) (free : Scan.NoNumber rest) :
    Scan.unsigned numeral.negative (numeral.whole.map Digit.char ++ (Numeral.fractionChars numeral.fraction ++
      (power ++ rest))) = .ok (numeral, rest) := by
  have noExponent := exponent_chars_free numeral.exponent power rest spelled free
  have noFraction := fraction_chars_free numeral.fraction _ fun c member => (noExponent c member).1
  rw [Scan.unsigned, whole_scanned numeral proper _ noFraction]
  simp only [bind, Except.bind, fraction_scanned numeral.fraction _ noExponent,
    exponent_scanned numeral.exponent proper.exponent power rest spelled free]
  rfl

theorem proper_first (numeral : Numeral) (proper : numeral.Proper) : ∃ digit rest, numeral.whole = digit :: rest := by
  rcases proper.whole with zero | ⟨digit, rest, same, _⟩
  · exact ⟨.zero, [], zero⟩
  · exact ⟨digit, rest, same⟩

theorem numeral_head (numeral : Numeral) (written : List Char) (spelled : numeral.Spelling written) :
    ∃ c more, written = c :: more ∧ (c = '-' ∨ Digit.isDigit c = true) := by
  obtain ⟨proper, power, _, rfl⟩ := spelled
  obtain ⟨digit, rest, same⟩ := proper_first numeral proper
  cases sign : numeral.negative with
  | true => exact ⟨'-', _, rfl, .inl rfl⟩
  | false => exact ⟨digit.char, _, by rw [same]; rfl, .inr (char_is_digit digit)⟩

theorem numeral_scanned (numeral : Numeral) (written rest : List Char) (spelled : numeral.Spelling written)
    (free : Scan.NoNumber rest) : Scan.numeral (written ++ rest) = .ok (numeral, rest) := by
  obtain ⟨proper, power, exponent, rfl⟩ := spelled
  have parts := unsigned_scanned numeral proper power rest exponent free
  cases sign : numeral.negative with
  | true =>
      rw [sign] at parts
      simp only [if_true, List.append_assoc, List.singleton_append, Scan.numeral]
      exact parts
  | false =>
      obtain ⟨digit, more, same⟩ := proper_first numeral proper
      rw [sign, same] at parts
      simp only [same, List.append_assoc]
      refine Eq.trans ?_ parts
      rw [if_neg Bool.false_ne_true, List.nil_append, List.map_cons, List.cons_append, Scan.numeral]
      intro other found
      have isDigit := char_is_digit digit
      rw [(List.cons.inj found).1] at isDigit
      cases isDigit

theorem char_of_digit (c : Char) (digit : Digit) (read : Digit.ofChar? c = some digit) : c = digit.char := by
  rw [Digit.ofChar?] at read
  split at read
  · next bounds =>
      obtain rfl := Option.some.inj read
      have value : 48 + (c.toNat - 48) = c.toNat := by omega
      rw [Digit.char, value, Char.ofNat_toNat]
  · cases read

theorem digits_found (text rest : List Char) (digits : List Digit) (scanned : Scan.digits text = (digits, rest)) :
    text = digits.map Digit.char ++ rest := by
  obtain ⟨rfl, rfl⟩ := Prod.mk.inj scanned
  have spelled : ((text.takeWhile Digit.isDigit).filterMap Digit.ofChar?).map Digit.char =
      text.takeWhile Digit.isDigit := by
    have all : ∀ c ∈ text.takeWhile Digit.isDigit, Digit.isDigit c = true :=
      fun c member => List.mem_takeWhile_imp member
    generalize text.takeWhile Digit.isDigit = front at all
    induction front with
    | nil => rfl
    | cons c more ih =>
        obtain ⟨digit, read⟩ := Option.isSome_iff_exists.mp (all c List.mem_cons_self)
        rw [List.filterMap_cons_some read, List.map_cons, ← char_of_digit c digit read,
          ih fun other member => all other (List.mem_cons_of_mem _ member)]
  rw [spelled, List.takeWhile_append_dropWhile]

theorem some_digits_found (text rest : List Char) (digits : List Digit)
    (scanned : Scan.someDigits text = .ok (digits, rest)) : digits ≠ [] ∧ text = digits.map Digit.char ++ rest := by
  cases text with
  | nil => cases scanned
  | cons c more =>
      rw [Scan.someDigits.eq_def] at scanned
      dsimp only at scanned
      split at scanned
      · next isDigit =>
          have found := Except.ok.inj scanned
          obtain ⟨digit, read⟩ := Option.isSome_iff_exists.mp isDigit
          refine ⟨?_, digits_found _ rest digits found⟩
          rw [← (Prod.mk.inj found).1, List.takeWhile_cons_of_pos isDigit, List.filterMap_cons_some read]
          exact List.cons_ne_nil _ _
      · cases scanned

theorem whole_found (text rest : List Char) (whole : List Digit) (scanned : Scan.whole text = .ok (whole, rest)) :
    (whole = [.zero] ∨ ∃ first more, whole = first :: more ∧ first ≠ .zero) ∧ text = whole.map Digit.char ++ rest := by
  rw [Scan.whole.eq_def] at scanned
  split at scanned
  · split at scanned
    · cases scanned
    · cases scanned
      exact ⟨.inl rfl, rfl⟩
  · next notZero =>
      obtain ⟨present, same⟩ := some_digits_found text rest whole scanned
      refine ⟨?_, same⟩
      cases whole with
      | nil => exact absurd rfl present
      | cons first more =>
          by_cases zero : first = .zero
          · -- More behind a zero would have been refused.
            cases behind : more.map Digit.char ++ rest with
            | nil =>
                rw [List.map_eq_nil_iff.mp (List.append_eq_nil_iff.mp behind).1, zero]
                exact .inl rfl
            | cons c others =>
                rw [List.map_cons, List.cons_append, behind, zero] at same
                exact absurd same (notZero c others)
          · exact .inr ⟨first, more, rfl, zero⟩

theorem fraction_found (text rest : List Char) (digits : List Digit)
    (scanned : Scan.fraction text = .ok (digits, rest)) : text = Numeral.fractionChars digits ++ rest := by
  rw [Scan.fraction.eq_def] at scanned
  split at scanned
  · next behind =>
      obtain ⟨present, same⟩ := some_digits_found behind rest digits scanned
      obtain ⟨digit, more, rfl⟩ := List.exists_cons_of_ne_nil present
      rw [same]
      rfl
  · cases scanned
    rfl

theorem exponent_sign_found (text : List Char) : ∃ sign, Exponent.Sign (Scan.exponentSign text).1 sign ∧
    text = sign ++ (Scan.exponentSign text).2 := by
  rw [Scan.exponentSign.eq_def]
  split
  · exact ⟨['-'], rfl, rfl⟩
  · exact ⟨['+'], .inr rfl, rfl⟩
  · exact ⟨[], .inl rfl, rfl⟩

theorem exponent_found (text rest : List Char) (exponent : Option Exponent)
    (scanned : Scan.exponent text = .ok (exponent, rest)) :
    (∀ found, exponent = some found → found.digits ≠ []) ∧
      ∃ written, Exponent.Spelling exponent written ∧ text = written ++ rest := by
  have absent : exponent = none → text = rest → (∀ found, exponent = some found → found.digits ≠ []) ∧
      ∃ written, Exponent.Spelling exponent written ∧ text = written ++ rest := by
    rintro rfl rfl
    exact ⟨by simp, [], rfl, rfl⟩
  cases text with
  | nil =>
      cases scanned
      exact absent rfl rfl
  | cons mark behind =>
      rw [Scan.exponent] at scanned
      split at scanned
      · next marked =>
          obtain ⟨sign, signs, same⟩ := exponent_sign_found behind
          cases found : Scan.someDigits (Scan.exponentSign behind).2 with
          | error fault =>
              simp only [found] at scanned
              cases scanned
          | ok parts =>
              obtain ⟨digits, others⟩ := parts
              simp only [found] at scanned
              cases scanned
              obtain ⟨present, digitsSame⟩ := some_digits_found _ _ digits found
              refine ⟨?_, _, ⟨mark, sign, marked, signs, rfl⟩, ?_⟩
              · rintro _ ⟨⟩
                exact present
              · rw [digitsSame] at same
                rw [same, List.cons_append, List.append_assoc]
      · cases scanned
        exact absent rfl rfl

theorem unsigned_found (negative : Bool) (text rest : List Char) (numeral : Numeral)
    (scanned : Scan.unsigned negative text = .ok (numeral, rest)) :
    numeral.negative = negative ∧ numeral.Proper ∧ ∃ power, Exponent.Spelling numeral.exponent power ∧
      text = numeral.whole.map Digit.char ++ Numeral.fractionChars numeral.fraction ++ power ++ rest := by
  rw [Scan.unsigned] at scanned
  obtain ⟨⟨whole, _⟩, wholeFound, scanned⟩ := bind_ok_steps _ _ _ scanned
  obtain ⟨⟨fraction, _⟩, fractionFound, scanned⟩ := bind_ok_steps _ _ _ scanned
  obtain ⟨⟨exponent, _⟩, exponentFound, scanned⟩ := bind_ok_steps _ _ _ scanned
  cases scanned
  obtain ⟨first, rfl⟩ := whole_found _ _ whole wholeFound
  obtain rfl := fraction_found _ _ fraction fractionFound
  obtain ⟨present, power, spelled, rfl⟩ := exponent_found _ _ exponent exponentFound
  exact ⟨rfl, ⟨first, present⟩, power, spelled, by simp⟩

theorem numeral_found (text rest : List Char) (numeral : Numeral) (scanned : Scan.numeral text = .ok (numeral, rest)) :
    ∃ written, numeral.Spelling written ∧ text = written ++ rest := by
  rw [Scan.numeral.eq_def] at scanned
  split at scanned
  · next behind =>
      obtain ⟨sign, proper, power, spelled, same⟩ := unsigned_found true behind rest numeral scanned
      refine ⟨_, ⟨proper, power, spelled, rfl⟩, ?_⟩
      rw [sign, same]
      simp
  · obtain ⟨sign, proper, power, spelled, same⟩ := unsigned_found false text rest numeral scanned
    refine ⟨_, ⟨proper, power, spelled, rfl⟩, ?_⟩
    rw [sign, same]
    simp

theorem digit_char_of (digit : Digit) : Digit.ofChar? digit.val.digitChar = some digit := by
  revert digit
  decide

theorem of_nat_small (n : Nat) (small : n < 10) : Digit.ofNat n = [⟨n, small⟩] := by
  rw [Digit.ofNat, Nat.toDigits_of_lt_base small, List.filterMap_cons_some (digit_char_of ⟨n, small⟩)]
  rfl

theorem of_nat_large (n : Nat) (large : 10 ≤ n) :
    Digit.ofNat n = Digit.ofNat (n / 10) ++ [⟨n % 10, Nat.mod_lt n (by decide)⟩] := by
  rw [Digit.ofNat, Nat.toDigits_of_base_le (by decide) large, List.filterMap_append,
    List.filterMap_cons_some (digit_char_of ⟨n % 10, Nat.mod_lt n (by decide)⟩)]
  rfl

theorem of_nat_value (n : Nat) : Digit.value 0 (Digit.ofNat n) = n := by
  induction n using Nat.strongRecOn with
  | ind n ih =>
      rcases Nat.lt_or_ge n 10 with small | large
      · rw [of_nat_small n small]
        exact Nat.zero_add n
      · have front := ih (n / 10) (Nat.div_lt_self (by omega) (by decide))
        rw [Digit.value] at front
        rw [of_nat_large n large, Digit.value, List.foldl_append, front]
        exact Nat.div_add_mod' n 10

theorem of_nat_head (n : Nat) (positive : 0 < n) : ∃ first rest, Digit.ofNat n = first :: rest ∧ first ≠ .zero := by
  induction n using Nat.strongRecOn with
  | ind n ih =>
      rcases Nat.lt_or_ge n 10 with small | large
      · refine ⟨⟨n, small⟩, [], of_nat_small n small, ?_⟩
        intro zero
        exact Nat.ne_of_gt positive (congrArg Fin.val zero)
      · obtain ⟨first, rest, same, notZero⟩ := ih (n / 10) (Nat.div_lt_self positive (by decide)) (by omega)
        exact ⟨first, _, by rw [of_nat_large n large, same]; rfl, notZero⟩

theorem of_nat_least (n : Nat) (positive : 0 < n) : 10 ^ (Digit.ofNat n).length ≤ 10 * n := by
  induction n using Nat.strongRecOn with
  | ind n ih =>
      rcases Nat.lt_or_ge n 10 with small | large
      · rw [of_nat_small n small]
        exact Nat.mul_le_mul_left 10 positive
      · have front := ih (n / 10) (Nat.div_lt_self positive (by decide)) (by omega)
        rw [of_nat_large n large, List.length_append, List.length_singleton, Nat.pow_succ]
        omega

end QueryShingles
