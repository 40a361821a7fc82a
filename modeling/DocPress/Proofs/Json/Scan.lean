import DocPress.Json.Value
import DocPress.Json.Scan
import DocPress.Proofs.Text.Counter
import Mathlib.Data.List.TakeDrop

/-!
# DocPress.Proofs.Json.Scan

The parts of a text that hold no others are read back as they are written, whatever stands behind
them, as long as it cannot continue a number:

1. Blanks are passed over.
2. A string is read back character by character: each one, escaped or not, is one step of the
   reader (`scanStringFrom_escapeChar`).
3. A natural number is read back from its digits, if it is one of those that are kept exactly.
-/

namespace DocPress.Json

open DocPress.Text

variable {gap rest text : List Char} {c close : Char} {first : Bool} {fuel n : Nat}

/-! ## Blanks -/

/-- Nothing but blanks. -/
def IsBlank (gap : List Char) : Prop :=
  ∀ c ∈ gap, isGap c = true

theorem isBlank_nil : IsBlank [] := by
  intro c h
  cases h

/-- What is no blank is not passed over. -/
theorem skipGap_cons (h : isGap c = false) (rest : List Char) :
    skipGap (c :: rest) = c :: rest := by
  rw [skipGap, List.dropWhile_cons_of_neg (by rw [h]; decide)]

/-- Blanks in front of a text are passed over. -/
theorem skipGap_append (h : IsBlank gap) (text : List Char) :
    skipGap (gap ++ text) = skipGap text :=
  List.dropWhile_append_of_pos h

/-- Blanks are passed over up to the first character that is none. -/
theorem skipGap_append_cons (h : IsBlank gap) (hc : isGap c = false) (rest : List Char) :
    skipGap (gap ++ c :: rest) = c :: rest := by
  rw [skipGap_append h, skipGap_cons hc]

/-- An expected character is found behind blanks. -/
theorem expect_append (h : IsBlank gap) (hc : isGap c = false) (rest : List Char) :
    expect c (gap ++ c :: rest) = .ok ((), rest) := by
  rw [expect, skipGap_append_cons h hc]
  exact if_pos rfl

theorem expect_cons (hc : isGap c = false) (rest : List Char) :
    expect c (c :: rest) = .ok ((), rest) :=
  expect_append isBlank_nil hc rest

/-! ## What follows a value -/

/-- A character that may follow a value. -/
def isEnd (c : Char) : Bool :=
  isGap c || c = ',' || c = ']' || c = '\x7d'

/-- A text that may follow a value. -/
def Ends (rest : List Char) : Prop :=
  ∀ c ∈ rest.head?, isEnd c = true

theorem ends_nil : Ends [] := by
  intro c h
  cases h

theorem ends_cons (h : isEnd c = true) (rest : List Char) : Ends (c :: rest) := by
  intro d hd
  cases hd
  exact h

/-- Blanks may stand between a value and what follows it. -/
theorem ends_append (h : IsBlank gap) (hrest : Ends rest) : Ends (gap ++ rest) := by
  cases gap with
  | nil => exact hrest
  | cons c gap => exact ends_cons (by rw [isEnd, h c (List.mem_cons_self ..)]; rfl) _

/-- No part of a number may follow a value. -/
theorem not_continues (h : isEnd c = true) :
    c.isDigit = false ∧ c ≠ '.' ∧ c ≠ 'e' ∧ c ≠ 'E' := by
  simp only [isEnd, isGap, Bool.or_eq_true, decide_eq_true_eq] at h
  obtain (((((rfl | rfl) | rfl) | rfl) | rfl) | rfl) | rfl := h <;> decide

/-! ## Strings -/

/-- A hexadecimal digit is read back. -/
theorem hexValue?_hexDigit (h : n < 16) : hexValue? (hexDigit n) = some n := by
  revert n
  decide

/-- A control character is read back from its number. -/
theorem scanCodePoint_control (h : c.toNat < 0x20) (rest : List Char) :
    scanCodePoint ('0' :: '0' :: hexDigit (c.toNat / 16) :: hexDigit (c.toNat % 16) :: rest) =
      .ok (c, rest) := by
  have hzero : hexValue? '0' = some 0 := by decide
  have hhex : scanHex ('0' :: '0' :: hexDigit (c.toNat / 16) :: hexDigit (c.toNat % 16) :: rest) =
      .ok (c.toNat, rest) := by
    simp only [scanHex, hzero, hexValue?_hexDigit (show c.toNat / 16 < 16 by omega),
      hexValue?_hexDigit (show c.toNat % 16 < 16 by omega)]
    congr 2
    omega
  have htrailing : isTrailing c.toNat = false := by
    simp only [isTrailing, Bool.and_eq_false_iff, decide_eq_false_iff_not]
    omega
  have hleading : isLeading c.toNat = false := by
    simp only [isLeading, Bool.and_eq_false_iff, decide_eq_false_iff_not]
    omega
  rw [scanCodePoint, hhex]
  simp [bind, Except.bind, htrailing, hleading, Char.ofNat_toNat]

/-- One character of a string is one step of the reader. -/
theorem scanStringFrom_escapeChar (fuel : Nat) (read : List Char) (c : Char) (rest : List Char) :
    scanStringFrom true (fuel + 1) read (escapeChar c ++ rest) =
      scanStringFrom true fuel (c :: read) rest := by
  unfold escapeChar
  split
  · next h =>
    simp only [Bool.or_eq_true, decide_eq_true_eq] at h
    obtain rfl | rfl := h <;> rfl
  · next hquote =>
    simp only [Bool.or_eq_true, decide_eq_true_eq, not_or] at hquote
    split
    · next h => subst h; rfl
    split
    · next h => subst h; rfl
    split
    · next h => subst h; rfl
    split
    · next h => subst h; rfl
    split
    · next h => subst h; rfl
    split
    · next h =>
      have hstep := scanCodePoint_control h rest
      simp only [List.cons_append, List.nil_append, scanStringFrom, hstep]
      simp [bind, Except.bind]
    · next h => simp [scanStringFrom, hquote, h]

/-- The characters of a string are read back up to its last quote. -/
theorem scanStringFrom_escaped {fuel : Nat} (read : List Char) (rest : List Char)
    (h : text.length < fuel) :
    scanStringFrom true fuel read (text.flatMap escapeChar ++ '\x22' :: rest) =
      .ok (String.ofList (read.reverse ++ text), rest) := by
  induction text generalizing read fuel with
  | nil =>
    obtain ⟨fuel, rfl⟩ := Nat.exists_eq_add_one_of_ne_zero (Nat.ne_of_gt h)
    simp [scanStringFrom]
  | cons c text ih =>
    obtain ⟨fuel, rfl⟩ := Nat.exists_eq_add_one_of_ne_zero (Nat.ne_of_gt (Nat.zero_lt_of_lt h))
    rw [List.flatMap_cons, List.append_assoc, scanStringFrom_escapeChar,
      ih (c :: read) (by simpa using h)]
    simp

/-- Escaping makes no text shorter, so a fuel that is enough for what is written is enough for what
it stands for. -/
theorem length_le_flatMap_escapeChar (text : List Char) :
    text.length ≤ (text.flatMap escapeChar).length := by
  induction text with
  | nil => exact Nat.le_refl 0
  | cons c text ih =>
    have hchar : 1 ≤ (escapeChar c).length := by
      unfold escapeChar
      repeat' split
      all_goals simp
    rw [List.flatMap_cons, List.length_append, List.length_cons]
    omega

/-- A string is read back behind its first quote. -/
theorem scanString_escaped (text : String) (rest : List Char) :
    scanString (text.toList.flatMap escapeChar ++ '\x22' :: rest) = .ok (text, rest) := by
  have hlength := length_le_flatMap_escapeChar text.toList
  rw [scanString, scanStringFrom_escaped [] rest (by rw [List.length_append]; omega)]
  simp

/-- A written string, character by character, with what stands behind it. -/
theorem writeString_append (text : String) (rest : List Char) :
    writeString text ++ rest = '\x22' :: (text.toList.flatMap escapeChar ++ '\x22' :: rest) := by
  simp [writeString]

/-! ## Numbers -/

/-- A run of digits ends where no digit follows. -/
theorem digitSpan_append (h : ∀ c ∈ text, c.isDigit = true)
    (hrest : ∀ c ∈ rest.head?, c.isDigit = false) : digitSpan (text ++ rest) = (text, rest) := by
  have htake : rest.takeWhile Char.isDigit = [] := by
    cases rest with
    | nil => rfl
    | cons c rest => exact List.takeWhile_cons_of_neg (by rw [hrest c rfl]; decide)
  have hdrop : rest.dropWhile Char.isDigit = rest := by
    cases rest with
    | nil => rfl
    | cons c rest => exact List.dropWhile_cons_of_neg (by rw [hrest c rfl]; decide)
  rw [digitSpan, List.span_eq_takeWhile_dropWhile, List.takeWhile_append_of_pos h,
    List.dropWhile_append_of_pos h, htake, hdrop, List.append_nil]

/-- The digits of a number begin with a zero only if the number is zero. -/
theorem head?_toString_ne_zero (h : n ≠ 0) : (toString n).toList.head? ≠ some '0' := by
  rw [toList_toString]
  induction n using Nat.strongRecOn with
  | ind n ih =>
    rcases Nat.lt_or_ge n 10 with hlt | hge
    · rw [Nat.toDigits_of_lt_base hlt, List.head?_cons, ne_eq, Option.some.injEq,
        Nat.digitChar_eq_zero]
      exact h
    · have hhead := ih (n / 10) (by omega) (by omega)
      rw [Nat.toDigits_of_base_le (by decide) hge,
        List.head?_append_of_ne_nil _ Nat.toDigits_ne_nil]
      exact hhead

/-- The digits of a number have no zero too many in front, so they are taken as they are. -/
theorem scanWholePart_toString (n : Nat) (hrest : ∀ c ∈ rest.head?, c.isDigit = false) :
    scanWholePart true ((toString n).toList ++ rest) = .ok ((toString n).toList, rest) := by
  rw [scanWholePart, digitSpan_append (fun c => isDigit_of_mem_toString) hrest]
  by_cases hn : n = 0
  · subst hn
    rfl
  · have hhead := head?_toString_ne_zero hn
    have hne : (toString n).toList ≠ [] := by
      rw [toList_toString]
      exact Nat.toDigits_ne_nil
    split
    · next heq => exact absurd (Prod.mk.inj heq).1 hne
    · next heq => rw [(Prod.mk.inj heq).1] at hhead; exact absurd rfl hhead
    · next heq => rw [(Prod.mk.inj heq).1] at hhead; exact absurd rfl hhead
    · next heq => rw [← (Prod.mk.inj heq).1, ← (Prod.mk.inj heq).2]

/-- A number that is kept exactly is within the reach of floating-point numbers. -/
theorem isBeyondFloat_toString (h : n ≤ maxNatural) :
    isBeyondFloat (toString n).toList 0 = false := by
  have hlimit : maxNatural < floatLimit := by decide +kernel
  unfold isBeyondFloat
  rw [digitsValue_toString]
  by_cases hn : n = 0
  · rw [hn]
    rfl
  · have hlt : ¬ floatLimit ≤ n * Nat.pow 10 (Int.toNat 0) := by
      change ¬ floatLimit ≤ n * 1
      omega
    simp only [hn, if_false, hlt, decide_false]
    rfl

/-- A natural number is read back from its digits. -/
theorem scanNumber_toString (h : n ≤ maxNatural) (hrest : Ends rest) :
    scanNumber false ((toString n).toList ++ rest) = .ok (.natural n, rest) := by
  have hhead (c : Char) (hc : c ∈ rest.head?) := not_continues (hrest c hc)
  have hwhole := scanWholePart_toString n fun c hc => (hhead c hc).1
  have hfraction : scanFraction true rest = .ok ([], rest) := by
    unfold scanFraction
    split
    · exact absurd rfl (hhead '.' rfl).2.1
    · rfl
  have hexponent : scanExponent true rest = .ok (none, rest) := by
    unfold scanExponent
    split
    · next c text =>
      obtain ⟨-, -, he, hE⟩ := hhead c rfl
      simp [he, hE]
    · rfl
  rw [scanNumber, hwhole]
  simp only [bind, Except.bind, hfraction, hexponent, List.append_nil, Option.getD_none,
    List.length_nil, Int.ofNat_zero, Int.sub_zero, isBeyondFloat_toString h, digitsValue_toString]
  simp [h]

end DocPress.Json
