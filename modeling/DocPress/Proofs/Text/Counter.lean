import Mathlib.Data.List.Nodup
import Mathlib.Data.List.Perm.Basic
import DocPress.Text.CodeRange

/-!
# DocPress.Proofs.Text.Counter

Names that differ in a counter: a number can be read off its decimal digits, and of infinitely many
different names those that are taken are too few.
-/

namespace DocPress.Text

variable {α : Type} {c : Char}

/-- A number is written in decimal digits. -/
theorem toList_toString (n : Nat) : (toString n).toList = Nat.toDigits 10 n := by
  rw [Nat.toString_eq_repr, Nat.toList_repr]

/-- There is nothing but digits in a number. -/
theorem isDigit_of_mem_toString {n : Nat} (h : c ∈ (toString n).toList) : c.isDigit = true := by
  rw [toList_toString] at h
  exact Nat.isDigit_of_mem_toDigits (by decide) (by decide) h

/-- The digits of a number, read back. -/
theorem ofDigitChars_toString (n : Nat) : Nat.ofDigitChars 10 (toString n).toList 0 = n := by
  rw [toList_toString, Nat.ofDigitChars_ten_toDigits]

/-- The value of digits is the one that the library reads off them. -/
theorem digitsValue_eq (digits : List Char) :
    digitsValue digits = Nat.ofDigitChars 10 digits 0 := by
  simp only [digitsValue, Nat.mul_comm _ 10, Nat.ofDigitChars_eq_foldl]

/-- The digits of a number have its value. -/
theorem digitsValue_toString (n : Nat) : digitsValue (toString n).toList = n := by
  rw [digitsValue_eq, ofDigitChars_toString]

/-- Among more different values than are taken, there is one that is not. -/
theorem exists_notMem_of_injective {f : Nat → α} (hf : f.Injective) (taken : List α) :
    ∃ k ≤ taken.length, f k ∉ taken := by
  by_contra hall
  have hmem (k : Nat) (hk : k ≤ taken.length) : f k ∈ taken := by
    by_contra hnot
    exact hall ⟨k, hk, hnot⟩
  have hnodup : ((List.range (taken.length + 1)).map f).Nodup :=
    List.Nodup.map hf List.nodup_range
  have hsubset : (List.range (taken.length + 1)).map f ⊆ taken := by
    intro a ha
    obtain ⟨k, hk, rfl⟩ := List.mem_map.1 ha
    exact hmem k (by rw [List.mem_range] at hk; omega)
  have hlength := (List.subperm_of_subset hnodup hsubset).length_le
  rw [List.length_map, List.length_range] at hlength
  omega

end DocPress.Text
