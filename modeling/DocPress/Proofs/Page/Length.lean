import DocPress.Page.Layout

/-!
# DocPress.Proofs.Page.Length

The lengths that are accepted, as a grammar: a run of digits, perhaps a point and another run, and a
unit (`LengthOver`). The digits are those of all scripts (`isLength_iff`), whereas a style sheet has
ten digits only. So the lengths of a style sheet are the accepted ones in which all characters are
of ASCII (`cssLength_iff`).
-/

namespace DocPress.Page

open DocPress.Text

/-- A run of digits, at least one. -/
def IsRun (isDigit : Char → Bool) (digits : List Char) : Prop :=
  digits ≠ [] ∧ ∀ c ∈ digits, isDigit c = true

/-- A length over some digits: a run of them, perhaps a point and another run, and a unit. -/
def LengthOver (isDigit : Char → Bool) (text : String) : Prop :=
  ∃ whole fraction unit, text.toList = whole ++ (fraction ++ unit.toList) ∧ IsRun isDigit whole ∧
    (fraction = [] ∨ ∃ digits, fraction = '.' :: digits ∧ IsRun isDigit digits) ∧
    unit ∈ lengthUnits

/-- A length as a style sheet has it. -/
def CssLength (text : String) : Prop :=
  LengthOver Char.isDigit text

variable {text rest : List Char} {length unit : String}

/-! ## What is accepted -/

/-- A run of digits is one digit or more, and the rest of the text. -/
theorem digitRun?_eq_some (h : digitRun? text = some rest) :
    ∃ digits, text = digits ++ rest ∧ IsRun isDecimalDigit digits := by
  unfold digitRun? at h
  dsimp only at h
  split at h
  · cases h
  · next hne =>
    have hsplit : text.takeWhile isDecimalDigit ++ text.dropWhile isDecimalDigit = text :=
      List.takeWhile_append_dropWhile
    have hrest := congrArg (List.drop (text.takeWhile isDecimalDigit).length) hsplit
    rw [List.drop_left] at hrest
    rw [← hrest] at h
    cases h
    exact ⟨_, hsplit.symm, by simpa using hne, List.all_eq_true.1 List.all_takeWhile⟩

/-- A run ends where no digit follows. -/
theorem digitRun?_append {digits : List Char} (h : IsRun isDecimalDigit digits)
    (hrest : ∀ c ∈ rest.head?, isDecimalDigit c = false) :
    digitRun? (digits ++ rest) = some rest := by
  have hnone : rest.takeWhile isDecimalDigit = [] := by
    cases rest with
    | nil => rfl
    | cons c rest => simp [hrest c rfl]
  have htake : (digits ++ rest).takeWhile isDecimalDigit = digits := by
    rw [List.takeWhile_append_of_pos h.2, hnone, List.append_nil]
  simp [digitRun?, htake, h.1]

/-- The units, as they are looked for behind a number. -/
theorem isUnit_iff : isUnit text = true ↔ ∃ unit ∈ lengthUnits, unit.toList = text := by
  simp only [isUnit, List.any_eq_true, beq_iff_eq]

/-- No unit begins with a digit or with a point. -/
theorem head?_unit (h : unit ∈ lengthUnits) :
    ∀ c ∈ unit.toList.head?, isDecimalDigit c = false ∧ c ≠ '.' := by
  have hunits : lengthUnits.all (·.toList.head?.all fun c => !isDecimalDigit c && c != '.') := by
    decide
  intro c hc
  have hhead := List.all_eq_true.1 hunits unit h
  rw [Option.mem_def.1 hc] at hhead
  simpa using hhead

/-- What is accepted are the lengths over the digits of all scripts. -/
theorem isLength_iff : isLength length = true ↔ LengthOver isDecimalDigit length := by
  constructor
  · intro h
    unfold isLength at h
    split at h
    · cases h
    · next fraction hbehind =>
      split at h
      · cases h
      · next rest hbehind' =>
        obtain ⟨whole, hlength, hwhole⟩ := digitRun?_eq_some hbehind
        obtain ⟨digits, rfl, hdigits⟩ := digitRun?_eq_some hbehind'
        obtain ⟨unit, hunit, rfl⟩ := isUnit_iff.1 h
        exact ⟨whole, '.' :: digits, unit, hlength, hwhole, .inr ⟨digits, rfl, hdigits⟩, hunit⟩
    · next rest _ hbehind =>
      obtain ⟨whole, hlength, hwhole⟩ := digitRun?_eq_some hbehind
      obtain ⟨unit, hunit, rfl⟩ := isUnit_iff.1 h
      exact ⟨whole, [], unit, hlength, hwhole, .inl rfl, hunit⟩
  · rintro ⟨whole, fraction, unit, hlength, hwhole, hfraction, hunit⟩
    -- No unit begins with a digit or a point, so each run of digits ends in front of the unit.
    have hunit' : isUnit unit.toList = true := isUnit_iff.2 ⟨unit, hunit, rfl⟩
    rcases hfraction with rfl | ⟨digits, rfl, hdigits⟩
    · have hrun : digitRun? length.toList = some unit.toList := by
        rw [hlength]
        exact digitRun?_append hwhole fun c hc => (head?_unit hunit c hc).1
      rw [isLength, hrun]
      split
      · contradiction
      · next fraction heq =>
        have hpoint : '.' ∈ unit.toList.head? := by rw [Option.some.inj heq]; rfl
        exact absurd rfl (head?_unit hunit '.' hpoint).2
      · next rest _ heq => rwa [← Option.some.inj heq]
    · have hpoint : isDecimalDigit '.' = false := by decide
      have hrun : digitRun? length.toList = some ('.' :: (digits ++ unit.toList)) := by
        rw [hlength]
        exact digitRun?_append hwhole (by simpa using hpoint)
      have hrun' := digitRun?_append hdigits fun c hc => (head?_unit hunit c hc).1
      rw [isLength, hrun]
      simp only [hrun', hunit']

/-! ## What a style sheet takes -/

/-- Of the digits of all scripts, ten are of ASCII. -/
theorem isDigit_iff (c : Char) :
    c.isDigit = true ↔ isDecimalDigit c = true ∧ c.toNat < 128 := by
  have hzeros : ∀ first ∈ decimalZeros, first = 0x30 ∨ 128 ≤ first := by decide
  have hzero : 0x30 ∈ decimalZeros := by decide
  have hdigit : c.isDigit = true ↔ 0x30 ≤ c.toNat ∧ c.toNat < 0x3A := by
    simp only [Char.isDigit, Bool.and_eq_true, decide_eq_true_eq, UInt32.le_iff_toNat_le, ge_iff_le]
    exact and_congr_right fun _ => Nat.lt_succ_iff.symm
  simp only [hdigit, isDecimalDigit, List.any_eq_true, Bool.and_eq_true, decide_eq_true_eq]
  constructor
  · intro h
    exact ⟨⟨0x30, hzero, by omega⟩, by omega⟩
  · rintro ⟨⟨first, hmem, hle⟩, hascii⟩
    have := hzeros first hmem
    omega

namespace LengthOver

variable {p q : Char → Bool} {P : Char → Prop}

theorem ne_nil (h : LengthOver p length) : length.toList ≠ [] := by
  obtain ⟨whole, fraction, unit, hlength, hwhole, -⟩ := h
  simp [hlength, hwhole.1]

/-- What holds of digits, of the point and of what units are made of holds of all of a length. -/
theorem forall_mem (h : LengthOver p length) (hdigit : ∀ c, p c = true → P c) (hpoint : P '.')
    (hunits : ∀ unit ∈ lengthUnits, ∀ c ∈ unit.toList, P c) : ∀ c ∈ length.toList, P c := by
  obtain ⟨whole, fraction, unit, hlength, hwhole, hfraction, hunit⟩ := h
  intro c hc
  rw [hlength, List.mem_append, List.mem_append] at hc
  rcases hc with hc | hc | hc
  · exact hdigit c (hwhole.2 c hc)
  · rcases hfraction with rfl | ⟨digits, rfl, hdigits⟩
    · contradiction
    · rcases List.mem_cons.1 hc with rfl | hc
      · exact hpoint
      · exact hdigit c (hdigits.2 c hc)
  · exact hunits unit hunit c hc

/-- A length is one over more digits, too. -/
theorem of_imp (h : LengthOver p length) (hpq : ∀ c ∈ length.toList, p c = true → q c = true) :
    LengthOver q length := by
  obtain ⟨whole, fraction, unit, hlength, hwhole, hfraction, hunit⟩ := h
  rw [hlength] at hpq
  refine ⟨whole, fraction, unit, hlength, ⟨hwhole.1, fun c hc => ?_⟩, ?_, hunit⟩
  · exact hpq c (List.mem_append_left _ hc) (hwhole.2 c hc)
  · refine hfraction.imp_right fun ⟨digits, hdigits, hrun⟩ => ?_
    refine ⟨digits, hdigits, hrun.1, fun c hc => hpq c ?_ (hrun.2 c hc)⟩
    simp [hdigits, hc]

end LengthOver

/-- Units are made of ASCII letters. -/
theorem toNat_of_mem_unit (h : unit ∈ lengthUnits) :
    ∀ c ∈ unit.toList, 0x61 ≤ c.toNat ∧ c.toNat < 128 := by
  have hunits : lengthUnits.all (·.toList.all fun c => 0x61 ≤ c.toNat && c.toNat < 128) := by decide
  simpa using List.all_eq_true.1 hunits unit h

/-- The lengths of a style sheet are those that are accepted and of ASCII characters. -/
theorem cssLength_iff : CssLength length ↔
    isLength length = true ∧ ∀ c ∈ length.toList, c.toNat < 128 := by
  rw [isLength_iff]
  constructor
  · intro h
    exact ⟨h.of_imp fun c _ hc => ((isDigit_iff c).1 hc).1,
      h.forall_mem (fun c hc => ((isDigit_iff c).1 hc).2) (by decide)
        fun _ hunit c hc => (toNat_of_mem_unit hunit c hc).2⟩
  · rintro ⟨h, hascii⟩
    exact h.of_imp fun c hc hdigit => (isDigit_iff c).2 ⟨hdigit, hascii c hc⟩

end DocPress.Page
