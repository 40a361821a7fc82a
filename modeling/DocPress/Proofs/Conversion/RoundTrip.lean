import DocPress.Proofs.Conversion.Format
import DocPress.Proofs.Json.Range

/-!
# DocPress.Proofs.Conversion.RoundTrip

Layouts, errors and reports are parsed back from both their written forms, and whatever is parsed
is such a value again: its numbers are among those that are kept exactly (`formats_roundTrip`).
-/

namespace DocPress.Conversion.Format

open DocPress.Backend DocPress.Json

/-! ## Numbers that are parsed -/

/-- An error has texts only. -/
theorem keepsRange_fitError : KeepsRange fitError :=
  keepsRange_variant (by simp [errorKinds, fitText, keepsRange_scalar])

/-- The duration of an outcome is kept exactly. -/
theorem readsInRange_outcome : ReadsInRange outcome.reader :=
  readsInRange_tagged
    (by simp [outcomeKinds, fitText, fitNatural, keepsRange_scalar, keepsRange_fitError])

theorem readsInRange_attempt : ReadsInRange attempt.reader :=
  readsInRange_record (by simp [required, readText, readsInRange_scalar, readsInRange_outcome])

theorem readsInRange_report : ReadsInRange report.reader :=
  readsInRange_record (by
    simp [required, readText, readNatural, readsInRange_scalar, readsInRange_attempt.list])

/-- An outcome has the numbers of its value. -/
theorem inRange_of_outcome {v : Value} {o : AttemptOutcome} (hv : Json.InRange v)
    (h : outcome.ofValue? v = some o) : o.InRange := by
  unfold outcome at h
  dsimp only at h
  split at h
  · cases h
    exact trivial
  · obtain ⟨error, -, rfl⟩ := Option.map_eq_some_iff.1 h
    exact trivial
  · cases h
    simp only [inRange_object_iff, fieldsInRange_cons_iff, inRange_natural_iff] at hv
    exact hv.2.1
  · cases h

/-- An attempt has the numbers of its outcome. -/
theorem inRange_of_attempt {v : Value} {r : AttemptRecord} (hv : Json.InRange v)
    (h : attempt.ofValue? v = some r) : r.InRange := by
  unfold attempt at h
  dsimp only at h
  split at h
  · obtain ⟨o, ho, h⟩ := Option.bind_eq_some_iff.1 h
    cases h
    simp only [inRange_object_iff, fieldsInRange_cons_iff] at hv
    exact inRange_of_outcome hv.2.1 ho
  · cases h

/-- The attempts have the numbers of their values, one by one. -/
theorem inRange_of_attempts {items : List Value} {attempts : List AttemptRecord}
    (hitems : ∀ v ∈ items, Json.InRange v) (h : items.mapM attempt.ofValue? = some attempts) :
    ∀ a ∈ attempts, a.InRange := by
  induction items generalizing attempts with
  | nil =>
    cases h
    simp
  | cons item items ih =>
    rw [List.mapM_cons] at h
    obtain ⟨r, hr, h⟩ := Option.bind_eq_some_iff.1 h
    obtain ⟨others, hothers, h⟩ := Option.bind_eq_some_iff.1 h
    cases h
    obtain ⟨hitem, hitems⟩ := List.forall_mem_cons.1 hitems
    exact List.forall_mem_cons.2 ⟨inRange_of_attempt hitem hr, ih hitems hothers⟩

/-- A report has the numbers of its fields. -/
theorem inRange_of_report {v : Value} {r : ConversionReport} (hv : Json.InRange v)
    (h : report.ofValue? v = some r) : r.InRange := by
  unfold report at h
  dsimp only at h
  split at h
  · obtain ⟨attempts, hattempts, h⟩ := Option.bind_eq_some_iff.1 h
    cases h
    simp only [inRange_object_iff, fieldsInRange_cons_iff, inRange_natural_iff,
      inRange_array_iff] at hv
    obtain ⟨-, -, hhtml, hpdf, hduration, hitems, -⟩ := hv
    exact ⟨hhtml, hpdf, hduration, inRange_of_attempts hitems hattempts⟩
  · cases h

/-! ## Round trips -/

/-- A value of the given kind is parsed back from both its forms. Whatever is parsed is of that kind,
so writing it and parsing it again gives the same value, which is written as the same text. -/
structure RoundTrips {α : Type} (f : Format α) (isGood : α → Prop) : Prop where
  parse_compact : ∀ a, isGood a → f.parse (f.compact a) = .ok a
  parse_pretty : ∀ a, isGood a → f.parse (f.pretty a) = .ok a
  of_parse : ∀ text a, f.parse text = .ok a →
    isGood a ∧ f.parse (f.compact a) = .ok a ∧ f.parse (f.pretty a) = .ok a

/-- What it takes for a format: its values are read back, and what is parsed is one of the values
that can be. -/
theorem roundTrips_of_reads {α : Type} {f : Format α} {isGood : α → Prop}
    (hreads : ∀ a, isGood a → Reads f.reader 0 (f.toValue a))
    (hvalue : ∀ a, f.ofValue? (f.toValue a) = some a)
    (hgood : ∀ text a, f.parse text = .ok a → isGood a) : RoundTrips f isGood where
  parse_compact a ha := (Json.Format.parse_of_reads (hreads a ha) (hvalue a)).1
  parse_pretty a ha := (Json.Format.parse_of_reads (hreads a ha) (hvalue a)).2
  of_parse text a h :=
    have ha := hgood text a h
    ⟨ha, Json.Format.parse_of_reads (hreads a ha) (hvalue a)⟩

/-- Reports, their parts, errors and layouts with arbitrary texts, and with numbers up to the
largest one that is kept exactly. -/
theorem formats_roundTrip :
    RoundTrips report ConversionReport.InRange ∧
    RoundTrips attempt AttemptRecord.InRange ∧
    RoundTrips backendError (fun _ => True) ∧
    RoundTrips capabilities (fun _ => True) ∧
    RoundTrips status (fun _ => True) ∧
    RoundTrips layout (fun _ => True) ∧
    RoundTrips margins (fun _ => True) := by
  refine ⟨roundTrips_of_reads ?_ ofValue?_report ?_, roundTrips_of_reads ?_ ofValue?_attempt ?_,
    roundTrips_of_reads ?_ ofValue?_backendError ?_, roundTrips_of_reads ?_ ofValue?_capabilities ?_,
    roundTrips_of_reads ?_ ofValue?_status ?_, roundTrips_of_reads ?_ ofValue?_layout ?_,
    roundTrips_of_reads ?_ ofValue?_margins ?_⟩
  · exact fun r h => reads_report h (by decide)
  · intro text r h
    obtain ⟨v, hv, hr⟩ := Json.Format.exists_of_parse readsInRange_report h
    exact inRange_of_report hv hr
  · exact fun r h => reads_attempt h (by decide)
  · intro text r h
    obtain ⟨v, hv, hr⟩ := Json.Format.exists_of_parse readsInRange_attempt h
    exact inRange_of_attempt hv hr
  · exact fun e _ => reads_backendError e
  · exact fun _ _ _ => trivial
  · exact fun r _ => reads_capabilities r
  · exact fun _ _ _ => trivial
  · exact fun s _ => reads_status s
  · exact fun _ _ _ => trivial
  · exact fun l _ => reads_layout l
  · exact fun _ _ _ => trivial
  · exact fun m _ => reads_margins m
  · exact fun _ _ _ => trivial

/-- A report with all kinds of outcomes, and with texts that need escapes. -/
def sampleReport : ConversionReport :=
  ⟨"c", "\"out\"\\π.pdf", 0, 1, maxNatural,
    [⟨"a", .skipped "a\tb\u0001"⟩, ⟨"b", .failed (.failed "b" "exit status: 1" "line\n")⟩,
     ⟨"c", .succeeded maxNatural⟩]⟩

/-- A report with each kind of outcome, with the largest number that is kept, and with texts that
must be escaped. -/
theorem formats_roundTrip_sample :
    sampleReport.InRange ∧ report.parse (report.compact sampleReport) = .ok sampleReport ∧
      report.parse (report.pretty sampleReport) = .ok sampleReport :=
  have h : sampleReport.InRange :=
    ⟨by decide, by decide, by decide, by
      simp [sampleReport, AttemptRecord.InRange, AttemptOutcome.InRange]⟩
  ⟨h, formats_roundTrip.1.parse_compact _ h, formats_roundTrip.1.parse_pretty _ h⟩

end DocPress.Conversion.Format
