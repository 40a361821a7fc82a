import DocPress.CommandLine.Run
import DocPress.Proofs.Conversion.Course
import DocPress.Proofs.Conversion.Format

/-!
# DocPress.Proofs.CommandLine.Outcome

How the command ends if its arguments are understood (`runCommand_outcome`): with 0 exactly if what
it was asked for is there, else with 1; and what it prints if it was asked for JSON. There are four
ends (`Invocation.Ends`): the configuration is not good, or it was only asked what is installed, or
there is a document, or there is none.
-/

namespace DocPress.Conversion

open DocPress.Backend DocPress.Json DocPress.Program

variable {m : Machine} {config : Config} {input output : String} {job : Job} {cs : List Candidate}
  {attempts : List AttemptRecord} {p p' next : Progress} {c : Candidate} {record : AttemptRecord}
  {result : Except Failure ConversionReport} {r : ConversionReport}

/-! ## Numbers of a report -/

/-- The record of a backend that has lost holds no number. -/
theorem Loses.inRange (h : Loses job c p record next) : record.InRange := by
  cases h <;> exact trivial

/-- Besides its sizes, a report holds no large numbers. -/
theorem Chain.inRange (h : Chain job cs attempts p result p') (hattempts : ∀ a ∈ attempts, a.InRange)
    (hok : result = .ok r) (hhtml : r.htmlBytes ≤ maxNatural) (hpdf : r.pdfBytes ≤ maxNatural) :
    r.InRange := by
  induction h with
  | exhausted | unstaged | unpersisted => cases hok
  | lost hloses _ ih =>
    refine ih (fun a ha => ?_) hok
    rcases List.mem_append.1 ha with ha | ha
    · exact hattempts a ha
    · exact List.mem_singleton.1 ha ▸ hloses.inRange
  | succeeded =>
    cases hok
    refine ⟨hhtml, hpdf, Nat.zero_le _, fun a ha => ?_⟩
    rcases List.mem_append.1 ha with ha | ha
    · exact hattempts a ha
    · exact List.mem_singleton.1 ha ▸ Nat.zero_le _

/-- A report of a conversion is one that can be written and read back, if its sizes are. -/
theorem Course.inRange (h : Course m config input output p result p') (hok : result = .ok r)
    (hhtml : r.htmlBytes ≤ maxNatural) (hpdf : r.pdfBytes ≤ maxNatural) : r.InRange := by
  cases h with
  | missing | unread | unwritten => cases hok
  | tried _ _ _ hchain => exact hchain.inRange (by simp) hok hhtml hpdf

end DocPress.Conversion

namespace DocPress.CommandLine

open DocPress.Backend DocPress.Conversion DocPress.FileSystem DocPress.Json DocPress.Program

/-! ## Ends -/

/-- How a command ends whose arguments are understood. -/
inductive Ending where
  | reported (r : CapabilityReport)
  | converted (r : ConversionReport)
  | broken (message : String)

namespace Ending

/-- The code for an end. -/
def code : Ending → Nat
  | .reported r => codeOf r.isViable
  | .converted _ => codeOf true
  | .broken _ => codeOf false

/-- What is printed for an end as JSON. -/
def jsonText : Ending → String
  | .reported r => Format.capabilities.pretty r
  | .converted r => Format.report.pretty r
  | .broken message => String.ofList (Value.object [("error", .string message)]).compact

end Ending

variable {m : Machine} {i : Invocation} {fs : Files} {e : Ending}

namespace Invocation

/-- What becomes of the conversion that is asked for. -/
def conversion (i : Invocation) (m : Machine) (config : Config) (fs : Files) :
    Except Failure ConversionReport :=
  ((convert m config i.input i.outputPath).run.run ⟨fs, [], []⟩).1

/-- The configuration is good, and it was only asked what is installed: this. -/
def Reports (i : Invocation) (m : Machine) (fs : Files) (r : CapabilityReport) : Prop :=
  ∃ config, Config.ofSettings i.settings = .ok config ∧ i.check = true ∧
    checkCapabilities m config fs = r

/-- The configuration is good, and the conversion gave a document. -/
def Converts (i : Invocation) (m : Machine) (fs : Files) (r : ConversionReport) : Prop :=
  ∃ config, Config.ofSettings i.settings = .ok config ∧ i.check = false ∧
    i.conversion m config fs = .ok r

/-- What is asked for is there: all that is needed, or the document. -/
def Succeeds (i : Invocation) (m : Machine) (fs : Files) : Prop :=
  (∃ r, i.Reports m fs r ∧ r.isViable = true) ∨ ∃ r, i.Converts m fs r

end Invocation

/-- The ends to which an invocation comes. -/
inductive Ends (m : Machine) (i : Invocation) (fs : Files) : Ending → Prop
  | reported {r : CapabilityReport} (h : i.Reports m fs r) : Ends m i fs (.reported r)
  | converted {r : ConversionReport} (h : i.Converts m fs r) : Ends m i fs (.converted r)
  | broken (hreports : ∀ r, ¬ i.Reports m fs r) (hconverts : ∀ r, ¬ i.Converts m fs r)
    (message : String) : Ends m i fs (.broken message)

/-- An outcome shows an end: by its code, and by what is printed if JSON was asked for. -/
def Outcome.Shows (o : Outcome) (json : Bool) (e : Ending) : Prop :=
  o.code = e.code ∧ (json = true → o.stdout = e.jsonText ++ "\n")

/-- A fault is shown by its code and by its message. -/
theorem shows_errorText (json : Bool) (message : String) :
    Outcome.Shows ⟨codeOf false, errorText json message⟩ json (.broken message) :=
  ⟨rfl, fun h => by rw [h]; rfl⟩

/-- To check what is installed ends as it should: with a report. -/
theorem run_runCheck (m : Machine) (config : Config) (hcheck : i.check = true)
    (hconfig : Config.ofSettings i.settings = .ok config) (fs : Files) :
    ∃ e, Ends m i fs e ∧ ((runCheck m i config).run fs).1.Shows i.json e := by
  refine ⟨_, .reported ⟨config, hconfig, hcheck, rfl⟩, ?_⟩
  cases hjson : i.json with
  | true =>
    rw [runCheck, hjson]
    exact ⟨rfl, fun _ => rfl⟩
  | false =>
    rw [runCheck, hjson]
    exact ⟨rfl, nofun⟩

/-- With a document, the report is printed behind what is told at the start. -/
theorem run_runConversion_ok {report : ConversionReport}
    (h : i.conversion m config fs = .ok report) : ((runConversion m i config).run fs).1 =
      ⟨codeOf true, startText i ++ successText i report⟩ := by
  obtain ⟨progress, hprogress⟩ : ∃ progress,
      (convert m config i.input i.outputPath).run.run ⟨fs, [], []⟩ = (.ok report, progress) :=
    ⟨_, Prod.ext h rfl⟩
  simp only [runConversion, StateT.run_bind, StateT.run_get, pure_bind, hprogress]
  rfl

/-- Without one, the failure is. -/
theorem run_runConversion_error {failure : Failure}
    (h : i.conversion m config fs = .error failure) : ((runConversion m i config).run fs).1 =
      ⟨codeOf false, startText i ++ failedText i failure⟩ := by
  obtain ⟨progress, hprogress⟩ : ∃ progress,
      (convert m config i.input i.outputPath).run.run ⟨fs, [], []⟩ = (.error failure, progress) :=
    ⟨_, Prod.ext h rfl⟩
  simp only [runConversion, StateT.run_bind, StateT.run_get, pure_bind, hprogress]
  rfl

/-- A conversion ends with a document or is broken off. -/
theorem run_runConversion (m : Machine) (config : Config) (hcheck : i.check = false)
    (hconfig : Config.ofSettings i.settings = .ok config) (fs : Files) :
    ∃ e, Ends m i fs e ∧ ((runConversion m i config).run fs).1.Shows i.json e := by
  have hstart (hjson : i.json = true) : startText i = "" := by
    rw [startText, Invocation.showsProgress, hjson, Bool.not_true, Bool.and_false]
    rfl
  cases hconversion : i.conversion m config fs with
  | ok report =>
    rw [run_runConversion_ok hconversion]
    refine ⟨_, .converted ⟨config, hconfig, hcheck, hconversion⟩, rfl, fun hjson => ?_⟩
    simp only [hstart hjson, String.empty_append, successText, hjson, if_true]
    rfl
  | error failure =>
    rw [run_runConversion_error hconversion]
    refine ⟨.broken ("Conversion failed: " ++ failureText failure), .broken ?_ ?_ _, rfl,
      fun hjson => ?_⟩
    · rintro r ⟨config', -, htrue, -⟩
      rw [hcheck] at htrue
      cases htrue
    · rintro r ⟨config', hok, -, hdone⟩
      rw [hconfig, Except.ok.injEq] at hok
      rw [← hok, hconversion] at hdone
      cases hdone
    · simp only [hstart hjson, String.empty_append, failedText, hjson]
      rfl

/-- A command comes to one of the ends, and shows it. -/
theorem run_runInvocation (m : Machine) (i : Invocation) (fs : Files) :
    ∃ e, Ends m i fs e ∧ ((runInvocation m i).run fs).1.Shows i.json e := by
  -- To state the equation of this definition takes Lean seconds.
  delta runInvocation
  cases hconfig : Config.ofSettings i.settings with
  | error failure =>
    refine ⟨_, .broken ?_ ?_ _, shows_errorText i.json _⟩
    · rintro r ⟨config, hok, -⟩
      rw [hconfig] at hok
      cases hok
    · rintro r ⟨config, hok, -⟩
      rw [hconfig] at hok
      cases hok
  | ok config =>
    cases hcheck : i.check with
    | true => exact run_runCheck m config hcheck hconfig fs
    | false => exact run_runConversion m config hcheck hconfig fs

/-! ## Codes -/

/-- There is one report at most. -/
theorem Invocation.Reports.unique {r r' : CapabilityReport} (h : i.Reports m fs r)
    (h' : i.Reports m fs r') : r = r' := by
  obtain ⟨config, hconfig, -, rfl⟩ := h
  obtain ⟨config', hconfig', -, rfl⟩ := h'
  rw [hconfig, Except.ok.injEq] at hconfig'
  rw [hconfig']

/-- There is one document at most. -/
theorem Invocation.Converts.unique {r r' : ConversionReport} (h : i.Converts m fs r)
    (h' : i.Converts m fs r') : r = r' := by
  obtain ⟨config, hconfig, -, hr⟩ := h
  obtain ⟨config', hconfig', -, hr'⟩ := h'
  rw [hconfig, Except.ok.injEq] at hconfig'
  rw [← hconfig', hr] at hr'
  exact Except.ok.inj hr'

/-- It is not both only asked what is installed, and a document made. -/
theorem Invocation.Reports.not_converts {r : CapabilityReport} {r' : ConversionReport}
    (h : i.Reports m fs r) : ¬ i.Converts m fs r' := by
  rintro ⟨-, -, hfalse, -⟩
  obtain ⟨-, -, htrue, -⟩ := h
  rw [hfalse] at htrue
  cases htrue

/-- The code tells whether what was asked for is there. -/
theorem Ends.code (h : Ends m i fs e) :
    (i.Succeeds m fs → e.code = 0) ∧ (¬ i.Succeeds m fs → e.code = 1) := by
  cases h with
  | @reported r hr =>
    cases hviable : r.isViable with
    | true => exact ⟨fun _ => by rw [Ending.code, hviable]; rfl,
        fun hnot => absurd (.inl ⟨r, hr, hviable⟩) hnot⟩
    | false =>
      refine ⟨?_, fun _ => by rw [Ending.code, hviable]; rfl⟩
      rintro (⟨r', hr', hviable'⟩ | ⟨r', hr'⟩)
      · rw [← hr.unique hr', hviable] at hviable'
        cases hviable'
      · exact absurd hr' hr.not_converts
  | converted hr => exact ⟨fun _ => rfl, fun hnot => absurd (.inr ⟨_, hr⟩) hnot⟩
  | broken hreports hconverts message =>
    refine ⟨?_, fun _ => rfl⟩
    rintro (⟨r, hr, -⟩ | ⟨r, hr⟩)
    · exact absurd hr (hreports r)
    · exact absurd hr (hconverts r)

/-! ## JSON -/

/-- The text holds one JSON value, and nothing else. -/
def HoldsValue (text : String) (v : Value) : Prop :=
  readWhole readValue text.toList = .ok v

/-- What is printed of a report is a JSON value, and the one it was printed for. -/
theorem holdsValue_pretty {α : Type} {f : Format α} {a : α} {n : Nat} (h : Plain n (f.toValue a))
    (hn : 0 + n ≤ maxDepth) : HoldsValue (f.pretty a) (f.toValue a) := by
  rw [HoldsValue, Format.pretty, String.toList_ofList]
  exact readWhole_pretty (reads_plain h hn)

/-- The numbers of a report on a document are kept exactly, if its sizes are. -/
theorem Invocation.Converts.inRange {r : ConversionReport} (h : i.Converts m fs r)
    (hhtml : r.htmlBytes ≤ maxNatural) (hpdf : r.pdfBytes ≤ maxNatural) : r.InRange := by
  obtain ⟨config, -, -, hr⟩ := h
  exact (course_convert m config i.input i.outputPath ⟨fs, [], []⟩).inRange hr hhtml hpdf

/-- The JSON text of an end holds one value, which tells what the end is. -/
theorem Ends.holdsValue (h : Ends m i fs e)
    (hsizes : ∀ r, i.Converts m fs r → r.htmlBytes ≤ maxNatural ∧ r.pdfBytes ≤ maxNatural) :
    ∃ v, HoldsValue e.jsonText v ∧
      (∀ r, i.Reports m fs r → Format.capabilities.parse e.jsonText = .ok r) ∧
      (∀ r, i.Converts m fs r → Format.report.parse e.jsonText = .ok r) ∧
      ((∀ r, ¬ i.Reports m fs r) → (∀ r, ¬ i.Converts m fs r) →
        ∃ message, v = .object [("error", .string message)]) := by
  cases h with
  | @reported r hr =>
    refine ⟨Format.capabilities.toValue r,
      holdsValue_pretty (Format.plain_capabilities r) (by decide), fun r' hr' => ?_,
      fun r' hr' => absurd hr' hr.not_converts, fun hnot => absurd hr (hnot r)⟩
    rw [← hr.unique hr']
    exact (Format.parse_of_reads (Format.reads_capabilities r) (Format.ofValue?_capabilities r)).2
  | @converted r hr =>
    have hrange := hr.inRange (hsizes r hr).1 (hsizes r hr).2
    refine ⟨Format.report.toValue r, holdsValue_pretty (Format.plain_report hrange) (by decide),
      fun r' hr' => absurd hr hr'.not_converts, fun r' hr' => ?_, fun _ hnot => absurd hr (hnot r)⟩
    rw [← hr.unique hr']
    exact (Format.parse_of_reads (Format.reads_report hrange (by decide))
      (Format.ofValue?_report r)).2
  | broken hreports hconverts message =>
    have hplain : Plain 1 (.object [("error", .string message)]) :=
      .object (by simp [Plain.string])
    refine ⟨.object [("error", .string message)], ?_, fun r hr => absurd hr (hreports r),
      fun r hr => absurd hr (hconverts r), fun _ _ => ⟨message, rfl⟩⟩
    rw [HoldsValue, Ending.jsonText, String.toList_ofList]
    exact readWhole_compact (reads_plain hplain (by decide))

/-! ## Runs of the command -/

/-- The command ends with 0 if what it is asked for is there, and else with 1. What it prints as
JSON is one value and the end of the line: the report on capabilities, the report on the document,
or else an object that holds an error and nothing more. The sizes of a document are numbers that
JSON keeps exactly. -/
theorem runCommand_outcome {arguments : List String}
    (h : Invocation.read m.environment arguments = .ok i) (fs : Files) :
    let outcome := ((runCommand m arguments).run fs).1
    (i.Succeeds m fs → outcome.code = 0) ∧ (¬ i.Succeeds m fs → outcome.code = 1) ∧
    (i.json = true →
      (∀ r, i.Converts m fs r → r.htmlBytes ≤ maxNatural ∧ r.pdfBytes ≤ maxNatural) →
      ∃ text v, outcome.stdout = text ++ "\n" ∧ HoldsValue text v ∧
        (∀ r, i.Reports m fs r → Format.capabilities.parse text = .ok r) ∧
        (∀ r, i.Converts m fs r → Format.report.parse text = .ok r) ∧
        ((∀ r, ¬ i.Reports m fs r) → (∀ r, ¬ i.Converts m fs r) →
          ∃ message, v = .object [("error", .string message)])) := by
  intro outcome
  obtain ⟨e, hends, hcode, hstdout⟩ := run_runInvocation m i fs
  have houtcome : outcome = ((runInvocation m i).run fs).1 := by
    simp only [outcome, runCommand, h]
  rw [houtcome, hcode]
  refine ⟨hends.code.1, hends.code.2, fun hjson hsizes => ?_⟩
  obtain ⟨v, hvalue⟩ := hends.holdsValue hsizes
  exact ⟨e.jsonText, v, hstdout hjson, hvalue⟩

/-- A machine without variables, on which no program can be run. -/
def bareMachine : Machine :=
  ⟨[], fun _ _ _ => throw .denied⟩

/-- An invocation with a margin that is no length. -/
def wideInvocation : Invocation where
  input := defaultInput
  output := none
  choice := .auto
  pageSize := .a4
  margin := "wide"
  anchors := .auto
  title := none
  emitHtml := none
  outline := false
  check := true
  json := true
  quiet := true

/-- The arguments are understood. -/
theorem read_wideInvocation :
    Invocation.read bareMachine.environment ["--json", "-q", "--check", "--margin=wide"] =
      .ok wideInvocation := by
  have hgiven : readArguments bareMachine.environment
      ["--json", "-q", "--check", "--margin=wide"] =
        .ok [(.margin, "wide"), (.check, "true"), (.quiet, "true"), (.json, "true")] := by rfl
  have hsize : pageSizeNamed "" = .a4 := by decide +kernel
  have hanchors : anchorsNamed "" = .auto := by decide +kernel
  rw [Invocation.read, hgiven]
  change Except.ok (Invocation.mk defaultInput none (choiceNamed "") (pageSizeNamed "") "wide"
    (anchorsNamed "") none none false true true true) = _
  rw [hsize, hanchors]
  rfl

/-- The margin is no length, so there is no configuration. -/
theorem settings_wideInvocation (config : Config) :
    Config.ofSettings wideInvocation.settings ≠ .ok config := by
  have hfault : (wideInvocation.settings.foldl Config.apply .standard).fault?.isSome = true := by
    decide +kernel
  intro h
  rw [Config.ofSettings, Config.validate] at h
  split at h
  · cases h
  · next hnone =>
    rw [hnone] at hfault
    cases hfault

/-- The margin `wide` is refused: with `--json` the message is printed as an object, although
`--quiet` and `--check` are given, and the code is 1. -/
theorem runCommand_outcome_wide :
    Invocation.read bareMachine.environment ["--json", "-q", "--check", "--margin=wide"] =
        .ok wideInvocation ∧
      let outcome := ((runCommand bareMachine ["--json", "-q", "--check", "--margin=wide"]).run
        ⟨[], []⟩).1
      outcome.code = 1 ∧ ∃ text message, outcome.stdout = text ++ "\n" ∧
        HoldsValue text (.object [("error", .string message)]) := by
  refine ⟨read_wideInvocation, ?_⟩
  have hreports (r : CapabilityReport) : ¬ wideInvocation.Reports bareMachine ⟨[], []⟩ r := by
    rintro ⟨config, hconfig, -⟩
    exact settings_wideInvocation config hconfig
  have hconverts (r : ConversionReport) : ¬ wideInvocation.Converts bareMachine ⟨[], []⟩ r := by
    rintro ⟨config, hconfig, -⟩
    exact settings_wideInvocation config hconfig
  obtain ⟨-, hcode, hjson⟩ := runCommand_outcome read_wideInvocation ⟨[], []⟩
  obtain ⟨text, v, hstdout, hvalue, -, -, herror⟩ :=
    hjson rfl fun r hr => absurd hr (hconverts r)
  obtain ⟨message, rfl⟩ := herror hreports hconverts
  refine ⟨hcode ?_, text, message, hstdout, hvalue⟩
  rintro (⟨r, hr, -⟩ | ⟨r, hr⟩)
  · exact hreports r hr
  · exact hconverts r hr

end DocPress.CommandLine
