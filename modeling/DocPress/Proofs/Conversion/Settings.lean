import DocPress.Conversion.Config
import DocPress.Proofs.Page.Margins

/-!
# DocPress.Proofs.Conversion.Settings

Which settings give a configuration that is good for use, and what is said of the others. The four
margins are checked in their order, and the backends behind them (`validate_eq_error_iff`). A
configuration that passes is given as it was set (`validate_eq_ok_iff`).

A margin passes if it is a length over the digits of all scripts. If all margins are of ASCII
characters, these are the lengths of a style sheet; else they need not be (`accepts_wide_digit`).
-/

namespace DocPress.Conversion

open DocPress.Backend DocPress.Page DocPress.Text

namespace Config

variable {c c' : Config} {e : Failure}

/-- What is said of a margin that is not accepted. -/
def marginFault (edge margin : String) : Failure :=
  .invalidConfig
    (edge ++ " margin must be a length like 2.5cm, 20mm or 1in, got '" ++ margin ++ "'")

/-- What is said where there is no backend to try. -/
def backendsFault : Failure :=
  .invalidConfig "Backend registry must contain at least one backend"

/-- The margins decide first. -/
theorem validate_of_firstFault {edge margin : String}
    (h : c.layout.margins.FirstFault edge margin) :
    c.validate = .error (marginFault edge margin) := by
  rw [validate, fault?, Margins.firstFault?_eq_some_iff.2 h]
  rfl

/-- An empty list of backends is refused if the margins are not. -/
theorem validate_of_no_backend (h : c.layout.margins.Accepted) (hbackends : c.backends = some []) :
    c.validate = .error backendsFault := by
  rw [validate, fault?, Margins.firstFault?_eq_none_iff.2 h, hbackends]
  rfl

/-- A configuration that passes both tests is kept as it is. -/
theorem validate_of_accepted (h : c.layout.margins.Accepted) (hbackends : c.backends ≠ some []) :
    c.validate = .ok c := by
  rw [validate, fault?, Margins.firstFault?_eq_none_iff.2 h]
  rcases hregistry : c.backends with _ | _ | _
  · rfl
  · contradiction
  · rfl

/-- There are no other ways to end. -/
theorem validate_cases (c : Config) :
    (∃ edge margin, c.layout.margins.FirstFault edge margin ∧
      c.validate = .error (marginFault edge margin)) ∨
    (c.layout.margins.Accepted ∧ c.backends = some [] ∧ c.validate = .error backendsFault) ∨
    (c.layout.margins.Accepted ∧ c.backends ≠ some [] ∧ c.validate = .ok c) := by
  cases hfault : c.layout.margins.firstFault? with
  | some fault =>
    have h := Margins.firstFault?_eq_some_iff.1 hfault
    exact .inl ⟨fault.1, fault.2, h, validate_of_firstFault h⟩
  | none =>
    have h := Margins.firstFault?_eq_none_iff.1 hfault
    by_cases hbackends : c.backends = some []
    · exact .inr (.inl ⟨h, hbackends, validate_of_no_backend h hbackends⟩)
    · exact .inr (.inr ⟨h, hbackends, validate_of_accepted h hbackends⟩)

/-- What is accepted, and that it is not changed. -/
theorem validate_eq_ok_iff : c.validate = .ok c' ↔
    c' = c ∧ c.layout.margins.Accepted ∧ c.backends ≠ some [] := by
  constructor
  · intro h
    rcases validate_cases c with ⟨_, _, -, herror⟩ | ⟨-, -, herror⟩ | ⟨haccepted, hbackends, hok⟩
    · rw [herror] at h
      cases h
    · rw [herror] at h
      cases h
    · rw [hok] at h
      cases h
      exact ⟨rfl, haccepted, hbackends⟩
  · rintro ⟨rfl, haccepted, hbackends⟩
    exact validate_of_accepted haccepted hbackends

/-- What is refused, and with which fault. -/
theorem validate_eq_error_iff : c.validate = .error e ↔
    (∃ edge margin, c.layout.margins.FirstFault edge margin ∧ e = marginFault edge margin) ∨
      c.layout.margins.Accepted ∧ c.backends = some [] ∧ e = backendsFault := by
  constructor
  · intro h
    rcases validate_cases c with ⟨edge, margin, hfirst, herror⟩ | ⟨haccepted, hbackends, herror⟩ |
      ⟨-, -, hok⟩
    · rw [herror] at h
      cases h
      exact .inl ⟨edge, margin, hfirst, rfl⟩
    · rw [herror] at h
      cases h
      exact .inr ⟨haccepted, hbackends, rfl⟩
    · rw [hok] at h
      cases h
  · rintro (⟨edge, margin, hfirst, rfl⟩ | ⟨haccepted, hbackends, rfl⟩)
    · exact validate_of_firstFault hfirst
    · exact validate_of_no_backend haccepted hbackends

/-! ## Renderers -/

/-- Each margin is an argument behind the name of its edge. -/
theorem margin_arguments (layout : Layout) (input output : String) :
    ∀ e ∈ layout.margins.edges,
      ["--margin-" ++ e.1, e.2] <:+: Renderer.arguments .wkhtmltopdf layout input output := by
  have htop : "--margin-" ++ "top" = "--margin-top" := by decide
  have hright : "--margin-" ++ "right" = "--margin-right" := by decide
  have hbottom : "--margin-" ++ "bottom" = "--margin-bottom" := by decide
  have hleft : "--margin-" ++ "left" = "--margin-left" := by decide
  simp only [Margins.edges, List.forall_mem_cons, List.not_mem_nil, false_implies, implies_true,
    and_true, htop, hright, hbottom, hleft]
  exact ⟨⟨["--quiet", "--page-size", layout.pageSize.name], _, rfl⟩,
    ⟨["--quiet", "--page-size", layout.pageSize.name, "--margin-top", layout.margins.top], _, rfl⟩,
    ⟨["--quiet", "--page-size", layout.pageSize.name, "--margin-top", layout.margins.top,
      "--margin-right", layout.margins.right], _, rfl⟩,
    ⟨["--quiet", "--page-size", layout.pageSize.name, "--margin-top", layout.margins.top,
      "--margin-right", layout.margins.right, "--margin-bottom", layout.margins.bottom], _, rfl⟩⟩

/-- Which settings give a configuration, and which lengths a renderer gets from it. -/
theorem ofSettings_accepts (settings : List Setting) :
    let c := settings.foldl apply standard
    -- A configuration is given as it was set.
    (∀ c', ofSettings settings = .ok c' ↔
      c' = c ∧ c.layout.margins.Accepted ∧ c.backends ≠ some []) ∧
    -- The first edge at fault is told, and the backends only if there is none.
    (∀ e, ofSettings settings = .error e ↔
      (∃ edge margin, c.layout.margins.FirstFault edge margin ∧ e = marginFault edge margin) ∨
        c.layout.margins.Accepted ∧ c.backends = some [] ∧ e = backendsFault) ∧
    -- The lengths of a style sheet are those that are accepted and of ASCII characters.
    (∀ length, CssLength length ↔
      LengthOver isDecimalDigit length ∧ ∀ char ∈ length.toList, char.toNat < 128) ∧
    ((∀ e ∈ c.layout.margins.edges, ∀ char ∈ e.2.toList, char.toNat < 128) →
      (c.layout.margins.Accepted ↔ ∀ e ∈ c.layout.margins.edges, CssLength e.2)) ∧
    -- Nothing but accepted lengths reaches a renderer.
    ∀ c', ofSettings settings = .ok c' →
      (∀ length ∈ shorthandValues c'.layout.margins.toCss, LengthOver isDecimalDigit length) ∧
      ∀ input output, ∀ e ∈ c'.layout.margins.edges, LengthOver isDecimalDigit e.2 ∧
        ["--margin-" ++ e.1, e.2] <:+:
          Renderer.arguments .wkhtmltopdf c'.layout input output := by
  intro c
  refine ⟨fun c' => validate_eq_ok_iff, fun e => validate_eq_error_iff, fun length => ?_,
    fun hascii => forall₂_congr fun e he => ?_, fun c' hc' => ?_⟩
  · rw [cssLength_iff, isLength_iff]
  · rw [cssLength_iff, isLength_iff]
    exact (and_iff_left (hascii e he)).symm
  · obtain ⟨rfl, haccepted, -⟩ := validate_eq_ok_iff.1 hc'
    exact ⟨haccepted.shorthandValues, fun input output e he =>
      ⟨haccepted e he, margin_arguments _ input output e he⟩⟩

/-- Of two edges at fault the first is told, and the missing backends are not. -/
theorem ofSettings_accepts_inches :
    let m : Margins := ⟨"1in", "2.5cm", "20mm", "0px"⟩
    let wrong : Margins := ⟨"1in", "1.in", "cm", "0px"⟩
    ofSettings [.margin "x", .margins m] = .ok { standard with layout.margins := m } ∧
      ofSettings [.backends [], .margins wrong] = .error (marginFault "right" "1.in") := by
  intro m wrong
  have haccepted : m.Accepted := Margins.firstFault?_eq_none_iff.1 (by decide +kernel)
  have hfirst : wrong.FirstFault "right" "1.in" :=
    Margins.firstFault?_eq_some_iff.1 (by decide +kernel)
  exact ⟨((ofSettings_accepts [.margin "x", .margins m]).1 _).2 ⟨rfl, haccepted, nofun⟩,
    ((ofSettings_accepts [.backends [], .margins wrong]).2.1 _).2 (.inl ⟨_, _, hfirst, rfl⟩)⟩

/-- A digit of another script makes a margin that no style sheet takes. -/
theorem accepts_wide_digit :
    ofSettings [.margin "\uff12cm"] =
        .ok { standard with layout.margins := .uniform "\uff12cm" } ∧
      ¬ CssLength "\uff12cm" := by
  have haccepted : (Margins.uniform "\uff12cm").Accepted :=
    Margins.firstFault?_eq_none_iff.1 (by decide +kernel)
  refine ⟨validate_eq_ok_iff.2 ⟨rfl, haccepted, nofun⟩, fun hcss => ?_⟩
  exact absurd ((cssLength_iff.1 hcss).2 '\uff12' (by decide)) (by decide +kernel)

end Config

end DocPress.Conversion
