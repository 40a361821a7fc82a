import Mathlib.Algebra.GroupWithZero.Nat
import Mathlib.Tactic.ByContra
import DocPress.Backend.Program

/-!
# DocPress.Proofs.Backend.Guidance

What a report on capabilities names as missing, and what it tells to install:

1. What stands in the way (`CapabilityReport.blocking`) is the reader if it is not there, and all
   backends if none of them is. Their names are what is missing.
2. What is told to be installed is picked by these names (`CapabilityReport.listed`): all that
   stands in the way, in order, and whatever else bears such a name (`listed_perm`).
3. More is told by a longer text (`guidanceFor_lt`). So the text is the one for what stands in the
   way just if nothing else bears such a name (`installGuidance_eq_iff`), which a backend with the
   name of the reader may do (`lists_what_is_there`).
-/

namespace DocPress.Backend

open DocPress.FileSystem

namespace CapabilityReport

variable {r : CapabilityReport} {c : CapabilityStatus} {needed more : List CapabilityStatus}

/-! ## What stands in the way -/

/-- What stands in the way: the reader if it is not there, and all backends if none of them is. -/
def blocking (r : CapabilityReport) : List CapabilityStatus :=
  (if r.markdown.available then [] else [r.markdown]) ++ (if r.hasBackend then [] else r.backends)

/-- What does not stand in the way: it is there, or another backend is. -/
def spared (r : CapabilityReport) : List CapabilityStatus :=
  (if r.markdown.available then [r.markdown] else []) ++ (if r.hasBackend then r.backends else [])

/-- What bears the name of something that is missing. -/
def listed (r : CapabilityReport) : List CapabilityStatus :=
  (r.markdown :: r.backends).filter fun status => r.missing.contains status.name

/-- How to install each of some things; empty if there are none. -/
def guidanceFor (needed : List CapabilityStatus) : String :=
  if needed = [] then "" else "To install:\n" ++ "  # or\n".intercalate (needed.map indentedHint)

/-- The names of what is missing are those of what stands in the way. -/
theorem missing_eq (r : CapabilityReport) : r.missing = r.blocking.map (·.name) := by
  unfold missing blocking
  split <;> split <;> rfl

/-- Nothing stands in the way if the reader is there and a backend is, or no backend is known. -/
theorem blocking_eq_nil_iff : r.blocking = [] ↔
    r.markdown.available = true ∧ (r.hasBackend = true ∨ r.backends = []) := by
  unfold blocking
  split <;> split <;> simp_all

/-- With any backends at all, a report is viable if nothing stands in the way. -/
theorem isViable_iff (h : r.backends ≠ []) : r.isViable = true ↔ r.blocking = [] := by
  rw [blocking_eq_nil_iff, isViable, Bool.and_eq_true]
  simp [h]

/-- Everything either stands in the way or does not. -/
theorem perm_blocking_spared (r : CapabilityReport) :
    (r.markdown :: r.backends).Perm (r.blocking ++ r.spared) := by
  unfold blocking spared
  split <;> split
  · exact .refl _
  · exact (List.perm_append_singleton _ _).symm
  · exact .refl _
  · exact .of_eq (by simp)

/-- What stands in the way is among the reader and the backends, in their order. -/
theorem blocking_sublist (r : CapabilityReport) :
    r.blocking.Sublist (r.markdown :: r.backends) := by
  have hmarkdown : (if r.markdown.available then [] else [r.markdown]).Sublist [r.markdown] := by
    split <;> simp
  have hbackends : (if r.hasBackend then [] else r.backends).Sublist r.backends := by
    split <;> simp
  exact hmarkdown.append hbackends

/-! ## What is listed -/

/-- Everything that stands in the way bears a name of something missing. -/
theorem filter_blocking (r : CapabilityReport) :
    r.blocking.filter (fun status => r.missing.contains status.name) = r.blocking := by
  rw [List.filter_eq_self]
  intro c hc
  rw [missing_eq]
  simpa using ⟨c, hc, rfl⟩

/-- All that stands in the way is listed, in order. -/
theorem blocking_sublist_listed (r : CapabilityReport) : r.blocking.Sublist r.listed := by
  rw [← filter_blocking]
  exact r.blocking_sublist.filter _

/-- Besides what stands in the way, what bears such a name is listed. -/
theorem listed_perm (r : CapabilityReport) : r.listed.Perm
    (r.blocking ++ r.spared.filter fun status => r.missing.contains status.name) := by
  have hfilter := r.perm_blocking_spared.filter fun status => r.missing.contains status.name
  rwa [List.filter_append, filter_blocking] at hfilter

/-- Just what stands in the way is picked, unless something that is there bears such a name. -/
theorem listed_eq_blocking_iff :
    r.listed = r.blocking ↔ ∀ c ∈ r.spared, c.name ∉ r.missing := by
  have hlength := r.listed_perm.length_eq
  rw [List.length_append] at hlength
  have hnone : r.spared.filter (fun status => r.missing.contains status.name) = [] ↔
      ∀ c ∈ r.spared, c.name ∉ r.missing := by
    simp [List.filter_eq_nil_iff]
  rw [← hnone, ← List.length_eq_zero_iff]
  constructor
  · intro h
    rw [h] at hlength
    omega
  · intro h
    exact (r.blocking_sublist_listed.eq_of_length (by omega)).symm

/-- Something is picked if anything stands in the way. -/
theorem listed_eq_nil_iff : r.listed = [] ↔ r.blocking = [] := by
  constructor
  · intro h
    exact List.sublist_nil.1 (h ▸ r.blocking_sublist_listed)
  · intro h
    have hmissing : r.missing = [] := by rw [missing_eq, h, List.map_nil]
    simp [listed, hmissing]

/-! ## What the text tells -/

/-- The text is empty if there is nothing to install. -/
theorem guidanceFor_eq_empty_iff : guidanceFor needed = "" ↔ needed = [] := by
  unfold guidanceFor
  split
  · simpa
  · next hne => simp [hne, String.append_eq_empty_iff]

/-- The guidance is the text for what is picked by name. -/
theorem installGuidance_eq (r : CapabilityReport) : r.installGuidance = guidanceFor r.listed := by
  have hmissing : r.missing.isEmpty = true ↔ r.listed = [] := by
    rw [listed_eq_nil_iff, List.isEmpty_iff, missing_eq, List.map_eq_nil_iff]
  simp only [installGuidance, guidanceFor, hmissing]
  rfl

/-- What each thing adds to the text. -/
def weight (needed : List CapabilityStatus) : Nat :=
  (needed.map fun status => "  # or\n".length + (indentedHint status).length).sum

/-- The length of the text, which the separators make up but for one. -/
theorem length_guidanceFor (h : needed ≠ []) : (guidanceFor needed).length + "  # or\n".length =
    "To install:\n".length + weight needed := by
  have hblocks : ("  # or\n".intercalate (needed.map indentedHint)).length + "  # or\n".length =
      weight needed := by
    induction needed with
    | nil => contradiction
    | cons c rest ih =>
      by_cases hrest : rest = []
      · simp [hrest, weight, Nat.add_comm]
      · rw [List.map_cons, String.intercalate_cons_of_ne_nil (by simpa using hrest)]
        have hih := ih hrest
        simp only [weight, String.length_append, List.map_cons, List.sum_cons] at hih ⊢
        omega
  rw [guidanceFor, if_neg h, String.length_append]
  omega

/-- More things have more weight. -/
theorem weight_lt (h : needed.Sublist more) (hne : needed ≠ more) :
    weight needed < weight more := by
  induction h with
  | slnil => contradiction
  | @cons needed more c h ih =>
    have hpos : 0 < "  # or\n".length := by decide
    have hle : weight needed ≤ weight more := by
      by_cases heq : needed = more
      · exact heq ▸ Nat.le_refl _
      · exact Nat.le_of_lt (ih heq)
    simp only [weight, List.map_cons, List.sum_cons] at hle ⊢
    omega
  | cons_cons c h ih =>
    have hlt := ih (by simpa using hne)
    simp only [weight, List.map_cons, List.sum_cons] at hlt ⊢
    omega

/-- More is told by a longer text. -/
theorem guidanceFor_lt (h : needed.Sublist more) (hne : needed ≠ more) :
    (guidanceFor needed).length < (guidanceFor more).length := by
  have hmore : more ≠ [] := by
    rintro rfl
    exact hne (List.sublist_nil.1 h)
  have hlt := weight_lt h hne
  have hlength := length_guidanceFor hmore
  have hintroduction : "  # or\n".length < "To install:\n".length := by decide
  by_cases hneeded : needed = []
  · rw [hneeded, guidanceFor, if_pos rfl, String.length_empty]
    omega
  · have hlength' := length_guidanceFor hneeded
    omega

/-- The text is the one for what stands in the way just if nothing else bears such a name. -/
theorem installGuidance_eq_iff : r.installGuidance = guidanceFor r.blocking ↔
    ∀ c ∈ r.spared, c.name ∉ r.missing := by
  rw [installGuidance_eq, ← listed_eq_blocking_iff]
  constructor
  · intro h
    by_contra hne
    have hlt := guidanceFor_lt r.blocking_sublist_listed (Ne.symm hne)
    rw [h] at hlt
    exact Nat.lt_irrefl _ hlt
  · intro h
    rw [h]

/-- What is missing, and what is told about it. -/
theorem guidance_of_blocking (r : CapabilityReport) :
    r.missing = r.blocking.map (·.name) ∧
    (r.installGuidance = "" ↔ r.blocking = []) ∧
    (r.backends ≠ [] → (r.isViable = true ↔ r.blocking = [])) ∧
    -- Nothing that stands in the way is left out, and whatever is told has a name that is missing.
    (∃ listed, r.installGuidance = guidanceFor listed ∧ r.blocking.Sublist listed ∧
      ∀ c ∈ listed, c.name ∈ r.missing) ∧
    -- Nothing else is told just if nothing else bears such a name.
    (r.installGuidance = guidanceFor r.blocking ↔ ∀ c ∈ r.spared, c.name ∉ r.missing) := by
  refine ⟨r.missing_eq, ?_, isViable_iff, ⟨r.listed, r.installGuidance_eq,
    r.blocking_sublist_listed, fun c hc => ?_⟩, installGuidance_eq_iff⟩
  · rw [installGuidance_eq, guidanceFor_eq_empty_iff, listed_eq_nil_iff]
  · simpa using (List.mem_filter.1 hc).2

/-- Two backends are missing, and each has its block. -/
theorem guidance_of_two :
    let r : CapabilityReport := ⟨markdownStatus,
      [⟨"first", false, none, some "gone", "get it"⟩,
        ⟨"second", false, none, some "gone", "get that\nand this"⟩]⟩
    r.backends ≠ [] ∧ r.missing = ["first", "second"] ∧ r.isViable = false ∧
      (∀ c ∈ r.spared, c.name ∉ r.missing) ∧
      r.installGuidance = "To install:\n  get it\n  # or\n  get that\n  and this\n" := by
  intro r
  obtain ⟨hmissing, -, hviable, -, hguidance⟩ := guidance_of_blocking r
  have hbackends : r.backends ≠ [] := List.cons_ne_nil _ _
  have hspared : ∀ c ∈ r.spared, c.name ∉ r.missing := by decide
  have hblocking : r.blocking = r.backends := by decide
  refine ⟨hbackends, by rw [hmissing, hblocking]; rfl, ?_, hspared, ?_⟩
  · rw [Bool.eq_false_iff]
    intro h
    rw [(hviable hbackends).1 h] at hblocking
    exact hbackends hblocking.symm
  · rw [hguidance.2 hspared, hblocking]
    decide +kernel

/-! ## Backends that have been probed -/

variable {probes : List (Backend × Availability)}

theorem available_status (b : Backend) (availability : Availability) :
    (b.status availability).available = availability.isInstalled := by
  cases availability <;> rfl

theorem name_status (b : Backend) (availability : Availability) :
    (b.status availability).name = b.name := by
  cases availability <;> rfl

/-- A report has a backend if one was found to be installed. -/
theorem hasBackend_ofProbes :
    (ofProbes probes).hasBackend = true ↔ ∃ p ∈ probes, p.2.isInstalled = true := by
  simp [hasBackend, ofProbes, available_status]

/-- The reader is always there, so only a backend with its name can bring it in. -/
theorem installGuidance_ofProbes_iff :
    (ofProbes probes).installGuidance = guidanceFor (ofProbes probes).blocking ↔
      (∃ p ∈ probes, p.2.isInstalled = true) ∨ ∀ p ∈ probes, p.1.name ≠ markdownCapability := by
  rw [installGuidance_eq_iff, missing_eq]
  by_cases h : (ofProbes probes).hasBackend = true
  · have hblocking : (ofProbes probes).blocking = [] := blocking_eq_nil_iff.2 ⟨rfl, .inl h⟩
    simp [hblocking, hasBackend_ofProbes.1 h]
  · have hthere : (ofProbes probes).markdown.available = true := rfl
    have hblocking : (ofProbes probes).blocking = (ofProbes probes).backends := by
      rw [blocking, if_pos hthere, if_neg h, List.nil_append]
    have hspared : (ofProbes probes).spared = [markdownStatus] := by
      rw [spared, if_pos hthere, if_neg h]
      rfl
    have hnames : (ofProbes probes).backends.map (·.name) = probes.map (·.1.name) := by
      simp [ofProbes, name_status]
    rw [hblocking, hspared, hnames, ← hasBackend_ofProbes]
    simp [h, markdownStatus, eq_comm]

/-- The text on the renderers of a choice tells just what is missing. -/
theorem installGuidance_ofChoice (m : Program.Machine) (choice : BackendChoice) (fs : Files) :
    let r := ofProbes ((Registry.ofChoice m choice).probeAll fs)
    r.installGuidance = guidanceFor r.blocking := by
  refine installGuidance_ofProbes_iff.2 (.inr fun p hp => ?_)
  obtain ⟨b, hb, rfl⟩ := List.mem_map.1 hp
  obtain ⟨renderer, -, rfl⟩ := List.mem_map.1 hb
  have hname : renderer.name ≠ markdownCapability := by cases renderer <;> decide
  exact hname

/-- A backend with the name of the reader is missing, and the text tells to install either. -/
theorem lists_what_is_there :
    let r := ofProbes (Registry.probeAll
      [⟨"markdown", .css, "install it", fun _ => .missing "not installed",
        fun _ _ _ => return .rendered⟩] ⟨[], []⟩)
    r.missing = ["markdown"] ∧ r.blocking = r.backends ∧
      guidanceFor r.blocking = "To install:\n  install it\n" ∧
      r.installGuidance = "To install:\n  # or\n  install it\n" := by
  decide +kernel

end CapabilityReport

end DocPress.Backend
