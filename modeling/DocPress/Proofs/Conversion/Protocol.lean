import DocPress.Proofs.Conversion.Bench
import DocPress.Proofs.Conversion.Script

/-!
# DocPress.Proofs.Conversion.Protocol

Any number of staging files, in any order of operations, keep out of each other's way, and so do
their destinations (`Bench.separate_effect`):

1. `Bench.Sound` holds of every bench that operations lead to (`Bench.sound_after`). What carries it
   is that the way to each directory that is still needed has the links that it had at first: only
   what is put in place can take the place of a link, and destinations are apart.
2. `Bench.Effect` says what one operation does to such a bench, from the causes of changes.
-/

namespace DocPress.Conversion

open DocPress.Backend DocPress.FileSystem DocPress.Text

namespace Bench

/-- The bench after operations on files that have no staging files yet. -/
def after (fs : Files) (ops : List Operation) : Bench :=
  ops.foldl (fun b op => (b.step op).1) ⟨fs, []⟩

/-- The destinations of all staging files that are asked for, by their numbers. -/
def destinations (ops : List Operation) : List String :=
  ops.filterMap Operation.destination?

/-- No destination leads to a staging file in use. -/
def Clear (fs : Files) (ds : List String) (b : Bench) : Prop :=
  ∀ d ∈ ds, ∀ i h l, b.handle? i = some h → b.files.Names h.staged.path l → ¬ fs.Leads d l

/-- Every handle has a staging file in the directory of its destination, with what was last written
to it, and no two handles have the same. -/
structure Separate (b : Bench) : Prop where
  file : ∀ i h, b.handle? i = some h → ∃ l, b.files.Names h.staged.path l ∧
    b.files.resolve (directoryOf h.staged.destination) = .ok l.dropLast ∧
    b.files.get? l = some (.file h.written false)
  distinct : ∀ i j h h' l, b.handle? i = some h → b.handle? j = some h' →
    b.files.Names h.staged.path l → b.files.Names h'.staged.path l → i = j

/-- What an operation does. -/
structure Effect (fs : Files) (ds : List String) (b : Bench) (op : Operation) (r : Bench × Bool) :
    Prop where
  /-- A new staging file is empty and stands where nothing stood. -/
  staged : ∀ d, op = .stage d → r.2 = true → ∃ h l, r.1.handles = b.handles ++ [some h] ∧
    h.staged.destination = d ∧ h.written = [] ∧ r.1.files.Names h.staged.path l ∧
    b.files.get? l = none
  written : ∀ i content h, op = .write i content → b.handle? i = some h →
    r.2 = true ∧ r.1.handle? i = some { h with written := content }
  validated : ∀ i backend h, op = .validate i backend → b.handle? i = some h →
    r.1 = b ∧ (r.2 = true ↔ pdfMagic <+: h.written)
  /-- Put in place or not, the staging file is gone. -/
  gone : ∀ i h l, op = .persist i ∨ op = .drop i → b.handle? i = some h →
    b.files.Names h.staged.path l → r.1.handle? i = none ∧ r.1.files.get? l = none
  others : ∀ i h l, op.handle? ≠ some i → b.handle? i = some h →
    b.files.Names h.staged.path l → r.1.handle? i = some h ∧
      r.1.files.Names h.staged.path l ∧ r.1.files.get? l = b.files.get? l
  placed : ∀ i, op = .persist i → r.2 = true → ∃ h l, b.handle? i = some h ∧
    fs.Leads h.staged.destination l ∧ r.1.files.get? l = some (.file h.written false)
  /-- What stands at a destination changes only when a staging file for it is put in place. Only for
  a path that leads through its own destination may a directory be made there, too. -/
  destination : ∀ d ∈ ds, ∀ l, fs.Leads d l → r.1.files.get? l ≠ b.files.get? l →
    (∃ i h, op = .persist i ∧ r.2 = true ∧ b.handle? i = some h ∧
      fs.Leads h.staged.destination l ∧ r.1.files.get? l = some (.file h.written false)) ∨
    (op = .stage d ∧ fs.OnWay d l ∧ b.files.get? l = none ∧ r.1.files.get? l = some .directory)

/-! ## Every bench that is reached -/

/-- What holds of every bench that operations on files lead to, where the destinations are given by
their numbers. -/
structure Sound (fs : Files) (ds : List String) (b : Bench) : Prop where
  grounded : b.files.Grounded
  /-- The way to a directory that is needed, now or later, has the same links as at first. -/
  way : ∀ (i : Nat) d, ds[i]? = some d → b.handles[i]? ≠ some none → fs.SameWay d b.files
  destination : ∀ i h, b.handle? i = some h → ds[i]? = some h.staged.destination
  holds : ∀ i h, b.handle? i = some h → ∃ l, h.Holds l b.files
  own : ∀ i j h h' l, b.handle? i = some h → b.handle? j = some h' → h.Holds l b.files →
    h'.Holds l b.files → i = j

variable {fs : Files} {ds : List String} {b : Bench} {op : Operation} {r : Bench × Bool}
variable {i j : Nat} {h h' : Handle} {l : Location} {d d' : String}

/-- Destinations with different numbers are apart, in either order. -/
theorem apart_of_ne (hapart : ds.Pairwise fs.Apart) (hd : ds[i]? = some d) (hd' : ds[j]? = some d')
    (hne : i ≠ j) : fs.Apart d d' := by
  obtain ⟨hi, rfl⟩ := List.getElem?_eq_some_iff.1 hd
  obtain ⟨hj, rfl⟩ := List.getElem?_eq_some_iff.1 hd'
  rw [List.pairwise_iff_getElem] at hapart
  rcases Nat.lt_or_gt_of_ne hne with hlt | hgt
  · exact hapart i j hi hj hlt
  · exact (hapart j i hj hi hgt).symm

theorem ne_gone (hhandle : b.handle? i = some h) : b.handles[i]? ≠ some none := by
  intro hgone
  simp [handle?, hgone] at hhandle

namespace Sound

/-- The way to the directory of a staging file has the links that it had at first. -/
theorem way_handle (hsound : b.Sound fs ds) (hhandle : b.handle? i = some h) :
    fs.SameWay h.staged.destination b.files :=
  hsound.way i _ (hsound.destination i h hhandle) (ne_gone hhandle)

/-- Each operation ends in one of the ways, since every handle in use has its staging file. -/
theorem steps (hsound : b.Sound fs ds) (op : Operation) : b.Steps op (b.step op) :=
  steps_step hsound.grounded hsound.holds op

/-- Where a staging file is put in place, its destination has led from the start. -/
theorem leads (hsound : b.Sound fs ds) (hhandle : b.handle? i = some h)
    (hnames : b.files.Names h.staged.destination l) : fs.Leads h.staged.destination l :=
  (hsound.way_handle hhandle).symm.leads hnames.leads

/-- No destination leads to a staging file, neither its own nor that of another. -/
theorem not_leads (hsound : b.Sound fs ds) (hclear : b.Clear fs ds)
    (hhandle : b.handle? i = some h) (hholds : h.Holds l b.files) (hd : d ∈ ds) : ¬ fs.Leads d l :=
  hclear d hd i h l hhandle (hholds.beside.names hsound.grounded)

/-- The links on the way to a directory that is still needed stay. The only link that can be lost
is one at a destination, and that is not on the way of another one. -/
theorem way_step (hsound : b.Sound fs ds) (hapart : ds.Pairwise fs.Apart) (hsteps : b.Steps op r)
    (hd : ds[i]? = some d) (hneeded : r.1.handles[i]? ≠ some none) : fs.SameWay d r.1.files := by
  have hway := hsound.way i d hd fun hgone => hneeded (hsteps.stays_gone hgone)
  refine ⟨(hsteps.current hsound.grounded).trans hway.current, fun w hw target => ?_⟩
  rw [← hway.links w hw target]
  rcases hsteps.cause hsound.grounded w with heq | hcause
  · rw [heq]
  · rcases hcause.links with ⟨j, h, hop, -, hhandle, hnames⟩ | hlinks
    · have hne : j ≠ i := by
        rintro rfl
        exact hneeded (hsteps.gone_of_ends (.inl hop) hhandle)
      have happart := apart_of_ne hapart (hsound.destination j h hhandle) hd hne
      exact absurd hw ((happart w).1 (hsound.leads hhandle hnames))
    · exact hlinks target

/-- The staging file of a handle that nothing is done with is not changed. -/
theorem get?_step (hsound : b.Sound fs ds) (hclear : b.Clear fs ds) (hsteps : b.Steps op r)
    (hhandle : b.handle? i = some h) (hholds : h.Holds l b.files)
    (hop : op.handle? ≠ some i) : r.1.files.get? l = b.files.get? l := by
  rcases hsteps.cause hsound.grounded l with heq | hcause
  · exact heq
  · cases hcause with
    | directory _ _ hbefore => simp [hholds.file] at hbefore
    | staged hbefore => simp [hholds.file] at hbefore
    | own hop' hhandle' hholds' =>
      have hsame := hsound.own _ _ _ _ _ hhandle hhandle' hholds hholds'
      exact absurd (hsame ▸ hop') hop
    | placed _ _ hhandle' hnames =>
      have hd := List.mem_of_getElem? (hsound.destination _ _ hhandle')
      exact absurd (hsound.leads hhandle' hnames) (hsound.not_leads hclear hhandle hholds hd)

/-- Its staging file is where it was, and so is that of a handle that is written to. -/
theorem beside_step (hsound : b.Sound fs ds) (hapart : ds.Pairwise fs.Apart)
    (hsteps : b.Steps op r) (hhandle : b.handle? i = some h) (hholds : h.Holds l b.files)
    (hneeded : r.1.handles[i]? ≠ some none) : Beside h.staged l r.1.files := by
  have hway := hsound.way_step hapart hsteps (hsound.destination i h hhandle) hneeded
  exact hholds.beside.sameWay ((hsound.way_handle hhandle).symm.trans hway)
    (hsteps.directory hsound.grounded)

/-- Every handle in use has its file, which was its own before, or where nothing stood before it was
staged. -/
theorem holds_step (hsound : b.Sound fs ds) (hapart : ds.Pairwise fs.Apart)
    (hclear : b.Clear fs ds) (hsteps : b.Steps op r) (hhandle : r.1.handle? i = some h) :
    ∃ l, h.Holds l r.1.files ∧
      ((∃ h₀, b.handle? i = some h₀ ∧ h₀.staged = h.staged ∧ h₀.Holds l b.files) ∨
        (op = .stage h.staged.destination ∧ i = b.handles.length ∧ b.files.get? l = none)) := by
  cases hsteps.origin hsound.grounded hhandle with
  | kept hbefore hfile =>
    obtain ⟨l, hholds⟩ := hsound.holds i h hbefore
    have hsame : r.1.files.get? l = b.files.get? l := by
      rcases hfile with hop | hfiles
      · exact hsound.get?_step hclear hsteps hbefore hholds hop
      · rw [hfiles]
    exact ⟨l, ⟨hsound.beside_step hapart hsteps hbefore hholds (ne_gone hhandle),
      hsame.trans hholds.file⟩, .inl ⟨h, hbefore, rfl, hholds⟩⟩
  | @written h₀ l hbefore hholds hstaged hfile =>
    have hbeside := hsound.beside_step hapart hsteps hbefore hholds (ne_gone hhandle)
    exact ⟨l, ⟨hstaged ▸ hbeside, hfile⟩, .inl ⟨h₀, hbefore, hstaged, hholds⟩⟩
  | staged hop hi hbefore hholds => exact ⟨_, hholds, .inr ⟨hop, hi, hbefore⟩⟩

/-- The bench after an operation is sound. -/
theorem step (hsound : b.Sound fs ds) (hapart : ds.Pairwise fs.Apart) (hclear : b.Clear fs ds)
    (hsteps : b.Steps op r)
    (hnext : ∀ d, op = .stage d → ds[b.handles.length]? = some d) : r.1.Sound fs ds where
  grounded := hsteps.grounded hsound.grounded
  way i d hd hneeded := hsound.way_step hapart hsteps hd hneeded
  destination i h hhandle := by
    obtain ⟨l, -, ⟨h₀, hbefore, hstaged, -⟩ | ⟨hop, rfl, -⟩⟩ :=
      hsound.holds_step hapart hclear hsteps hhandle
    · rw [← hstaged]
      exact hsound.destination i h₀ hbefore
    · exact hnext _ hop
  holds i h hhandle := by
    obtain ⟨l, hholds, -⟩ := hsound.holds_step hapart hclear hsteps hhandle
    exact ⟨l, hholds⟩
  own i j h h' l hhandle hhandle' hholds hholds' := by
    have hgrounded := hsteps.grounded hsound.grounded
    obtain ⟨l₁, hl₁, hbefore⟩ := hsound.holds_step hapart hclear hsteps hhandle
    obtain ⟨l₂, hl₂, hbefore'⟩ := hsound.holds_step hapart hclear hsteps hhandle'
    obtain rfl := hl₁.unique hholds hgrounded
    obtain rfl := hl₂.unique hholds' hgrounded
    -- A file that was there cannot stand where nothing stood.
    rcases hbefore with ⟨h₁, hh₁, -, hs₁⟩ | ⟨-, rfl, hnone⟩ <;>
      rcases hbefore' with ⟨h₂, hh₂, -, hs₂⟩ | ⟨-, rfl, hnone'⟩
    · exact hsound.own i j h₁ h₂ _ hh₁ hh₂ hs₁ hs₂
    · simp [hs₁.file] at hnone'
    · simp [hs₂.file] at hnone
    · rfl

/-! ### What an operation does -/

/-- A new staging file is empty and stands where nothing stood. -/
theorem effect_staged (hsound : b.Sound fs ds) (hsteps : b.Steps (.stage d) r) (hok : r.2 = true) :
    ∃ h l, r.1.handles = b.handles ++ [some h] ∧ h.staged.destination = d ∧ h.written = [] ∧
      r.1.files.Names h.staged.path l ∧ b.files.get? l = none := by
  have hgrounded := hsteps.grounded hsound.grounded
  cases hsteps with
  | refused => simp at hok
  | staged hbeside hfree =>
    obtain ⟨hbefore, hholds⟩ := holds_staged hsound.grounded hbeside hfree
    exact ⟨_, _, rfl, rfl, rfl, hholds.beside.names hgrounded, hbefore⟩
  | idle hop => simp [Operation.handle?] at hop

/-- To write succeeds, and the handle has the new content. -/
theorem effect_written {content : Bytes} (hsteps : b.Steps (.write i content) r)
    (hhandle : b.handle? i = some h) :
    r.2 = true ∧ r.1.handle? i = some { h with written := content } := by
  cases hsteps with
  | written hhandle' =>
    obtain rfl := Option.some.inj (hhandle.symm.trans hhandle')
    exact ⟨rfl, (handle?_set hhandle ..).trans (if_pos rfl)⟩
  | idle hop hnone =>
    obtain rfl := Option.some.inj hop
    simp [hhandle] at hnone

/-- To look at a staging file changes nothing, and tells whether what was written to it last is a
PDF file. -/
theorem effect_validated {backend : String} (hsteps : b.Steps (.validate i backend) r)
    (hhandle : b.handle? i = some h) : r.1 = b ∧ (r.2 = true ↔ pdfMagic <+: h.written) := by
  cases hsteps with
  | validated hhandle' _ hok =>
    obtain rfl := Option.some.inj (hhandle.symm.trans hhandle')
    exact ⟨rfl, hok⟩
  | idle hop hnone =>
    obtain rfl := Option.some.inj hop
    simp [hhandle] at hnone

/-- What was written last stands where the destination led to at first. -/
theorem effect_placed (hsound : b.Sound fs ds) (hsteps : b.Steps (.persist i) r)
    (hok : r.2 = true) : ∃ h l, b.handle? i = some h ∧ fs.Leads h.staged.destination l ∧
      r.1.files.get? l = some (.file h.written false) := by
  cases hsteps with
  | placed hhandle hholds hnames =>
    exact ⟨_, _, hhandle, hsound.leads hhandle hnames, Files.get?_set_self _ hnames.ne_root _⟩
  | failed | idle => simp at hok

/-- The staging file itself is not the destination, so nothing is left of it. -/
theorem effect_gone (hsound : b.Sound fs ds) (hclear : b.Clear fs ds) (hsteps : b.Steps op r)
    (hop : op = .persist i ∨ op = .drop i) (hhandle : b.handle? i = some h)
    (hholds : h.Holds l b.files) : r.1.handle? i = none ∧ r.1.files.get? l = none := by
  have hne := (hholds.beside.names hsound.grounded).ne_root
  have hi : op.handle? = some i := by rcases hop with rfl | rfl <;> rfl
  refine ⟨by rw [handle?, hsteps.gone_of_ends hop hhandle]; rfl, ?_⟩
  cases hsteps with
  | placed hhandle' hholds' hnames =>
    obtain rfl := Option.some.inj hi
    obtain rfl := Option.some.inj (hhandle.symm.trans hhandle')
    obtain rfl := hholds.unique hholds' hsound.grounded
    have hd := List.mem_of_getElem? (hsound.destination _ _ hhandle)
    rw [Files.get?_set_of_ne, Files.get?_erase_self _ hne]
    rintro rfl
    exact hsound.not_leads hclear hhandle hholds hd (hsound.leads hhandle hnames)
  | failed hhandle' hholds' | dropped hhandle' hholds' =>
    obtain rfl := Option.some.inj hi
    obtain rfl := Option.some.inj (hhandle.symm.trans hhandle')
    obtain rfl := hholds.unique hholds' hsound.grounded
    exact Files.get?_erase_self _ hne
  | idle hop' hnone =>
    obtain rfl := Option.some.inj (hi.symm.trans hop')
    simp [hhandle] at hnone
  | _ => simp at hop

/-- Of the four causes of a change, two are about staging files, where no destination is. A directory
that is made is on the way of the path that it is made for. -/
theorem effect_destination (hsound : b.Sound fs ds) (hapart : ds.Pairwise fs.Apart)
    (hclear : b.Clear fs ds) (hclear' : r.1.Clear fs ds) (hsteps : b.Steps op r)
    (hnext : ∀ d, op = .stage d → ds[b.handles.length]? = some d)
    (hd : d ∈ ds) (hl : fs.Leads d l) (hchanged : r.1.files.get? l ≠ b.files.get? l) :
    (∃ i h, op = .persist i ∧ r.2 = true ∧ b.handle? i = some h ∧
      fs.Leads h.staged.destination l ∧ r.1.files.get? l = some (.file h.written false)) ∨
    (op = .stage d ∧ fs.OnWay d l ∧ b.files.get? l = none ∧ r.1.files.get? l = some .directory) := by
  rcases hsteps.cause hsound.grounded l with heq | hcause
  · exact absurd heq hchanged
  · cases hcause with
    | @directory d' hop hway hbefore hafter =>
      have hd' := hnext d' hop
      have hway' : fs.OnWay d' l := (hsound.way _ d' hd' (by simp)).symm.onWay hway
      obtain ⟨k, hk⟩ := List.mem_iff_getElem?.1 hd
      by_cases hne : k = b.handles.length
      · obtain rfl : d = d' := by
          rw [hne, hd'] at hk
          exact (Option.some.inj hk).symm
        exact .inr ⟨hop, hway', hbefore, hafter⟩
      · exact absurd hway' ((apart_of_ne hapart hk hd' hne l).1 hl)
    | staged _ hhandle hholds =>
      have hnames := hholds.beside.names (hsteps.grounded hsound.grounded)
      exact absurd hl (hclear' d hd _ _ l hhandle hnames)
    | own _ hhandle hholds => exact absurd hl (hsound.not_leads hclear hhandle hholds hd)
    | placed hop hok hhandle hnames _ hafter =>
      exact .inl ⟨_, _, hop, hok, hhandle, hsound.leads hhandle hnames, hafter⟩

/-- What an operation does to a sound bench, if no destination leads to a staging file in use before
or afterwards. -/
theorem effect (hsound : b.Sound fs ds) (hapart : ds.Pairwise fs.Apart) (hclear : b.Clear fs ds)
    (hclear' : r.1.Clear fs ds) (hsteps : b.Steps op r)
    (hnext : ∀ d, op = .stage d → ds[b.handles.length]? = some d) : b.Effect fs ds op r := by
  have hgrounded := hsteps.grounded hsound.grounded
  have hlocation {i : Nat} {h : Handle} {l : Location} (hhandle : b.handle? i = some h)
      (hnames : b.files.Names h.staged.path l) : h.Holds l b.files := by
    obtain ⟨l', hholds⟩ := hsound.holds i h hhandle
    obtain rfl := (hholds.beside.names hsound.grounded).unique hnames
    exact hholds
  constructor
  case staged =>
    rintro d rfl hok
    exact hsound.effect_staged hsteps hok
  case written =>
    rintro i content h rfl hhandle
    exact effect_written hsteps hhandle
  case validated =>
    rintro i backend h rfl hhandle
    exact effect_validated hsteps hhandle
  case gone =>
    intro i h l hop hhandle hnames
    exact hsound.effect_gone hclear hsteps hop hhandle (hlocation hhandle hnames)
  case others =>
    intro i h l hop hhandle hnames
    have hholds := hlocation hhandle hnames
    have hstays := hsteps.handle?_of_ne hhandle hop
    have hbeside := hsound.beside_step hapart hsteps hhandle hholds (ne_gone hstays)
    exact ⟨hstays, hbeside.names hgrounded, hsound.get?_step hclear hsteps hhandle hholds hop⟩
  case placed =>
    rintro i rfl hok
    exact hsound.effect_placed hsteps hok
  case destination =>
    intro d hd l hl hchanged
    exact hsound.effect_destination hapart hclear hclear' hsteps hnext hd hl hchanged

end Sound

/-! ## Runs -/

/-- Each staging file that is asked for gets a number, also if it is refused. -/
theorem Steps.length (hsteps : b.Steps op r) :
    r.1.handles.length = b.handles.length + (destinations [op]).length := by
  cases hsteps with
  | refused | staged => simp [destinations, Operation.destination?]
  | written | validated | placed | failed | dropped => simp [destinations, Operation.destination?]
  | idle hop =>
    cases op <;> simp_all [destinations, Operation.destination?, Operation.handle?]

/-- The last of several operations is done on what those before it lead to. -/
theorem after_concat (fs : Files) (ops : List Operation) (op : Operation) :
    after fs (ops ++ [op]) = ((after fs ops).step op).1 := by
  simp [after]

/-- The numbers go on through several rows of operations. -/
theorem destinations_append (ops ops' : List Operation) :
    destinations (ops ++ ops') = destinations ops ++ destinations ops' :=
  List.filterMap_append

/-- At first there are no handles. -/
theorem sound_nil (hfs : fs.Grounded) (ds : List String) : (after fs []).Sound fs ds where
  grounded := hfs
  way _ d _ _ := .refl fs d
  destination i h hhandle := by simp [after, handle?] at hhandle
  holds i h hhandle := by simp [after, handle?] at hhandle
  own i j h h' l hhandle := by simp [after, handle?] at hhandle

/-- The next destination has the next number. -/
theorem next_destination {ops : List Operation}
    (hlength : b.handles.length = (destinations ops).length)
    (hds : destinations (ops ++ [.stage d]) <+: ds) : ds[b.handles.length]? = some d := by
  obtain ⟨rest, rfl⟩ := hds
  rw [hlength, destinations_append, List.append_assoc, List.getElem?_append_right (Nat.le_refl _)]
  simp [destinations, Operation.destination?]

/-- All benches that are reached are sound. The induction is on the operations, from the last one
back. -/
theorem sound_after (hfs : fs.Grounded) (hapart : ds.Pairwise fs.Apart) {ops : List Operation}
    (hds : destinations ops <+: ds) (hclear : ∀ ops', ops' <+: ops → (after fs ops').Clear fs ds) :
    (after fs ops).Sound fs ds ∧ (after fs ops).handles.length = (destinations ops).length := by
  induction ops using List.reverseRecOn with
  | nil => exact ⟨sound_nil hfs ds, rfl⟩
  | append_singleton ops op ih =>
    have hstart : ops <+: ops ++ [op] := List.prefix_append ops [op]
    have hdestinations : destinations ops <+: ds := by
      rw [destinations_append] at hds
      exact (List.prefix_append ..).trans hds
    obtain ⟨hsound, hlength⟩ := ih hdestinations fun ops' hops' => hclear ops' (hops'.trans hstart)
    have hsteps := hsound.steps op
    rw [after_concat]
    refine ⟨hsound.step hapart (hclear ops hstart) hsteps fun d hop => ?_, ?_⟩
    · exact next_destination hlength (hop ▸ hds)
    · rw [hsteps.length, hlength, destinations_append, List.length_append]

/-- The staging files of such a bench are separate. -/
theorem Sound.separate (hsound : b.Sound fs ds) : b.Separate where
  file i h hhandle := by
    obtain ⟨l, hholds⟩ := hsound.holds i h hhandle
    exact ⟨l, hholds.beside.names hsound.grounded, hholds.beside.directory, hholds.file⟩
  distinct i j h h' l hhandle hhandle' hnames hnames' := by
    obtain ⟨l₁, hholds⟩ := hsound.holds i h hhandle
    obtain ⟨l₂, hholds'⟩ := hsound.holds j h' hhandle'
    obtain rfl := (hholds.beside.names hsound.grounded).unique hnames
    obtain rfl := (hholds'.beside.names hsound.grounded).unique hnames'
    exact hsound.own i j h h' _ hhandle hhandle' hholds hholds'

/-! ## Names -/

/-- The paths of all staging files in use end in numbered names. -/
def Named (b : Bench) : Prop :=
  ∀ i h, b.handle? i = some h → ∃ n, (namedSegments h.staged.path).getLast? =
    some (numberedName stagingStart stagingEnd n)

/-- A new staging file has a numbered name, and no operation gives a handle another path. -/
theorem named_step (hnamed : b.Named) (op : Operation) : (b.step op).1.Named := by
  -- A handle may get other content or go, but keeps its path.
  have hset {k : Nat} {h : Handle} (hhandle : b.handle? k = some h) (fs : Files)
      (x : Option Handle) (hx : ∀ h' ∈ x, h'.staged = h.staged) :
      (Bench.mk fs (b.handles.set k x)).Named := by
    intro i h' hh'
    rw [handle?_set hhandle] at hh'
    split at hh'
    · rw [hx h' hh']
      exact hnamed k h hhandle
    · exact hnamed i h' hh'
  cases op with
  | stage destination =>
    rw [step]
    rcases hstage : (stage destination).run.run b.files with ⟨failure | staged, files⟩ <;>
      intro i h hhandle <;> rw [handle?_concat] at hhandle <;> split at hhandle
    · contradiction
    · exact hnamed i h hhandle
    · cases hhandle
      exact stage_name hstage
    · exact hnamed i h hhandle
  | write i content =>
    rw [step]
    cases hhandle : b.handle? i with
    | none => exact hnamed
    | some h =>
      cases hwrite : b.files.writeFile h.staged.path content with
      | ok files => simpa only [hwrite] using hset hhandle files _ (by simp)
      | error e => simpa only [hwrite] using hnamed
  | validate i backend =>
    rw [step]
    cases b.handle? i <;> exact hnamed
  | persist i | drop i =>
    rw [step]
    cases hhandle : b.handle? i with
    | none => exact hnamed
    | some h => exact hset hhandle _ none (by simp)

/-- All staging files have numbered names. -/
theorem named_after (fs : Files) (ops : List Operation) : (after fs ops).Named := by
  induction ops using List.reverseRecOn with
  | nil => exact fun i h hhandle => by simp [after, handle?] at hhandle
  | append_singleton ops op ih =>
    rw [after_concat]
    exact named_step ih op

/-- A destination with any other name leads to no staging file. -/
theorem clear_after (hds : ∀ d ∈ ds, ∀ n,
    (namedSegments d).getLast? ≠ some (numberedName stagingStart stagingEnd n))
    (fs : Files) (ops : List Operation) : (after fs ops).Clear fs ds := by
  intro d hd i h l hhandle hnames hleads
  obtain ⟨n, hn⟩ := named_after fs ops i h hhandle
  obtain ⟨_, name, -, -, -, hlast, -, rfl⟩ := Files.names_iff.1 hnames
  obtain ⟨_, name', -, hlast', -, heq⟩ := hleads
  have hname := (List.append_inj' heq rfl).2
  rw [List.singleton_inj] at hname
  rw [hlast, hname, ← hlast'] at hn
  exact hds d hd n hn

/-! ## The protocol -/

/-- Whatever operations are done in whatever order, each handle in use has a staging file of its own,
and each operation changes that file, a destination, or nothing. The destinations must be apart, and
none of them may lead to a staging file in use. -/
theorem separate_effect (fs : Files) (ops : List Operation) (op : Operation) (hfs : fs.Grounded)
    (hapart : (destinations (ops ++ [op])).Pairwise fs.Apart)
    (hclear : ∀ ops', ops' <+: ops ++ [op] →
      (after fs ops').Clear fs (destinations (ops ++ [op]))) :
    (after fs (ops ++ [op])).Separate ∧
      (after fs ops).Effect fs (destinations (ops ++ [op])) op ((after fs ops).step op) := by
  have hstart : ops <+: ops ++ [op] := List.prefix_append ops [op]
  have hdestinations : destinations ops <+: destinations (ops ++ [op]) := by
    rw [destinations_append]
    exact List.prefix_append ..
  obtain ⟨hsound, hlength⟩ := sound_after hfs hapart hdestinations
    fun ops' hops' => hclear ops' (hops'.trans hstart)
  have hclear' := hclear _ (List.prefix_refl _)
  rw [after_concat] at hclear'
  refine ⟨(sound_after hfs hapart (List.prefix_refl _) hclear).1.separate, ?_⟩
  exact hsound.effect hapart (hclear ops hstart) hclear' (hsound.steps op)
    fun d hop => next_destination hlength (hop ▸ List.prefix_refl _)

/-- Two staging files for one destination, of which the first has been written to. -/
theorem after_shared : ∃ fs, after (Sample.files [1])
      [.stage "b.pdf", .stage "b.pdf", .write 0 pdfMagic] =
        ⟨fs, [some ⟨⟨"/./.md2pdf-000000.pdf", "b.pdf"⟩, pdfMagic⟩,
          some ⟨⟨"/./.md2pdf-000001.pdf", "b.pdf"⟩, []⟩]⟩ ∧
      (Sample.files [1]).KeepsTree fs ∧
      fs.Names "/./.md2pdf-000000.pdf" [".md2pdf-000000.pdf"] ∧
      fs.get? [".md2pdf-000000.pdf"] = some (.file pdfMagic false) ∧
      fs.Names "/./.md2pdf-000001.pdf" [".md2pdf-000001.pdf"] ∧
      fs.get? [".md2pdf-000001.pdf"] = some (.file [] false) ∧
      fs.get? ["b.pdf"] = some (.file [1] false) := by
  have hroom := Sample.room [1] [] none ""
  have hkeeps := hroom.keepsTree [] false
  have hcheck : Files.checkPath "/./.md2pdf-000001.pdf" = .ok () :=
    Files.checkPath_eq_ok_iff.2 (by decide)
  obtain ⟨hstaged, hstage⟩ := @Sample.stage_here _ ".md2pdf-000001.pdf" "/./.md2pdf-000001.pdf"
    ((Sample.grounded [1]).keepsTree hkeeps)
    ((Sample.grounded [1]).keepsTree hkeeps).resolve_here (by decide +kernel)
    ⟨by decide, by decide, by decide⟩ (by decide +kernel) hcheck
  have hset := Files.SameOff.set [".md2pdf-000001.pdf"] (.file [] false)
    ((Sample.files [1]).set [".md2pdf-000000.pdf"] (.file [] false))
  have hkeeps' := hkeeps.trans (hset.keepsTree_of_none hstaged.free)
  have hnames := hroom.names.keepsTree hkeeps'
  have hfile := (hset.entry [".md2pdf-000000.pdf"] (by decide)).trans
    (Files.get?_set_self _ hnames.ne_root _)
  have hwrite := Files.writeFile_of_file hnames hroom.slash hfile pdfMagic
  have hset' := Files.SameOff.set [".md2pdf-000000.pdf"] (.file pdfMagic false)
    (Files.set [".md2pdf-000001.pdf"] (.file [] false)
      ((Sample.files [1]).set [".md2pdf-000000.pdf"] (.file [] false)))
  have hkeeps'' := hset'.keepsTree_of_file hfile
  have hfirst : (stage "b.pdf").run.run (Sample.files [1]) = _ := hroom.stage
  refine ⟨_, ?_, hkeeps'.trans hkeeps'', hnames.keepsTree hkeeps'',
    Files.get?_set_self _ (by simp) _, ?_, ?_, ?_⟩
  · simp [after, step, hfirst, hstage, handle?, hwrite]
  · exact hstaged.names.keepsTree ((hset.keepsTree_of_none hstaged.free).trans hkeeps'')
  · rw [hset'.entry _ (by decide), Files.get?_set_self _ (by simp)]
  · simp [Files.set, Files.erase, Sample.files, Files.get?, List.lookup_cons]

/-- The first of two staging files for one destination is put in place, and the other one stays. -/
theorem separate_effect_shared :
    let fs := Sample.files [1]
    let ops := [.stage "b.pdf", .stage "b.pdf", .write 0 pdfMagic]
    let ds := destinations (ops ++ [.persist 0])
    let r := (after fs ops).step (.persist 0)
    fs.Grounded ∧ ds.Pairwise fs.Apart ∧
      (∀ ops', ops' <+: ops ++ [.persist 0] → (after fs ops').Clear fs ds) ∧ r.2 = true ∧
      r.1.files.get? ["b.pdf"] = some (.file pdfMagic false) ∧
      ∃ l, r.1.files.Names "/./.md2pdf-000001.pdf" l ∧ r.1.files.get? l = some (.file [] false) := by
  intro fs ops ds r
  have hfs := Sample.grounded [1]
  have hds : ds = ["b.pdf", "b.pdf"] := rfl
  have hapart : ds.Pairwise fs.Apart := by
    have hway (l : Location) : ¬ fs.OnWay "b.pdf" l := Files.not_onWay_of_dropLast (by decide)
    rw [hds, List.pairwise_pair]
    exact fun l => ⟨fun _ => hway l, fun _ => hway l⟩
  have hclear (ops' : List Operation) : (after fs ops').Clear fs ds := by
    refine clear_after (fun d hd n hlast => ?_) fs ops'
    obtain rfl : d = "b.pdf" := by simpa [hds] using hd
    -- The names of staging files begin with a point.
    have hfirst := congrArg (Option.map fun name => name.toList.head?) hlast
    rw [show (namedSegments "b.pdf").getLast? = some "b.pdf" by decide] at hfirst
    simp [numberedName, stagingStart] at hfirst
  obtain ⟨-, heffect⟩ := separate_effect fs ops (.persist 0) hfs hapart fun ops' _ => hclear ops'
  -- What the first operations come to is computed, and the rest follows from the theorem.
  obtain ⟨fs', hafter, hkeeps, hnames, hfile, hnames', hfile', hdocument⟩ := after_shared
  have hok : r.2 = true := by
    have hpersist := @persist_of_names _ _ ⟨_, "b.pdf"⟩ _ _ hnames hfile
      ((Sample.names [1]).keepsTree hkeeps) (by decide +kernel) (by simp [hdocument])
    simp only [r, fs, ops, hafter, step, handle?]
    simp [hpersist, Except.toBool]
  change Effect fs ds (after fs ops) (.persist 0) r at heffect
  rw [show after fs ops = _ from hafter] at heffect
  obtain ⟨-, hnames'', hsame⟩ := heffect.others 1 _ _ (by decide) rfl hnames'
  obtain ⟨h, l, hhandle, hleads, hplaced⟩ := heffect.placed 0 rfl hok
  obtain rfl := Option.some.inj hhandle
  obtain rfl := (Sample.names [1]).leads.unique hleads
  exact ⟨hfs, hapart, fun ops' _ => hclear ops', hok, hplaced, _, hnames'', hsame.trans hfile'⟩

end Bench

end DocPress.Conversion
