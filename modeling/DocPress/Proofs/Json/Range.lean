import DocPress.Json.Format

/-!
# DocPress.Proofs.Json.Range

Whatever a reader gives holds no natural number above those that are kept exactly (`InRange`): the
scanner of numbers gives none, and the readers put together what they have read. There is one lemma
for each reader that a number can come through.
-/

namespace DocPress.Json

variable {α β : Type} {v w : Value} {items : List Value} {n : Nat} {P : α → Prop} {Q : β → Prop}
  {text rest : List Char} {depth : Nat}

/-! ## Values in range -/

/-- The natural numbers of the value are kept exactly. -/
inductive InRange : Value → Prop
  | null : InRange .null
  | bool (b : Bool) : InRange (.bool b)
  | natural {n : Nat} (h : n ≤ maxNatural) : InRange (.natural n)
  | otherNumber (literal : String) : InRange (.otherNumber literal)
  | string (text : String) : InRange (.string text)
  | array {items : List Value} (h : ∀ v ∈ items, InRange v) : InRange (.array items)
  | object {fields : List (String × Value)} (h : ∀ f ∈ fields, InRange f.2) :
    InRange (.object fields)

/-- The values of the fields are in range. -/
def FieldsInRange (fields : List (String × Value)) : Prop :=
  ∀ f ∈ fields, InRange f.2

theorem inRange_natural_iff : InRange (.natural n) ↔ n ≤ maxNatural :=
  ⟨fun h => by cases h; assumption, .natural⟩

theorem inRange_array_iff : InRange (.array items) ↔ ∀ v ∈ items, InRange v :=
  ⟨fun h => by cases h; assumption, .array⟩

theorem inRange_object_iff {fields : List (String × Value)} :
    InRange (.object fields) ↔ FieldsInRange fields :=
  ⟨fun h => by cases h; assumption, .object⟩

theorem fieldsInRange_nil : FieldsInRange [] := by
  intro f hf
  cases hf

theorem fieldsInRange_cons_iff {name : String} {fields : List (String × Value)} :
    FieldsInRange ((name, v) :: fields) ↔ InRange v ∧ FieldsInRange fields :=
  List.forall_mem_cons

/-- The readers gather the fields in reverse, which makes no difference. -/
theorem FieldsInRange.reverse {fields : List (String × Value)} (h : FieldsInRange fields) :
    FieldsInRange fields.reverse :=
  fun f hf => h f (List.mem_reverse.1 hf)

/-- What is found under a name is the value of a field. -/
theorem FieldsInRange.of_lookup {fields : List (String × Value)} {name : String}
    (h : FieldsInRange fields) (hlookup : fields.lookup name = some v) : InRange v := by
  obtain ⟨l₁, l₂, rfl, -⟩ := List.lookup_eq_some_iff.1 hlookup
  exact h (name, v) (List.mem_append_right _ (List.mem_cons_self ..))

/-! ## What a reader gives -/

/-- If anything is read, it has the property. -/
def Yields (P : α → Prop) (x : Except Fault (α × List Char)) : Prop :=
  ∀ a rest, x = .ok (a, rest) → P a

theorem yields_error (fault : Fault) : Yields P (.error fault) := by
  intro a rest h
  cases h

/-- A reader that ends with a value gives that value. -/
theorem yields_ok {a : α} (h : P a) (rest : List Char) : Yields P (.ok (a, rest)) := by
  intro b rest' heq
  cases heq
  exact h

/-- If two steps in a row succeed, the first one does, and the second one on its result. -/
theorem exists_of_bind_eq_ok {x : Except Fault β} {f : β → Except Fault α} {a : α}
    (h : x >>= f = .ok a) : ∃ b, x = .ok b ∧ f b = .ok a := by
  cases x with
  | error fault => cases h
  | ok b => exact ⟨b, rfl, h⟩

/-- Only what the second of two steps gives matters. -/
theorem yields_bind {γ : Type} {x : Except Fault γ} {f : γ → Except Fault (α × List Char)}
    (h : ∀ c, x = .ok c → Yields P (f c)) : Yields P (x >>= f) := by
  intro a rest heq
  obtain ⟨c, hc, heq⟩ := exists_of_bind_eq_ok heq
  exact h c hc a rest heq

/-- The second step may rely on what the first one gives. -/
theorem Yields.bind {x : Except Fault (β × List Char)}
    {f : β × List Char → Except Fault (α × List Char)} (hx : Yields Q x)
    (h : ∀ b rest, Q b → Yields P (f (b, rest))) : Yields P (x >>= f) :=
  yields_bind fun (b, rest) heq => h b rest (hx b rest heq)

/-- What is made of a result has the property, if it does whatever it is made of. -/
theorem yields_map {x : Except Fault (β × List Char)} {f : β × List Char → α × List Char}
    (h : ∀ b, P (f b).1) : Yields P (x.map f) := by
  intro a rest heq
  cases x with
  | error fault => cases heq
  | ok b =>
    have hb := h b
    rw [Except.ok.inj heq] at hb
    exact hb

/-- The reader gives values in range only. -/
def ReadsInRange (read : Reader) : Prop :=
  ∀ depth text, Yields InRange (read depth text)

/-! ## Values without others -/

/-- The scanner of numbers tests that a natural number is kept exactly before it gives one; any
other number keeps its literal. -/
theorem yields_scanNumber (negative : Bool) (text : List Char) :
    Yields InRange (scanNumber negative text) := by
  unfold scanNumber
  refine yields_bind fun (digits, rest) _ => yields_bind fun (fraction, rest) _ =>
    yields_bind fun (exponent, rest) _ => ?_
  dsimp only
  split
  · exact yields_error _
  split
  · next h =>
    rw [Bool.and_eq_true, decide_eq_true_eq] at h
    exact yields_ok (.natural h.2) _
  · exact yields_ok (.otherNumber _) _

/-- Each kind of value without others is in range. -/
theorem yields_scanScalar? {c : Char} {answer : Except Fault (Value × List Char)}
    (h : scanScalar? c text = some answer) : Yields InRange answer := by
  unfold scanScalar? at h
  split at h
  · cases h; exact yields_map fun _ => .null
  · cases h; exact yields_map fun _ => .bool true
  · cases h; exact yields_map fun _ => .bool false
  · cases h; exact yields_map fun _ => .string _
  · cases h; exact yields_scanNumber _ _
  · split at h
    · cases h; exact yields_scanNumber _ _
    · cases h

/-- A reader of values without others, whichever it takes. -/
theorem readsInRange_scalar (isGood : Value → Bool) : ReadsInRange (readScalar isGood) := by
  intro depth text
  unfold readScalar
  split
  · exact yields_error _
  split
  · next hscan =>
    split
    · exact yields_ok (yields_scanScalar? hscan _ _ rfl) _
    · exact yields_error _
  · exact yields_error _
  · exact yields_error _

/-! ## Values of any shape -/

mutual

/-- Values, items and fields call each other, so they are proved in range together; the recursion is
on the fuel. -/
theorem yields_readValueFrom (fuel depth : Nat) (text : List Char) :
    Yields InRange (readValueFrom fuel depth text) := by
  cases fuel with
  | zero => exact yields_error _
  | succ fuel =>
    unfold readValueFrom
    split
    · exact yields_error _
    · split
      · exact yields_error _
      · exact yields_readItemsFrom fuel true _ (by simp) _
    · split
      · exact yields_error _
      · exact yields_readFieldsFrom fuel true _ fieldsInRange_nil _
    · next c rest _ _ _ =>
      cases hscan : scanScalar? c rest with
      | none => exact yields_error _
      | some answer => exact yields_scanScalar? hscan

/-- Items in range are put behind such items. -/
theorem yields_readItemsFrom (fuel : Nat) (first : Bool) (depth : Nat) {done : List Value}
    (h : ∀ v ∈ done, InRange v) (text : List Char) :
    Yields InRange (readItemsFrom fuel first depth done text) := by
  cases fuel with
  | zero => exact yields_error _
  | succ fuel =>
    unfold readItemsFrom
    refine yields_bind fun (more, rest) _ => ?_
    cases more with
    | true =>
      exact (yields_readValueFrom fuel depth rest).bind fun v rest hv =>
        yields_readItemsFrom fuel false depth (List.forall_mem_cons.2 ⟨hv, h⟩) rest
    | false => exact yields_ok (.array fun v hv => h v (List.mem_reverse.1 hv)) _

/-- Fields in range are put behind such fields. -/
theorem yields_readFieldsFrom (fuel : Nat) (first : Bool) (depth : Nat)
    {done : List (String × Value)} (h : FieldsInRange done) (text : List Char) :
    Yields InRange (readFieldsFrom fuel first depth done text) := by
  cases fuel with
  | zero => exact yields_error _
  | succ fuel =>
    unfold readFieldsFrom
    refine yields_bind fun (more, rest) _ => ?_
    cases more with
    | true =>
      refine yields_bind fun (key, rest) _ => yields_bind fun (_, rest) _ => ?_
      exact (yields_readValueFrom fuel depth rest).bind fun v rest hv =>
        yields_readFieldsFrom fuel false depth (fieldsInRange_cons_iff.2 ⟨hv, h⟩) rest
    | false => exact yields_ok (.object h.reverse) _

end

theorem readsInRange_value : ReadsInRange readValue :=
  fun depth text => yields_readValueFrom _ depth text

/-! ## Arrays -/

/-- The items of a list are what its reader gives, one after the other. -/
theorem yields_readListFrom {read : Reader} (hread : ReadsInRange read) (fuel : Nat) (first : Bool)
    {done : List Value} (h : ∀ v ∈ done, InRange v) (text : List Char) :
    Yields InRange (readListFrom read depth fuel first done text) := by
  induction fuel generalizing first done text with
  | zero => exact yields_error _
  | succ fuel ih =>
    refine yields_bind fun (more, rest) _ => ?_
    cases more with
    | true =>
      exact (hread depth rest).bind fun v rest hv =>
        ih false (List.forall_mem_cons.2 ⟨hv, h⟩) rest
    | false => exact yields_ok (.array fun v hv => h v (List.mem_reverse.1 hv)) _

/-- A list is in range if the reader of its items gives such values only. -/
theorem ReadsInRange.list {read : Reader} (h : ReadsInRange read) :
    ReadsInRange (readList read) := by
  intro depth text
  unfold readList
  split
  · exact yields_error _
  · exact yields_readListFrom h _ true (by simp) _
  · exact yields_error _

/-! ## Records -/

section Record

variable {fields : List Field}

/-- The fields of a record are among those found, or null where one may be left out. -/
theorem fieldsInRange_collectFields {found all : List (String × Value)}
    (hfound : FieldsInRange found)
    (h : collectFields found fields = .ok all) : FieldsInRange all := by
  induction fields generalizing all with
  | nil =>
    cases h
    exact fieldsInRange_nil
  | cons f fields ih =>
    have hcons (v : Value) (hv : InRange v)
        (h : (collectFields found fields >>= fun others => .ok ((f.name, v) :: others)) = .ok all) :
        FieldsInRange all := by
      obtain ⟨others, hothers, h⟩ := exists_of_bind_eq_ok h
      cases h
      exact fieldsInRange_cons_iff.2 ⟨hv, ih hothers⟩
    rw [collectFields] at h
    split at h
    · next v hlookup => exact hcons v (hfound.of_lookup hlookup) h
    · split at h
      · exact hcons .null .null h
      · cases h

/-- The fields of a record that is written as an object: a field is read by its own reader, and one
with another name is passed over. -/
theorem yields_readFields (hfields : ∀ f ∈ fields, ReadsInRange f.read) (fuel : Nat) (first : Bool)
    {found : List (String × Value)} (hfound : FieldsInRange found) (text : List Char) :
    Yields InRange (readFields fields depth fuel first found text) := by
  induction fuel generalizing first found text with
  | zero => exact yields_error _
  | succ fuel ih =>
    refine yields_bind fun (more, rest) _ => ?_
    cases more with
    | true =>
      refine yields_bind fun (key, rest) _ => ?_
      simp only
      split
      · next f hfind =>
        split
        · exact yields_error _
        · refine yields_bind fun (_, rest) _ => ?_
          exact (hfields f (List.mem_of_find?_eq_some hfind) depth rest).bind fun v rest hv =>
            ih false (fieldsInRange_cons_iff.2 ⟨hv, hfound⟩) rest
      · exact yields_bind fun (_, rest) _ => yields_bind fun (_, rest) _ => ih false hfound rest
    | false =>
      exact yields_bind fun all hall =>
        yields_ok (.object (fieldsInRange_collectFields hfound hall)) _

/-- The fields of a record that is written as an array are read in order. -/
theorem yields_readElements (hfields : ∀ f ∈ fields, ReadsInRange f.read) (first : Bool)
    {done : List (String × Value)} (hdone : FieldsInRange done) (text : List Char) :
    Yields InRange (readElements depth first done fields text) := by
  induction fields generalizing first done text with
  | nil => exact yields_bind fun (_, rest) _ => yields_ok (.object hdone.reverse) _
  | cons f fields ih =>
    obtain ⟨hf, hfields⟩ := List.forall_mem_cons.1 hfields
    refine yields_bind fun (more, rest) _ => ?_
    cases more with
    | true =>
      exact (hf depth rest).bind fun v rest hv =>
        ih hfields false (fieldsInRange_cons_iff.2 ⟨hv, hdone⟩) rest
    | false => exact yields_error _

/-- A record is in range, in either form, if the readers of its fields give such values only. -/
theorem readsInRange_record (h : ∀ f ∈ fields, ReadsInRange f.read) :
    ReadsInRange (readRecord fields) := by
  intro depth text
  unfold readRecord
  split
  · exact yields_error _
  · exact yields_readElements h true fieldsInRange_nil _
  · exact yields_readFields h _ true fieldsInRange_nil _
  · exact yields_error _

end Record

/-! ## Tagged records -/

/-- The fit makes values in range out of such values. -/
def KeepsRange (fit : Fit) : Prop :=
  ∀ v w, fit v = some w → InRange v → InRange w

/-- A fit of values without others takes them as they are. -/
theorem keepsRange_scalar (isGood : Value → Bool) : KeepsRange (fitScalar isGood) := by
  intro v w h hv
  unfold fitScalar at h
  split at h
  · cases h
    exact hv
  · cases h

section Fits

variable {kinds : List FitField}

/-- The fields that fit are made of the values of fields that were given, or null. -/
theorem fieldsInRange_fitFields (hkinds : ∀ k ∈ kinds, KeepsRange k.fit)
    {given fitted : List (String × Value)} (hgiven : FieldsInRange given)
    (h : fitFields given kinds = some fitted) : FieldsInRange fitted := by
  induction kinds generalizing fitted with
  | nil =>
    cases h
    exact fieldsInRange_nil
  | cons k kinds ih =>
    obtain ⟨hk, hkinds⟩ := List.forall_mem_cons.1 hkinds
    have hcons (v : Value) (hv : InRange v)
        (h : ((fitFields given kinds).bind fun others => some ((k.name, v) :: others)) =
          some fitted) : FieldsInRange fitted := by
      obtain ⟨others, hothers, h⟩ := Option.bind_eq_some_iff.1 h
      cases h
      exact fieldsInRange_cons_iff.2 ⟨hv, ih hkinds hothers⟩
    rw [fitFields] at h
    split at h
    · next value heq =>
      obtain ⟨f, hf, rfl⟩ := List.mem_map.1 (heq ▸ List.mem_singleton_self value)
      obtain ⟨v, hv, h⟩ := Option.bind_eq_some_iff.1 h
      exact hcons v (hk _ v hv (hgiven f (List.mem_filter.1 hf).1)) h
    · split at h
      · exact hcons .null .null h
      · cases h
    · cases h

/-- The items that fit are made of items that were given. -/
theorem fieldsInRange_fitElements (hkinds : ∀ k ∈ kinds, KeepsRange k.fit)
    {fitted : List (String × Value)} (hitems : ∀ v ∈ items, InRange v)
    (h : fitElements kinds items = some fitted) : FieldsInRange fitted := by
  induction kinds generalizing items fitted with
  | nil =>
    cases items with
    | nil =>
      cases h
      exact fieldsInRange_nil
    | cons item items => cases h
  | cons k kinds ih =>
    cases items with
    | nil => cases h
    | cons item items =>
      obtain ⟨hk, hkinds⟩ := List.forall_mem_cons.1 hkinds
      obtain ⟨hitem, hitems⟩ := List.forall_mem_cons.1 hitems
      rw [fitElements] at h
      obtain ⟨v, hv, h⟩ := Option.bind_eq_some_iff.1 h
      obtain ⟨others, hothers, h⟩ := Option.bind_eq_some_iff.1 h
      cases h
      exact fieldsInRange_cons_iff.2 ⟨hk item v hv hitem, ih hkinds hitems hothers⟩

/-- A record keeps the range if the fits of its fields do. -/
theorem keepsRange_record (h : ∀ k ∈ kinds, KeepsRange k.fit) : KeepsRange (fitRecord kinds) := by
  intro v w hfit hv
  unfold fitRecord at hfit
  split at hfit
  · obtain ⟨fitted, hfitted, rfl⟩ := Option.map_eq_some_iff.1 hfit
    exact .object (fieldsInRange_fitFields h (inRange_object_iff.1 hv) hfitted)
  · obtain ⟨fitted, hfitted, rfl⟩ := Option.map_eq_some_iff.1 hfit
    exact .object (fieldsInRange_fitElements h (inRange_array_iff.1 hv) hfitted)
  · cases hfit

end Fits

/-- The case that is found under a name is one of the cases. -/
theorem keepsRange_of_lookup {cases : List (String × List FitField)} {name : String}
    {kinds : List FitField} (h : ∀ c ∈ cases, ∀ k ∈ c.2, KeepsRange k.fit)
    (hlookup : cases.lookup name = some kinds) : KeepsRange (fitRecord kinds) := by
  obtain ⟨l₁, l₂, rfl, -⟩ := List.lookup_eq_some_iff.1 hlookup
  exact keepsRange_record (h (name, kinds) (List.mem_append_right _ (List.mem_cons_self ..)))

/-- A variant keeps the range if the fields of each of its cases do. -/
theorem keepsRange_variant {cases : List (String × List FitField)}
    (h : ∀ c ∈ cases, ∀ k ∈ c.2, KeepsRange k.fit) : KeepsRange (fitVariant cases) := by
  intro v w hfit hv
  unfold fitVariant at hfit
  split at hfit
  · next name content =>
    obtain ⟨kinds, hkinds, hfit⟩ := Option.bind_eq_some_iff.1 hfit
    obtain ⟨record, hrecord, hfit⟩ := Option.bind_eq_some_iff.1 hfit
    cases hfit
    have hcontent := inRange_object_iff.1 hv (name, content) (List.mem_singleton_self _)
    exact .object (fieldsInRange_cons_iff.2
      ⟨keepsRange_of_lookup h hkinds content record hrecord hcontent, fieldsInRange_nil⟩)
  · cases hfit

/-- A tag and what stands behind it. -/
theorem yields_readTagFields (tag : String) (names : List String) (fuel : Nat) (first : Bool)
    (name? : Option String) {kept : List (String × Value)} (hkept : FieldsInRange kept)
    (text : List Char) :
    Yields (fun p => InRange p.2) (readTagFields tag names depth fuel first name? kept text) := by
  induction fuel generalizing first name? kept text with
  | zero => exact yields_error _
  | succ fuel ih =>
    refine yields_bind fun (more, rest) _ => ?_
    cases more with
    | true =>
      refine yields_bind fun (key, rest) _ => ?_
      dsimp only
      split
      · split
        · exact yields_error _
        · exact yields_bind fun (_, rest) _ => yields_bind fun (name, rest) _ =>
            ih false (some name) hkept rest
      · refine yields_bind fun (_, rest) _ => ?_
        exact (readsInRange_value depth rest).bind fun v rest hv =>
          ih false name? (fieldsInRange_cons_iff.2 ⟨hv, hkept⟩) rest
    | false =>
      cases name? with
      | some name => exact yields_ok (.object hkept.reverse) _
      | none => exact yields_error _

/-- A tag at the front of an array, and the items behind it. -/
theorem yields_readTagElements (names : List String) (text : List Char) :
    Yields (fun p => InRange p.2) (readTagElements names depth text) := by
  refine yields_bind fun (more, rest) _ => ?_
  cases more with
  | true =>
    refine yields_bind fun (name, rest) _ => ?_
    exact (yields_readItemsFrom _ false depth (by simp) rest).bind fun items rest hitems =>
      yields_ok (P := fun p : String × Value => InRange p.2) hitems _
  | false => exact yields_error _

/-- The fields of a tagged record are read as values of any shape, and then fitted to the case that
the tag names. -/
theorem readsInRange_tagged {tag : String} {cases : List (String × List FitField)}
    (h : ∀ c ∈ cases, ∀ k ∈ c.2, KeepsRange k.fit) : ReadsInRange (readTagged tag cases) := by
  intro depth text
  have hfits {p : String × Value} {fields : List (String × Value)} (hp : InRange p.2)
      (hfit : (cases.lookup p.1).bind (fitRecord · p.2) = some (.object fields)) :
      InRange (.object ((tag, .string p.1) :: fields)) := by
    obtain ⟨kinds, hkinds, hfit⟩ := Option.bind_eq_some_iff.1 hfit
    have hfields := keepsRange_of_lookup h hkinds p.2 _ hfit hp
    exact .object (fieldsInRange_cons_iff.2 ⟨.string p.1, inRange_object_iff.1 hfields⟩)
  unfold readTagged
  dsimp only
  split
  · exact yields_error _
  · refine (yields_readTagElements _ _).bind fun p rest hp => ?_
    split
    · next hfit => exact yields_ok (hfits hp hfit) _
    · exact yields_error _
  · refine (yields_readTagFields _ _ _ true none fieldsInRange_nil _).bind fun p rest hp => ?_
    split
    · next hfit => exact yields_ok (hfits hp hfit) _
    · exact yields_error _
  · exact yields_error _

/-! ## Whole texts -/

/-- A whole text is read as one value, which is in range. -/
theorem inRange_of_readWhole {read : Reader} (hread : ReadsInRange read)
    (h : readWhole read text = .ok v) : InRange v := by
  obtain ⟨⟨value, rest⟩, hvalue, h⟩ := exists_of_bind_eq_ok h
  dsimp only at h
  split at h
  · cases h
    exact hread 0 text v rest hvalue
  · cases h

namespace Format

variable {f : Format α} {a : α} {text : String}

/-- A value that is parsed stands for one that is in range. -/
theorem exists_of_parse (hread : ReadsInRange f.reader) (h : f.parse text = .ok a) :
    ∃ v, InRange v ∧ f.ofValue? v = some a := by
  obtain ⟨v, hv, h⟩ := exists_of_bind_eq_ok h
  split at h
  · next hvalue =>
    cases h
    exact ⟨v, inRange_of_readWhole hread hv, hvalue⟩
  · cases h

end Format

end DocPress.Json
