import DocPress.Json.Format
import DocPress.Proofs.Json.Written

/-!
# DocPress.Proofs.Json.Reads

A reader reads a value back (`Reads`) if it finds the value in each of its written forms, behind
any blanks and in front of any text that may follow a value. There is one lemma for each reader:
the reader of a record reads back the records whose fields its readers read back, and so on.
-/

namespace DocPress.Json

variable {v item content : Value} {items : List Value} {fields : List (String × Value)}
  {read : Reader} {s : Spacing} {depth indent fuel n : Nat} {first : Bool} {c close : Char}
  {gap rest text : List Char}

/-! ## Beginnings -/

/-- A character with which a value may begin: no blank, and no end of an array or object. -/
def isBeginning (c : Char) : Bool :=
  !(isGap c || c = ']' || c = '\x7d')

/-- What begins a value is passed over by no reader and ends no list. -/
theorem not_gap_of_isBeginning (h : isBeginning c = true) :
    isGap c = false ∧ c ≠ ']' ∧ c ≠ '\x7d' := by
  simpa [isBeginning, and_assoc] using h

/-- The text begins as a value does. -/
def Begins (text : List Char) : Prop :=
  ∃ c rest, text = c :: rest ∧ isBeginning c = true

theorem begins_cons (h : isBeginning c = true) (rest : List Char) : Begins (c :: rest) :=
  ⟨c, rest, rfl, h⟩

/-- What stands behind a value does not change how it begins. -/
theorem Begins.append (h : Begins text) (rest : List Char) : Begins (text ++ rest) := by
  obtain ⟨c, tail, rfl, hc⟩ := h
  exact begins_cons hc _

/-- A string begins with a quotation mark. -/
theorem begins_writeString (text : String) : Begins (writeString text) :=
  begins_cons (by decide) _

/-- An item follows. -/
theorem scanNext_item (first : Bool) (hgap : IsBlank gap) (h : Begins text)
    (hclose : close = ']' ∨ close = '\x7d') :
    scanNext close first (comma first ++ (gap ++ text)) = .ok (true, text) := by
  obtain ⟨c, tail, rfl, hc⟩ := h
  obtain ⟨hc, hitems, hfields⟩ := not_gap_of_isBeginning hc
  have hne : c ≠ close := by
    rcases hclose with rfl | rfl
    · exact hitems
    · exact hfields
  have hcomma : ',' ≠ close := by rcases hclose with rfl | rfl <;> decide
  cases first with
  | true => simp [scanNext, comma, skipGap_append_cons hgap hc, hne]
  | false =>
    have hskip : skipGap (',' :: (gap ++ c :: tail)) = ',' :: (gap ++ c :: tail) :=
      skipGap_cons (by decide) _
    simp [scanNext, comma, hskip, skipGap_append_cons hgap hc, hne, hcomma]

/-- No item follows. -/
theorem scanNext_close (hgap : IsBlank gap) (hclose : isGap close = false) :
    scanNext close first (gap ++ close :: rest) = .ok (false, close :: rest) := by
  simp [scanNext, skipGap_append_cons hgap hclose]

/-! ## Reading back -/

/-- At a depth, the reader reads the value back. -/
structure Reads (read : Reader) (depth : Nat) (v : Value) : Prop where
  begins : ∀ (s : Spacing) (indent : Nat), Begins (v.written s indent)
  read_written : ∀ (s : Spacing) (indent : Nat) {gap rest : List Char}, IsBlank gap → Ends rest →
    read depth (gap ++ (v.written s indent ++ rest)) = .ok (v, rest)

/-! ## Values without others -/

/-- The value nests at most so deep, and its numbers are kept exactly. -/
inductive Plain : Nat → Value → Prop
  | null (n : Nat) : Plain n .null
  | bool (n : Nat) (b : Bool) : Plain n (.bool b)
  | natural (n : Nat) {k : Nat} (h : k ≤ maxNatural) : Plain n (.natural k)
  | string (n : Nat) (text : String) : Plain n (.string text)
  | array {n : Nat} {items : List Value} (h : ∀ v ∈ items, Plain n v) : Plain (n + 1) (.array items)
  | object {n : Nat} {fields : List (String × Value)} (h : ∀ f ∈ fields, Plain n f.2) :
    Plain (n + 1) (.object fields)

/-- A value that nests at most so deep nests at most one deeper. -/
theorem Plain.succ (h : Plain n v) : Plain (n + 1) v := by
  induction h with
  | null n => exact .null _
  | bool n b => exact .bool _ b
  | natural n h => exact .natural _ h
  | string n text => exact .string _ text
  | array _ ih => exact .array ih
  | object _ ih => exact .object ih

theorem isBeginning_of_isDigit (h : c.isDigit = true) : isBeginning c = true := by
  have hne (d : Char) (hd : d.isDigit = false) : c ≠ d := by
    rintro rfl
    rw [hd] at h
    cases h
  simp [isBeginning, isGap, hne ' ' (by decide), hne '\n' (by decide), hne '\t' (by decide),
    hne '\r' (by decide), hne ']' (by decide), hne '\x7d' (by decide)]

/-- A digit begins a number. -/
theorem scanScalar?_of_isDigit (h : c.isDigit = true) (rest : List Char) :
    scanScalar? c rest = some (scanNumber false (c :: rest)) := by
  unfold scanScalar?
  split
  case h_6 => rw [if_pos h]
  all_goals exact absurd h (by decide)

/-- A value without others has one written form, whatever the spacing. -/
theorem written_of_scalar (h : Plain 0 v) (s : Spacing) (indent : Nat) :
    v.written s indent = writeScalar v := by
  cases h <;> simp [Value.written]

/-- The first character of a value without others tells its kind, and the rest of it is read
back. -/
theorem scanScalar?_writeScalar (h : Plain 0 v) (hrest : Ends rest) :
    ∃ c tail, writeScalar v ++ rest = c :: tail ∧ isBeginning c = true ∧
      scanScalar? c tail = some (.ok (v, rest)) := by
  cases h with
  | null => exact ⟨'n', 'u' :: 'l' :: 'l' :: rest, rfl, by decide,
      by simp [scanScalar?, scanWord, Except.map]⟩
  | bool _ b =>
    cases b with
    | true => exact ⟨'t', 'r' :: 'u' :: 'e' :: rest, rfl, by decide,
        by simp [scanScalar?, scanWord, Except.map]⟩
    | false => exact ⟨'f', 'a' :: 'l' :: 's' :: 'e' :: rest, rfl, by decide,
        by simp [scanScalar?, scanWord, Except.map]⟩
  | string _ text =>
    exact ⟨_, _, writeString_append text rest, by decide,
      by simp [scanScalar?, scanString_escaped, Except.map]⟩
  | @natural _ k hk =>
    have hnumber := scanNumber_toString hk hrest
    have hdigits (c : Char) (hc : c ∈ (toString k).toList) : c.isDigit = true :=
      Text.isDigit_of_mem_toString hc
    have hne : (toString k).toList ≠ [] := by
      rw [Text.toList_toString]
      exact Nat.toDigits_ne_nil
    obtain ⟨c, tail, htext⟩ := List.exists_cons_of_ne_nil hne
    rw [writeScalar, htext]
    rw [htext] at hnumber hdigits
    have hc := hdigits c (List.mem_cons_self ..)
    exact ⟨c, tail ++ rest, rfl, isBeginning_of_isDigit hc,
      (scanScalar?_of_isDigit hc _).trans (congrArg some hnumber)⟩

/-- The written form of a value begins with no blank. -/
theorem begins_written (h : Plain n v) (s : Spacing) (indent : Nat) :
    Begins (v.written s indent) := by
  have hscalar {w : Value} (hw : Plain 0 w) : Begins (w.written s indent) := by
    obtain ⟨c, tail, htext, hc, -⟩ := scanScalar?_writeScalar hw ends_nil
    rw [List.append_nil] at htext
    rw [written_of_scalar hw, htext]
    exact begins_cons hc tail
  cases h with
  | null => exact hscalar (.null 0)
  | bool _ b => exact hscalar (.bool 0 b)
  | natural _ h => exact hscalar (.natural 0 h)
  | string _ text => exact hscalar (.string 0 text)
  | array | object =>
    rw [Value.written]
    exact begins_cons (by decide) _

/-- A value without others is read back by a reader that takes it. -/
theorem reads_scalar {isGood : Value → Bool} (h : Plain 0 v) (hgood : isGood v = true) :
    Reads (readScalar isGood) depth v where
  begins := begins_written h
  read_written s indent gap rest hgap hrest := by
    obtain ⟨c, tail, htext, hc, hscan⟩ := scanScalar?_writeScalar h hrest
    rw [written_of_scalar h]
    have hskip := skipGap_append_cons hgap (not_gap_of_isBeginning hc).1 tail
    simp [readScalar, htext, hskip, hscan, hgood]

theorem reads_text (text : String) : Reads readText depth (.string text) :=
  reads_scalar (.string 0 text) rfl

theorem reads_flag (b : Bool) : Reads readFlag depth (.bool b) :=
  reads_scalar (.bool 0 b) rfl

theorem reads_natural (h : n ≤ maxNatural) : Reads readNatural depth (.natural n) :=
  reads_scalar (.natural 0 h) rfl

/-- A value that may be null and is not. -/
theorem reads_optional (h : Reads read depth v)
    (hsome : ∀ s indent, (v.written s indent).head? ≠ some 'n') :
    Reads (readOptional read) depth v where
  begins := h.begins
  read_written s indent gap rest hgap hrest := by
    have hread := h.read_written s indent isBlank_nil hrest
    have hnull := hsome s indent
    obtain ⟨c, tail, htext, hc⟩ := h.begins s indent
    rw [htext] at hread hnull ⊢
    rw [readOptional, List.cons_append, skipGap_append_cons hgap (not_gap_of_isBeginning hc).1]
    split
    · next heq => exact absurd (congrArg some (List.cons.inj heq).1) hnull
    · exact hread

/-- A text or null. -/
theorem reads_optionalText (text : Option String) :
    Reads (readOptional readText) depth (optionalText text) := by
  cases text with
  | none =>
    refine ⟨begins_written (.null 0), fun s indent gap rest hgap hrest => ?_⟩
    have hskip := skipGap_append_cons hgap (c := 'n') (by decide) ('u' :: 'l' :: 'l' :: rest)
    simp [readOptional, optionalText, Value.written, writeScalar, hskip, scanWord, Except.map]
  | some text =>
    refine reads_optional (reads_text text) fun s indent => ?_
    rw [optionalText, written_of_scalar (.string 0 text), writeScalar, writeString]
    simp

/-! ## Arrays -/

/-- Behind an item stands a comma or the end of the array, neither of which continues a number. -/
theorem ends_writtenItems (s : Spacing) (indent : Nat) (items : List Value) (hgap : IsBlank gap)
    (rest : List Char) : Ends (writtenItems s indent false items ++ (gap ++ ']' :: rest)) := by
  cases items with
  | nil =>
    rw [writtenItems, List.nil_append]
    exact ends_append hgap (ends_cons (by decide) rest)
  | cons item items =>
    rw [writtenItems_false]
    exact ends_cons (by decide) _

/-- An item has at least one character. -/
theorem length_le_writtenItems (first : Bool) (h : ∀ v ∈ items, Begins (v.written s depth)) :
    items.length ≤ (writtenItems s depth first items).length := by
  induction items generalizing first with
  | nil => exact Nat.zero_le _
  | cons item items ih =>
    obtain ⟨c, tail, htext, -⟩ := h item (List.mem_cons_self ..)
    have hrest := ih false fun v hv => h v (List.mem_cons_of_mem _ hv)
    simp only [writtenItems, htext, List.length_append, List.length_cons]
    omega

/-- Items that are read back one by one are read back together. -/
theorem readListFrom_writtenItems (s : Spacing) (indent : Nat) (first : Bool) (done : List Value)
    (h : ∀ v ∈ items, Reads read depth v) (hfuel : items.length < fuel) (hgap : IsBlank gap)
    (rest : List Char) :
    readListFrom read depth fuel first done
        (writtenItems s indent first items ++ (gap ++ ']' :: rest)) =
      .ok (.array (done.reverse ++ items), rest) := by
  induction items generalizing first done fuel with
  | nil =>
    obtain ⟨fuel, rfl⟩ := Nat.exists_eq_add_one_of_ne_zero (Nat.ne_of_gt hfuel)
    simp [readListFrom, writtenItems, scanNext_close hgap, bind, Except.bind, isGap]
  | cons item items ih =>
    obtain ⟨fuel, rfl⟩ := Nat.exists_eq_add_one_of_ne_zero (Nat.ne_of_gt (Nat.zero_lt_of_lt hfuel))
    have hitem := h item (List.mem_cons_self ..)
    have hread := hitem.read_written s indent isBlank_nil
      (ends_writtenItems s indent items hgap rest)
    have hnext := scanNext_item first (s.line_blank indent)
      ((hitem.begins s indent).append (writtenItems s indent false items ++ (gap ++ ']' :: rest)))
      (.inl rfl)
    have hrest := ih false (item :: done) (fun v hv => h v (List.mem_cons_of_mem _ hv))
      (Nat.lt_of_succ_lt_succ hfuel)
    rw [List.nil_append] at hread
    simp only [readListFrom, writtenItems, List.append_assoc, hnext, bind, Except.bind, hread,
      hrest, if_true, List.reverse_cons, List.nil_append, List.cons_append]

/-- A list is read back if its items are, one level deeper. Each item has a character of its own, so
the fuel, the length of the text, is enough. -/
theorem reads_list (h : ∀ v ∈ items, Reads read (depth + 1) v) :
    Reads (readList read) depth (.array items) where
  begins s indent := by
    rw [Value.written]
    exact begins_cons (by decide) _
  read_written s indent gap rest hgap hrest := by
    have hlength := length_le_writtenItems true fun v hv => (h v hv).begins s (indent + 1)
    rw [Value.written, List.cons_append, readList, skipGap_append_cons hgap (by decide)]
    simp only [List.append_assoc, List.singleton_append]
    rw [readListFrom_writtenItems s (indent + 1) true [] h ?_ (s.isBlank_closing _ _)]
    · rfl
    · rw [List.length_append]
      omega

/-! ## Records -/

/-- The fields of a record with their values. -/
def entries (parts : List (Field × Value)) : List (String × Value) :=
  parts.map fun p => (p.1.name, p.2)

@[simp] theorem entries_nil : entries [] = [] := rfl

@[simp] theorem entries_cons (p : Field × Value) (parts : List (Field × Value)) :
    entries (p :: parts) = (p.1.name, p.2) :: entries parts := rfl

@[simp] theorem length_entries (parts : List (Field × Value)) :
    (entries parts).length = parts.length :=
  List.length_map ..

/-- Of entries with different names, each is found under its own. -/
theorem lookup_of_nodup {α : Type} {l : List (String × α)} {k : String} {a : α}
    (h : (l.map (·.1)).Nodup) (hmem : (k, a) ∈ l) : l.lookup k = some a := by
  obtain ⟨l₁, l₂, rfl⟩ := List.append_of_mem hmem
  refine List.lookup_eq_some_iff.2 ⟨l₁, l₂, rfl, fun p hp => ?_⟩
  rw [List.map_append, List.nodup_append] at h
  exact bne_iff_ne.2 fun heq =>
    h.2.2 p.1 (List.mem_map_of_mem hp) k (List.mem_cons_self ..) heq.symm

/-- Of fields with different names, each is found under its own. -/
theorem find?_of_nodup {fields : List Field} {f : Field} (h : (fields.map (·.name)).Nodup)
    (hmem : f ∈ fields) : fields.find? (·.name == f.name) = some f := by
  obtain ⟨l₁, l₂, rfl⟩ := List.append_of_mem hmem
  refine List.find?_eq_some_iff_append.2 ⟨beq_self_eq_true _, l₁, l₂, rfl, fun g hg => ?_⟩
  rw [List.map_append, List.nodup_append] at h
  rw [Bool.not_eq_true', beq_eq_false_iff_ne]
  exact h.2.2 g.name (List.mem_map_of_mem hg) f.name (List.mem_cons_self ..)

/-- The name of a field is read back. -/
theorem scanKeyBy_writeString (key : String) (rest : List Char) :
    scanKeyBy scanString (writeString key ++ rest) = .ok (key, rest) := by
  rw [writeString_append, scanKeyBy, expect_cons (by decide)]
  exact scanString_escaped key rest

/-- Behind a field stands a comma or the end of the object. -/
theorem ends_writtenFields (s : Spacing) (indent : Nat) (fields : List (String × Value))
    (hgap : IsBlank gap) (rest : List Char) :
    Ends (writtenFields s indent false fields ++ (gap ++ '\x7d' :: rest)) := by
  cases fields with
  | nil =>
    rw [writtenFields, List.nil_append]
    exact ends_append hgap (ends_cons (by decide) rest)
  | cons field fields =>
    rw [writtenFields_false]
    exact ends_cons (by decide) _

/-- A field has at least one character. -/
theorem length_le_writtenFields (s : Spacing) (indent : Nat) (first : Bool)
    (fields : List (String × Value)) :
    fields.length ≤ (writtenFields s indent first fields).length := by
  induction fields generalizing first with
  | nil => exact Nat.zero_le _
  | cons field fields ih =>
    have hrest := ih false
    simp only [writtenFields, List.length_append, List.length_cons]
    omega

/-- A field follows: its name is read, and behind the colon stands its value. -/
theorem scanNext_field (s : Spacing) (indent : Nat) (first : Bool) (key : String)
    (text : List Char) :
    scanNext '\x7d' first (comma first ++ (s.line indent ++ (writeString key ++ ':' :: text))) =
      .ok (true, writeString key ++ ':' :: text) :=
  scanNext_item first (s.line_blank indent) ((begins_writeString key).append _) (.inr rfl)

/-- If each field has been found with its value, they are the fields of the record, in its order. -/
theorem collectFields_entries {found : List (String × Value)} {parts : List (Field × Value)}
    (h : ∀ p ∈ parts, found.lookup p.1.name = some p.2) :
    collectFields found (parts.map (·.1)) = .ok (entries parts) := by
  induction parts with
  | nil => rfl
  | cons p parts ih =>
    have hrest := ih fun q hq => h q (List.mem_cons_of_mem _ hq)
    simp [collectFields, h p (List.mem_cons_self ..), hrest, bind, Except.bind, entries]

/-- Fields that are read back one by one are read back together: what has been read of a record
and what has not are its fields. -/
theorem readFields_writtenFields (s : Spacing) (indent : Nat) (first : Bool)
    (done parts : List (Field × Value)) (hnames : ((done ++ parts).map (·.1.name)).Nodup)
    (h : ∀ p ∈ parts, Reads p.1.read depth p.2) (hfuel : parts.length < fuel) (hgap : IsBlank gap)
    (rest : List Char) :
    readFields ((done ++ parts).map (·.1)) depth fuel first (entries done).reverse
        (writtenFields s indent first (entries parts) ++ (gap ++ '\x7d' :: rest)) =
      .ok (.object (entries (done ++ parts)), rest) := by
  induction parts generalizing first done fuel with
  | nil =>
    obtain ⟨fuel, rfl⟩ := Nat.exists_eq_add_one_of_ne_zero (Nat.ne_of_gt hfuel)
    rw [List.append_nil] at hnames ⊢
    have hcollect : collectFields (entries done).reverse (done.map (·.1)) = .ok (entries done) := by
      refine collectFields_entries fun p hp => lookup_of_nodup ?_ ?_
      · rw [List.map_reverse, List.nodup_reverse, entries, List.map_map]
        exact hnames
      · exact List.mem_reverse.2 (List.mem_map.2 ⟨p, hp, rfl⟩)
    rw [entries_nil, writtenFields, List.nil_append, readFields,
      scanNext_close hgap (by decide)]
    simp only [bind, Except.bind, Bool.false_eq_true, if_false, hcollect, List.tail_cons]
  | cons p parts ih =>
    obtain ⟨fuel, rfl⟩ := Nat.exists_eq_add_one_of_ne_zero (Nat.ne_of_gt (Nat.zero_lt_of_lt hfuel))
    have hmem : p.1 ∈ (done ++ p :: parts).map (·.1) :=
      List.mem_map_of_mem (List.mem_append_right _ (List.mem_cons_self ..))
    have hfind := find?_of_nodup (by rwa [List.map_map]) hmem
    -- A field that was read before would make this one a repetition.
    have hfresh : (entries done).reverse.lookup p.1.name = none := by
      refine List.lookup_eq_none_iff.2 fun q hq => bne_iff_ne.2 fun heq => ?_
      obtain ⟨r, hr, rfl⟩ := List.mem_map.1 (List.mem_reverse.1 hq)
      rw [List.map_append, List.nodup_append] at hnames
      exact hnames.2.2 r.1.name (List.mem_map_of_mem hr) p.1.name (List.mem_cons_self ..) heq.symm
    have hread := (h p (List.mem_cons_self ..)).read_written s indent s.colon_blank
      (ends_writtenFields s indent (entries parts) hgap rest)
    have hdone : (p.1.name, p.2) :: (entries done).reverse = (entries (done ++ [p])).reverse := by
      simp [entries]
    have hrest := ih false (done ++ [p]) (by rwa [List.append_assoc]) (fun q hq =>
      h q (List.mem_cons_of_mem _ hq)) (Nat.lt_of_succ_lt_succ hfuel)
    rw [List.append_assoc, List.singleton_append] at hrest
    rw [entries_cons, writtenFields, readFields]
    simp only [List.append_assoc, List.cons_append, scanNext_field, bind, Except.bind, if_true,
      scanKeyBy_writeString, hfind, hfresh, Option.isSome_none, Bool.false_eq_true, if_false,
      expect_cons (c := ':') (by decide), hread, hdone, hrest]

/-- A record whose fields have different names is read back if their values are. -/
theorem reads_record (parts : List (Field × Value)) (hnames : (parts.map (·.1.name)).Nodup)
    (h : ∀ p ∈ parts, Reads p.1.read (depth + 1) p.2) :
    Reads (readRecord (parts.map (·.1))) depth (.object (entries parts)) where
  begins s indent := by
    rw [Value.written]
    exact begins_cons (by decide) _
  read_written s indent gap rest hgap hrest := by
    have hlength := length_le_writtenFields s (indent + 1) true (entries parts)
    rw [length_entries] at hlength
    rw [Value.written, List.cons_append, readRecord, skipGap_append_cons hgap (by decide)]
    simp only [List.append_assoc, List.singleton_append]
    refine readFields_writtenFields s (indent + 1) true [] parts hnames h ?_
      (s.isBlank_closing _ _) rest
    rw [List.length_append]
    omega

/-! ## Choices -/

/-- A name of several is read back, whatever blanks stand before it. -/
theorem scanNameOf_writeString {names : List String} {name : String} (h : name ∈ names)
    (hgap : IsBlank gap) (rest : List Char) :
    scanNameOf names (gap ++ (writeString name ++ rest)) = .ok (name, rest) := by
  rw [writeString_append, scanNameOf, skipGap_append_cons hgap (by decide)]
  simp [scanString_escaped, bind, Except.bind, h]

/-- One of several names is read back. -/
theorem reads_choice {names : List String} {name : String} (h : name ∈ names) :
    Reads (readChoice names) depth (.string name) where
  begins := begins_written (.string 0 name)
  read_written s indent gap rest hgap hrest := by
    have hnames : (names.map fun name => (name, readNull)).map (·.1) = names := by
      rw [List.map_map]
      exact List.map_id names
    have hscan := scanNameOf_writeString h isBlank_nil rest
    rw [List.nil_append, writeString_append] at hscan
    rw [written_of_scalar (.string 0 name), writeScalar, writeString_append, readChoice,
      readChoiceBy, skipGap_append_cons hgap (by decide), hnames]
    simp only [hscan, bind, Except.bind]

/-- The case of a name is found along with the reader of its fields. -/
theorem lookup_readers {cases : List (String × List Field)} {name : String} {fields : List Field}
    (h : cases.lookup name = some fields) :
    (cases.map fun (name, fields) => (name, readRecord fields)).lookup name =
      some (readRecord fields) := by
  obtain ⟨l₁, l₂, rfl, hne⟩ := List.lookup_eq_some_iff.1 h
  refine List.lookup_eq_some_iff.2 ⟨_, _, List.map_append, fun p hp => ?_⟩
  obtain ⟨q, hq, rfl⟩ := List.mem_map.1 hp
  exact hne q hq

/-- What is found under a name has a name of the list. -/
theorem mem_names_of_lookup {α : Type} {l : List (String × α)} {name : String} {a : α}
    (h : l.lookup name = some a) : name ∈ l.map (·.1) := by
  obtain ⟨l₁, l₂, rfl, -⟩ := List.lookup_eq_some_iff.1 h
  exact List.mem_map_of_mem (List.mem_append_right l₁ (List.mem_cons_self (a := (name, a))))

/-- A variant is an object with one field, whose name tells the case. -/
theorem reads_variant {cases : List (String × List Field)} {fields : List Field} {name : String}
    (hlookup : cases.lookup name = some fields)
    (h : Reads (readRecord fields) (depth + 1) content) :
    Reads (readVariant cases) depth (.object [(name, content)]) where
  begins s indent := by
    rw [Value.written]
    exact begins_cons (by decide) _
  read_written s indent gap rest hgap hrest := by
    have hread := lookup_readers hlookup
    have hname := scanNameOf_writeString (mem_names_of_lookup hread) (s.line_blank (indent + 1))
      (':' :: (s.colon ++ (content.written s (indent + 1) ++ (s.line indent ++ '\x7d' :: rest))))
    have hcontent := h.read_written s (indent + 1) s.colon_blank
      (ends_append (s.line_blank indent) (ends_cons (c := '\x7d') (by decide) rest))
    have hend := expect_append (s.line_blank indent) (c := '\x7d') (by decide) rest
    rw [Value.written, List.cons_append, readVariant, readChoiceBy,
      skipGap_append_cons hgap (by decide)]
    simp only [writtenFields, comma, Spacing.closing, List.isEmpty_cons, Bool.false_eq_true,
      if_false, if_true, List.nil_append, List.append_assoc, List.cons_append, hname, bind,
      Except.bind, expect_cons (c := ':') (by decide), hread, hcontent, hend]

/-! ## Values of any shape -/

/-- At a depth, the value is read back as one of any shape; each of its characters may need two
steps. -/
def ReadsFrom (depth : Nat) (v : Value) : Prop :=
  ∀ (s : Spacing) (indent fuel : Nat) {gap rest : List Char},
    2 * (v.written s indent).length ≤ fuel → IsBlank gap → Ends rest →
    readValueFrom fuel depth (gap ++ (v.written s indent ++ rest)) = .ok (v, rest)

/-- A value has at least one character, so reading it leaves less fuel. -/
theorem length_pos_of_begins (h : Begins text) : 0 < text.length := by
  obtain ⟨c, tail, rfl, -⟩ := h
  exact Nat.zero_lt_succ _

/-- A value without others is read as one of any shape. -/
theorem readsFrom_scalar (h : Plain 0 v) : ReadsFrom depth v := by
  intro s indent fuel gap rest hfuel hgap hrest
  have hpos := length_pos_of_begins (begins_written h s indent)
  obtain ⟨fuel, rfl⟩ := Nat.exists_eq_add_one_of_ne_zero (show fuel ≠ 0 by omega)
  obtain ⟨c, tail, htext, hc, hscan⟩ := scanScalar?_writeScalar h hrest
  rw [written_of_scalar h, htext, readValueFrom,
    skipGap_append_cons hgap (not_gap_of_isBeginning hc).1]
  split
  · next heq => cases heq
  · next heq => rw [(List.cons.inj heq).1] at hscan; cases hscan
  · next heq => rw [(List.cons.inj heq).1] at hscan; cases hscan
  · next heq => rw [← (List.cons.inj heq).1, ← (List.cons.inj heq).2, hscan]; rfl

/-- Items that are read back one by one are read back together. -/
theorem readItemsFrom_writtenItems (s : Spacing) (indent fuel : Nat) (first : Bool)
    (done : List Value)
    (hbegins : ∀ v ∈ items, Begins (v.written s indent)) (h : ∀ v ∈ items, ReadsFrom depth v)
    (hfuel : 2 * (writtenItems s indent first items).length < fuel) (hgap : IsBlank gap)
    (rest : List Char) :
    readItemsFrom fuel first depth done (writtenItems s indent first items ++ (gap ++ ']' :: rest)) =
      .ok (.array (done.reverse ++ items), rest) := by
  induction items generalizing first done fuel with
  | nil =>
    obtain ⟨fuel, rfl⟩ := Nat.exists_eq_add_one_of_ne_zero (Nat.ne_of_gt hfuel)
    simp [readItemsFrom, writtenItems, scanNext_close hgap, bind, Except.bind, isGap]
  | cons item items ih =>
    have hitem := hbegins item (List.mem_cons_self ..)
    have hpos := length_pos_of_begins hitem
    rw [writtenItems, List.length_append, List.length_append, List.length_append] at hfuel
    obtain ⟨fuel, rfl⟩ := Nat.exists_eq_add_one_of_ne_zero (show fuel ≠ 0 by omega)
    have hread := h item (List.mem_cons_self ..) s indent fuel (by omega) isBlank_nil
      (ends_writtenItems s indent items hgap rest)
    have hnext := scanNext_item first (s.line_blank indent)
      (hitem.append (writtenItems s indent false items ++ (gap ++ ']' :: rest))) (.inl rfl)
    have hrest := ih fuel false (item :: done) (fun v hv => hbegins v (List.mem_cons_of_mem _ hv))
      (fun v hv => h v (List.mem_cons_of_mem _ hv)) (by omega)
    rw [List.nil_append] at hread
    simp only [readItemsFrom, writtenItems, List.append_assoc, hnext, bind, Except.bind, hread,
      hrest, if_true, List.reverse_cons, List.nil_append, List.cons_append]

/-- Fields whose values are read back one by one are read back together. -/
theorem readFieldsFrom_writtenFields (s : Spacing) (indent fuel : Nat) (first : Bool)
    (done : List (String × Value)) (h : ∀ f ∈ fields, ReadsFrom depth f.2)
    (hfuel : 2 * (writtenFields s indent first fields).length < fuel) (hgap : IsBlank gap)
    (rest : List Char) :
    readFieldsFrom fuel first depth done
        (writtenFields s indent first fields ++ (gap ++ '\x7d' :: rest)) =
      .ok (.object (done.reverse ++ fields), rest) := by
  induction fields generalizing first done fuel with
  | nil =>
    obtain ⟨fuel, rfl⟩ := Nat.exists_eq_add_one_of_ne_zero (Nat.ne_of_gt hfuel)
    simp [readFieldsFrom, writtenFields, scanNext_close hgap, bind, Except.bind, isGap]
  | cons field fields ih =>
    rw [writtenFields] at hfuel
    simp only [List.length_append, List.length_cons] at hfuel
    obtain ⟨fuel, rfl⟩ := Nat.exists_eq_add_one_of_ne_zero (show fuel ≠ 0 by omega)
    have hread := h field (List.mem_cons_self ..) s indent fuel (by omega) s.colon_blank
      (ends_writtenFields s indent fields hgap rest)
    have hrest := ih fuel false (field :: done) (fun f hf => h f (List.mem_cons_of_mem _ hf))
      (by omega)
    simp only [readFieldsFrom, writtenFields, List.append_assoc, List.cons_append, scanNext_field,
      bind, Except.bind, if_true, scanKeyBy_writeString, expect_cons (c := ':') (by decide), hread,
      hrest, List.reverse_cons, List.nil_append]

/-- A value that does not nest too deep is read back. The induction is on how it is built. -/
theorem readsFrom_plain (h : Plain n v) (hdepth : depth + n ≤ maxDepth) : ReadsFrom depth v := by
  induction h generalizing depth with
  | null => exact readsFrom_scalar (.null 0)
  | bool _ b => exact readsFrom_scalar (.bool 0 b)
  | natural _ h => exact readsFrom_scalar (.natural 0 h)
  | string _ text => exact readsFrom_scalar (.string 0 text)
  | @array n items h ih =>
    intro s indent fuel gap rest hfuel hgap hrest
    rw [Value.written] at hfuel ⊢
    simp only [List.length_cons, List.length_append] at hfuel
    obtain ⟨fuel, rfl⟩ := Nat.exists_eq_add_one_of_ne_zero (show fuel ≠ 0 by omega)
    have hread := readItemsFrom_writtenItems s (indent + 1) fuel true []
      (fun v hv => begins_written (h v hv) s (indent + 1))
      (fun v hv => @ih v hv (depth + 1) (by omega)) (by omega)
      (s.isBlank_closing indent items.isEmpty) rest
    rw [List.cons_append, readValueFrom, skipGap_append_cons hgap (by decide)]
    simp only [show ¬ maxDepth ≤ depth by omega, if_false, List.append_assoc,
      List.singleton_append, hread, List.reverse_nil, List.nil_append]
  | @object n fields h ih =>
    intro s indent fuel gap rest hfuel hgap hrest
    rw [Value.written] at hfuel ⊢
    simp only [List.length_cons, List.length_append] at hfuel
    obtain ⟨fuel, rfl⟩ := Nat.exists_eq_add_one_of_ne_zero (show fuel ≠ 0 by omega)
    have hread := readFieldsFrom_writtenFields s (indent + 1) fuel true []
      (fun f hf => @ih f hf (depth + 1) (by omega)) (by omega)
      (s.isBlank_closing indent fields.isEmpty) rest
    rw [List.cons_append, readValueFrom, skipGap_append_cons hgap (by decide)]
    simp only [show ¬ maxDepth ≤ depth by omega, if_false, List.append_assoc,
      List.singleton_append, hread, List.reverse_nil, List.nil_append]

/-- The fuel of the reader of any value is twice the length of the text, which is enough for each
value that does not nest too deep. -/
theorem reads_plain (h : Plain n v) (hdepth : depth + n ≤ maxDepth) : Reads readValue depth v where
  begins := begins_written h
  read_written s indent gap rest hgap hrest :=
    readsFrom_plain h hdepth s indent _ (by simp only [List.length_append]; omega) hgap hrest

/-! ## Tagged records -/

/-- The fields behind the tag are kept as they are. -/
theorem readTagFields_writtenFields {tag : String} (name : String) (names : List String)
    (s : Spacing) (indent : Nat) (first : Bool) (kept : List (String × Value))
    (htag : ∀ f ∈ fields, f.1 ≠ tag)
    (h : ∀ f ∈ fields, Reads readValue depth f.2) (hfuel : fields.length < fuel)
    (hgap : IsBlank gap) (rest : List Char) :
    readTagFields tag names depth fuel first (some name) kept
        (writtenFields s indent first fields ++ (gap ++ '\x7d' :: rest)) =
      .ok ((name, .object (kept.reverse ++ fields)), rest) := by
  induction fields generalizing first kept fuel with
  | nil =>
    obtain ⟨fuel, rfl⟩ := Nat.exists_eq_add_one_of_ne_zero (Nat.ne_of_gt hfuel)
    simp [readTagFields, writtenFields, scanNext_close hgap, bind, Except.bind, isGap]
  | cons field fields ih =>
    obtain ⟨fuel, rfl⟩ := Nat.exists_eq_add_one_of_ne_zero (Nat.ne_of_gt (Nat.zero_lt_of_lt hfuel))
    have hread := (h field (List.mem_cons_self ..)).read_written s indent s.colon_blank
      (ends_writtenFields s indent fields hgap rest)
    have hrest := ih false (field :: kept) (fun f hf => htag f (List.mem_cons_of_mem _ hf))
      (fun f hf => h f (List.mem_cons_of_mem _ hf)) (Nat.lt_of_succ_lt_succ hfuel)
    have hne := htag field (List.mem_cons_self ..)
    simp only [readTagFields, writtenFields, List.append_assoc, List.cons_append, scanNext_field,
      bind, Except.bind, if_true, scanKeyBy_writeString, hne, if_false,
      expect_cons (c := ':') (by decide), hread, hrest, List.reverse_cons, List.nil_append]

/-- A tagged record whose fields fit the case that its tag names. -/
theorem reads_tagged {tag name : String} {cases : List (String × List FitField)}
    {kinds : List FitField} (hlookup : cases.lookup name = some kinds)
    (hfit : fitRecord kinds (.object fields) = some (.object fields))
    (htag : ∀ f ∈ fields, f.1 ≠ tag) (h : ∀ f ∈ fields, Reads readValue (depth + 1) f.2) :
    Reads (readTagged tag cases) depth (.object ((tag, .string name) :: fields)) where
  begins s indent := by
    rw [Value.written]
    exact begins_cons (by decide) _
  read_written s indent gap rest hgap hrest := by
    have hclosing := s.isBlank_closing indent false
    have hname := scanNameOf_writeString (mem_names_of_lookup hlookup) s.colon_blank
      (writtenFields s (indent + 1) false fields ++ (s.closing indent false ++ '\x7d' :: rest))
    have hfields (fuel : Nat) (hfuel : fields.length < fuel) := readTagFields_writtenFields name
      (cases.map (·.1)) s (indent + 1) false [] htag h hfuel hclosing rest
    have hlength := length_le_writtenFields s (indent + 1) false fields
    rw [Value.written, List.cons_append, readTagged, skipGap_append_cons hgap (by decide)]
    simp only [writtenFields, written_of_scalar (.string 0 name), writeScalar, List.append_assoc,
      List.cons_append, List.nil_append, List.isEmpty_cons, readTagFields, scanNext_field, bind,
      Except.bind, if_true, scanKeyBy_writeString, Option.isSome_none, Bool.false_eq_true, if_false,
      expect_cons (c := ':') (by decide), hname]
    rw [hfields _ (by simp only [List.length_append, List.length_cons]; omega)]
    simp only [List.reverse_nil, List.nil_append, hlookup, Option.bind_some, hfit]

/-! ## Whole texts -/

/-- If a value is read back with anything that may follow it, it is with nothing. -/
theorem readWhole_written (h : Reads read 0 v) (s : Spacing) (indent : Nat) :
    readWhole read (v.written s indent) = .ok v := by
  have hread := h.read_written s indent isBlank_nil ends_nil
  rw [List.nil_append, List.append_nil] at hread
  rw [readWhole, hread]
  rfl

theorem readWhole_compact (h : Reads read 0 v) : readWhole read v.compact = .ok v := by
  rw [v.compact_eq 0]
  exact readWhole_written h .none 0

theorem readWhole_pretty (h : Reads read 0 v) : readWhole read (v.pretty 0) = .ok v := by
  rw [v.pretty_eq 0]
  exact readWhole_written h .lines 0

namespace Format

variable {α : Type} {f : Format α} {a : α}

/-- A value whose written form is read back is parsed back from both its forms. -/
theorem parse_of_reads (h : Reads f.reader 0 (f.toValue a))
    (hvalue : f.ofValue? (f.toValue a) = some a) :
    f.parse (f.compact a) = .ok a ∧ f.parse (f.pretty a) = .ok a := by
  constructor
  · rw [parse, compact, String.toList_ofList, readWhole_compact h]
    simp only [bind, Except.bind, hvalue]
  · rw [parse, pretty, String.toList_ofList, readWhole_pretty h]
    simp only [bind, Except.bind, hvalue]

end Format

end DocPress.Json
