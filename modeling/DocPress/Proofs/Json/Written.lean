import DocPress.Proofs.Json.Scan

/-!
# DocPress.Proofs.Json.Written

The two written forms of a value differ in their blanks only. So both are one form
(`Value.written`) with a spacing: the blanks before an item at a depth, and those behind a colon.
-/

namespace DocPress.Json

variable {v item : Value} {items : List Value} {fields : List (String × Value)} {s : Spacing}
  {depth : Nat} {first : Bool} {c : Char} {rest : List Char}

/-! ## Spacings -/

/-- The blanks of a written form. -/
structure Spacing where
  /-- What stands before an item at a depth. -/
  line : Nat → List Char
  /-- What stands behind a colon. -/
  colon : List Char
  line_blank : ∀ depth, IsBlank (line depth)
  colon_blank : IsBlank colon

namespace Spacing

/-- No blanks. -/
def none : Spacing :=
  ⟨fun _ => [], [], fun _ => isBlank_nil, isBlank_nil⟩

/-- A line break and the indentation behind it are blanks. -/
theorem isBlank_lineAt (depth : Nat) : IsBlank (lineAt depth) := by
  intro c hc
  rcases List.mem_cons.1 hc with rfl | hc
  · rfl
  · rw [List.eq_of_mem_replicate hc]
    rfl

/-- A line for each item. -/
def lines : Spacing :=
  ⟨lineAt, [' '], isBlank_lineAt, by intro c hc; rw [List.mem_singleton.1 hc]; rfl⟩

@[simp] theorem none_line (depth : Nat) : none.line depth = [] := rfl

@[simp] theorem none_colon : none.colon = [] := rfl

@[simp] theorem lines_line (depth : Nat) : lines.line depth = lineAt depth := rfl

@[simp] theorem lines_colon : lines.colon = [' '] := rfl

end Spacing

/-! ## Written values -/

/-- What stands between an item and those before it. -/
def comma (first : Bool) : List Char :=
  if first then [] else [',']

/-- What stands between the last item at a depth and the end of the array or object. -/
def Spacing.closing (s : Spacing) (depth : Nat) (isEmpty : Bool) : List Char :=
  if isEmpty then [] else s.line depth

/-- Before the end of an array or object stand blanks only. -/
theorem Spacing.isBlank_closing (s : Spacing) (depth : Nat) (isEmpty : Bool) :
    IsBlank (s.closing depth isEmpty) := by
  unfold Spacing.closing
  split
  · exact isBlank_nil
  · exact s.line_blank depth

mutual

/-- The written form of a value that stands at a depth. -/
def Value.written (s : Spacing) (depth : Nat) : Value → List Char
  | .array items =>
    '[' :: (writtenItems s (depth + 1) true items ++ (s.closing depth items.isEmpty ++ [']']))
  | .object fields =>
    '\x7b' ::
      (writtenFields s (depth + 1) true fields ++ (s.closing depth fields.isEmpty ++ ['\x7d']))
  | scalar => writeScalar scalar

/-- The written form of items; `first` says that none stands before them. -/
def writtenItems (s : Spacing) (depth : Nat) (first : Bool) : List Value → List Char
  | [] => []
  | item :: rest =>
    comma first ++ (s.line depth ++ (item.written s depth ++ writtenItems s depth false rest))

/-- The written form of fields; `first` says that none stands before them. -/
def writtenFields (s : Spacing) (depth : Nat) (first : Bool) : List (String × Value) → List Char
  | [] => []
  | (key, value) :: rest =>
    comma first ++ (s.line depth ++ (writeString key ++ (':' :: (s.colon ++
      (value.written s depth ++ writtenFields s depth false rest)))))

end

/-- Items behind another one differ from the first ones in the comma only. -/
theorem writtenItems_false (s : Spacing) (depth : Nat) (item : Value) (rest : List Value) :
    writtenItems s depth false (item :: rest) = ',' :: writtenItems s depth true (item :: rest) := by
  simp [writtenItems, comma]

/-- Fields behind another one differ from the first ones in the comma only. -/
theorem writtenFields_false (s : Spacing) (depth : Nat) (field : String × Value)
    (rest : List (String × Value)) :
    writtenFields s depth false (field :: rest) =
      ',' :: writtenFields s depth true (field :: rest) := by
  simp [writtenFields, comma]

/-! ## The two forms -/

mutual

/-- The compact form has no blanks. -/
theorem Value.compact_eq (depth : Nat) : (v : Value) → v.compact = v.written .none depth
  | .array items => by
    simp [Value.compact, Value.written, compactItems_eq (depth + 1) items, Spacing.closing]
  | .object fields => by
    simp [Value.compact, Value.written, compactFields_eq (depth + 1) fields, Spacing.closing]
  | .null | .bool _ | .natural _ | .otherNumber _ | .string _ => by
    simp [Value.compact, Value.written]

theorem compactItems_eq (depth : Nat) : (items : List Value) →
    compactItems items = writtenItems .none depth true items
  | [] => by simp [compactItems, writtenItems]
  | [item] => by simp [compactItems, writtenItems, Value.compact_eq depth item, comma]
  | item :: next :: rest => by
    rw [compactItems, compactItems_eq depth (next :: rest), Value.compact_eq depth item,
      ← writtenItems_false, writtenItems.eq_def _ _ _ (item :: _)]
    · simp [comma]
    · simp

theorem compactFields_eq (depth : Nat) : (fields : List (String × Value)) →
    compactFields fields = writtenFields .none depth true fields
  | [] => by simp [compactFields, writtenFields]
  | [(key, value)] => by
    simp [compactFields, writtenFields, Value.compact_eq depth value, comma]
  | (key, value) :: next :: rest => by
    rw [compactFields, compactFields_eq depth (next :: rest), Value.compact_eq depth value,
      ← writtenFields_false, writtenFields.eq_def _ _ _ ((key, value) :: _)]
    · simp [comma]
    · simp

end

mutual

/-- The pretty form has a line for each item. -/
theorem Value.pretty_eq (depth : Nat) : (v : Value) → v.pretty depth = v.written .lines depth
  | .array [] | .object [] => by
    simp [Value.pretty, Value.written, writtenItems, writtenFields, Spacing.closing]
  | .array (item :: rest) => by
    simp [Value.pretty, Value.written, prettyItems_eq (depth + 1) (item :: rest), Spacing.closing]
  | .object (field :: rest) => by
    simp [Value.pretty, Value.written, prettyFields_eq (depth + 1) (field :: rest),
      Spacing.closing]
  | .null | .bool _ | .natural _ | .otherNumber _ | .string _ => by
    simp [Value.pretty, Value.written]

theorem prettyItems_eq (depth : Nat) : (items : List Value) →
    prettyItems depth items = writtenItems .lines depth true items
  | [] => by simp [prettyItems, writtenItems]
  | [item] => by simp [prettyItems, writtenItems, Value.pretty_eq depth item, comma]
  | item :: next :: rest => by
    rw [prettyItems, prettyItems_eq depth (next :: rest), Value.pretty_eq depth item,
      ← writtenItems_false, writtenItems.eq_def _ _ _ (item :: _)]
    · simp [comma]
    · simp

theorem prettyFields_eq (depth : Nat) : (fields : List (String × Value)) →
    prettyFields depth fields = writtenFields .lines depth true fields
  | [] => by simp [prettyFields, writtenFields]
  | [(key, value)] => by
    simp [prettyFields, writtenFields, Value.pretty_eq depth value, comma]
  | (key, value) :: next :: rest => by
    rw [prettyFields, prettyFields_eq depth (next :: rest), Value.pretty_eq depth value,
      ← writtenFields_false, writtenFields.eq_def _ _ _ ((key, value) :: _)]
    · simp [comma]
    · simp

end

end DocPress.Json
