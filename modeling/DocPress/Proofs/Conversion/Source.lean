import DocPress.Conversion.Files
import DocPress.Proofs.Text.Utf8

/-!
# DocPress.Proofs.Conversion.Source

What is read of a source: its text, but for one byte-order mark. So a source with such a mark and
one without it are read alike (`readSource_of_mark`). A source that cannot be read fails in a way
that no other part of a conversion fails in (`isOfSource_of_readSource`).
-/

namespace DocPress.Conversion

open DocPress.FileSystem DocPress.Text

variable {fs : Files} {path marked text decoded : String} {content : Bytes}

/-- The mark with which a text may begin. -/
def byteOrderMark : String := "\uFEFF"

/-- A text begins with a byte-order mark. -/
def BeginsWithMark (text : String) : Prop :=
  ∃ rest, text = byteOrderMark ++ rest

/-- One mark is dropped. -/
theorem dropByteOrderMark_append (text : String) :
    dropByteOrderMark (byteOrderMark ++ text) = text := by
  unfold dropByteOrderMark
  rw [String.toList_append, show byteOrderMark.toList = ['\uFEFF'] by decide,
    List.singleton_append]
  exact String.ofList_toList

/-- A text without a mark is kept. -/
theorem dropByteOrderMark_of_not (h : ¬ BeginsWithMark text) : dropByteOrderMark text = text := by
  unfold dropByteOrderMark
  split
  · next rest htext =>
    refine absurd ⟨String.ofList rest, ?_⟩ h
    rw [← String.toList_inj, String.toList_append, String.toList_ofList, htext]
    rfl
  · rfl

/-- At most one mark is dropped, and nothing else. -/
theorem eq_dropByteOrderMark (text : String) :
    text = byteOrderMark ++ dropByteOrderMark text ∨
      ¬ BeginsWithMark text ∧ text = dropByteOrderMark text := by
  by_cases h : BeginsWithMark text
  · obtain ⟨rest, rfl⟩ := h
    rw [dropByteOrderMark_append]
    exact .inl rfl
  · exact .inr ⟨h, (dropByteOrderMark_of_not h).symm⟩

/-- A mark in front of a text is its first character. -/
theorem decode?_mark (h : decode? content = some decoded) :
    decode? (encode byteOrderMark ++ content) = some (byteOrderMark ++ decoded) := by
  have hmark : encode byteOrderMark = [0xEF, 0xBB, 0xBF] := by
    rw [encode_eq]
    rfl
  have hchar : readChar 0xEF (0xBB :: 0xBF :: content) = (some '\uFEFF', content) := by
    rfl
  have hchars : readChars (0xEF :: 0xBB :: 0xBF :: content) =
      some '\uFEFF' :: readChars content := by
    rw [readChars, hchar]
  rw [decode?, Option.map_eq_some_iff] at h ⊢
  obtain ⟨cs, hcs, rfl⟩ := h
  refine ⟨'\uFEFF' :: cs, ?_, ?_⟩
  · rw [hmark]
    change (readChars (0xEF :: 0xBB :: 0xBF :: content)).mapM id = _
    rw [hchars, List.mapM_cons, hcs]
    rfl
  · rw [← String.toList_inj, String.toList_append, String.toList_ofList, String.toList_ofList]
    rfl

/-- A source is read if it is a file whose bytes stand for a text. -/
theorem readSource_of_readFile (hcontent : fs.readFile path = .ok content)
    (hdecode : decode? content = some decoded) :
    readSource fs path = .ok (dropByteOrderMark decoded) := by
  have hexists : fs.pathExists path = true := by
    rw [Files.readFile] at hcontent
    rw [Files.pathExists]
    cases hstat : fs.stat path with
    | error e =>
      rw [hstat] at hcontent
      cases hcontent
    | ok entry => rfl
  simp only [readSource, hexists, hcontent, hdecode, Bool.not_true, Bool.false_eq_true, if_false]

/-- With a mark in front or without it, the same is read. -/
theorem readSource_of_mark (hcontent : fs.readFile path = .ok content)
    (hmarked : fs.readFile marked = .ok (encode byteOrderMark ++ content))
    (hdecode : decode? content = some decoded) (hbegins : ¬ BeginsWithMark decoded) :
    readSource fs marked = readSource fs path := by
  rw [readSource_of_readFile hcontent hdecode,
    readSource_of_readFile hmarked (decode?_mark hdecode), dropByteOrderMark_append,
    dropByteOrderMark_of_not hbegins]

/-! ## Failures -/

/-- A failure says of the source that it is not there, or that it cannot be read. -/
def Failure.isOfSource : Failure → Bool
  | .sourceNotFound _ | .permissionDenied _ | .sourceNotUtf8 _ | .sourceReadFailed .. => true
  | _ => false

/-- A source that cannot be read fails as a source. -/
theorem isOfSource_of_readSource {e : Failure} (h : readSource fs path = .error e) :
    e.isOfSource = true := by
  unfold readSource at h
  split at h
  · cases h
    rfl
  · split at h
    · split at h
      · cases h
        rfl
      · split at h <;> cases h <;> rfl
    · split at h <;> cases h
      rfl

end DocPress.Conversion
