import DocPress.Text.Utf8

/-!
# DocPress.Proofs.Text.Utf8

Texts and their bytes:

1. The bytes of texts that are put together are the bytes of each, one behind the other
   (`encode_append`).
2. From every position in a text there is a boundary at most three bytes further on
   (`exists_boundary`), and the search finds the first one (`boundaryFrom_le`).
-/

namespace DocPress.Text

/-! ## Bytes -/

/-- The list of an array of bytes is read off from a place on, after what was read before. -/
theorem toList_loop (bytes : ByteArray) (i : Nat) (read : Bytes) :
    ByteArray.toList.loop bytes i read = read.reverse ++ bytes.data.toList.drop i := by
  fun_induction ByteArray.toList.loop bytes i read with
  | case1 i read hi ih =>
    have hi' : i < bytes.data.toList.length := by simpa using hi
    rw [ih, List.drop_eq_getElem_cons hi', List.reverse_cons, List.append_assoc]
    congr 2
    simp [ByteArray.get!, getElem!_pos, hi]
  | case2 i read hi =>
    have hi' : bytes.data.toList.length ≤ i := by simpa using hi
    rw [List.drop_eq_nil_of_le hi', List.append_nil]

theorem encode_eq (text : String) : encode text = text.toByteArray.data.toList := by
  rw [encode, String.toUTF8_eq_toByteArray, ByteArray.toList, toList_loop]
  rfl

/-- Texts are encoded one behind the other. -/
theorem encode_append (a b : String) : encode (a ++ b) = encode a ++ encode b := by
  rw [encode_eq, encode_eq, encode_eq, String.toByteArray_append, ByteArray.data_append,
    Array.toList_append]

/-- The first byte is that of the text in front. -/
theorem head?_encode_append {a b : String} (h : (encode a).head? = some byte) :
    (encode (a ++ b)).head? = some byte := by
  rw [encode_append, List.head?_append, h]
  rfl

/-! ## Boundaries -/

variable {text : String} {n : Nat} {start p : String.Pos.Raw}

/-- Behind every position there is a boundary, and it is no further than a character is long. The
induction takes characters off the front of the text until the position lies in the first one. -/
theorem exists_boundary (cs : List Char) (h : n ≤ (String.ofList cs).utf8ByteSize) :
    ∃ before after, cs = before ++ after ∧ n ≤ (String.ofList before).utf8ByteSize ∧
      (String.ofList before).utf8ByteSize ≤ n + 3 := by
  induction cs generalizing n with
  | nil =>
    have hzero : n = 0 := by simpa using h
    exact ⟨[], [], rfl, by simp [hzero], by simp⟩
  | cons c cs ih =>
    have hcons (cs : List Char) :
        (String.ofList (c :: cs)).utf8ByteSize = c.utf8Size + (String.ofList cs).utf8ByteSize := by
      rw [← List.singleton_append, String.ofList_append, String.utf8ByteSize_append]
      simp
    have hshort := c.utf8Size_le_four
    have hsize := hcons cs
    by_cases hzero : n = 0
    · exact ⟨[], c :: cs, rfl, by simp [hzero], by simp⟩
    · by_cases hc : n ≤ c.utf8Size
      · have hone : (String.ofList [c]).utf8ByteSize = c.utf8Size := by simp
        exact ⟨[c], cs, rfl, by omega, by omega⟩
      · obtain ⟨before, after, hcs, hle, hlt⟩ := @ih (n - c.utf8Size) (by omega)
        have hbefore := hcons before
        exact ⟨c :: before, after, by rw [hcs]; rfl, by omega, by omega⟩

/-- The search does not go back. -/
theorem le_boundaryFrom (h : start ≤ text.rawEndPos) :
    start ≤ (boundaryFrom text start h).offset := by
  fun_induction boundaryFrom text start h with
  | case1 start h hvalid => exact String.Pos.Raw.le_refl
  | case2 start h hvalid ih =>
    have hinc : start.inc.byteIdx = start.byteIdx + 1 := rfl
    have hle := String.Pos.Raw.le_iff.1 ih
    exact String.Pos.Raw.le_iff.2 (by omega)

/-- The search ends at the first boundary. -/
theorem boundaryFrom_le (h : start ≤ text.rawEndPos) (hp : p.IsValid text) (hle : start ≤ p) :
    (boundaryFrom text start h).offset ≤ p := by
  fun_induction boundaryFrom text start h with
  | case1 start h hvalid => exact hle
  | case2 start h hinvalid ih =>
    have hne : start.byteIdx ≠ p.byteIdx := fun heq =>
      hinvalid (String.Pos.Raw.ext heq ▸ hp)
    have hinc : start.inc.byteIdx = start.byteIdx + 1 := rfl
    have hlt := String.Pos.Raw.le_iff.1 hle
    exact ih (String.Pos.Raw.le_iff.2 (by omega))

/-- It tries three positions in vain at most. -/
theorem boundaryFrom_le_add (h : start ≤ text.rawEndPos) :
    (boundaryFrom text start h).offset.byteIdx ≤ start.byteIdx + 3 := by
  have hsize : start.byteIdx ≤ (String.ofList text.toList).utf8ByteSize := by
    simpa using String.Pos.Raw.le_iff.1 h
  obtain ⟨before, after, hcs, hle, hlt⟩ := exists_boundary text.toList hsize
  have htext : text = String.ofList before ++ String.ofList after := by
    rw [← String.ofList_append, ← hcs, String.ofList_toList]
  have hvalid : (String.ofList before).rawEndPos.IsValid text :=
    String.Pos.Raw.isValid_iff_exists_append.2 ⟨_, _, htext, rfl⟩
  have hfirst := String.Pos.Raw.le_iff.1 (boundaryFrom_le h hvalid (String.Pos.Raw.le_iff.2 hle))
  rw [String.byteIdx_rawEndPos] at hfirst
  omega

end DocPress.Text
