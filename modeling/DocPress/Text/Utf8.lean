/-!
# DocPress.Text.Utf8

Text as bytes. A character is written as one to four bytes; the first byte says how many follow and
in which range the second one lies, every later one lies between 0x80 and 0xBF. What does not fit is
broken: `decode?` refuses it, `decodeLossy` puts one U+FFFD in place of the bytes that could still
have been the start of a character. A text can be cut only where no character lies across the cut;
its end is such a place, so from every position on there is one (`boundaryFrom`).
-/

namespace DocPress.Text

/-- The contents of a file, or of a stream. -/
abbrev Bytes := List UInt8

/-- The bytes of a text. -/
def encode (text : String) : Bytes :=
  text.toUTF8.toList

/-! ## Single characters -/

/-- The number of bytes behind a first byte above 0x7F, and the range of the next one. -/
def followers? (first : UInt8) : Option (Nat × UInt8 × UInt8) :=
  if 0xC2 ≤ first && first ≤ 0xDF then some (1, 0x80, 0xBF)
  else if first = 0xE0 then some (2, 0xA0, 0xBF)
  else if first = 0xED then some (2, 0x80, 0x9F)
  else if 0xE1 ≤ first && first ≤ 0xEF then some (2, 0x80, 0xBF)
  else if first = 0xF0 then some (3, 0x90, 0xBF)
  else if 0xF1 ≤ first && first ≤ 0xF3 then some (3, 0x80, 0xBF)
  else if first = 0xF4 then some (3, 0x80, 0x8F)
  else none

/-- The value that a first byte contributes to its code point, where `n` bytes follow. -/
def firstBits (first : UInt8) (n : Nat) : Nat :=
  first.toNat % (1 <<< (6 - n))

/-- Reads `n` more bytes of a code point, the next one in the given range. Gives the code point if
they are all there, and the bytes that are left in any case. -/
def readFollowers : Nat → UInt8 → UInt8 → Nat → Bytes → Option Nat × Bytes
  | 0, _, _, code, bytes => (some code, bytes)
  | _ + 1, _, _, _, [] => (none, [])
  | n + 1, low, high, code, b :: bytes =>
    if low ≤ b && b ≤ high then readFollowers n 0x80 0xBF (code * 64 + b.toNat % 64) bytes
    else (none, b :: bytes)

/-- Following bytes are only taken away. -/
theorem length_readFollowers_le (n : Nat) (low high : UInt8) (code : Nat) (bytes : Bytes) :
    (readFollowers n low high code bytes).2.length ≤ bytes.length := by
  induction n generalizing low high code bytes with
  | zero => simp [readFollowers]
  | succ n ih =>
    cases bytes with
    | nil => simp [readFollowers]
    | cons b bytes =>
      simp only [readFollowers]
      split
      · exact Nat.le_succ_of_le (ih ..)
      · simp

/-- The character that begins with a given byte, if it is not broken, and the bytes behind it. -/
def readChar (first : UInt8) (bytes : Bytes) : Option Char × Bytes :=
  if first < 0x80 then (some (Char.ofNat first.toNat), bytes)
  else
    match followers? first with
    | none => (none, bytes)
    | some (n, low, high) =>
      let (code, rest) := readFollowers n low high (firstBits first n) bytes
      (code.map Char.ofNat, rest)

/-- A character begins with its first byte. -/
theorem length_readChar_le (first : UInt8) (bytes : Bytes) :
    (readChar first bytes).2.length ≤ bytes.length := by
  unfold readChar
  split
  · simp
  · split
    · simp
    · exact length_readFollowers_le ..

/-! ## Texts -/

/-- The characters of a text; `none` stands for each broken one. -/
def readChars : Bytes → List (Option Char)
  | [] => []
  | first :: bytes =>
    have := length_readChar_le first bytes
    (readChar first bytes).1 :: readChars (readChar first bytes).2
termination_by bytes => bytes.length
decreasing_by simp only [List.length_cons]; omega

/-- The text that bytes stand for, if none of it is broken. -/
def decode? (bytes : Bytes) : Option String :=
  ((readChars bytes).mapM id).map String.ofList

/-- The text that bytes stand for, with U+FFFD in place of what is broken. -/
def decodeLossy (bytes : Bytes) : String :=
  String.ofList ((readChars bytes).map (·.getD '\uFFFD'))

/-! ## Boundaries -/

/-- A position that is not valid lies before the end. -/
theorem inc_le_of_not_isValid {text : String} {start : String.Pos.Raw}
    (h : start ≤ text.rawEndPos) (hinvalid : ¬ start.IsValid text) :
    start.inc ≤ text.rawEndPos := by
  have hne : start ≠ text.rawEndPos := by
    rintro rfl
    exact hinvalid String.Pos.Raw.isValid_rawEndPos
  have hidx : start.byteIdx ≠ text.rawEndPos.byteIdx := fun heq =>
    hne (String.Pos.Raw.ext heq)
  have hle := String.Pos.Raw.le_iff.1 h
  have hinc : start.inc.byteIdx = start.byteIdx + 1 := rfl
  exact String.Pos.Raw.le_iff.2 (by omega)

/-- The first position from a given one on across which no character lies. The positions are tried
one after the other. -/
def boundaryFrom (text : String) (start : String.Pos.Raw) (h : start ≤ text.rawEndPos) :
    text.Pos :=
  if hvalid : start.IsValid text then ⟨start, hvalid⟩
  else boundaryFrom text start.inc (inc_le_of_not_isValid h hvalid)
termination_by text.utf8ByteSize - start.byteIdx
decreasing_by
  have hle := String.Pos.Raw.le_iff.1 (inc_le_of_not_isValid h hvalid)
  have hinc : start.inc.byteIdx = start.byteIdx + 1 := rfl
  have hend : text.rawEndPos.byteIdx = text.utf8ByteSize := String.byteIdx_rawEndPos
  omega

end DocPress.Text
