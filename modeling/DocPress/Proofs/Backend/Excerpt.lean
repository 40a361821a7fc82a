import DocPress.Proofs.Backend.Starting
import DocPress.Proofs.Text.Utf8

/-!
# DocPress.Proofs.Backend.Excerpt

What is kept of what a renderer has to say about its failure: the longest end of it that fits.

1. What is kept of a text begins at the first boundary from which it fits (`tail_eq`). So every
   other end of the text that fits is an end of it (`isLongestEnd_tail`).
2. The error of a renderer holds such an end of all that the program has written, without the blanks
   around it (`tail_longest`).
-/

namespace DocPress.Text

variable {before : String}

/-! ## Ends of texts -/

/-- A text is an end of another one. -/
def IsEndOf (rest text : String) : Prop :=
  ∃ before, text = before ++ rest

theorem isEndOf_refl (text : String) : IsEndOf text text := ⟨"", by simp⟩

/-- The longest end of a text that fits so many bytes: every other one is an end of it. -/
structure IsLongestEnd (kept text : String) (limit : Nat) : Prop where
  isEnd : IsEndOf kept text
  fits : kept.utf8ByteSize ≤ limit
  longest : ∀ rest, IsEndOf rest text → rest.utf8ByteSize ≤ limit → IsEndOf rest kept

/-- Of two ends of a text, the one that begins later is an end of the other. -/
theorem isEndOf_of_le {kept before' rest : String} (h : before ++ kept = before' ++ rest)
    (hle : before.utf8ByteSize ≤ before'.utf8ByteSize) : IsEndOf rest kept := by
  have hlists : before.toList ++ kept.toList = before'.toList ++ rest.toList := by
    simpa using congrArg String.toList h
  rcases List.append_eq_append_iff.1 hlists with ⟨mid, hbefore, hkept⟩ | ⟨mid, hbefore, hrest⟩
  · exact ⟨String.ofList mid, String.toList_inj.1 (by simpa using hkept)⟩
  · have hsplit : before = before' ++ String.ofList mid :=
      String.toList_inj.1 (by simpa using hbefore)
    have hmid : (String.ofList mid).utf8ByteSize = 0 := by
      rw [hsplit, String.utf8ByteSize_append] at hle
      omega
    have hnil : mid = [] := by simpa using hmid
    rw [hnil, List.nil_append] at hrest
    exact String.toList_inj.1 hrest ▸ isEndOf_refl _

end DocPress.Text

namespace DocPress.Backend

open DocPress.FileSystem DocPress.Program DocPress.Text

variable {text rest : String} {limit : Nat}

/-! ## What is kept -/

/-- The place so many bytes before the end lies in the text. -/
theorem sub_le_rawEndPos (text : String) (limit : Nat) :
    (⟨text.utf8ByteSize - limit⟩ : String.Pos.Raw) ≤ text.rawEndPos :=
  Nat.sub_le ..

/-- Where the end of a text begins that fits so many bytes. -/
def tailStart (text : String) (limit : Nat) : text.Pos :=
  boundaryFrom text ⟨text.utf8ByteSize - limit⟩ (sub_le_rawEndPos text limit)

/-- The end that is kept begins no earlier than so many bytes before the end of the text. -/
theorem le_tailStart (text : String) (limit : Nat) :
    text.utf8ByteSize - limit ≤ (tailStart text limit).offset.byteIdx :=
  String.Pos.Raw.le_iff.1 (le_boundaryFrom _)

/-- It begins at most three bytes later, as a character has at most four. -/
theorem tailStart_le (text : String) (limit : Nat) :
    (tailStart text limit).offset.byteIdx ≤ text.utf8ByteSize - limit + 3 :=
  boundaryFrom_le_add _

/-- No boundary in front of the start would do. -/
theorem tailStart_le_of_end {before : String} (h : text = before ++ rest)
    (hrest : rest.utf8ByteSize ≤ limit) :
    (tailStart text limit).offset.byteIdx ≤ before.utf8ByteSize := by
  have hvalid : before.rawEndPos.IsValid text :=
    String.Pos.Raw.isValid_iff_exists_append.2 ⟨before, rest, h, rfl⟩
  have hsize : text.utf8ByteSize = before.utf8ByteSize + rest.utf8ByteSize := by
    rw [h, String.utf8ByteSize_append]
  have hle : text.utf8ByteSize - limit ≤ before.utf8ByteSize := by omega
  exact String.Pos.Raw.le_iff.1 (boundaryFrom_le _ hvalid (String.Pos.Raw.le_iff.2 hle))

/-- What is kept of a text is what stands behind its start; of a text that fits this is all. -/
theorem tail_eq (text : String) (limit : Nat) :
    tail text limit = (text.sliceFrom (tailStart text limit)).copy := by
  rw [tail]
  split
  · next hfits =>
    have hzero : (tailStart text limit).offset.byteIdx ≤ 0 :=
      tailStart_le_of_end String.empty_append.symm hfits
    have hsplits := (tailStart text limit).splits
    have hfront : (text.sliceTo (tailStart text limit)).copy.utf8ByteSize = 0 := by
      have hoffset := congrArg String.Pos.Raw.byteIdx hsplits.offset_eq_rawEndPos
      rw [String.byteIdx_rawEndPos] at hoffset
      omega
    have hempty : (text.sliceTo (tailStart text limit)).copy = "" :=
      String.utf8ByteSize_eq_zero_iff.1 hfront
    have heq := hsplits.eq_append
    rw [hempty, String.empty_append] at heq
    exact heq
  · rfl

/-- A text is what stands in front of the start, and what is kept. -/
theorem exists_eq_append_tail (text : String) (limit : Nat) :
    ∃ before, text = before ++ tail text limit ∧
      before.utf8ByteSize = (tailStart text limit).offset.byteIdx := by
  have hsplits := (tailStart text limit).splits
  have hoffset := congrArg String.Pos.Raw.byteIdx hsplits.offset_eq_rawEndPos
  rw [String.byteIdx_rawEndPos] at hoffset
  rw [tail_eq]
  exact ⟨_, hsplits.eq_append, hoffset.symm⟩

/-- What is cut off and what is kept make up the text. -/
theorem utf8ByteSize_tail (text : String) (limit : Nat) :
    text.utf8ByteSize = (tailStart text limit).offset.byteIdx + (tail text limit).utf8ByteSize := by
  obtain ⟨before, htext, hbefore⟩ := exists_eq_append_tail text limit
  have hsize := congrArg String.utf8ByteSize htext
  rwa [String.utf8ByteSize_append, hbefore] at hsize

/-- Any longer end would begin at an earlier boundary, and would not fit. -/
theorem isLongestEnd_tail (text : String) (limit : Nat) :
    IsLongestEnd (tail text limit) text limit := by
  obtain ⟨before, htext, hbefore⟩ := exists_eq_append_tail text limit
  refine ⟨⟨before, htext⟩, ?_, ?_⟩
  · have hsize := utf8ByteSize_tail text limit
    have hstart := le_tailStart text limit
    omega
  · intro rest ⟨before', htext'⟩ hfits
    have hle := tailStart_le_of_end htext' hfits
    exact isEndOf_of_le (htext.symm.trans htext') (by omega)

/-! ## Errors of renderers -/

/-- An error that tells how a program ended holds an excerpt of what the program has written. -/
theorem judge_eq_failed {backend program name status stderr : String}
    {outcome : Except IoError Finished}
    (h : judge backend program outcome = .error (.failed name status stderr)) :
    ∃ finished, outcome = .ok finished ∧ stderr = stderrExcerpt finished.stderr := by
  cases outcome with
  | error e => simp [judge] at h
  | ok finished =>
    rw [judge] at h
    split at h
    · cases h
    · cases h
      exact ⟨finished, rfl, rfl⟩

/-- What became of a program is judged by its outcome alone. -/
theorem run_runRenderer (m : Machine) (backend program : String) (arguments : List String)
    (fs : Files) : ((runRenderer m backend program arguments).run.run fs).1 =
      judge backend program ((m.spawn program arguments).run.run fs).1 := rfl

/-- What is kept of a text is its longest end that fits, and the search for its start stays within
the text. So the error of a renderer that has failed holds the longest end of 2000 bytes of what the
program has written. -/
theorem tail_longest :
    (∀ text limit,
      let kept := tail text limit
      let start := boundaryFrom text ⟨text.utf8ByteSize - limit⟩ (Nat.sub_le ..)
      IsLongestEnd kept text limit ∧ (text.utf8ByteSize ≤ limit → kept = text) ∧
      (limit < text.utf8ByteSize → limit ≤ kept.utf8ByteSize + 3) ∧
      -- The search ends within the text, where no character is cut.
      start ≤ text.endPos ∧ start.offset.IsValid text ∧
      text.utf8ByteSize = start.offset.byteIdx + kept.utf8ByteSize ∧
      start.offset.byteIdx ≤ text.utf8ByteSize - limit + 3) ∧
    ∀ (m : Machine) (backend program : String) (arguments : List String) (fs : Files)
      (name status stderr : String),
      ((runRenderer m backend program arguments).run.run fs).1 =
        .error (.failed name status stderr) →
      ∃ finished, ((m.spawn program arguments).run.run fs).1 = .ok finished ∧
        IsLongestEnd stderr (trim (decodeLossy finished.stderr)) 2000 := by
  constructor
  · intro text limit kept start
    have hsize : text.utf8ByteSize = start.offset.byteIdx + kept.utf8ByteSize :=
      utf8ByteSize_tail text limit
    have hstart : start.offset.byteIdx ≤ text.utf8ByteSize - limit + 3 := tailStart_le text limit
    have hfits : text.utf8ByteSize ≤ limit → kept = text := fun h => by
      simp only [kept, tail, if_pos h]
    exact ⟨isLongestEnd_tail text limit, hfits, fun h => by omega, start.le_endPos, start.isValid,
      hsize, hstart⟩
  · intro m backend program arguments fs name status stderr h
    obtain ⟨finished, hspawn, hstderr⟩ := judge_eq_failed ((run_runRenderer ..).symm.trans h)
    exact ⟨finished, hspawn, hstderr ▸ isLongestEnd_tail _ _⟩

/-- The end of a text in which the limit lies in a character, and the error of a program that has
written one letter. -/
theorem tail_longest_letter :
    IsLongestEnd (tail "aéb" 2) "aéb" 2 ∧ 2 ≤ (tail "aéb" 2).utf8ByteSize + 3 ∧
      ∃ stderr, ((runRenderer (Sample.machine []) "wkhtmltopdf" "bin/wkhtmltopdf" []).run.run
          Sample.files).1 = .error (.failed "wkhtmltopdf" "exit status: 1" stderr) ∧
        ∃ finished, ((Sample.machine []).spawn "bin/wkhtmltopdf" []).run.run Sample.files =
            (.ok finished, Sample.files) ∧
          IsLongestEnd stderr (trim (decodeLossy finished.stderr)) 2000 := by
  have hslash : "bin/wkhtmltopdf".contains '/' = true := by
    rw [String.contains_char_eq]
    decide
  have hnul : "bin/wkhtmltopdf".contains '\x00' = false := by
    rw [String.contains_char_eq]
    decide
  have hspawn : ((Sample.machine []).spawn "bin/wkhtmltopdf" []).run.run Sample.files =
      (.ok ⟨.exited 1, [], [111]⟩, Sample.files) :=
    run_spawn _ hnul rfl (resolveProgram_of_programAt hslash Sample.programAt_bin)
  have hfailed : ((runRenderer (Sample.machine []) "wkhtmltopdf" "bin/wkhtmltopdf" []).run.run
      Sample.files).1 = .error (.failed "wkhtmltopdf" "exit status: 1" (stderrExcerpt [111])) := by
    rw [run_runRenderer, hspawn]
    rfl
  obtain ⟨hlongest, -, hcut, -⟩ := tail_longest.1 "aéb" 2
  obtain ⟨finished, hfinished, hend⟩ := tail_longest.2 _ _ _ _ _ _ _ _ hfailed
  rw [hspawn, Except.ok.injEq] at hfinished
  exact ⟨hlongest, hcut (by decide), _, hfailed, finished, by rw [hspawn, hfinished], hend⟩

end DocPress.Backend
