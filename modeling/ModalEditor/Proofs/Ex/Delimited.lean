import Mathlib
import ModalEditor.Ex.Reading
import ModalEditor.Proofs.Text.CharSet
import ModalEditor.Proofs.Text.Escaping

/-!
# Commands between delimiters

A substitution or a global command that is written out, with its parts escaped and put between
delimiters, is read as that command. A command line is first trimmed and tried as a mark, a register and
a range. All that pass a line by which starts with a letter and does not end in a blank
(`readLine_of_letter`), and a delimiter is neither a blank nor a letter, so that no longer name fits in
front of it. What then has to be read back are the parts, see `Text.cutUnescaped_escape` and
`Text.unescape_escape`.
-/

namespace ModalEditor

/-! ## Lines that start with a letter -/

namespace Text

theorem trimStart_cons {c : Char} (hc : isBlank c = false) (t : Text) :
    trimStart (c :: t) = c :: t := by
  have hkeep : ¬ isBlank c = true := by
    rw [hc]
    exact Bool.false_ne_true
  rw [trimStart, List.dropWhile_cons_of_neg hkeep]

/-- Nothing is trimmed from a text that ends in a part without blanks. -/
theorem trimEnd_append {last : Text} (hne : last ≠ []) (hlast : ∀ c ∈ last, isBlank c = false)
    (t : Text) : trimEnd (t ++ last) = t ++ last := by
  obtain ⟨c, before, hreverse⟩ := List.exists_cons_of_ne_nil (List.reverse_ne_nil_iff.mpr hne)
  have hc : isBlank c = false := by
    refine hlast c (List.mem_reverse.mp ?_)
    rw [hreverse]
    exact List.mem_cons_self
  have hkeep : (t ++ last).reverse.dropWhile isBlank = (t ++ last).reverse := by
    rw [List.reverse_append, hreverse, List.cons_append]
    exact trimStart_cons hc _
  rw [trimEnd, hkeep, List.reverse_reverse]

end Text

section Letters

variable {c : Char}

theorem not_isBlank_of_isLetter (hc : isLetter c = true) : isBlank c = false := by
  rw [isLetter_iff, isLowerLetter_iff] at hc
  simp [isBlank, blankRanges]
  omega

theorem ne_of_isLetter (hc : isLetter c = true) {d : Char} (hd : isLetter d = false) : c ≠ d := by
  rintro rfl
  rw [hc] at hd
  cases hd

theorem Base.split?_letter (hc : isLetter c = true) (t : Text) : split? (c :: t) = none := by
  have hdigit := not_isDigit_of_isLetter hc
  unfold split?
  split
  case h_6 => simp [Text.splitNumber?, Text.count?, hdigit]
  all_goals
    rename_i heq
    cases heq
    exact absurd hc (by decide)

/-- A letter starts no address. -/
theorem Address.split?_letter (hc : isLetter c = true) (t : Text) : split? (c :: t) = none := by
  have hplus : c ≠ '+' := ne_of_isLetter hc (by decide)
  have hminus : c ≠ '-' := ne_of_isLetter hc (by decide)
  have hoffsets : splitOffsets 0 0 (c :: t).length (c :: t) = (0, 0, c :: t) := by
    simp [splitOffsets, hplus, hminus]
  rw [split?, Base.split?_letter hc, hoffsets]
  rfl

theorem Range.split_letter (hc : isLetter c = true) (t : Text) :
    split (c :: t) = (.implicit, c :: t) := by
  unfold split
  split
  · rename_i heq
    cases heq
    exact absurd hc (by decide)
  · rw [Address.split?_letter hc]

namespace ExCommand

/-- A line that starts with a letter has no form in front of its command. -/
theorem readFrom_of_letter (fuel : Nat) (hc : isLetter c = true) {t : Text}
    (htrim : Text.trim (c :: t) = c :: t) :
    readFrom (fuel + 1) (c :: t) = readCommand .implicit (c :: t) := by
  have hmark : splitMark? (c :: t) = none := by
    unfold splitMark?
    split
    · rename_i heq
      cases heq
      exact absurd hc (by decide)
    · rfl
  unfold readFrom
  dsimp only
  rw [htrim, hmark]
  dsimp only
  split
  · rename_i heq
    cases heq
    exact absurd hc (by decide)
  · rename_i heq
    cases heq
    exact absurd hc (by decide)
  · rw [Range.split_letter hc]
    dsimp only
    rw [Text.trimStart_cons (not_isBlank_of_isLetter hc)]

theorem readLine_of_letter (hc : isLetter c = true) {t : Text} (htrim : Text.trim (c :: t) = c :: t) :
    readLine (c :: t) = readCommand .implicit (c :: t) := readFrom_of_letter _ hc htrim

end ExCommand

end Letters

/-! ## Commands with parts between delimiters -/

namespace ExCommand

section Delimiters

variable {delim : Char}

theorem isDelimiter_iff : isDelimiter delim = true ↔
    isAlphanumeric delim = false ∧ isBlank delim = false ∧ delim ∉ ['\\', '"', '|'] := by
  rw [isDelimiter, Bool.and_eq_true, Bool.and_eq_true, Bool.not_eq_true', Bool.not_eq_true',
    decide_eq_true_iff, and_assoc]

theorem not_isLetter_of_isDelimiter (h : isDelimiter delim = true) : isLetter delim = false := by
  obtain ⟨hother, -, -⟩ := isDelimiter_iff.mp h
  cases hletter : isLetter delim with
  | false => rfl
  | true =>
    have hascii : delim.toNat < 128 := by
      rw [isLetter_iff, isLowerLetter_iff] at hletter
      omega
    rw [(isAlphanumeric_iff_of_ascii hascii).mpr (.inl hletter)] at hother
    cases hother

/-- No letter of a longer name is a delimiter. -/
theorem ne_of_isDelimiter (h : isDelimiter delim = true) {c : Char} (hc : isLetter c = true) :
    c ≠ delim := ne_of_isLetter hc (not_isLetter_of_isDelimiter h)

theorem ne_backslash_of_isDelimiter (h : isDelimiter delim = true) : delim ≠ '\\' := by
  obtain ⟨-, -, hother⟩ := isDelimiter_iff.mp h
  rintro rfl
  exact hother List.mem_cons_self

theorem substituteBody?_s (h : isDelimiter delim = true) (t : Text) :
    substituteBody? ('s' :: delim :: t) = some (delim :: t) := by
  have hlong : Text.after? "substitute".toList ('s' :: delim :: t) = none := by
    have hne : 'u' ≠ delim := ne_of_isDelimiter h (by decide)
    simp [Text.after?, List.isPrefixOf?, hne]
  have hshort : Text.after? ['s'] ('s' :: delim :: t) = some (delim :: t) := by
    simp [Text.after?, List.isPrefixOf?]
  -- What is a delimiter is only known from `h`; the tables behind it are too large to compute with.
  have hhead : (delim :: t).head?.all isDelimiter = true := by
    rw [List.head?_cons, Option.all_some, h]
  rw [substituteBody?, hlong, hshort, Option.none_or, Option.bind_eq_bind, Option.bind_eq_some_iff]
  refine ⟨delim :: t, rfl, ?_⟩
  rw [if_pos hhead, Option.pure_def]

theorem globalBody?_g (h : isDelimiter delim = true) (hbang : delim ≠ '!') (t : Text) :
    globalBody? ('g' :: delim :: t) = some (false, delim :: t) := by
  obtain ⟨-, hblank, -⟩ := isDelimiter_iff.mp h
  have hlong : Text.after? "global".toList ('g' :: delim :: t) = none := by
    have hne : 'l' ≠ delim := ne_of_isDelimiter h (by decide)
    simp [Text.after?, List.isPrefixOf?, hne]
  have hinverse : Text.after? "vglobal".toList ('g' :: delim :: t) = none := by
    simp [Text.after?, List.isPrefixOf?]
  have hshort : Text.after? "g".toList ('g' :: delim :: t) = some (delim :: t) := by
    simp [Text.after?, List.isPrefixOf?]
  rw [globalBody?, Option.bind_eq_bind, Option.bind_eq_some_iff]
  refine ⟨(false, delim :: t), ?_, ?_⟩
  · rw [globalNames, List.findSome?_cons, List.findSome?_cons, List.findSome?_cons]
    dsimp only
    rw [hlong, hinverse, hshort]
    rfl
  dsimp only
  split
  · rename_i heq
    cases heq
    exact absurd rfl hbang
  · have hhead : (delim :: t).head?.any isDelimiter = true := by
      rw [List.head?_cons, Option.any_some, h]
    dsimp only
    rw [Text.trimStart_cons hblank, if_pos hhead, Option.pure_def]

theorem readCommand_s (h : isDelimiter delim = true) (range : Range) (t : Text) :
    readCommand range ('s' :: delim :: t) = .ok (readSubstitute range (delim :: t)) := by
  rw [readCommand, substituteBody?_s h]
  all_goals simp

theorem readCommand_g (h : isDelimiter delim = true) (hbang : delim ≠ '!') (range : Range)
    (t : Text) : readCommand range ('g' :: delim :: t) = readGlobal range false (delim :: t) := by
  have hlong : Text.after? "substitute".toList ('g' :: delim :: t) = none := by
    simp [Text.after?, List.isPrefixOf?]
  have hshort : Text.after? ['s'] ('g' :: delim :: t) = none := by
    simp [Text.after?, List.isPrefixOf?]
  have hnone : substituteBody? ('g' :: delim :: t) = none := by
    rw [substituteBody?, hlong, hshort]
    rfl
  rw [readCommand, hnone, globalBody?_g h hbang]
  all_goals simp

end Delimiters

/-! ## Written out and read back -/

/-- A substitution as typed, with its parts between delimiters. -/
def substituteLine (delim : Char) (pattern replacement flags : Text) : Text :=
  's' :: delim :: (Text.escape delim pattern ++
    delim :: (Text.escape delim replacement ++ delim :: flags))

/-- A global command that deletes lines as typed, with its pattern between delimiters. -/
def globalDeleteLine (delim : Char) (pattern : Text) : Text :=
  'g' :: delim :: (Text.escape delim pattern ++ [delim, 'd'])

section Written

variable {delim : Char} {pattern replacement : Text}

theorem substituteParts_escape (h : isDelimiter delim = true) (hpattern : Text.Paired delim pattern)
    (hreplacement : Text.Paired delim replacement) (flags : Text) :
    substituteParts delim (Text.escape delim pattern ++
        delim :: (Text.escape delim replacement ++ delim :: flags)) =
      (pattern, replacement, .ofText flags) := by
  have hdelim := ne_backslash_of_isDelimiter h
  rw [substituteParts, Text.cutUnescaped_escape hdelim hpattern]
  dsimp only
  rw [Text.cutUnescaped_escape hdelim hreplacement]
  dsimp only
  rw [Text.unescape_escape hdelim hpattern, Text.unescape_escape hdelim hreplacement]

theorem trim_substituteLine (h : isDelimiter delim = true) (pattern replacement : Text)
    {flags : Text} (hflags : ∀ c ∈ flags, isBlank c = false) :
    Text.trim (substituteLine delim pattern replacement flags) =
      substituteLine delim pattern replacement flags := by
  obtain ⟨-, hblank, -⟩ := isDelimiter_iff.mp h
  have hlast : ∀ c ∈ delim :: flags, isBlank c = false :=
    List.forall_mem_cons.mpr ⟨hblank, hflags⟩
  have hkeep := Text.trimEnd_append (List.cons_ne_nil _ _) hlast
    ('s' :: delim :: (Text.escape delim pattern ++ delim :: Text.escape delim replacement))
  rw [Text.trim, substituteLine, Text.trimStart_cons (by decide)]
  simpa using hkeep

theorem trim_globalDeleteLine (delim : Char) (pattern : Text) :
    Text.trim (globalDeleteLine delim pattern) = globalDeleteLine delim pattern := by
  have hlast : ∀ c ∈ ['d'], isBlank c = false := by
    rw [List.forall_mem_singleton]
    decide
  have hkeep := Text.trimEnd_append (List.cons_ne_nil _ _) hlast
    ('g' :: delim :: (Text.escape delim pattern ++ [delim]))
  rw [Text.trim, globalDeleteLine, Text.trimStart_cons (by decide)]
  simpa using hkeep

end Written

/-- What is written out with its parts escaped is read back, whatever the delimiter: a substitution
with any flags, and for a global command with every delimiter but `!`, which would turn it around. -/
theorem readLine_written {delim : Char} {pattern : Text} (h : isDelimiter delim = true)
    (hpattern : Text.Paired delim pattern) :
    (∀ replacement flags : Text, Text.Paired delim replacement →
      (∀ c ∈ flags, c ∈ ['g', 'i', 'I', 'n']) →
      readLine (substituteLine delim pattern replacement flags) =
        .ok (.substitute .implicit pattern replacement
          { all := 'g' ∈ flags, ignoreCase := 'i' ∈ flags, matchCase := 'I' ∈ flags,
            countOnly := 'n' ∈ flags })) ∧
    (delim ≠ '!' →
      readLine (globalDeleteLine delim pattern) = .ok (.global .implicit pattern false .delete)) := by
  have hdelim := ne_backslash_of_isDelimiter h
  constructor
  · intro replacement flags hreplacement hflags
    have hletters : ∀ c ∈ ['g', 'i', 'I', 'n'], isBlank c = false := by
      simp [isBlank, blankRanges]
    have htrim := trim_substituteLine h pattern replacement fun c hc => hletters c (hflags c hc)
    rw [substituteLine] at htrim ⊢
    rw [readLine_of_letter (by decide) htrim, readCommand_s h, readSubstitute,
      substituteParts_escape h hpattern hreplacement]
    rfl
  · intro hbang
    have htrim := trim_globalDeleteLine delim pattern
    have haction : readGlobalAction (Text.trim ['d']) = .ok .delete := by
      rw [readGlobalAction, if_pos (by decide)]
    rw [globalDeleteLine] at htrim ⊢
    rw [readLine_of_letter (by decide) htrim, readCommand_g h hbang, readGlobal,
      Text.cutUnescaped_escape hdelim hpattern]
    dsimp only
    rw [haction, Text.unescape_escape hdelim hpattern]
    rfl

/-- Two backslashes in front of a `#`, which is the delimiter, and two more at the end of the pattern. -/
theorem readLine_written_of_backslashes :
    let pattern : Text := ['\\', '\\', '#', 'a', '\\', '\\']
    isDelimiter '#' = true ∧ Text.Paired '#' pattern ∧ Text.Paired '#' ['#', '&'] ∧
    readLine "s#\\\\\\#a\\\\#\\#&#Ig".toList =
      .ok (.substitute .implicit pattern ['#', '&'] { all := true, matchCase := true }) ∧
    readLine "g#\\\\\\#a\\\\#d".toList = .ok (.global .implicit pattern false .delete) := by
  intro pattern
  have hdelim : isDelimiter '#' = true := by
    have hother : ¬ isAlphanumeric '#' = true := by
      rw [isAlphanumeric_iff_of_ascii (by decide)]
      decide
    exact isDelimiter_iff.mpr ⟨Bool.eq_false_iff.mpr hother, by decide, by decide⟩
  have hpattern : Text.Paired '#' pattern :=
    .pair (by decide) (.char (by decide) (.char (by decide) (.pair (by decide) .nil)))
  have hreplacement : Text.Paired '#' ['#', '&'] := .char (by decide) (.char (by decide) .nil)
  obtain ⟨hsubstitute, hglobal⟩ := readLine_written hdelim hpattern
  have hread := hsubstitute ['#', '&'] ['I', 'g'] hreplacement (by simp)
  have hdelete := hglobal (by decide)
  exact ⟨hdelim, hpattern, hreplacement, hread, hdelete⟩

end ExCommand

end ModalEditor
