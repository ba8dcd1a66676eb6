import ModalEditor.Address

/-!
# Escaped delimiters

A text between delimiters is written with a backslash in front of each delimiter (`Text.escape`). Two
readers have to agree on what was written: `Text.cutUnescaped` finds the end of the text and steps over
a backslash together with the character behind it, while `Text.unescape` takes the backslash from a
delimiter and does not know of such pairs. For it, a pair of two backslashes could be read as one
backslash and another that escapes what comes next. It is not, since what comes next is never a bare
delimiter: `head?_escape`.
-/

namespace ModalEditor.Text

variable {delim : Char} {t : Text}

/-- The text consists of characters other than a backslash, and of pairs of a backslash and a character
other than the delimiter. -/
inductive Paired (delim : Char) : Text → Prop where
  | nil : Paired delim []
  | char {c : Char} {t : Text} (hc : c ≠ '\\') (ht : Paired delim t) : Paired delim (c :: t)
  | pair {c : Char} {t : Text} (hc : c ≠ delim) (ht : Paired delim t) : Paired delim ('\\' :: c :: t)

/-- The text with a backslash in front of each delimiter that is not behind one. -/
def escape (delim : Char) : Text → Text
  | [] => []
  | '\\' :: c :: rest => '\\' :: c :: escape delim rest
  | c :: rest => if c = delim then '\\' :: delim :: escape delim rest else c :: escape delim rest

theorem escape_char {c : Char} (hc : c ≠ '\\') (t : Text) :
    escape delim (c :: t) =
      if c = delim then '\\' :: delim :: escape delim t else c :: escape delim t := by
  rw [escape]
  intro d rest hbackslash
  exact absurd hbackslash hc

/-- What is written never starts with the delimiter. -/
theorem head?_escape (hdelim : delim ≠ '\\') (t : Text) : (escape delim t).head? ≠ some delim := by
  have hpair : some '\\' ≠ some delim := by
    intro heq
    exact hdelim (Option.some.inj heq).symm
  fun_cases escape delim t with
  | case1 => simp
  | case2 c rest => exact hpair
  | case3 rest hnot => exact hpair
  | case4 c rest hnot hc =>
    intro heq
    exact hc (Option.some.inj heq)

/-! ## Taking the backslashes away -/

theorem unescape_char {c : Char} (hc : c ≠ '\\') (t : Text) :
    unescape delim (c :: t) = c :: unescape delim t := by
  rw [unescape]
  intro d rest hbackslash
  exact absurd hbackslash hc

theorem unescape_delim (t : Text) :
    unescape delim ('\\' :: delim :: t) = delim :: unescape delim t := by
  rw [unescape, if_pos rfl]

/-- A backslash stays unless the delimiter is next. -/
theorem unescape_backslash (ht : t.head? ≠ some delim) :
    unescape delim ('\\' :: t) = '\\' :: unescape delim t := by
  cases t with
  | nil => rfl
  | cons c rest =>
    have hc : c ≠ delim := by
      rintro rfl
      exact ht rfl
    rw [unescape, if_neg hc]

/-- A pair stays as it is, also one of two backslashes. -/
theorem unescape_pair {c : Char} (hc : c ≠ delim) (ht : t.head? ≠ some delim) :
    unescape delim ('\\' :: c :: t) = '\\' :: c :: unescape delim t := by
  have hnext : (c :: t).head? ≠ some delim := by
    intro heq
    exact hc (Option.some.inj heq)
  rw [unescape_backslash hnext]
  by_cases hbackslash : c = '\\'
  · subst hbackslash
    rw [unescape_backslash ht]
  · rw [unescape_char hbackslash]

/-- What was escaped is read back. -/
theorem unescape_escape (hdelim : delim ≠ '\\') (h : Paired delim t) :
    unescape delim (escape delim t) = t := by
  induction h with
  | nil => rfl
  | @char c t hc ht ih =>
    rw [escape_char hc]
    split
    · rename_i heq
      rw [unescape_delim, ih, heq]
    · rw [unescape_char hc, ih]
  | @pair c t hc ht ih =>
    rw [escape, unescape_pair hc (head?_escape hdelim t), ih]

/-- Two backslashes in front of a delimiter: the first escapes the second and not the delimiter. -/
example : escape '#' "\\\\#a\\n".toList = "\\\\\\#a\\n".toList ∧
    unescape '#' "\\\\\\#a\\n".toList = "\\\\#a\\n".toList := by decide

/-! ## Finding the end -/

theorem cutUnescaped?_pair (c : Char) (t : Text) :
    cutUnescaped? delim ('\\' :: c :: t) =
      (cutUnescaped? delim t).map fun (a, b) => ('\\' :: c :: a, b) := by
  rw [cutUnescaped?]

theorem cutUnescaped?_char {c : Char} (hc : c ≠ '\\') (t : Text) :
    cutUnescaped? delim (c :: t) =
      if c = delim then some ([], t)
      else (cutUnescaped? delim t).map fun (a, b) => (c :: a, b) := by
  rw [cutUnescaped?]
  · intro hbackslash
    exact absurd hbackslash hc
  · intro d rest hbackslash
    exact absurd hbackslash hc

/-- A text that was escaped ends where the delimiter behind it stands. -/
theorem cutUnescaped_escape (hdelim : delim ≠ '\\') (h : Paired delim t) (rest : Text) :
    cutUnescaped delim (escape delim t ++ delim :: rest) = (escape delim t, rest) := by
  have hcut : cutUnescaped? delim (escape delim t ++ delim :: rest) =
      some (escape delim t, rest) := by
    induction h with
    | nil =>
      rw [escape, List.nil_append, cutUnescaped?_char hdelim, if_pos rfl]
    | @char c t hc ht ih =>
      rw [escape_char hc]
      split
      · rw [List.cons_append, List.cons_append, cutUnescaped?_pair, ih, Option.map_some]
      · rename_i hne
        rw [List.cons_append, cutUnescaped?_char hc, if_neg hne, ih, Option.map_some]
    | @pair c t hc ht ih =>
      rw [escape, List.cons_append, List.cons_append, cutUnescaped?_pair, ih, Option.map_some]
  rw [cutUnescaped, hcut, Option.getD_some]

end ModalEditor.Text
