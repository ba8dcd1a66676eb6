import ModalEditor.Text.Number

/-!
# Templates

A template is the text that takes the place of a match. `$1` and `${1}` stand for the text of a
group, `$name` and `${name}` for that of a named group, and `$$` for a dollar sign; a group that
took no part counts as empty, and a `$` that starts no reference stands for itself. The name after a
bare `$` is as long as it can be.
-/

namespace ModalEditor.Pattern.Template

/-- A character in a name without braces. -/
def isRefChar (c : Char) : Bool := isDigit c || isLetter c || c = '_'

/-- The name in a reference at the front of the text, which follows a `$`, and the rest. -/
def reference? : Text → Option (Text × Text)
  | '{' :: t => Text.cut? '}' t
  | t =>
    let name := t.takeWhile isRefChar
    if name.isEmpty then none else some (name, t.dropWhile isRefChar)

/-- The text of a reference: a number names a group by its number. -/
def resolve (group : Nat → Text) (named : Text → Option Nat) (name : Text) : Text :=
  match Text.number? name with
  | some i => group i
  | none => ((named name).map group).getD []

theorem cut?_snd_length {c : Char} {t a b : Text} (h : Text.cut? c t = some (a, b)) :
    b.length < t.length := by
  induction t generalizing a b with
  | nil => simp [Text.cut?] at h
  | cons d t ih =>
    by_cases hd : d = c
    · simp [Text.cut?, hd] at h
      simp [← h.2]
    · simp [Text.cut?, hd] at h
      obtain ⟨x, hx, _⟩ := h
      exact Nat.lt_succ_of_lt (ih hx)

/-- The rest after a reference is no longer than the text. -/
theorem reference?_rest_length {t name rest : Text} (h : reference? t = some (name, rest)) :
    rest.length ≤ t.length := by
  unfold reference? at h
  split at h
  · exact Nat.le_of_lt (Nat.lt_succ_of_lt (cut?_snd_length h))
  · simp only [] at h
    split at h
    · simp at h
    · simp only [Option.some.injEq, Prod.mk.injEq] at h
      rw [← h.2]
      exact (List.dropWhile_sublist _).length_le

/-- The text that a template stands for, given the texts of the groups. -/
def expand (group : Nat → Text) (named : Text → Option Nat) : Text → Text
  | [] => []
  | '$' :: '$' :: t => '$' :: expand group named t
  | '$' :: t =>
    match h : reference? t with
    | some (name, rest) =>
      have := reference?_rest_length h
      resolve group named name ++ expand group named rest
    | none => '$' :: expand group named t
  | c :: t => c :: expand group named t
termination_by t => t.length

end ModalEditor.Pattern.Template
