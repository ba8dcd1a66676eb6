import Mathlib
import ModalEditor.Edit.Substitute
import ModalEditor.Proofs.Pattern.Matches
import ModalEditor.Proofs.Register.Basic

/-!
# What a replacement stands for

A replacement as typed goes through two readers: it is written as a template, and the template is
expanded for each match. `Substitute.meaning` says in one step what the typed text stands for. The
two readers agree with it because the template of a piece is complete in itself: whatever follows, the
expansion reads the piece on its own (`expand_template_append`). A dollar sign of the typed text is
doubled, and a reference to a group stands in braces, so that neither runs into what is next to it.

That `&` is the whole match is a fact about matches: `Pattern.groupText_zero_of_mem_matchesOf`.
-/

namespace ModalEditor

namespace Substitute

/-- What a character behind a backslash stands for: a digit for the text of a group, `t` for a tab,
`r` and `n` for a line break, and every other character for itself. -/
def escapedMeaning (group : Nat → Text) (c : Char) : Text :=
  if isDigit c then group (c.toNat - '0'.toNat)
  else if c = 't' then ['\t']
  else if c = 'r' ∨ c = 'n' then ['\n']
  else [c]

/-- The text that a replacement as typed stands for, given the texts of the groups. `&` stands for the
whole match, a backslash with the character behind it for what that one means, a backslash at the end
for itself, and so does every other character. -/
def meaning (group : Nat → Text) : Text → Text
  | [] => []
  | ['\\'] => ['\\']
  | '\\' :: c :: rest => escapedMeaning group c ++ meaning group rest
  | '&' :: rest => group 0 ++ meaning group rest
  | c :: rest => c :: meaning group rest

end Substitute

open Substitute

namespace Pattern.Template

variable (group : Nat → Text) (named : Text → Option Nat)

theorem expand_dollar (t : Text) :
    expand group named ('$' :: '$' :: t) = '$' :: expand group named t := by rw [expand]

/-- Only a dollar sign starts a reference. -/
theorem expand_char {c : Char} (hc : c ≠ '$') (t : Text) :
    expand group named (c :: t) = c :: expand group named t := by
  rw [expand]
  · intro u hdollar
    exact absurd hdollar hc
  · intro hdollar
    exact absurd hdollar hc

/-- A digit is a number, so that it names a group by its number, whatever other names there are. -/
theorem resolve_digit {c : Char} (hc : isDigit c = true) :
    resolve group named [c] = group (c.toNat - '0'.toNat) := by
  have hbounds := isDigit_iff.mp hc
  have hzero : '0'.toNat = 48 := rfl
  have hplus : c ≠ '+' := by
    rintro rfl
    cases hc
  have hvalue : Text.digitsValue [c] = c.toNat - '0'.toNat := by
    simp [Text.digitsValue]
  have hsmall : c.toNat - '0'.toNat ≤ maxCount := by
    have hmax : maxCount = 0xFFFFFFFFFFFFFFFF := rfl
    omega
  have hnumber : Text.number? [c] = some (c.toNat - '0'.toNat) := by
    unfold Text.number?
    split
    · rename_i heq
      cases heq
      exact absurd rfl hplus
    · rw [Text.count?, if_neg (by simp [hc]), hvalue, if_pos hsmall]
  unfold resolve
  rw [hnumber]

/-- A reference in braces ends with its brace, whatever follows. -/
theorem expand_groupRef {c : Char} (hc : isDigit c = true) (t : Text) :
    expand group named (groupRef c ++ t) =
      group (c.toNat - '0'.toNat) ++ expand group named t := by
  have hbrace : c ≠ '}' := by
    rintro rfl
    cases hc
  have hname : reference? ('{' :: c :: '}' :: t) = some ([c], t) := by
    simp [reference?, Text.cut?, hbrace]
  change expand group named ('$' :: '{' :: c :: '}' :: t) = _
  rw [expand]
  · split
    · rename_i name rest href
      rw [hname] at href
      cases href
      dsimp only
      rw [resolve_digit group named hc]
    · rename_i href
      rw [hname] at href
      cases href
  · intro u hdollar
    cases hdollar

/-- Whatever follows the template of a replacement, the replacement is read as it is meant. -/
theorem expand_template_append (replacement t : Text) :
    expand group named (template replacement ++ t) =
      meaning group replacement ++ expand group named t := by
  fun_induction template replacement with
  | case1 => rfl
  | case2 => exact expand_char group named (by decide) t
  | case3 c rest hdigit ih =>
    have hmeaning : escapedMeaning group c = group (c.toNat - '0'.toNat) := if_pos hdigit
    rw [List.append_assoc, expand_groupRef group named hdigit, ih, meaning, hmeaning,
      List.append_assoc]
  | case4 rest hdigit ih =>
    rw [List.cons_append, expand_char group named (by decide), ih]
    rfl
  | case5 c rest hdigit htab hbreak ih =>
    have hmeaning : escapedMeaning group c = ['\n'] := by
      rw [escapedMeaning, if_neg hdigit, if_neg htab, if_pos (by simpa using hbreak)]
    rw [List.cons_append, expand_char group named (by decide), ih, meaning, hmeaning]
    rfl
  | case6 rest hdigit htab hbreak ih =>
    rw [List.cons_append, List.cons_append, expand_dollar, ih]
    rfl
  | case7 c rest hdigit htab hbreak hdollar ih =>
    have hmeaning : escapedMeaning group c = [c] := by
      rw [escapedMeaning, if_neg hdigit, if_neg htab, if_neg (by simpa using hbreak)]
    rw [List.cons_append, expand_char group named hdollar, ih, meaning, hmeaning]
    rfl
  | case8 rest ih =>
    rw [List.append_assoc, expand_groupRef group named (by decide), ih, meaning, List.append_assoc]
    rfl
  | case9 rest ih =>
    have hmeaning : meaning group ('$' :: rest) = '$' :: meaning group rest := by
      rw [meaning]
      all_goals simp
    rw [List.cons_append, List.cons_append, expand_dollar, ih, hmeaning]
    rfl
  | case10 c rest hlone hpair hwhole hdollar ih =>
    have hmeaning : meaning group (c :: rest) = c :: meaning group rest := by
      rw [meaning]
      all_goals assumption
    rw [List.cons_append, expand_char group named hdollar, ih, hmeaning]
    rfl

end Pattern.Template

namespace Substitute

/-- A replacement stands for what it means: the template it is written as is never misread, whatever
the texts of the groups and whatever other names the pattern gives to groups. So the rule of a
substitution puts the meaning of the replacement in the place of each match, and group `0` of a match
that was found is the whole match. -/
theorem template_stands_for_meaning (replacement : Text) :
    (∀ (group : Nat → Text) (named : Text → Option Nat),
      Pattern.Template.expand group named (template replacement) = meaning group replacement) ∧
    (∀ (re : Pattern) (flags : SubFlags) (line : Text) (m : Pattern.Match),
      (Rule.of re replacement flags).replacement line m =
        meaning (m.groupText line) replacement) ∧
    ∀ (typed : Text) (flags : SubFlags) (o : Options) (re : Pattern) (line : Text),
      Search.compile typed (flags.ignoresCase o) = .ok re →
      ∀ m ∈ (Rule.of re replacement flags).hits line,
        m.groupText line 0 = (line.take m.stop).drop m.start := by
  have hexpand (group : Nat → Text) (named : Text → Option Nat) :
      Pattern.Template.expand group named (template replacement) = meaning group replacement := by
    have happend := Pattern.Template.expand_template_append group named replacement []
    have hnil : Pattern.Template.expand group named [] = [] := by rw [Pattern.Template.expand]
    rwa [List.append_nil, hnil, List.append_nil] at happend
  refine ⟨hexpand, ?_, ?_⟩
  · intro re flags line m
    exact hexpand (m.groupText line) fun n => re.names.lookup n
  · intro typed flags o re line hre m hm
    have hfound : m ∈ re.matchesOf line := by
      unfold Rule.hits at hm
      split at hm
      · exact hm
      · exact List.mem_of_mem_take hm
    exact Pattern.groupText_zero_of_mem_matchesOf hre hfound

set_option maxRecDepth 4000 in
/-- `:s/(a)|(b)/…/` on `xb`, where the first group has no part in the match: a reference next to a
typed digit, a typed dollar sign in front of braces, and a lone backslash at the end. -/
theorem template_stands_for_meaning_of_missing_group :
    let line : Text := ['x', 'b']
    let replacement : Text :=
      ['\\', '1', '\\', '2', '3', '$', '\x7b', '&', '\x7d', '\\', '$', '\\', 't', '\\']
    ((Search.compile ['(', 'a', ')', '|', '(', 'b', ')'] false).toOption.map fun re =>
      let rule := Rule.of re replacement {}
      (rule.hits line).map fun m => (m.groupText line 0, rule.replacement line m)) =
      some [(['b'], ['b', '3', '$', '\x7b', 'b', '\x7d', '$', '\t', '\\'])] := by
  intro line replacement
  obtain ⟨-, hrule, hwhole⟩ := template_stands_for_meaning replacement
  have hmatches : ((Search.compile ['(', 'a', ')', '|', '(', 'b', ')'] false).toOption.map fun re =>
      (re.matchesOf line).take 1) = some [⟨1, 2, [some (1, 2), none, some (1, 2)]⟩] := by cbv
  cases hre : Search.compile ['(', 'a', ')', '|', '(', 'b', ')'] false with
  | error err =>
    rw [hre] at hmatches
    cases hmatches
  | ok re =>
    rw [hre] at hmatches
    have hhits : (Rule.of re replacement {}).hits line =
        [⟨1, 2, [some (1, 2), none, some (1, 2)]⟩] := Option.some.inj hmatches
    have hgroup := hwhole ['(', 'a', ')', '|', '(', 'b', ')'] {} {} re line hre
      ⟨1, 2, [some (1, 2), none, some (1, 2)]⟩ (by rw [hhits]; exact List.mem_singleton_self _)
    change some (((Rule.of re replacement {}).hits line).map _) = _
    rw [hhits, List.map_singleton, hgroup, hrule]
    decide

end Substitute
end ModalEditor
