import ModalEditor.Ex.Reading

/-!
# Where the paths of a command come from

The paths in a command were typed: every path in a command that was read is made of characters of
the command line. What is left of a text after a range was read off its front is the end of the
text, and a path is what is left after the name of the command, without the blanks around it.
-/

namespace ModalEditor

namespace Text

theorem trimStart_suffix (t : Text) : trimStart t <:+ t := List.dropWhile_suffix _

theorem trim_subset (t : Text) : trim t ⊆ t := by
  intro c hc
  have hend : c ∈ (trimStart t).reverse.dropWhile isBlank := List.mem_reverse.mp hc
  exact (trimStart_suffix t).subset
    (List.mem_reverse.mp ((List.dropWhile_suffix _).subset hend))

theorem cutUnescaped?_suffix {delim : Char} {t a b : Text}
    (h : cutUnescaped? delim t = some (a, b)) : b <:+ t := by
  fun_induction cutUnescaped? delim t generalizing a b with
  | case1 => cases h
  | case2 => cases h
  | case3 c rest ih =>
    obtain ⟨⟨a', b'⟩, hcut, hab⟩ := Option.map_eq_some_iff.mp h
    cases hab
    exact (ih hcut).trans (List.suffix_append ['\\', c] rest)
  | case4 =>
    cases h
    exact List.suffix_cons _ _
  | case5 c rest _ _ _ ih =>
    obtain ⟨⟨a', b'⟩, hcut, hab⟩ := Option.map_eq_some_iff.mp h
    cases hab
    exact (ih hcut).trans (List.suffix_cons _ _)

theorem cutUnescaped_suffix (delim : Char) (t : Text) : (cutUnescaped delim t).2 <:+ t := by
  unfold cutUnescaped
  cases h : cutUnescaped? delim t with
  | none => exact List.nil_suffix
  | some r => exact cutUnescaped?_suffix h

theorem splitNumber?_suffix {t rest : Text} {n : Nat} (h : splitNumber? t = some (n, rest)) :
    rest <:+ t := by
  obtain ⟨m, -, hm⟩ := Option.map_eq_some_iff.mp h
  cases hm
  exact List.dropWhile_suffix _

end Text

/-! ## Reading a range -/

theorem Base.split?_suffix {t rest : Text} {base : Base} (h : Base.split? t = some (base, rest)) :
    rest <:+ t := by
  unfold Base.split? at h
  split at h
  · cases h
    exact List.suffix_cons _ _
  · cases h
    exact List.suffix_cons _ _
  · split at h
    · cases h
      exact List.suffix_append ['\'', _] _
    · cases h
  · cases h
    exact (Text.cutUnescaped_suffix _ _).trans (List.suffix_cons _ _)
  · cases h
    exact (Text.cutUnescaped_suffix _ _).trans (List.suffix_cons _ _)
  · obtain ⟨⟨n, r⟩, hn, hr⟩ := Option.map_eq_some_iff.mp h
    cases hr
    exact Text.splitNumber?_suffix hn

theorem Address.splitOffsets_suffix (offset : Int) (count fuel : Nat) (t : Text) :
    (splitOffsets offset count fuel t).2.2 <:+ t := by
  fun_induction splitOffsets offset count fuel t with
  | case1 offset count fuel c rest hsign n r hn ih =>
    have hr : r <:+ rest := by
      cases hnum : Text.splitNumber? rest with
      | none =>
        rw [hnum] at hn
        cases hn
        exact List.suffix_rfl
      | some m =>
        rw [hnum] at hn
        cases hn
        exact Text.splitNumber?_suffix hnum
    exact (ih.trans hr).trans (List.suffix_cons _ _)
  | case2 => exact List.suffix_rfl
  | case3 => exact List.suffix_rfl

theorem Address.split?_suffix {t rest : Text} {a : Address}
    (h : Address.split? t = some (a, rest)) : rest <:+ t := by
  unfold Address.split? at h
  split at h
  · rename_i hbase
    cases h
    exact (splitOffsets_suffix _ _ _ _).trans (Base.split?_suffix hbase)
  · dsimp only at h
    split at h
    · cases h
    · cases h
      exact splitOffsets_suffix _ _ _ _

theorem Range.pairWith_suffix (first : Address) (sep : Separator) (rest : Text) :
    (split.pairWith first sep rest).2 <:+ rest := by
  unfold split.pairWith
  split
  · exact Address.split?_suffix ‹_›
  · exact List.suffix_rfl

/-- What is left after a range is the end of the text. -/
theorem Range.split_suffix (t : Text) : (split t).2 <:+ t := by
  unfold split
  split
  · exact List.suffix_cons _ _
  · split
    · exact List.suffix_rfl
    · rename_i haddr
      exact ((pairWith_suffix _ _ _).trans (List.suffix_cons _ _)).trans
        (Address.split?_suffix haddr)
    · rename_i haddr
      exact ((pairWith_suffix _ _ _).trans (List.suffix_cons _ _)).trans
        (Address.split?_suffix haddr)
    · exact Address.split?_suffix ‹_›

/-! ## Reading a command -/

namespace ExCommand

/-- The paths that are typed in a command. -/
def paths : ExCommand → List Path
  | .edit path _ => path.toList
  | .write path _ => path.toList
  | .writeQuit path => path.toList
  | .read _ (.file path) => path.toList
  | .saveAs path => [path]
  | .atMark _ next otherwise => next.paths ++ otherwise.paths
  | .withRegister _ next => next.paths
  | _ => []

/-- The paths of the command, if one was read, are made of characters of the text. -/
def PathsWithin (t : Text) (r : Except EditorError ExCommand) : Prop :=
  ∀ c, r = .ok c → ∀ p ∈ c.paths, p ⊆ t

variable {t : Text}

theorem PathsWithin.mono {u : Text} {r : Except EditorError ExCommand} (h : PathsWithin t r)
    (hs : t ⊆ u) : PathsWithin u r := fun c hc p hp =>
  List.Subset.trans (h c hc p hp) hs

theorem pathsWithin_ok {c : ExCommand} (h : ∀ p ∈ c.paths, p ⊆ t) : PathsWithin t (.ok c) := by
  rintro _ ⟨⟩
  exact h

theorem pathsWithin_error (e : EditorError) : PathsWithin t (.error e) := by
  intro c hc
  cases hc

/-- A command that is made of another result. -/
theorem pathsWithin_bind {α : Type} {x : Except EditorError α}
    {f : α → Except EditorError ExCommand} (h : ∀ a, x = .ok a → PathsWithin t (f a)) :
    PathsWithin t (x >>= f) := by
  cases x with
  | error e => exact pathsWithin_error e
  | ok a => exact h a rfl

/-- A command that is one of two. -/
theorem pathsWithin_ite {p : Prop} [Decidable p] {r s : Except EditorError ExCommand}
    (hr : PathsWithin t r) (hs : PathsWithin t s) : PathsWithin t (if p then r else s) := by
  split
  · exact hr
  · exact hs

theorem path?_subset (args : Text) : ∀ p ∈ (path? args).toList, p ⊆ args := by
  intro p hp
  unfold path? at hp
  split at hp
  · cases hp
  · obtain rfl := List.mem_singleton.mp hp
    exact List.Subset.refl _

theorem readSource_paths_subset (range : Range) (bang : Bool) (args : Text) :
    ∀ p ∈ (ExCommand.read range (readSource bang args)).paths, p ⊆ args := by
  unfold readSource
  split
  · simp [paths]
  · split
    · simp [paths]
    · exact path?_subset args

/-- A command without a path. -/
theorem pathsWithin_of_nil {c : ExCommand} (h : c.paths = []) : PathsWithin t (.ok c) :=
  pathsWithin_ok fun p hp => by rw [h] at hp; cases hp

theorem readGlobal_pathsWithin (range : Range) (inverse : Bool) (u t : Text) :
    PathsWithin t (readGlobal range inverse u) := by
  unfold readGlobal
  split
  · exact pathsWithin_error _
  · exact pathsWithin_bind fun _ _ => pathsWithin_of_nil rfl

theorem readNamed_pathsWithin (range : Range) (text name : Text) (bang : Bool) (args : Text) :
    PathsWithin args (readNamed range text name bang args) := by
  have hargs := path?_subset args
  refine pathsWithin_ite (pathsWithin_ok hargs) ?_
  refine pathsWithin_ite (pathsWithin_ite (pathsWithin_error _) (pathsWithin_ok hargs)) ?_
  refine pathsWithin_ite (pathsWithin_ok hargs) ?_
  -- from `x` to `ls` no command takes a path
  iterate 5 refine pathsWithin_ite (pathsWithin_of_nil rfl) ?_
  refine pathsWithin_ite (pathsWithin_ite (pathsWithin_error _) (pathsWithin_of_nil rfl)) ?_
  refine pathsWithin_ite (pathsWithin_ok (readSource_paths_subset range bang args)) ?_
  refine pathsWithin_ite
    (pathsWithin_ite (pathsWithin_error _) (pathsWithin_ok (by simp [paths]))) ?_
  -- nor does any command that follows
  refine pathsWithin_ite (pathsWithin_of_nil rfl) ?_
  iterate 2 refine pathsWithin_ite (pathsWithin_bind fun _ _ => pathsWithin_of_nil rfl) ?_
  iterate 3 refine pathsWithin_ite (pathsWithin_bind fun ⟨_, _⟩ _ => pathsWithin_of_nil rfl) ?_
  refine pathsWithin_ite (pathsWithin_ite (pathsWithin_error _) (pathsWithin_of_nil rfl)) ?_
  exact pathsWithin_ite (pathsWithin_of_nil rfl) (pathsWithin_error _)

theorem readCommand_pathsWithin (range : Range) (text : Text) :
    PathsWithin text (readCommand range text) := by
  unfold readCommand
  split
  · exact pathsWithin_of_nil rfl
  · exact pathsWithin_of_nil rfl
  · exact pathsWithin_of_nil rfl
  · split
    · unfold readSubstitute
      split <;> exact pathsWithin_of_nil rfl
    · exact readGlobal_pathsWithin _ _ _ _
    · have hafter : text.dropWhile isLetter ⊆ text := (List.dropWhile_suffix _).subset
      dsimp only
      split
      · rename_i args hdrop
        rw [hdrop] at hafter
        exact (readNamed_pathsWithin _ _ _ _ _).mono
          (List.Subset.trans (Text.trim_subset args)
            (List.Subset.trans (List.subset_cons_self _ _) hafter))
      · exact (readNamed_pathsWithin _ _ _ _ _).mono
          (List.Subset.trans (Text.trim_subset _) hafter)

theorem splitMark?_suffix {rest : Text} {mark : Char} (h : splitMark? t = some (mark, rest)) :
    rest <:+ t := by
  unfold splitMark? at h
  split at h
  · dsimp only at h
    split at h
    · cases h
    · cases h
      exact (Text.trimStart_suffix _).trans (List.suffix_append ['\'', _] _)
  · cases h

theorem readFrom_pathsWithin (fuel : Nat) (line : Text) :
    PathsWithin line (readFrom fuel line) := by
  induction fuel generalizing line with
  | zero => exact pathsWithin_error _
  | succ fuel ih =>
    refine PathsWithin.mono ?_ (Text.trim_subset line)
    unfold readFrom
    dsimp only
    split
    · rename_i mark rest hmark
      have hrest := (splitMark?_suffix hmark).subset
      refine pathsWithin_bind fun next hnext => pathsWithin_ok fun p hp => ?_
      have hp' : p ∈ next.paths := (List.mem_append.mp hp).elim id id
      exact List.Subset.trans (ih rest next hnext p hp') hrest
    · split
      · rename_i name rest hline
        split
        · exact pathsWithin_error _
        · split
          · exact pathsWithin_of_nil rfl
          · refine pathsWithin_bind fun next hnext => pathsWithin_ok fun p hp => ?_
            have hrest := (Text.trimStart_suffix rest).trans (List.suffix_append ['"', name] rest)
            rw [hline]
            exact List.Subset.trans (ih _ next hnext p hp) hrest.subset
      · exact pathsWithin_error _
      · exact (readCommand_pathsWithin _ _).mono
          ((Text.trimStart_suffix _).trans (Range.split_suffix _)).subset

/-- The paths of a command that was read are made of characters of the line. -/
theorem readLine_paths {line : Text} {c : ExCommand} (h : readLine line = .ok c) :
    ∀ p ∈ c.paths, p ⊆ line := readFrom_pathsWithin _ line c h

end ExCommand
end ModalEditor
