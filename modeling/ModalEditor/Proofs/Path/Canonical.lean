import Mathlib.Data.List.Basic
import ModalEditor.Proofs.Path.Containment

/-!
# One path for each file

Below an absolute root every typed path leads to one place: the names that are left after walking
along its components from the root (`Path.walk`), where `..` goes up one name and stays at the root
of the file system. Folding the text of the path behind that of the root gives the path of this place
(`fold_under_root`), so that it makes no difference how the place was written. The project accepts a
path exactly if its place has the names of the root in front.
-/

namespace ModalEditor

namespace Path

variable {root typed : Path} {names front back extra : List Text}

/-- Where a component leads to from the directory with the given names. -/
def enter (names : List Text) : Component → List Text
  | .root => []
  | .here => names
  | .up => names.dropLast
  | .name n => names ++ [n]

/-- Where a path leads to from the directory with the given names. -/
def walk (names : List Text) (p : Path) : List Text := (components p).foldl enter names

/-- The path of the place with the given names. -/
def rooted (names : List Text) : Path := '/' :: Text.join ['/'] names

/-- Pieces of a path that lead nowhere: `.`, or a name with `..` behind it. -/
inductive Detour : List Text → Prop
  /-- The directory itself. -/
  | stay : Detour [['.']]
  /-- In and out again. -/
  | back (n : Text) (h : IsName n) : Detour [n, ['.', '.']]

/-! ## Walking and folding -/

theorem foldl_enter_nameRow (names row : List Text) :
    (nameRow row).foldl enter names = names ++ row := by
  induction row generalizing names with
  | nil => simp [nameRow]
  | cons n row ih =>
    have hrow := ih (names ++ [n])
    rw [List.append_assoc] at hrow
    exact hrow

/-- Folding behind the root is walking. -/
theorem foldOnto_rooted (names : List Text) (cs : List Component) :
    foldOnto (.root :: nameRow names).reverse cs = .root :: nameRow (cs.foldl enter names) := by
  induction cs generalizing names with
  | nil => exact List.reverse_reverse _
  | cons c rest ih =>
    cases c with
    | root => exact ih []
    | here => exact ih names
    | name n =>
      have hconcat : Component.name n :: (.root :: nameRow names).reverse =
          (.root :: nameRow (names ++ [n])).reverse := by simp [nameRow]
      rw [foldOnto, hconcat]
      exact ih (names ++ [n])
    | up =>
      rcases List.eq_nil_or_concat' names with rfl | ⟨init, n, rfl⟩
      · exact ih []
      · have hconcat : (.root :: nameRow (init ++ [n])).reverse =
            Component.name n :: (.root :: nameRow init).reverse := by simp [nameRow]
        rw [hconcat, foldOnto, ih init, List.foldl_cons, enter, List.dropLast_concat]

/-- An absolute path leads away from where it is read. -/
theorem walk_eq (names : List Text) (p : Path) :
    walk names p = (body p).foldl enter (if isAbsolute p then [] else names) := by
  unfold walk
  cases h : isAbsolute p with
  | true => rw [components_absolute h]; rfl
  | false => rcases components_relative h with heq | heq <;> rw [heq] <;> rfl

/-- The folded root has the names that it leads to. -/
theorem components_fold_root (hroot : isAbsolute root = true) :
    components (fold root) = .root :: nameRow (walk [] root) := by
  rw [components_fold, foldOnto_components, if_pos hroot, walk_eq, if_pos hroot]
  exact foldOnto_rooted [] (body root)

/-- The folded path has the names that it leads to from the root. -/
theorem components_fold_under_root (hroot : isAbsolute root = true) (typed : Path) :
    components (fold (under (fold root) typed)) =
      .root :: nameRow (walk (walk [] root) typed) := by
  have hcomponents := components_fold_root hroot
  rw [walk_eq (walk [] root)]
  cases htyped : isAbsolute typed with
  | true =>
    rw [under_absolute htyped, components_fold, foldOnto_components, if_pos htyped, if_pos rfl]
    exact foldOnto_rooted [] (body typed)
  | false =>
    have hne : fold root ≠ [] := by
      intro hnil
      rw [hnil] at hcomponents
      cases hcomponents
    rw [components_fold_under hne htyped, (folded_fold root).foldOnto, hcomponents,
      if_neg Bool.false_ne_true]
    exact foldOnto_rooted (walk [] root) (body typed)

/-- The folded path is the path of the place that it leads to. -/
theorem fold_under_root (hroot : isAbsolute root = true) (typed : Path) :
    fold (under (fold root) typed) = rooted (walk (walk [] root) typed) := by
  have hcomponents := components_fold_under_root hroot typed
  rw [components_fold] at hcomponents
  rw [fold, hcomponents]
  exact ofComponents_absolute _

theorem walk_rooted {p : Path} (h : components p = .root :: nameRow names) (home : List Text) :
    walk home p = names := by
  unfold walk
  rw [h]
  exact foldl_enter_nameRow [] names

theorem nameRow_prefix_iff {row : List Text} : nameRow names <+: nameRow row ↔ names <+: row :=
  List.prefix_map_iff_of_injective fun _ _ => Component.name.inj

/-! ## Pieces that lead nowhere -/

theorem body_pieces (pieces : List Text) : body (Text.join ['/'] pieces) = pieces.flatMap body := by
  induction pieces with
  | nil => rfl
  | cons piece rest ih =>
    cases rest with
    | nil => simp [Text.join]
    | cons second rest =>
      have hjoin : Text.join ['/'] (piece :: second :: rest) =
          piece ++ '/' :: Text.join ['/'] (second :: rest) := by
        simp [Text.join, List.intercalate_cons_cons]
      rw [hjoin, body_slash, ih]
      exact List.flatMap_cons.symm

/-- After a detour the walk is where it was. -/
theorem Detour.foldl_enter (h : Detour extra) (names : List Text) :
    (extra.flatMap Path.body).foldl enter names = names := by
  cases h with
  | stay => rfl
  | back n hn =>
    have hone : Path.body n = [.name n] := by
      have hrow : ∀ m ∈ [n], IsName m := by simpa using hn
      have hjoin := body_join hrow
      simpa [Text.join, nameRow] using hjoin
    have hup : Path.body ['.', '.'] = [.up] := rfl
    simp only [List.flatMap_cons, List.flatMap_nil, hone, hup]
    exact List.dropLast_concat

/-- A detour may be taken anywhere in a path. -/
theorem Detour.walk (h : Detour extra) (hpieces : typed.splitOn '/' = front ++ back)
    (hstart : isAbsolute (Text.join ['/'] (front ++ extra ++ back)) = isAbsolute typed)
    (names : List Text) :
    walk names (Text.join ['/'] (front ++ extra ++ back)) = walk names typed := by
  have htyped : body typed = (front ++ back).flatMap body := by
    rw [← body_pieces, ← hpieces]
    exact congrArg body (List.intercalate_splitOn '/').symm
  rw [walk_eq, walk_eq, hstart, htyped, body_pieces]
  simp only [List.flatMap_append, List.foldl_append, h.foldl_enter]

end Path

namespace Project

open ModalEditor.Path

variable {root : Path}

/-- What becomes of a typed path is a matter of where it leads to. -/
theorem resolve_eq (hroot : isAbsolute root = true) (typed : Path) :
    (ofRoot root).resolve typed =
      if walk [] root <+: walk (walk [] root) typed then .ok (rooted (walk (walk [] root) typed))
      else .error (.accessDenied (rooted (walk (walk [] root) typed))) := by
  have hlies : liesIn (rooted (walk (walk [] root) typed)) (fold root) = true ↔
      walk [] root <+: walk (walk [] root) typed := by
    rw [← fold_under_root hroot, liesIn_iff, components_fold_root hroot,
      components_fold_under_root hroot, List.cons_prefix_cons, nameRow_prefix_iff]
    exact and_iff_right rfl
  unfold resolve ofRoot
  simp only [fold_under_root hroot, hlies]

/-- Below an absolute root, each typed path is resolved to the path of the place that it leads to,
and is refused exactly if that place does not have the names of the root in front. A resolved path
has no `.` and no `..`, starts with the root and is resolved to itself. Detours make no difference,
wherever in the path they are taken, as long as it still starts at the root of the file system or
still does not. -/
theorem resolve_canonical (hroot : isAbsolute root = true) (typed : Path) :
    let home := walk [] root
    let place := walk home typed
    ((ofRoot root).resolve typed =
      if home <+: place then .ok (rooted place) else .error (.accessDenied (rooted place))) ∧
    (∀ path, (ofRoot root).resolve typed = .ok path →
      Confined root path ∧ (ofRoot root).resolve path = .ok path) ∧
    ∀ front extra back, typed.splitOn '/' = front ++ back → Detour extra →
      isAbsolute (Text.join ['/'] (front ++ extra ++ back)) = isAbsolute typed →
      (ofRoot root).resolve (Text.join ['/'] (front ++ extra ++ back)) =
        (ofRoot root).resolve typed := by
  intro home place
  refine ⟨resolve_eq hroot typed, fun path hpath => ⟨resolve_confined hpath, ?_⟩,
    fun front extra back hpieces hextra hstart => ?_⟩
  · obtain ⟨heq, hlies⟩ := resolve_eq_ok.mp hpath
    have hplace : components path = .root :: nameRow place := by
      rw [heq]
      exact components_fold_under_root hroot typed
    have hinside : home <+: place := by
      have hcomponents := liesIn_iff.mp hlies
      rw [hplace, components_fold_root hroot, List.cons_prefix_cons, nameRow_prefix_iff]
        at hcomponents
      exact hcomponents.2
    rw [resolve_eq hroot, walk_rooted hplace, if_pos hinside, heq, fold_under_root hroot]
  · rw [resolve_eq hroot, resolve_eq hroot, hextra.walk hpieces hstart]

/-- A path that leaves the root `/p` and comes back is accepted, with a detour in front or behind it
as well. -/
theorem resolve_canonical_of_detours :
    isAbsolute "/q/../p".toList = true ∧
    (ofRoot "/q/../p".toList).resolve "../p//a".toList = .ok "/p/a".toList ∧
    (ofRoot "/q/../p".toList).resolve "/p/a".toList = .ok "/p/a".toList ∧
    (ofRoot "/q/../p".toList).resolve "x/../../p//a".toList = .ok "/p/a".toList ∧
    (ofRoot "/q/../p".toList).resolve "../p//a/.".toList = .ok "/p/a".toList := by
  have hroot : isAbsolute "/q/../p".toList = true := rfl
  obtain ⟨hplace, hfixed, hdetour⟩ := resolve_canonical hroot "../p//a".toList
  have hok : (ofRoot "/q/../p".toList).resolve "../p//a".toList = .ok "/p/a".toList :=
    hplace.trans (if_pos (by decide +kernel))
  have hname : IsName ['x'] := ⟨by decide, by decide, by decide, by decide⟩
  have hfront := hdetour [] _ ["..".toList, "p".toList, [], "a".toList] (by decide +kernel)
    (.back ['x'] hname) (by decide +kernel)
  have hbehind := hdetour ["..".toList, "p".toList, [], "a".toList] _ [] (by decide +kernel) .stay
    (by decide +kernel)
  exact ⟨hroot, hok, (hfixed _ hok).2, hfront.trans hok, hbehind.trans hok⟩

end Project
end ModalEditor
