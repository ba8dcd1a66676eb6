import ModalEditor.Proofs.Path.Folding

/-!
# What a project contains

A typed path that the project accepts has the components of the root in front, and no `.` or `..` is
left in it (`Project.resolve_confined`). Whether it then lies in the directory that the root names
is another question, as a relative root is folded on its own, before it is read from any directory.
There are two ways to lose it: a root that folds to nothing has everything behind it, absolute paths
too, and a `..` that finds no name to take back is dropped although it leads out of the directory
the root is read from.

`Project.contains_iff` says that these are the only ways. `Path.climbs` counts the dropped `..`.
-/

namespace ModalEditor

namespace Path

variable {p q root : Path} {cs : List Component} {names : List Text}

theorem Folded.plain (h : Folded cs) : ∀ c ∈ cs, c ≠ .here ∧ c ≠ .up := by
  intro c hc
  cases h with
  | relative names _ =>
    obtain ⟨n, -, rfl⟩ := List.mem_map.mp hc
    simp
  | absolute names _ =>
    rcases List.mem_cons.mp hc with rfl | hc
    · simp
    · obtain ⟨n, -, rfl⟩ := List.mem_map.mp hc
      simp

/-- The path has the components of the folded root in front, and is plain. -/
structure Confined (root path : Path) : Prop where
  /-- The root is in front. -/
  liesIn : liesIn path (fold root) = true
  /-- No component is `.` or `..` -/
  plain : ∀ c ∈ components path, c ≠ .here ∧ c ≠ .up

theorem Confined.congr (h : Confined root p) (hpq : components q = components p) :
    Confined root q := by
  refine ⟨?_, hpq ▸ h.plain⟩
  rw [Path.liesIn, hpq]
  exact h.liesIn

theorem liesIn_iff : liesIn p q = true ↔ components q <+: components p :=
  List.isPrefixOf_iff_prefix

/-- How many `..` find no name to take back, behind `depth` names. -/
def climbs : Nat → List Component → Nat
  | _, [] => 0
  | 0, .up :: rest => climbs 0 rest + 1
  | depth + 1, .up :: rest => climbs depth rest
  | depth, .name _ :: rest => climbs (depth + 1) rest
  | depth, .here :: rest => climbs depth rest
  | depth, .root :: rest => climbs depth rest

/-- Behind an absolute directory, the `..` that find no name of the path take names of the
directory. The names of both are given last first. -/
theorem foldOnto_behind (hcs : .root ∉ cs) (before names : List Text)
    (h : climbs before.length cs ≤ names.length) :
    foldOnto (nameRow before ++ (nameRow names ++ [Component.root])) cs =
      (nameRow (names.drop (climbs before.length cs)) ++ [Component.root]).reverse ++
        foldOnto (nameRow before) cs := by
  induction cs generalizing before names with
  | nil => simp [foldOnto, climbs]
  | cons c rest ih =>
    have hrest : .root ∉ rest := fun hmem => hcs (List.mem_cons_of_mem _ hmem)
    cases c with
    | root => exact absurd (List.mem_cons_self) hcs
    | here => exact ih hrest before names h
    | name n => exact ih hrest (n :: before) names h
    | up =>
      cases before with
      | cons b before => exact ih hrest before names h
      | nil =>
        cases names with
        | nil => exact absurd h (by simp [climbs])
        -- no name of the path is left to take back, so the directory loses its last one
        | cons n names => exact ih hrest [] names (Nat.le_of_succ_le_succ h)

theorem root_mem_foldOnto {before : List Component} (h : .root ∈ before) (cs : List Component) :
    .root ∈ foldOnto before cs := by
  fun_induction foldOnto before cs with
  | case1 before => exact List.mem_reverse.mpr h
  | case2 before rest ih => exact ih h
  | case3 rest n before ih => exact ih (by simpa using h)
  | case4 rest before hname ih => exact ih h
  | case5 before rest ih => exact ih (by simp)
  | case6 before n rest ih => exact ih (List.mem_cons_of_mem _ h)

/-- An absolute path folds to names behind the root. -/
theorem exists_names (hp : isAbsolute p = true) :
    ∃ names, foldOnto [] (components p) = .root :: nameRow names := by
  have hroot : .root ∈ foldOnto [] (components p) := by
    rw [foldOnto_components, if_pos hp]
    exact root_mem_foldOnto (by simp) _
  have hfolded := folded_foldOnto_components p
  generalize foldOnto [] (components p) = row at hroot hfolded
  cases hfolded with
  | relative names _ => simp [nameRow] at hroot
  | absolute names _ => exact ⟨names, rfl⟩

theorem root_not_mem_body (p : Path) : .root ∉ body p := by
  intro hmem
  rcases mem_body hmem with hup | ⟨n, hn, -⟩
  · cases hup
  · cases hn

/-- Where a relative path leads to from a directory with enough names. -/
theorem components_fold_behind {cwd : Path} {dirs : List Text} (hcwd : isAbsolute cwd = true)
    (hdirs : foldOnto [] (components cwd) = .root :: nameRow dirs) (hp : isAbsolute p = false)
    (hk : climbs 0 (body p) ≤ dirs.length) :
    components (fold (under cwd p)) =
      .root :: nameRow (dirs.take (dirs.length - climbs 0 (body p))) ++ components (fold p) := by
  have hne : cwd ≠ [] := by
    rintro rfl
    cases hcwd
  have hbase : (foldOnto [] (components cwd)).reverse =
      nameRow [] ++ (nameRow dirs.reverse ++ [.root]) := by
    rw [hdirs]
    simp [nameRow]
  have hbehind := foldOnto_behind (root_not_mem_body p) [] dirs.reverse (by simpa using hk)
  rw [components_fold_under hne hp, hbase, hbehind, components_fold p, foldOnto_components, hp]
  simp [nameRow, List.drop_reverse]

theorem climbs_components (hp : isAbsolute p = false) :
    climbs 0 (components p) = climbs 0 (body p) := by
  rcases components_relative hp with heq | heq <;> rw [heq]
  rfl

theorem climbs_folded (hp : Folded (components p)) (hrelative : isAbsolute p = false) :
    climbs 0 (body p) = 0 := by
  have hrow : ∀ (names : List Text) (depth : Nat), climbs depth (nameRow names) = 0 := by
    intro names
    induction names with
    | nil => exact fun _ => rfl
    | cons n rest ih =>
      intro depth
      cases depth <;> exact ih _
  rcases components_relative hrelative with heq | heq <;> rw [heq] at hp
  · have hroot := root_not_mem_body p
    generalize body p = row at hp hroot
    cases hp with
    | relative names _ => exact hrow names 0
    | absolute names _ => exact absurd List.mem_cons_self hroot
  · exact absurd rfl (hp.plain .here (by simp)).1

theorem components_fold_ne_nil (hp : fold p ≠ []) : components (fold p) ≠ [] := by
  intro hnil
  rw [components_fold] at hnil
  exact hp (by rw [fold, hnil]; rfl)

theorem root_not_mem_fold (hp : isAbsolute p = false) : .root ∉ components (fold p) := by
  rw [components_fold, foldOnto_components, hp]
  intro hmem
  rcases mem_foldOnto hmem with hmem | hmem
  · cases hmem
  · exact root_not_mem_body p hmem

theorem exists_directory (h : ∀ n ∈ names, IsName n) :
    ∃ cwd, isAbsolute cwd = true ∧ foldOnto [] (components cwd) = .root :: nameRow names := by
  have hfolded := Folded.absolute names h
  refine ⟨ofComponents (.root :: nameRow names), ?_, ?_⟩
  · rw [isAbsolute_iff, components_ofComponents hfolded]
    rfl
  · rw [components_ofComponents hfolded, hfolded.foldOnto]

/-- There is a name that a row of components does not start with. -/
theorem exists_other_name (cs : List Component) :
    ∃ x, IsName x ∧ ∀ rest, cs ≠ .name x :: rest := by
  by_cases hx : ∃ rest, cs = .name ['x'] :: rest
  · obtain ⟨rest, rfl⟩ := hx
    exact ⟨['y'], ⟨by simp, by simp, by simp, by simp⟩, by simp⟩
  · exact ⟨['x'], ⟨by simp, by simp, by simp, by simp⟩, fun rest heq => hx ⟨rest, heq⟩⟩

end Path

/-! ## Accepted paths -/

namespace Project

open ModalEditor.Path

variable {root typed path : Path}

theorem resolve_eq_ok : (ofRoot root).resolve typed = .ok path ↔
    path = fold (under (fold root) typed) ∧ liesIn path (fold root) = true := by
  unfold resolve ofRoot
  dsimp only
  split
  · rename_i h
    constructor
    · rintro ⟨rfl⟩
      exact ⟨rfl, h⟩
    · rintro ⟨rfl, -⟩
      rfl
  · rename_i h
    constructor
    · intro hok
      cases hok
    · rintro ⟨rfl, hlies⟩
      exact absurd hlies h

/-- An accepted path has the root in front, and is plain. -/
theorem resolve_confined (h : (ofRoot root).resolve typed = .ok path) : Confined root path := by
  obtain ⟨rfl, hlies⟩ := resolve_eq_ok.mp h
  exact ⟨hlies, (folded_fold _).plain⟩

/-- Behind a relative root that folds to something only relative paths are accepted. -/
theorem resolve_relative (hroot : isAbsolute root = false) (hne : fold root ≠ [])
    (h : (ofRoot root).resolve typed = .ok path) : isAbsolute path = false := by
  cases hpath : isAbsolute path with
  | false => rfl
  | true =>
    obtain ⟨rest, hrest⟩ := liesIn_iff.mp (resolve_eq_ok.mp h).2
    rw [isAbsolute_iff, ← hrest] at hpath
    have hno := root_not_mem_fold hroot
    have hcomponents := components_fold_ne_nil hne
    cases hrow : components (fold root) with
    | nil => exact absurd hrow hcomponents
    | cons c row =>
      rw [hrow] at hpath hno
      obtain rfl : c = .root := by simpa using hpath
      exact absurd List.mem_cons_self hno

/-- An absolute root contains what it accepts, and so does a relative one that folds to something
without a `..` being dropped. -/
theorem contains_of {cwd : Path} (hcwd : isAbsolute cwd = true)
    (hroot : isAbsolute root = true ∨ fold root ≠ [] ∧ climbs 0 (components root) = 0)
    (h : (ofRoot root).resolve typed = .ok path) :
    liesIn (fold (under cwd path)) (fold (under cwd root)) = true := by
  obtain ⟨hpath, hlies⟩ := resolve_eq_ok.mp h
  have hfolded : Folded (components path) := by
    rw [hpath]
    exact folded_fold _
  have hstarts := liesIn_iff.mp hlies
  rw [liesIn_iff]
  cases habsolute : isAbsolute root with
  | true =>
    have hpathAbsolute : isAbsolute path = true := by
      obtain ⟨names, hnames⟩ := exists_names habsolute
      obtain ⟨rest, hrest⟩ := hstarts
      rw [isAbsolute_iff, ← hrest, components_fold, hnames]
      rfl
    rw [under_absolute hpathAbsolute, under_absolute habsolute, fold_eq_self hfolded]
    exact hstarts
  | false =>
    obtain ⟨hne, hclimbs⟩ := hroot.resolve_left (by simp [habsolute])
    rw [climbs_components habsolute] at hclimbs
    have hrelative := resolve_relative habsolute hne h
    have hpathClimbs := climbs_folded hfolded hrelative
    obtain ⟨dirs, hdirs⟩ := exists_names hcwd
    rw [components_fold_behind hcwd hdirs hrelative (by omega),
      components_fold_behind hcwd hdirs habsolute (by omega), hclimbs, hpathClimbs,
      fold_eq_self hfolded]
    exact (List.prefix_append_right_inj _).mpr hstarts

/-- A root that folds to nothing accepts the root of the file system. -/
theorem ne_nil_of_contains (hrelative : isAbsolute root = false)
    (hall : ∀ cwd typed path, isAbsolute cwd = true → (ofRoot root).resolve typed = .ok path →
      liesIn (fold (under cwd path)) (fold (under cwd root)) = true) : fold root ≠ [] := by
  intro hnil
  have hok : (ofRoot root).resolve ['/'] = .ok ['/'] :=
    resolve_eq_ok.mpr (by rw [hnil]; exact ⟨rfl, rfl⟩)
  -- a directory with one name more than the root climbs, so that the root lies in a name
  have hname : ∀ n ∈ List.replicate (climbs 0 (body root) + 1) ['x'], IsName n := by
    intro n hn
    rw [List.eq_of_mem_replicate hn]
    exact ⟨by simp, by simp, by simp, by simp⟩
  obtain ⟨cwd, hcwd, hdirs⟩ := exists_directory hname
  have hlies := liesIn_iff.mp (hall cwd _ _ hcwd hok)
  rw [components_fold_behind hcwd hdirs hrelative (by simp), under_absolute rfl] at hlies
  have hlength := hlies.length_le
  rw [show components (fold ['/']) = [.root] from rfl] at hlength
  simp [nameRow] at hlength

/-- A root with a dropped `..` does not contain what it folds to. -/
theorem climbs_of_contains (hrelative : isAbsolute root = false) (hne : fold root ≠ [])
    (hall : ∀ cwd typed path, isAbsolute cwd = true → (ofRoot root).resolve typed = .ok path →
      liesIn (fold (under cwd path)) (fold (under cwd root)) = true) :
    climbs 0 (body root) = 0 := by
  have hcomponents : components (fold (under (fold root) [])) = components (fold root) := by
    rw [components_fold_under hne rfl, (folded_fold root).foldOnto]
    exact List.reverse_reverse _
  have hok : (ofRoot root).resolve [] = .ok (fold (under (fold root) [])) := by
    refine resolve_eq_ok.mpr ⟨rfl, ?_⟩
    simp [liesIn_iff, hcomponents]
  have hpath := resolve_relative hrelative hne hok
  have hpathFolded := folded_fold (under (fold root) [])
  have hpathClimbs := climbs_folded hpathFolded hpath
  obtain ⟨x, hx, hother⟩ := exists_other_name (components (fold root))
  -- a directory that the root climbs out of, with names that the folded root does not begin with
  have hname : ∀ n ∈ List.replicate (climbs 0 (body root)) x, IsName n := by
    intro n hn
    rw [List.eq_of_mem_replicate hn]
    exact hx
  obtain ⟨cwd, hcwd, hdirs⟩ := exists_directory hname
  have hlies := liesIn_iff.mp (hall cwd _ _ hcwd hok)
  rw [components_fold_behind hcwd hdirs hrelative (by simp),
    components_fold_behind hcwd hdirs hpath (by omega), fold_eq_self hpathFolded, hcomponents,
    hpathClimbs] at hlies
  cases hk : climbs 0 (body root) with
  | zero => rfl
  | succ k =>
    rw [hk] at hlies
    cases hrow : components (fold root) with
    | nil => exact absurd hrow (components_fold_ne_nil hne)
    | cons c rest =>
      rw [hrow] at hlies hother
      have hhead : c = .name x ∧ rest <+: nameRow (List.replicate k x) ++ c :: rest := by
        simpa [nameRow, List.replicate_succ, List.cons_prefix_cons] using hlies
      exact absurd (by rw [hhead.1]) (hother rest)

/-- Whatever is accepted lies in the directory that the root names, from wherever both are read, if
and only if the root is absolute or it folds to something without a `..` being dropped. -/
theorem contains_iff (root : Path) :
    (∀ cwd typed path, isAbsolute cwd = true → (ofRoot root).resolve typed = .ok path →
      liesIn (fold (under cwd path)) (fold (under cwd root)) = true) ↔
    isAbsolute root = true ∨ fold root ≠ [] ∧ climbs 0 (components root) = 0 := by
  constructor
  · intro hall
    cases habsolute : isAbsolute root with
    | true => exact .inl rfl
    | false =>
      have hne := ne_nil_of_contains habsolute hall
      refine .inr ⟨hne, ?_⟩
      rw [climbs_components habsolute]
      exact climbs_of_contains habsolute hne hall
  · intro hroot cwd typed path hcwd h
    exact contains_of hcwd hroot h

/-- `/p` and `proj` contain what they accept, and `../proj` does not. -/
theorem contains_iff_of_roots :
    liesIn (fold (under "/work".toList "/p/b".toList)) (fold (under "/work".toList "/p".toList)) =
      true ∧
    liesIn (fold (under "/work".toList "proj/b".toList))
      (fold (under "/work".toList "proj".toList)) = true ∧
    ¬ ∀ cwd typed path, isAbsolute cwd = true →
      (ofRoot "../proj".toList).resolve typed = .ok path →
      liesIn (fold (under cwd path)) (fold (under cwd "../proj".toList)) = true := by
  refine ⟨?_, ?_, ?_⟩
  · exact (contains_iff "/p".toList).mpr (by decide +kernel) _ "a/../b".toList _ rfl rfl
  · exact (contains_iff "proj".toList).mpr (by decide +kernel) _ "./b".toList _ rfl rfl
  · intro hall
    have hroot := (contains_iff "../proj".toList).mp hall
    revert hroot
    decide +kernel

/-- The root `.` accepts every absolute path. -/
theorem here_accepts_outside :
    (ofRoot ".".toList).resolve "/etc/passwd".toList = .ok "/etc/passwd".toList ∧
      liesIn (fold (under "/work".toList "/etc/passwd".toList))
        (fold (under "/work".toList ".".toList)) = false :=
  ⟨rfl, by decide +kernel⟩

end Project
end ModalEditor
