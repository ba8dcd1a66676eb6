import ModalEditor.Proofs.Path.Characters

/-!
# Folded paths

A folded path has no `.` and no `..` left: it is a row of names, behind the root or not. Nothing is
lost when it is written down as a text, so the components of a folded path are the folded components
(`components_fold`), and a path that is folded already stays as it is.

Where a path is read from another directory, its components come behind those of the directory
(`components_under`), and folding goes on where the directory has ended (`foldOnto_append`).
-/

namespace ModalEditor

namespace Path

variable {p dir : Path} {before cs ds : List Component} {names : List Text} {n : Text}

/-- A text between slashes that names a file or a directory. -/
structure IsName (n : Text) : Prop where
  /-- It is not empty. -/
  nonempty : n ≠ []
  /-- It has no slash. -/
  noSlash : '/' ∉ n
  /-- It is not `.` -/
  ne_here : n ≠ ['.']
  /-- It is not `..` -/
  ne_up : n ≠ ['.', '.']

/-- A row of names. -/
def nameRow (names : List Text) : List Component := names.map .name

/-- Names, behind the root or not. -/
inductive Folded : List Component → Prop
  /-- Names alone. -/
  | relative (names : List Text) (h : ∀ n ∈ names, IsName n) : Folded (nameRow names)
  /-- Names behind the root. -/
  | absolute (names : List Text) (h : ∀ n ∈ names, IsName n) : Folded (.root :: nameRow names)

/-! ## Components -/

/-- The components that come from the pieces between the slashes. -/
def body (p : Path) : List Component :=
  ((p.splitOn '/').filter fun piece => !piece.isEmpty && piece != ['.']).map component

theorem components_absolute (h : isAbsolute p = true) : components p = .root :: body p := by
  unfold components body
  simp [h]

theorem components_relative (h : isAbsolute p = false) :
    components p = body p ∨ components p = .here :: body p := by
  unfold components body
  simp only [h, Bool.false_eq_true, if_false]
  split
  · exact .inr rfl
  · exact .inl rfl

theorem isAbsolute_iff : isAbsolute p = true ↔ (components p).head? = some .root := by
  cases h : isAbsolute p with
  | true => simp [components_absolute h]
  | false =>
    have hroot : .root ∉ body p := by
      intro hmem
      obtain ⟨piece, -, hpiece⟩ := List.mem_map.mp hmem
      unfold component at hpiece
      split at hpiece <;> cases hpiece
    rcases components_relative h with heq | heq <;> rw [heq]
    · simp only [Bool.false_eq_true, false_iff]
      exact fun hhead => hroot (List.mem_of_head? hhead)
    · simp

theorem body_slash (p q : Path) : body (p ++ '/' :: q) = body p ++ body q := by
  unfold body
  rw [List.splitOn_eq_splitOnP, List.splitOnP_append_cons p q (by simp), List.filter_append,
    List.map_append]
  rfl

/-- What the pieces of a path name. -/
theorem mem_body {c : Component} (h : c ∈ body p) : c = .up ∨ ∃ n, c = .name n ∧ IsName n := by
  obtain ⟨piece, hmem, rfl⟩ := List.mem_map.mp h
  obtain ⟨hpiece, hkept⟩ := List.mem_filter.mp hmem
  have hslash := not_mem_of_mem_splitOn hpiece
  unfold component
  split
  · exact .inl rfl
  · rename_i hup
    have hother : piece ≠ [] ∧ piece ≠ ['.'] := by simpa using hkept
    exact .inr ⟨piece, rfl, hother.1, hslash, hother.2, hup⟩

/-! ## Folding -/

theorem foldOnto_append (before cs ds : List Component) :
    foldOnto before (cs ++ ds) = foldOnto (foldOnto before cs).reverse ds := by
  fun_induction foldOnto before cs with
  | case1 before => rw [List.reverse_reverse]; rfl
  | case2 before rest ih => exact ih
  | case3 rest name before ih => exact ih
  | case4 rest before hname ih =>
    cases before with
    | nil => exact ih
    | cons c before =>
      cases c with
      | name n => exact absurd rfl (hname n before)
      | _ => exact ih
  | case5 before rest ih => exact ih
  | case6 before rest n ih => exact ih

theorem foldOnto_nameRow (before : List Component) (names : List Text) :
    foldOnto before (nameRow names) = before.reverse ++ nameRow names := by
  induction names generalizing before with
  | nil => simp [nameRow, foldOnto]
  | cons n rest ih =>
    have hrest := ih (.name n :: before)
    simpa [nameRow, foldOnto] using hrest

/-- What is folded stays. -/
theorem Folded.foldOnto (h : Folded cs) : foldOnto [] cs = cs := by
  cases h with
  | relative names h => exact foldOnto_nameRow [] names
  | absolute names h => exact foldOnto_nameRow [.root] names

theorem Folded.concat (h : Folded before.reverse) (hn : IsName n) :
    Folded (.name n :: before).reverse := by
  have hall : ∀ {names : List Text}, (∀ m ∈ names, IsName m) → ∀ m ∈ names ++ [n], IsName m := by
    intro names hnames m hm
    rcases List.mem_append.mp hm with hm | hm
    · exact hnames m hm
    · obtain rfl := List.mem_singleton.mp hm
      exact hn
  rw [List.reverse_cons]
  generalize before.reverse = row at h
  cases h with
  | relative names hnames =>
    have hrow := Folded.relative (names ++ [n]) (hall hnames)
    simpa [nameRow] using hrow
  | absolute names hnames =>
    have hrow := Folded.absolute (names ++ [n]) (hall hnames)
    simpa [nameRow] using hrow

theorem Folded.of_concat {row : List Component} (h : Folded (row ++ [.name n])) : Folded row := by
  have hinit : ∀ {init names : List Text}, (∃ last, names = init ++ last) →
      (∀ m ∈ names, IsName m) → ∀ m ∈ init, IsName m := by
    rintro init _ ⟨last, rfl⟩ hnames m hm
    exact hnames m (List.mem_append_left _ hm)
  generalize hcs : row ++ [.name n] = cs at h
  cases h with
  | relative names hnames =>
    obtain ⟨init, last, rfl, rfl, -⟩ := List.map_eq_append_iff.mp hcs.symm
    exact .relative init (hinit ⟨last, rfl⟩ hnames)
  | absolute names hnames =>
    cases row with
    | nil => simp at hcs
    | cons c row =>
      obtain ⟨rfl, hrow⟩ := List.cons.inj hcs
      obtain ⟨init, last, rfl, rfl, -⟩ := List.map_eq_append_iff.mp hrow.symm
      exact .absolute init (hinit ⟨last, rfl⟩ hnames)

theorem folded_foldOnto (hbefore : Folded before.reverse)
    (hcs : ∀ c ∈ cs, ∀ n, c = .name n → IsName n) : Folded (foldOnto before cs) := by
  fun_induction foldOnto before cs with
  | case1 before => exact hbefore
  | case2 before rest ih => exact ih hbefore fun c hc => hcs c (List.mem_cons_of_mem _ hc)
  | case3 rest n before ih =>
    rw [List.reverse_cons] at hbefore
    exact ih hbefore.of_concat fun c hc => hcs c (List.mem_cons_of_mem _ hc)
  | case4 rest before hname ih => exact ih hbefore fun c hc => hcs c (List.mem_cons_of_mem _ hc)
  | case5 before rest ih =>
    exact ih (.absolute [] (by simp)) fun c hc => hcs c (List.mem_cons_of_mem _ hc)
  | case6 before n rest ih =>
    exact ih (hbefore.concat (hcs _ (by simp) n rfl)) fun c hc => hcs c (List.mem_cons_of_mem _ hc)

theorem foldOnto_components (before : List Component) (p : Path) :
    foldOnto before (components p) =
      if isAbsolute p then foldOnto [.root] (body p) else foldOnto before (body p) := by
  cases h : isAbsolute p with
  | true => rw [components_absolute h]; rfl
  | false => rcases components_relative h with heq | heq <;> rw [heq] <;> rfl

theorem folded_body (h : Folded before.reverse) (p : Path) : Folded (foldOnto before (body p)) := by
  refine folded_foldOnto h fun c hc n hn => ?_
  rcases mem_body hc with rfl | ⟨m, rfl, hm⟩
  · cases hn
  · cases hn
    exact hm

theorem folded_foldOnto_components (p : Path) : Folded (foldOnto [] (components p)) := by
  have hroot : Folded [Component.root].reverse := .absolute [] (by simp)
  have hempty : Folded [].reverse := .relative [] (by simp)
  rw [foldOnto_components]
  split
  · exact folded_body hroot p
  · exact folded_body hempty p

/-! ## Folded paths as texts -/

theorem body_join (h : ∀ n ∈ names, IsName n) : body (Text.join ['/'] names) = nameRow names := by
  induction names with
  | nil => rfl
  | cons n rest ih =>
    have hn := h n (by simp)
    have hone : body n = [.name n] := by
      have hsplit : n.splitOn '/' = [n] := by
        have hslash : ∀ m ∈ [n], '/' ∉ m := by simpa using hn.noSlash
        simpa using List.splitOn_intercalate '/' hslash (by simp)
      simp [body, hsplit, hn.nonempty, hn.ne_here, component, hn.ne_up]
    cases rest with
    | nil => simpa [Text.join, nameRow] using hone
    | cons m rest =>
      have hrest := ih fun k hk => h k (List.mem_cons_of_mem _ hk)
      have hjoin : Text.join ['/'] (n :: m :: rest) = n ++ '/' :: Text.join ['/'] (m :: rest) := by
        simp [Text.join, List.intercalate_cons_cons]
      rw [hjoin, body_slash, hone, hrest]
      rfl

theorem isAbsolute_join (h : ∀ n ∈ names, IsName n) :
    isAbsolute (Text.join ['/'] names) = false := by
  cases names with
  | nil => rfl
  | cons n rest =>
    have hn := h n (by simp)
    obtain ⟨c, n, rfl⟩ := List.exists_cons_of_ne_nil hn.nonempty
    have hc : c ≠ '/' := fun hc => hn.noSlash (by simp [hc])
    cases rest <;> simp [isAbsolute, Text.join, List.intercalate_cons_cons, hc]

theorem components_join (h : ∀ n ∈ names, IsName n) :
    components (Text.join ['/'] names) = nameRow names := by
  cases names with
  | nil => rfl
  | cons n rest =>
    have hsplit : (Text.join ['/'] (n :: rest)).splitOn '/' = n :: rest :=
      List.splitOn_intercalate '/' (fun m hm => (h m hm).noSlash) (by simp)
    have hbody := body_join h
    unfold body at hbody
    rw [hsplit] at hbody
    have hn := h n (by simp)
    unfold components
    simp only [hsplit, isAbsolute_join h, List.head?_cons, hbody]
    simp [hn.ne_here]

theorem map_componentText_nameRow (names : List Text) :
    (nameRow names).map componentText = names := by
  simp [nameRow, componentText, Function.comp_def]

theorem ofComponents_relative (names : List Text) :
    ofComponents (nameRow names) = Text.join ['/'] names := by
  have hne : nameRow names ≠ [.root] := by cases names <;> simp [nameRow]
  rw [ofComponents, if_neg hne, map_componentText_nameRow]

theorem ofComponents_absolute (names : List Text) :
    ofComponents (.root :: nameRow names) = '/' :: Text.join ['/'] names := by
  cases names with
  | nil => rfl
  | cons n rest =>
    have htexts : (Component.root :: nameRow (n :: rest)).map componentText = [] :: n :: rest :=
      congrArg (List.cons []) (map_componentText_nameRow (n :: rest))
    rw [ofComponents, if_neg (by simp [nameRow]), htexts]
    simp [Text.join, List.intercalate_cons_cons]

/-- A path keeps the components that it was made of. -/
theorem components_ofComponents (h : Folded cs) : components (ofComponents cs) = cs := by
  cases h with
  | relative names hnames => rw [ofComponents_relative, components_join hnames]
  | absolute names hnames =>
    have hslash := body_slash [] (Text.join ['/'] names)
    rw [ofComponents_absolute, components_absolute rfl]
    exact congrArg (List.cons .root) (hslash.trans (body_join hnames))

/-- The components of a folded path are the folded components. -/
theorem components_fold (p : Path) : components (fold p) = foldOnto [] (components p) :=
  components_ofComponents (folded_foldOnto_components p)

theorem folded_fold (p : Path) : Folded (components (fold p)) := by
  rw [components_fold]
  exact folded_foldOnto_components p

/-- Folding twice is folding once. -/
theorem fold_eq_self (h : Folded (components p)) : components (fold p) = components p := by
  rw [components_fold, h.foldOnto]

/-! ## Paths from another directory -/

theorem components_slash (hdir : dir ≠ []) (p : Path) :
    components (dir ++ '/' :: p) = components dir ++ body p := by
  have habsolute : isAbsolute (dir ++ '/' :: p) = isAbsolute dir := by
    cases dir with
    | nil => exact absurd rfl hdir
    | cons c rest => rfl
  have hpieces : ((dir ++ '/' :: p).splitOn '/').head? = (dir.splitOn '/').head? := by
    rw [List.splitOn_eq_splitOnP, List.splitOnP_append_cons dir p (by simp),
      ← List.splitOn_eq_splitOnP]
    cases hsplit : dir.splitOn '/' with
    | nil => exact absurd hsplit (List.splitOn_ne_nil '/' dir)
    | cons piece rest => rfl
  have hbody := body_slash dir p
  unfold body at hbody
  unfold components
  simp only [habsolute, hpieces, hbody, List.append_assoc]
  rfl

/-- A relative path is put behind the directory. -/
theorem components_under (hdir : dir ≠ []) (hp : isAbsolute p = false) :
    components (under dir p) = components dir ++ body p := by
  unfold under
  rw [if_neg (by simp [hp, hdir])]
  split
  · rename_i hlast
    obtain ⟨init, rfl⟩ := List.getLast?_eq_some_iff.mp hlast
    rw [List.append_assoc, List.singleton_append]
    cases init with
    | nil => exact components_absolute rfl
    | cons c rest =>
      have hempty : body [] = [] := rfl
      rw [components_slash (by simp), components_slash (by simp), hempty, List.append_nil]
  · exact components_slash hdir p

theorem under_absolute (hp : isAbsolute p = true) (dir : Path) : under dir p = p := by
  simp [under, hp]

theorem components_fold_under (hdir : dir ≠ []) (hp : isAbsolute p = false) :
    components (fold (under dir p)) =
      foldOnto (foldOnto [] (components dir)).reverse (body p) := by
  rw [components_fold, components_under hdir hp]
  exact foldOnto_append [] (components dir) (body p)

end Path
end ModalEditor
