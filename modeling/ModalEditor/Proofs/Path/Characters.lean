import ModalEditor.Project

/-!
# The characters of a resolved path

Folding a path takes it apart into components and joins them again, so a folded path has no
characters but those of the path, slashes and dots. A typed path is folded behind the root of the
project, which adds the characters of the root.
-/

namespace ModalEditor

/-- A character of a piece of a split text is one of the text. -/
theorem mem_of_mem_splitOn {d c : Char} {t piece : Text} (hp : piece ∈ t.splitOn d)
    (hc : c ∈ piece) : c ∈ t := by
  rw [← show [d].intercalate (t.splitOn d) = t from List.intercalate_splitOn d]
  generalize t.splitOn d = pieces at hp
  induction pieces with
  | nil => cases hp
  | cons first rest ih =>
    cases rest with
    | nil =>
      obtain rfl := List.mem_singleton.mp hp
      simpa using hc
    | cons second rest =>
      rw [List.intercalate_cons_cons]
      rcases List.mem_cons.mp hp with rfl | hp
      · simp [hc]
      · exact List.mem_append_right _ (ih hp)

/-- The pieces of a split text do not have the separator in them. -/
theorem not_mem_of_mem_splitOn {d : Char} {t piece : Text} (hp : piece ∈ t.splitOn d) :
    d ∉ piece := by
  induction t generalizing piece with
  | nil =>
    obtain rfl : piece = [] := by simpa using hp
    simp
  | cons c t ih =>
    rw [List.splitOn_cons_eq_if_modifyHead] at hp
    split at hp
    · rcases List.mem_cons.mp hp with rfl | hp
      · simp
      · exact ih hp
    · rename_i hc
      cases hs : t.splitOn d with
      | nil => simp [hs] at hp
      | cons first rest =>
        rw [hs, List.modifyHead_cons] at hp
        rw [hs] at ih
        rcases List.mem_cons.mp hp with rfl | hp
        · have hfirst : d ∉ first := ih (by simp)
          have hne : d ≠ c := by
            rintro rfl
            simp at hc
          simp [hfirst, hne]
        · exact ih (List.mem_cons_of_mem _ hp)

/-- A character of a joined text is one of the separator or of a piece. -/
theorem Text.mem_join {sep : Text} {c : Char} {pieces : List Text} (h : c ∈ Text.join sep pieces) :
    c ∈ sep ∨ ∃ piece ∈ pieces, c ∈ piece := by
  unfold Text.join at h
  induction pieces with
  | nil => cases h
  | cons first rest ih =>
    cases rest with
    | nil => exact .inr ⟨first, by simp, by simpa using h⟩
    | cons second rest =>
      rw [List.intercalate_cons_cons, List.mem_append, List.mem_append] at h
      rcases h with (h | h) | h
      · exact .inr ⟨first, by simp, h⟩
      · exact .inl h
      · rcases ih h with h | ⟨piece, hpiece, hc⟩
        · exact .inl h
        · exact .inr ⟨piece, List.mem_cons_of_mem _ hpiece, hc⟩

namespace Path

variable {p dir : Path} {c : Char}

/-- The text of a component comes from the path, or it is a dot or two. -/
theorem mem_components {cpt : Component} (h : cpt ∈ components p) (hc : c ∈ componentText cpt) :
    c ∈ p ∨ c = '.' := by
  unfold components at h
  rcases List.mem_append.mp h with h | h
  · split at h
    · obtain rfl := List.mem_singleton.mp h
      cases hc
    · split at h
      · obtain rfl := List.mem_singleton.mp h
        exact .inr (List.mem_singleton.mp hc)
      · cases h
  · obtain ⟨piece, hpiece, rfl⟩ := List.mem_map.mp h
    unfold component at hc
    split at hc
    · exact .inr (by simpa [componentText] using hc)
    · exact .inl (mem_of_mem_splitOn (List.mem_filter.mp hpiece).1 hc)

/-- Folding makes no components. -/
theorem mem_foldOnto {cpt : Component} {before cs : List Component}
    (h : cpt ∈ foldOnto before cs) : cpt ∈ before ∨ cpt ∈ cs := by
  fun_induction foldOnto before cs <;> grind

theorem mem_ofComponents {cs : List Component} (h : c ∈ ofComponents cs) :
    c = '/' ∨ ∃ cpt ∈ cs, c ∈ componentText cpt := by
  unfold ofComponents at h
  split at h
  · exact .inl (List.mem_singleton.mp h)
  · rcases Text.mem_join h with h | ⟨piece, hpiece, hc⟩
    · exact .inl (List.mem_singleton.mp h)
    · obtain ⟨cpt, hcpt, rfl⟩ := List.mem_map.mp hpiece
      exact .inr ⟨cpt, hcpt, hc⟩

theorem mem_fold (h : c ∈ fold p) : c ∈ p ∨ c = '.' ∨ c = '/' := by
  rcases mem_ofComponents h with rfl | ⟨cpt, hcpt, hc⟩
  · exact .inr (.inr rfl)
  · rcases mem_foldOnto hcpt with hcpt | hcpt
    · cases hcpt
    · exact (mem_components hcpt hc).imp_right .inl

theorem mem_under (h : c ∈ under dir p) : c ∈ dir ∨ c ∈ p ∨ c = '/' := by
  unfold under at h
  split at h
  · exact .inr (.inl h)
  split at h
  · exact (List.mem_append.mp h).imp_right .inl
  · rcases List.mem_append.mp h with h | h
    · exact .inl h
    · exact .inr ((List.mem_cons.mp h).symm)

end Path

/-- A resolved path has no line break if neither the root nor what was typed has one. -/
theorem Project.resolve_noBreak {p : Project} {typed path : Path} (h : p.resolve typed = .ok path)
    (hroot : '\n' ∉ p.root) (htyped : '\n' ∉ typed) : '\n' ∉ path := by
  unfold Project.resolve at h
  dsimp only at h
  split at h
  · cases h
    intro hn
    rcases Path.mem_fold hn with hn | hn | hn
    · rcases Path.mem_under hn with hn | hn | hn
      · exact hroot hn
      · exact htyped hn
      · cases hn
    · cases hn
    · cases hn
  · cases h

end ModalEditor
