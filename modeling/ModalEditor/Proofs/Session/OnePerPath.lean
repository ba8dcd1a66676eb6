import Mathlib.Data.List.Induction
import ModalEditor.Host.Memory
import ModalEditor.Proofs.Session.Asking

/-!
# One buffer per path

Editing a file goes to the buffer that has its path, so it never makes a second one. But a command
that writes the current buffer to its own file gives it that path without looking at the other
buffers: `:saveas` does so, and `:w` with the name of a file if the buffer has no path yet. If
another buffer has the path, two buffers have it afterwards, and editing the file goes to the first
of them.

That is the only way to get two buffers with one path (`one_buffer_per_path`).
-/

namespace ModalEditor

namespace BufferTable

variable {t u : BufferTable} {cs : List Component}

theorem PathsDistinct.of_files_eq (hd : t.PathsDistinct) (hu : u.files = t.files) :
    u.PathsDistinct := by
  rw [pathsDistinct_iff] at hd ⊢
  rwa [hu]

theorem PathsDistinct.append (hd : t.PathsDistinct) (hnew : some cs ∉ t.files)
    (hu : u.files = t.files ++ [some cs]) : u.PathsDistinct := by
  rw [pathsDistinct_iff] at hd ⊢
  intro i j ds hi hj
  rw [hu] at hi hj
  have hplace : ∀ {k : Nat}, (t.files ++ [some cs])[k]? = some (some ds) →
      t.files[k]? = some (some ds) ∧ ds ≠ cs ∨ k = t.files.length ∧ ds = cs := by
    intro k hk
    rw [List.getElem?_append] at hk
    split at hk
    · refine .inl ⟨hk, ?_⟩
      rintro rfl
      exact hnew (List.mem_of_getElem? hk)
    · rw [List.getElem?_singleton] at hk
      split at hk
      · refine .inr ⟨by omega, ?_⟩
        cases hk
        rfl
      · cases hk
  -- two places in the table of before, or the new one twice
  rcases hplace hi with ⟨hi, hne⟩ | ⟨rfl, rfl⟩ <;> rcases hplace hj with ⟨hj, hne'⟩ | ⟨rfl, hcs⟩
  · exact hd i j ds hi hj
  · exact absurd hcs hne
  · exact absurd rfl hne'
  · rfl

/-- The current buffer gets a file: the other buffers must not have it. -/
theorem PathsDistinct.set_iff (hd : t.PathsDistinct) (hcur : t.current < t.slots.length)
    (hu : u.files = t.files.set t.current (some cs)) :
    u.PathsDistinct ↔ ∀ i, t.files[i]? = some (some cs) → i = t.current := by
  rw [pathsDistinct_iff] at hd ⊢
  have hlen : t.current < t.files.length := by simpa [files] using hcur
  have hself : u.files[t.current]? = some (some cs) := by
    rw [hu, List.getElem?_set_self hlen]
  have hother : ∀ {i : Nat}, i ≠ t.current → u.files[i]? = t.files[i]? := fun hi => by
    rw [hu, List.getElem?_set_ne (Ne.symm hi)]
  constructor
  · intro h i hi
    by_cases hne : i = t.current
    · exact hne
    · exact h i _ cs ((hother hne).trans hi) hself
  · intro h i j ds hi hj
    by_cases hicur : i = t.current <;> by_cases hjcur : j = t.current
    · rw [hicur, hjcur]
    · rw [hicur, hself] at hi
      cases hi
      exact absurd (h j ((hother hjcur).symm.trans hj)) hjcur
    · rw [hjcur, hself] at hj
      cases hj
      exact absurd (h i ((hother hicur).symm.trans hi)) hicur
    · exact hd i j ds ((hother hicur).symm.trans hi) ((hother hjcur).symm.trans hj)

/-- If the paths are distinct, the place of a path is the only one that has it. -/
theorem PathsDistinct.placeOf? (hd : t.PathsDistinct) {i : Nat} {file : Path}
    (hi : t.files[i]? = some (some (Path.components file))) : t.placeOf? file = some i := by
  obtain ⟨hlt, hget⟩ := List.getElem?_eq_some_iff.mp hi
  rw [placeOf?_eq, List.findIdx?_eq_some_iff_getElem]
  refine ⟨hlt, by simp [hget], fun j hj => ?_⟩
  intro hfile
  have hjget : t.files[j]? = some (some (Path.components file)) := by
    rw [List.getElem?_eq_getElem (by omega)]
    simpa using hfile
  have hij := pathsDistinct_iff.mp hd i j _ hi hjget
  omega

end BufferTable

namespace Ex

open EditorM Editor

variable {σ : Type} {h : Host σ} {e : Editor σ}

/-- Editing a file that a buffer has goes to this buffer and adds none. -/
theorem edit_goes {typed : Option Path} {file : Path} (force : Bool) {i : Nat} (he : e.HasCurrent)
    (hd : e.buffers.PathsDistinct) (hfile : h.fileFor? e.buffer typed = some file)
    (hi : e.buffers.files[i]? = some (some (Path.components file))) :
    ((edit h typed force).run.run e).2.buffers.current = i ∧
      ((edit h typed force).run.run e).2.buffers.slots.length = e.buffers.slots.length := by
  cases hown : e.buffer.path.any (Path.same · file) with
  | true =>
    have hcur : i = e.buffers.current := by
      refine BufferTable.pathsDistinct_iff.mp hd i _ _ hi ?_
      rw [BufferTable.getElem?_files_current he]
      exact congrArg some (Path.any_same_iff.mp hown)
    rw [run_edit_own force he hfile hown]
    split
    · exact ⟨hcur.symm, rfl⟩
    · rcases h.load file e.world with ⟨_ | text, w⟩
      · exact ⟨hcur.symm, rfl⟩
      · exact ⟨hcur.symm, List.length_modify _ _ _⟩
  | false =>
    rw [edit_other_state force hfile hown]
    unfold openPath
    simp only [run_bind, run_get, hd.placeOf? hi]
    exact ⟨rfl, rfl⟩

end Ex

namespace Session

open Editor

variable {σ : Type} {h : Host σ} {s : Session σ}

/-- The key carries out a command that writes the current buffer to its own file, under the path of
another buffer. -/
def TakesPath (h : Host σ) (s : Session σ) (key : Key) : Prop :=
  ∃ c file i slot, s.entered? key = some c ∧ (c.base s.buffer).ownFile? h s.buffer = some file ∧
    i ≠ s.editor.buffers.current ∧ s.editor.buffers.slots[i]? = some slot ∧
    slot.buffer.path.any (Path.same · file) = true

theorem getElem?_files_of_same {t : BufferTable} {i : Nat} {slot : Slot} {file : Path}
    (hslot : t.slots[i]? = some slot) (hsame : slot.buffer.path.any (Path.same · file) = true) :
    t.files[i]? = some (some (Path.components file)) := by
  rw [BufferTable.getElem?_files, hslot, Option.map_some, Path.any_same_iff.mp hsame]

theorem takesPath_iff {key : Key} {c : ExCommand} {file : Path} (hc : s.entered? key = some c)
    (hown : (c.base s.buffer).ownFile? h s.buffer = some file) :
    s.TakesPath h key ↔ ∃ i, i ≠ s.editor.buffers.current ∧
      s.editor.buffers.files[i]? = some (some (Path.components file)) := by
  constructor
  · rintro ⟨c', file', i, slot, hc', hown', hi, hslot, hsame⟩
    rw [hc] at hc'
    cases hc'
    rw [hown] at hown'
    cases hown'
    exact ⟨i, hi, getElem?_files_of_same hslot hsame⟩
  · rintro ⟨i, hi, hfile⟩
    obtain ⟨slot, p, hslot, hp, hcomponents⟩ := BufferTable.getElem?_files_eq_some.mp hfile
    have hsame : slot.buffer.path.any (Path.same · file) = true :=
      Path.any_same_iff.mpr (by rw [hp, Option.map_some, hcomponents])
    exact ⟨c, file, i, slot, hc, hown, hi, hslot, hsame⟩

/-- A key keeps the paths distinct unless it takes the path of another buffer. -/
theorem press_distinct_iff (hf : s.editor.buffers.Fits) (hd : s.editor.buffers.PathsDistinct)
    (key : Key) : (s.press h key).1.editor.buffers.PathsDistinct ↔ ¬ s.TakesPath h key := by
  have hother : (∀ c file, s.entered? key = some c →
      (c.base s.buffer).ownFile? h s.buffer ≠ some file) →
      Asks h s.editor (s.press h key).1.editor →
      ((s.press h key).1.editor.buffers.PathsDistinct ↔ ¬ s.TakesPath h key) := by
    intro hnot hasks
    refine ⟨fun _ ⟨c, file, i, slot, hc, hown, _⟩ => hnot c file hc hown, fun _ => ?_⟩
    cases hasks with
    | nothing hworld hfiles => exact hd.of_files_eq hfiles
    | call call hallowed hworld hfiles => exact hd.of_files_eq hfiles
    | opened typed file hfile hnew hworld hfiles => exact hd.append hnew hfiles
  cases hc : s.entered? key with
  | none => exact hother (fun c file hc' => by rw [hc] at hc'; cases hc') (press_quiet hf hc).asks
  | some c =>
    cases hown : (c.base s.buffer).ownFile? h s.buffer with
    | none =>
      refine hother (fun c' file hc' hown' => ?_) (press_asks hf hc hown)
      rw [hc] at hc'
      cases hc'
      rw [hown] at hown'
      cases hown'
    | some file =>
      have hsaves := press_savesAs (h := h) hf hc hown
      rw [hd.set_iff hf.current_lt hsaves.files, takesPath_iff hc hown]
      constructor
      · rintro hall ⟨i, hne, hi⟩
        exact hne (hall i hi)
      · intro htakes i hi
        by_contra hne
        exact htakes ⟨i, hne, hi⟩

theorem after_concat (s : Session σ) (keys : List Key) (key : Key) :
    s.after h (keys ++ [key]) = ((s.after h keys).press h key).1 := by
  simp [after]

/-- Let a key be bad exactly if `P` and `R` do not hold behind it. Then `R` holds all the way through
some keys exactly if none of them is bad. -/
theorem after_all_iff {P R : Session σ → Prop} {Q : Session σ → Key → Prop} {s : Session σ}
    (hP : P s) (hR : R s)
    (hstep : ∀ pre key, P (s.after h pre) →
      (P (s.after h (pre ++ [key])) ↔ ¬ Q (s.after h pre) key) ∧
      (R (s.after h (pre ++ [key])) ↔ ¬ Q (s.after h pre) key)) (keys : List Key) :
    (∀ pre, pre <+: keys → R (s.after h pre)) ↔
      ∀ pre key, pre ++ [key] <+: keys → ¬ Q (s.after h pre) key := by
  have hbefore : ∀ {pre key}, pre ++ [key] <+: keys → pre <+: keys :=
    fun hpre => (List.prefix_append _ _).trans hpre
  have hholds : (∀ pre key, pre ++ [key] <+: keys → P (s.after h pre) →
      ¬ Q (s.after h pre) key) → ∀ pre, pre <+: keys → P (s.after h pre) := by
    intro hnot pre
    induction pre using List.reverseRecOn with
    | nil => exact fun _ => hP
    | append_singleton pre key ih =>
      intro hpre
      have hP := ih (hbefore hpre)
      exact (hstep pre key hP).1.mpr (hnot pre key hpre hP)
  constructor
  · intro hall
    have hnot : ∀ pre key, pre ++ [key] <+: keys → P (s.after h pre) → ¬ Q (s.after h pre) key :=
      fun pre key hpre hP => (hstep pre key hP).2.mp (hall _ hpre)
    exact fun pre key hpre => hnot pre key hpre (hholds hnot pre (hbefore hpre))
  · intro hnot pre hpre
    cases pre using List.reverseRecOn with
    | nil => exact hR
    | append_singleton pre key =>
      have hP := hholds (fun pre key hpre _ => hnot pre key hpre) pre (hbefore hpre)
      exact (hstep pre key hP).2.mpr (hnot pre key hpre)

theorem begin_distinct {o : Options} {world : σ} {file : Option Path} {s : Session σ}
    (hs : begin h o world file = .ok s) : s.editor.buffers.PathsDistinct := by
  obtain ⟨f, hfiles⟩ := begin_files hs
  rw [BufferTable.pathsDistinct_iff, hfiles]
  intro i j cs hi hj
  have hlt : ∀ {k : Nat}, [f][k]? = some (some cs) → k = 0 := fun hk => by
    have := (List.getElem?_eq_some_iff.mp hk).1
    simpa using this
  rw [hlt hi, hlt hj]

/-- On the way through some keys the paths stay distinct, unless a key takes the path of another
buffer. -/
theorem after_distinct_iff {s : Session σ} (hf : s.editor.buffers.Fits)
    (hd : s.editor.buffers.PathsDistinct) (keys : List Key) :
    (∀ pre, pre <+: keys → (s.after h pre).editor.buffers.PathsDistinct) ↔
      ∀ pre key, pre ++ [key] <+: keys → ¬ (s.after h pre).TakesPath h key := by
  refine after_all_iff (P := fun t => t.editor.buffers.PathsDistinct)
    (R := fun t => t.editor.buffers.PathsDistinct) (Q := fun t key => t.TakesPath h key) hd hd
    (fun pre key hbefore => ?_) keys
  have hpress := press_distinct_iff (h := h) (after_fits hf pre) hbefore key
  rw [after_concat]
  exact ⟨hpress, hpress⟩

/-- The buffers of a session have different paths as long as no key takes the path of another
buffer, and as soon as one does, they have not. While they have different paths, editing a file that
a buffer has goes to this buffer and adds none. -/
theorem one_buffer_per_path (h : Host σ) (o : Options) (world : σ) (file : Option Path)
    (s₀ : Session σ) (hs : begin h o world file = .ok s₀) (keys : List Key) :
    let s := s₀.after h keys
    ((∀ pre, pre <+: keys → (s₀.after h pre).editor.buffers.PathsDistinct) ↔
      ∀ pre key, pre ++ [key] <+: keys → ¬ (s₀.after h pre).TakesPath h key) ∧
    (s.editor.buffers.PathsDistinct → ∀ key c typed force file i slot, s.entered? key = some c →
      c.base s.buffer = .edit typed force → h.fileFor? s.buffer typed = some file →
      s.editor.buffers.slots[i]? = some slot → slot.buffer.path.any (Path.same · file) = true →
      (s.press h key).1.editor.buffers.current = i ∧
        (s.press h key).1.editor.buffers.slots.length = s.editor.buffers.slots.length) := by
  intro s
  refine ⟨after_distinct_iff (begin_fits hs) (begin_distinct hs) keys, ?_⟩
  intro hd key c typed force file i slot hc hbase hfile hslot hsame
  have hf : s.editor.buffers.Fits := after_fits (begin_fits hs) keys
  have he : s.editor.HasCurrent := hf.current_lt
  have happroach := Ex.approach_quiet c s.editor
  have hlen : (s.editor.setBuffer (c.approach s.editor.buffer)).buffers.slots.length =
      s.editor.buffers.slots.length := List.length_modify _ _ _
  have hnames : h.fileFor? (s.editor.setBuffer (c.approach s.editor.buffer)).buffer typed =
      some file := by
    rw [buffer_setBuffer he, Ex.fileFor?_congr (Ex.approach_fields s.editor.buffer c).1]
    exact hfile
  have hplace := getElem?_files_of_same hslot hsame
  rw [← happroach.files] at hplace
  have hgoes := Ex.edit_goes (h := h) force (he.setBuffer _) (hd.of_files_eq happroach.files) hnames
    hplace
  rw [press_entered hc, Ex.run_eq_base h c s.col s.editor he,
    show c.base s.editor.buffer = .edit typed force from hbase]
  exact ⟨hgoes.1, hgoes.2.trans hlen⟩

/-- Two files are opened, and then the first one again: it has its buffer. -/
theorem one_buffer_per_path_of_two_files :
    ∃ s₀, begin (Memory.host "/p".toList) {} { files := [("/p/f".toList, "a\n".toList)] }
        (some "f".toList) = .ok s₀ ∧
      let s := s₀.after (Memory.host "/p".toList) (":e g\r:e f".toList.map Key.ofChar)
      s.editor.buffers.current = 1 ∧
        (s.press (Memory.host "/p".toList) .enter).1.editor.buffers.current = 0 ∧
        (s.press (Memory.host "/p".toList) .enter).1.editor.buffers.slots.length =
          s.editor.buffers.slots.length := by
  have hrun : ∃ s₀, begin (Memory.host "/p".toList) {}
        { files := [("/p/f".toList, "a\n".toList)] } (some "f".toList) = .ok s₀ ∧
      let s := s₀.after (Memory.host "/p".toList) (":e g\r:e f".toList.map Key.ofChar)
      s.editor.buffers.current = 1 ∧ s.editor.buffers.PathsDistinct ∧
        s.entered? .enter = some (.edit (some "f".toList) false) ∧
        s.editor.buffers.slots[0]?.any
          (fun slot => slot.buffer.path.any (Path.same · "/p/f".toList)) = true :=
    ⟨_, rfl, by decide +kernel, by decide +kernel, by decide +kernel, by decide +kernel⟩
  obtain ⟨s₀, hs, hcurrent, hdistinct, hentered, hslot⟩ := hrun
  obtain ⟨slot, hslot, hsame⟩ := (Option.any_eq_true _ _).mp hslot
  exact ⟨s₀, hs, hcurrent, (one_buffer_per_path _ _ _ _ s₀ hs _).2 hdistinct .enter _ _ _ _ 0 slot
    hentered rfl rfl hslot hsame⟩

/-- A new buffer that is written to the file of another one becomes the second buffer with its
path. -/
theorem write_makes_second_buffer :
    let h := Memory.host "/p".toList
    ∃ s₀, begin h {} { files := [("/p/f".toList, "a\n".toList)] } none = .ok s₀ ∧
      let t := (s₀.after h (":e f\r:bp\r:w f\r".toList.map Key.ofChar)).editor.buffers
      t.slots.map (fun s => s.buffer.path) = [some "/p/f".toList, some "/p/f".toList] ∧
        ¬ t.PathsDistinct :=
  ⟨_, rfl, by decide +kernel, by decide +kernel⟩

end Session
end ModalEditor
