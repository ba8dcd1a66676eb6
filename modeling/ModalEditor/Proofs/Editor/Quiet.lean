import ModalEditor.Proofs.Editor.Evolution

/-!
# Steps that leave files alone

Each buffer stands for the file at its path, or for none, and two paths name the same file if they
have the same components. So the files of a table are lists of components (`BufferTable.files`), and
of all that happens to the paths of the buffers mostly what happens to this list matters.

Most steps of the editor are quiet: they ask the host for nothing, and the buffers stand for the
files that they stood for. All of these steps edit the current buffer, go to another one or change a
setting, and what is shown of them is more (`Editor.Edited`): the buffers evolve, each has the very
path that it had, none is settled, and no line breaks come in.
-/

namespace ModalEditor

theorem Path.same_iff {p q : Path} : Path.same p q = true ↔ components p = components q := by
  simp [same]

/-- A buffer with this path stands for the file. -/
theorem Path.any_same_iff {path : Option Path} {file : Path} :
    path.any (Path.same · file) = true ↔ path.map components = some (components file) := by
  cases path with
  | none => simp
  | some own => simp [same]

namespace BufferTable

variable {t : BufferTable} {b : Buffer}

/-- The path of each buffer. -/
def paths (t : BufferTable) : List (Option Path) := t.slots.map fun s => s.buffer.path

/-- The file that each buffer stands for. -/
def files (t : BufferTable) : List (Option (List Component)) :=
  t.slots.map fun s => s.buffer.path.map Path.components

/-- No two buffers have the same path. -/
def PathsDistinct (t : BufferTable) : Prop :=
  t.slots.Pairwise fun s s' => ∀ p ∈ s.buffer.path, ∀ q ∈ s'.buffer.path, Path.same p q = false

instance (t : BufferTable) : Decidable t.PathsDistinct :=
  inferInstanceAs (Decidable (List.Pairwise _ _))

theorem files_eq (t : BufferTable) : t.files = t.paths.map (Option.map Path.components) := by
  rw [files, paths, List.map_map]
  rfl

theorem files_congr {u : BufferTable} (hpaths : u.paths = t.paths) : u.files = t.files := by
  rw [files_eq, files_eq, hpaths]

theorem paths_setCurrent (t : BufferTable) (b : Buffer) :
    (t.setCurrent b).paths = t.paths.set t.current b.path := by
  apply List.ext_getElem?
  intro i
  rw [List.getElem?_set', paths, paths, List.getElem?_map, List.getElem?_map, getElem?_setCurrent]
  by_cases hi : i = t.current
  · cases t.slots[i]? <;> simp [hi]
  · simp [hi, Ne.symm hi]

theorem getElem?_files (t : BufferTable) (i : Nat) :
    t.files[i]? = (t.slots[i]?).map fun s => s.buffer.path.map Path.components :=
  List.getElem?_map

theorem getElem?_files_eq_some {i : Nat} {cs : List Component} :
    t.files[i]? = some (some cs) ↔
      ∃ s p, t.slots[i]? = some s ∧ s.buffer.path = some p ∧ Path.components p = cs := by
  rw [getElem?_files]
  constructor
  · intro h
    obtain ⟨s, hs, hp⟩ := Option.map_eq_some_iff.mp h
    obtain ⟨p, hp, hcs⟩ := Option.map_eq_some_iff.mp hp
    exact ⟨s, p, hs, hp, hcs⟩
  · rintro ⟨s, p, hs, hp, rfl⟩
    rw [hs, Option.map_some, hp, Option.map_some]

theorem pathsDistinct_iff : t.PathsDistinct ↔ ∀ (i j : Nat) (cs : List Component),
    t.files[i]? = some (some cs) → t.files[j]? = some (some cs) → i = j := by
  unfold PathsDistinct
  rw [List.pairwise_iff_getElem]
  constructor
  · intro h
    have hlt : ∀ (i j : Nat) (cs : List Component), t.files[i]? = some (some cs) →
        t.files[j]? = some (some cs) → ¬ i < j := by
      intro i j cs hi hj hij
      obtain ⟨s, p, hs, hp, hps⟩ := getElem?_files_eq_some.mp hi
      obtain ⟨s', q, hs', hq, hqs⟩ := getElem?_files_eq_some.mp hj
      obtain ⟨hi, rfl⟩ := List.getElem?_eq_some_iff.mp hs
      obtain ⟨hj, rfl⟩ := List.getElem?_eq_some_iff.mp hs'
      have hother := h i j hi hj hij p hp q hq
      rw [Path.same_iff.mpr (hps.trans hqs.symm)] at hother
      cases hother
    intro i j cs hi hj
    have hij := hlt i j cs hi hj
    have hji := hlt j i cs hj hi
    omega
  · intro h i j hi hj hij p hp q hq
    cases hsame : Path.same p q with
    | false => rfl
    | true =>
      have heq := h i j _
        (getElem?_files_eq_some.mpr ⟨_, p, List.getElem?_eq_getElem hi, hp, Path.same_iff.mp hsame⟩)
        (getElem?_files_eq_some.mpr ⟨_, q, List.getElem?_eq_getElem hj, hq, rfl⟩)
      omega

theorem getElem?_files_current (h : t.current < t.slots.length) :
    t.files[t.current]? = some (t.buffer.path.map Path.components) := by
  rw [getElem?_files, List.getElem?_eq_getElem h, Option.map_some,
    buffer_of_getElem? (List.getElem?_eq_getElem h)]

theorem files_setCurrent_same (h : b.path.map Path.components = t.buffer.path.map Path.components) :
    (t.setCurrent b).files = t.files := map_setCurrent h

theorem files_add (t : BufferTable) (b : Buffer) :
    (t.add b).files = t.files ++ [b.path.map Path.components] := by simp [files, add]

/-- The place of a path is the first one with its file. -/
theorem placeOf?_eq (t : BufferTable) (p : Path) :
    t.placeOf? p = t.files.findIdx? (· == some (Path.components p)) := by
  unfold placeOf? files
  rw [List.findIdx?_map]
  congr 1
  funext s
  cases hs : s.buffer.path with
  | none => simp [hs]
  | some q => simp [hs, Path.same]

end BufferTable

section Quiet

variable {σ : Type} {h : Host σ} {clean : Prop} {settled : Nat → Prop}

/-- `e'` is what quiet steps have made of `e`. -/
structure Editor.Quiet (e e' : Editor σ) : Prop where
  /-- The host was not asked for anything. -/
  world : e'.world = e.world
  /-- The buffers stand for the same files. -/
  files : e'.buffers.files = e.buffers.files
  /-- Cursors and marks go on fitting. -/
  fits : e.buffers.Fits → e'.buffers.Fits

/-- `e'` is what edits of the current buffer, moves between the buffers and changes of the settings
have made of `e`. Whether they are `clean` of line breaks depends on what is typed. -/
structure Editor.Edited (clean : Prop) (e e' : Editor σ) : Prop where
  /-- The host was not asked for anything. -/
  world : e'.world = e.world
  /-- The buffers have the same paths. -/
  paths : e'.buffers.paths = e.buffers.paths
  /-- The buffers evolve, and none is settled. -/
  buffers : e.buffers.Evolves (fun _ => False) e'.buffers
  /-- No line breaks come in. -/
  unbroken : clean → e.Unbroken → e'.Unbroken

namespace Editor

variable {e e' : Editor σ} {b : Buffer}

instance : Std.Refl (@Quiet σ) := ⟨fun _ => ⟨rfl, rfl, id⟩⟩

instance : IsTrans (Editor σ) Quiet :=
  ⟨fun _ _ _ h k => ⟨k.world.trans h.world, k.files.trans h.files, k.fits ∘ h.fits⟩⟩

instance : Std.Refl (@Edited σ clean) := ⟨fun e => ⟨rfl, rfl, .refl _ e.buffers, fun _ => id⟩⟩

instance : IsTrans (Editor σ) (Edited clean) :=
  ⟨fun _ _ _ h k => ⟨k.world.trans h.world, k.paths.trans h.paths, h.buffers.trans k.buffers,
    fun hc hu => k.unbroken hc (h.unbroken hc hu)⟩⟩

theorem Edited.quiet (hed : e.Edited False e') : e.Quiet e' :=
  ⟨hed.world, BufferTable.files_congr hed.paths, hed.buffers.fits⟩

/-- Whatever host is asked otherwise and whatever may be settled. -/
theorem Edited.evolves (hed : e.Edited clean e') : e.Evolves h clean settled e' where
  buffers := hed.buffers.mono fun _ => False.elim
  unbroken := hed.unbroken
  world _ _ hw := hed.world.symm ▸ hw

/-- An edit of the current buffer alone. -/
theorem setBuffer_edited (hb : e.buffer.Evolves b) (hu : clean → e.buffer.Unbroken → b.Unbroken) :
    e.Edited clean (e.setBuffer b) where
  world := rfl
  paths := BufferTable.map_setCurrent hb.path
  buffers := BufferTable.setCurrent_evolves hb.fits fun hm => .inl (hb.unchanged hm)
  unbroken hc he := he.setBuffer (hu hc he.buffers.buffer)

/-- An edit of the current buffer and the registers. -/
theorem desk_edited {d : Desk} (hd : (⟨e.buffer, e.registers⟩ : Desk).Evolves d) :
    e.Edited clean { e.setBuffer d.buffer with registers := d.registers } where
  world := rfl
  paths := BufferTable.map_setCurrent hd.buffer.path
  buffers := BufferTable.setCurrent_evolves hd.buffer.fits fun hm => .inl (hd.buffer.unchanged hm)
  unbroken _ hu :=
    ⟨hu.buffers.setCurrent (hd.unbroken hu.desk).buffer, (hd.unbroken hu.desk).registers⟩

end Editor

namespace EditorM

open Editor

variable {α : Type} {e : Editor σ}

theorem modifyBuffer_edited {f : Buffer → Buffer} (hb : e.buffer.Evolves (f e.buffer))
    (hu : clean → e.buffer.Unbroken → (f e.buffer).Unbroken) :
    Leads (Edited clean) (modifyBuffer f) e := setBuffer_edited hb hu

theorem goTo_edited (n : Nat) (e : Editor σ) :
    Leads (Edited clean) (modifyBuffer (·.goTo n)) e :=
  modifyBuffer_edited (Buffer.goTo_evolves _ n) fun _ hu => hu.goTo n

theorem select_edited (name : Char) (e : Editor σ) :
    Leads (Edited clean) (modifyBuffer (·.select name)) e :=
  modifyBuffer_edited (Buffer.selected_evolves _ _) fun _ hu => hu.congr rfl rfl

theorem onCurrent_edited {edit : Edit α} (hd : Leads Desk.Evolves edit ⟨e.buffer, e.registers⟩) :
    Leads (Edited clean) (onCurrent edit) e := by
  unfold Leads
  rw [run_onCurrent]
  exact desk_edited hd

/-- Going to another buffer. -/
theorem modifyTable_edited {f : BufferTable → BufferTable}
    (hslots : (f e.buffers).slots = e.buffers.slots)
    (hb : e.buffers.Evolves (fun _ => False) (f e.buffers)) :
    Leads (Edited clean) (modifyTable f) e := by
  have hpaths : (f e.buffers).paths = e.buffers.paths := by
    unfold BufferTable.paths
    rw [hslots]
  have hunbroken : e.buffers.Unbroken → (f e.buffers).Unbroken := by
    unfold BufferTable.Unbroken
    rw [hslots]
    exact id
  exact ⟨rfl, hpaths, hb, fun _ hu => ⟨hunbroken hu.buffers, hu.registers⟩⟩

end EditorM

end Quiet
end ModalEditor
