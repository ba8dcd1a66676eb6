import ModalEditor.Proofs.Running

/-!
# Bounded computation

The editor counts in natural numbers and looks things up with a value for what is not there. A
machine does neither: its numbers are words, and a place that does not exist cannot be read. A
bounded computation stops (`Stop`) where an item or a piece of a list is out of bounds, where a text
is cut inside a character, a difference would be negative, a sum is no word, a divisor is zero or a
span runs backwards. These stops are faults. The stop that is none is `memory`: nothing with
`memoryLimit` parts or more can be held.

`Gives x a Q` says that the bounded computation `x` gives `a`, and that `Q` holds then, unless the
memory does not hold what it works on; so there is no fault. `Mirrors` says the same of a step on a
state, next to the step of the editor that it stands for. Both compose along `bind`.
-/

namespace ModalEditor

/-- Words have 64 bits: they are the numbers below this one. -/
def wordLimit : Nat := 0x10000000000000000

/-- Everything that is held in memory has fewer parts than this, half as many as there are words. -/
def memoryLimit : Nat := 0x8000000000000000

theorem memoryLimit_pos : 0 < memoryLimit := by decide

theorem wordLimit_eq : wordLimit = 2 * memoryLimit := by decide

theorem add_lt_wordLimit {m n : Nat} (hm : m < memoryLimit) (hn : n < memoryLimit) :
    m + n < wordLimit := by
  rw [wordLimit_eq]
  omega

theorem succ_lt_wordLimit {n : Nat} (h : n < memoryLimit) : n + 1 < wordLimit :=
  add_lt_wordLimit h (by decide)

/-- Why a bounded computation stops. -/
inductive Stop where
  /-- An item or a piece is not there. -/
  | outOfBounds
  /-- A text is cut inside a character. -/
  | insideCharacter
  /-- A difference is below zero. -/
  | belowZero
  /-- A sum is no word. -/
  | pastWord
  /-- A divisor is zero. -/
  | zeroDivisor
  /-- A span ends before it starts. -/
  | backwards
  /-- The memory does not hold so many parts. -/
  | memory (size : Nat)
deriving Repr, DecidableEq

/-- A bounded computation. -/
abbrev Checked := Except Stop

namespace Bounded

variable {α β : Type}

/-! ## What a bounded computation can do -/

/-- The sum of two words. -/
def add (m n : Nat) : Checked Nat := if m + n < wordLimit then .ok (m + n) else .error .pastWord

/-- The difference of two words. -/
def sub (m n : Nat) : Checked Nat := if n ≤ m then .ok (m - n) else .error .belowZero

/-- What is left of a word after division by another one. -/
def rem (m n : Nat) : Checked Nat := if 0 < n then .ok (m % n) else .error .zeroDivisor

/-- The item in a place of a list. -/
def item (l : List α) (i : Nat) : Checked α :=
  match l[i]? with
  | some a => .ok a
  | none => .error .outOfBounds

/-- A list with another item in a place. -/
def setItem (l : List α) (i : Nat) (a : α) : Checked (List α) :=
  if i < l.length then .ok (l.set i a) else .error .outOfBounds

/-- The piece of a list from place `i` up to place `j`. -/
def piece (l : List α) (i j : Nat) : Checked (List α) :=
  if i ≤ j ∧ j ≤ l.length then .ok ((l.take j).drop i) else .error .outOfBounds

/-- A list with other items in the place of those from `i` up to `j`. -/
def splice (l : List α) (i j : Nat) (new : List α) : Checked (List α) :=
  if i ≤ j ∧ j ≤ l.length then .ok (l.take i ++ new ++ l.drop j) else .error .outOfBounds

/-- The lines from one to another. -/
def span (first last : Nat) : Checked LineSpan :=
  if first ≤ last then .ok ⟨first, last⟩ else .error .backwards

/-- Number of lines of a span. -/
def spanSize (s : LineSpan) : Checked Nat := do add (← sub s.last s.first) 1

/-- Something with `size` parts is held in memory. -/
def held (size : Nat) : Checked Unit :=
  if size < memoryLimit then .ok () else .error (.memory size)

/-- The byte at which a column of a text starts; the end for columns past it. -/
def byteOf (t : Text) (col : Nat) : Nat := Text.byteSize (t.take col)

/-- The parts of a text in front of byte `n` and from there on. -/
def cut : Text → Nat → Checked (Text × Text)
  | t, 0 => .ok ([], t)
  | [], _ + 1 => .error .outOfBounds
  | c :: t, n + 1 =>
    if c.utf8Size ≤ n + 1 then (cut t (n + 1 - c.utf8Size)).map fun (a, b) => (c :: a, b)
    else .error .insideCharacter

/-- The text without the character that starts at byte `n`. -/
def removeAt (t : Text) (n : Nat) : Checked Text := do
  let (before, rest) ← cut t n
  match rest with
  | [] => throw .outOfBounds
  | _ :: after => return before ++ after

/-! ## When it does not stop -/

theorem ok_bind (a : α) (f : α → Checked β) : ((Except.ok a : Checked α) >>= f) = f a := rfl

theorem add_eq {m n : Nat} (h : m + n < wordLimit) : add m n = .ok (m + n) := if_pos h

theorem add_one_of_lt {n : Nat} (h : n < memoryLimit) : add n 1 = .ok (n + 1) :=
  add_eq (succ_lt_wordLimit h)

theorem sub_eq {m n : Nat} (h : n ≤ m) : sub m n = .ok (m - n) := if_pos h

theorem rem_eq {m n : Nat} (h : 0 < n) : rem m n = .ok (m % n) := if_pos h

theorem item_eq {l : List α} {i : Nat} (h : i < l.length) : item l i = .ok l[i] := by
  simp [item, h]

theorem item_of_getElem? {l : List α} {i : Nat} {a : α} (h : l[i]? = some a) :
    item l i = .ok a := by
  simp [item, h]

theorem setItem_eq {l : List α} {i : Nat} (h : i < l.length) (a : α) :
    setItem l i a = .ok (l.set i a) := if_pos h

theorem piece_eq {l : List α} {i j : Nat} (h : i ≤ j) (hj : j ≤ l.length) :
    piece l i j = .ok ((l.take j).drop i) := if_pos ⟨h, hj⟩

theorem splice_eq {l : List α} {i j : Nat} (h : i ≤ j) (hj : j ≤ l.length) (new : List α) :
    splice l i j new = .ok (l.take i ++ new ++ l.drop j) := if_pos ⟨h, hj⟩

theorem span_eq {first last : Nat} (h : first ≤ last) : span first last = .ok ⟨first, last⟩ :=
  if_pos h

theorem spanSize_eq {s : LineSpan} (hs : s.first ≤ s.last) (hl : s.last + 1 < wordLimit) :
    spanSize s = .ok s.size := by
  unfold spanSize
  rw [sub_eq hs, ok_bind, add_eq (by omega)]
  rfl

/-- A step on every item of a list. -/
theorem mapM_eq {f : α → Checked β} {g : α → β} {l : List α} (h : ∀ a ∈ l, f a = .ok (g a)) :
    l.mapM f = .ok (l.map g) := by
  induction l with
  | nil => rfl
  | cons a l ih =>
    rw [List.mapM_cons, h a List.mem_cons_self, ok_bind,
      ih fun b hb => h b (List.mem_cons_of_mem a hb)]
    rfl

/-! ## Texts -/

theorem byteSize_cons (c : Char) (t : Text) :
    Text.byteSize (c :: t) = c.utf8Size + Text.byteSize t := by
  have hfold : ∀ (t : Text) (n : Nat),
      t.foldl (fun n c => n + c.utf8Size) n = n + Text.byteSize t := by
    intro t
    induction t with
    | nil => exact fun n => rfl
    | cons d t ih =>
      intro n
      simp only [Text.byteSize, List.foldl_cons]
      rw [ih, ih (0 + d.utf8Size)]
      omega
  simp only [Text.byteSize, List.foldl_cons]
  rw [hfold, Nat.zero_add]
  rfl

theorem byteSize_append (a b : Text) :
    Text.byteSize (a ++ b) = Text.byteSize a + Text.byteSize b := by
  induction a with
  | nil => exact (Nat.zero_add _).symm
  | cons c a ih => rw [List.cons_append, byteSize_cons, byteSize_cons, ih, Nat.add_assoc]

/-- A text is cut between two characters. -/
theorem cut_append (a b : Text) : cut (a ++ b) (Text.byteSize a) = .ok (a, b) := by
  induction a with
  | nil => cases b <;> rfl
  | cons c a ih =>
    have hpos := c.utf8Size_pos
    rw [byteSize_cons, List.cons_append]
    obtain ⟨n, hn⟩ : ∃ n, c.utf8Size + Text.byteSize a = n + 1 :=
      ⟨_, (Nat.sub_add_cancel (by omega)).symm⟩
    rw [hn, cut, if_pos (by omega), ← hn, Nat.add_sub_cancel_left, ih]
    rfl

theorem cut_byteOf (t : Text) (col : Nat) :
    cut t (byteOf t col) = .ok (t.take col, t.drop col) := by
  have h := cut_append (t.take col) (t.drop col)
  rwa [List.take_append_drop] at h

-- A byte that no column has is a fault.
example : cut "é".toList 1 = .error .insideCharacter := rfl

theorem removeAt_eq {t : Text} {n : Nat} (hn : n < t.length) :
    removeAt t (byteOf t n) = .ok (t.eraseIdx n) := by
  unfold removeAt
  rw [cut_byteOf, ok_bind, List.drop_eq_getElem_cons hn, List.eraseIdx_eq_take_drop_succ]
  rfl

/-! ## Giving a result -/

/-- `x` gives `a`, and `Q` holds then, unless it stops because the memory is too small. -/
def Gives (x : Checked α) (a : α) (Q : Prop) : Prop :=
  (x = .ok a ∧ Q) ∨ ∃ size, memoryLimit ≤ size ∧ x = .error (.memory size)

section Gives

variable {x : Checked α} {a : α} {b : β} {f : α → Checked β} {Q R : Prop}

theorem Gives.of_eq (h : x = .ok a) : Gives x a True := .inl ⟨h, trivial⟩

theorem Gives.bind (hx : Gives x a Q) (hf : Q → Gives (f a) b R) : Gives (x >>= f) b R := by
  rcases hx with ⟨rfl, hq⟩ | ⟨size, hsize, rfl⟩
  · exact hf hq
  · exact .inr ⟨size, hsize, rfl⟩

/-- What is held in memory is small. -/
theorem gives_held (size : Nat) : Gives (held size) () (size < memoryLimit) := by
  unfold held
  split
  · exact .inl ⟨rfl, by assumption⟩
  · exact .inr ⟨size, by omega, rfl⟩

theorem Gives.held_bind {size : Nat} {f : Unit → Checked β}
    (hf : size < memoryLimit → Gives (f ()) b R) : Gives (held size >>= f) b R :=
  (gives_held size).bind hf

end Gives

/-! ## Computations that may fail -/

/-- A bounded computation that may fail. -/
abbrev Tried := ExceptT EditorError Checked

section Tried

/-- A value or a failure that is known. -/
def known (y : Except EditorError α) : Tried α := ExceptT.mk (pure y)

/-- If `y` is a value, `Q` holds of it. -/
def Yields (y : Except EditorError α) (Q : α → Prop) : Prop := ∀ a, y = .ok a → Q a

/-- `x` gives the value or the failure `y`, and `Q` holds of the value, unless it stops because the
memory is too small. -/
def Tries (x : Tried α) (y : Except EditorError α) (Q : α → Prop) : Prop :=
  Gives x.run y (Yields y Q)

variable {x : Tried α} {y : Except EditorError α} {a : α} {Q : α → Prop} {R : β → Prop}

theorem Yields.ok (h : Q a) : Yields (.ok a) Q := by
  rintro _ ⟨⟩
  exact h

theorem Yields.error (e : EditorError) : Yields (.error e) Q := by
  intro a h
  cases h

theorem Yields.bind {g : α → Except EditorError β} (hg : ∀ a, Yields (g a) R) :
    Yields (y >>= g) R := by
  cases y with
  | error e => exact .error e
  | ok a => exact hg a

theorem Yields.ite {c : Prop} [Decidable c] {y' : Except EditorError α} (h : Yields y Q)
    (h' : Yields y' Q) : Yields (if c then y else y') Q := by
  split
  · exact h
  · exact h'

theorem run_tried_bind (x : Tried α) (f : α → Tried β) :
    (x >>= f).run = x.run >>= fun r =>
      match r with
      | .ok a => (f a).run
      | .error e => .ok (.error e) := by
  change (x.run >>= fun r => ExceptT.bindCont f r : Checked (Except EditorError β)) = _
  congr 1
  funext r
  cases r <;> rfl

theorem Tries.bind {f : α → Tried β} {g : α → Except EditorError β} (hx : Tries x y Q)
    (hf : ∀ a, Q a → Tries (f a) (g a) R) : Tries (x >>= f) (y >>= g) R := by
  unfold Tries at hx hf ⊢
  rw [run_tried_bind]
  refine Gives.bind hx fun hq => ?_
  cases y with
  | ok a => exact hf a (hq a rfl)
  | error e => exact .inl ⟨rfl, .error e⟩

/-- What is computed on the way does not show in the result. -/
theorem Tries.compute_bind {c : Checked β} {b : β} {P : Prop} {f : β → Tried α}
    (hc : Gives c b P) (hf : P → Tries (f b) y Q) : Tries (liftM c >>= f) y Q := by
  rcases hc with ⟨rfl, hp⟩ | ⟨size, hsize, rfl⟩
  · exact hf hp
  · exact .inr ⟨size, hsize, rfl⟩

/-- What is computed last is the result. -/
theorem Tries.compute {c : Checked α} {P : Prop} (hc : Gives c a P) (hq : P → Q a) :
    Tries (liftM c) (.ok a) Q := by
  rcases hc with ⟨rfl, hp⟩ | ⟨size, hsize, rfl⟩
  · exact .inl ⟨rfl, .ok (hq hp)⟩
  · exact .inr ⟨size, hsize, rfl⟩

theorem tries_known (h : Yields y Q) : Tries (known y) y Q := .inl ⟨rfl, h⟩

theorem tries_any : Tries (known y) y fun _ => True := tries_known fun _ _ => trivial

theorem Tries.pure (h : Q a) : Tries (Pure.pure a) (Pure.pure a) Q := .inl ⟨rfl, .ok h⟩

theorem Tries.throw (e : EditorError) :
    Tries (MonadExcept.throw e : Tried α) (MonadExcept.throw e) Q := .inl ⟨rfl, .error e⟩

theorem Tries.ite {c : Prop} [Decidable c] {x' : Tried α} {y' : Except EditorError α}
    (h : c → Tries x y Q) (h' : ¬c → Tries x' y' Q) :
    Tries (if c then x else x') (if c then y else y') Q := by
  by_cases hc : c
  · rw [if_pos hc, if_pos hc]
    exact h hc
  · rw [if_neg hc, if_neg hc]
    exact h' hc

end Tried

/-! ## Steps -/

/-- A bounded step on a state of type `S` that may fail. -/
abbrev Guarded (S : Type) := ExceptT EditorError (StateT S Checked)

section Steps

variable {S : Type}

/-- A step with nothing to stop at. -/
def total (y : Fallible S α) : Guarded S α := ExceptT.mk fun s => pure (y.run.run s)

/-- A step that does nothing to the state. -/
def raise (x : Tried α) : Guarded S α := ExceptT.mk fun s => do return (← x.run, s)

/-- The step `x` goes from the state `s` as `y` does, unless it stops because the memory is too
small. It leaves a state with the property `I`, and if it does not fail, `R` holds of what it gives
and leaves. -/
def Mirrors (I : S → Prop) (x : Guarded S α) (y : Fallible S α) (s : S) (R : α → S → Prop) : Prop :=
  Gives (x.run.run s) (y.run.run s) (I (y.run.run s).2 ∧ ∀ a t, y.run.run s = (.ok a, t) → R a t)

variable {I : S → Prop} {x : Guarded S α} {y : Fallible S α} {s : S} {a : α} {Q R : α → S → Prop}

/-- A failure skips what follows. -/
theorem run_guarded_bind (x : Guarded S α) (f : α → Guarded S β) (s : S) :
    (x >>= f).run.run s = x.run.run s >>= fun r =>
      match r with
      | (.ok a, t) => (f a).run.run t
      | (.error e, t) => .ok (.error e, t) := by
  change (x s >>= fun r => ExceptT.bindCont f r.1 r.2) = _
  congr 1
  funext ⟨r, t⟩
  cases r <;> rfl

theorem run_compute (x : Checked α) (s : S) :
    (liftM x : Guarded S α).run.run s = x >>= fun a => .ok (.ok a, s) := by
  cases x <;> rfl

theorem Mirrors.bind {f : α → Guarded S β} {g : α → Fallible S β} {R : β → S → Prop}
    (hx : Mirrors I x y s Q)
    (hf : ∀ a t, y.run.run s = (.ok a, t) → I t → Q a t → Mirrors I (f a) (g a) t R) :
    Mirrors I (x >>= f) (y >>= g) s R := by
  unfold Mirrors at hx hf ⊢
  rw [run_guarded_bind, run_bind]
  refine hx.bind fun ⟨hi, hq⟩ => ?_
  rcases hr : y.run.run s with ⟨e | a, t⟩ <;> rw [hr] at hi
  · exact .inl ⟨rfl, hi, fun b u h => by cases h⟩
  · exact hf a t hr hi (hq a t hr)

/-- What is computed on the way does not show in the step of the editor. -/
theorem Mirrors.compute_bind {c : Checked β} {b : β} {P : Prop} {f : β → Guarded S α}
    (hc : Gives c b P) (hf : P → Mirrors I (f b) y s R) :
    Mirrors I (liftM c >>= f) y s R := by
  unfold Mirrors at hf ⊢
  rw [run_guarded_bind, run_compute]
  rcases hc with ⟨rfl, hp⟩ | ⟨size, hsize, rfl⟩
  · exact hf hp
  · exact .inr ⟨size, hsize, rfl⟩

/-- A value or a failure that is computed on the way is the one that the step of the editor gets
without a change of state. -/
theorem Mirrors.raise_bind {c : Tried β} {b : Except EditorError β} {z : Fallible S β}
    {P : β → Prop} {f : β → Guarded S α} {g : β → Fallible S α} (hc : Tries c b P)
    (hz : z.run.run s = (b, s)) (hi : I s) (hf : ∀ b, P b → Mirrors I (f b) (g b) s R) :
    Mirrors I (raise c >>= f) (z >>= g) s R := by
  have hraise : Mirrors I (raise c) z s fun b _ => P b := by
    unfold Mirrors
    rw [hz]
    refine Gives.bind hc fun hp => .inl ⟨rfl, hi, fun a t h => ?_⟩
    cases h
    exact hp a rfl
  refine hraise.bind fun b t ht _ hp => ?_
  rw [hz] at ht
  cases ht
  exact hf b hp

theorem Mirrors.of_run (h : x.run.run s = .ok (y.run.run s)) (hi : I (y.run.run s).2)
    (hr : ∀ a t, y.run.run s = (.ok a, t) → R a t) : Mirrors I x y s R := .inl ⟨h, hi, hr⟩

theorem mirrors_total (hi : I (y.run.run s).2) : Mirrors I (total y) y s fun _ _ => True :=
  .of_run rfl hi fun _ _ _ => trivial

/-- A step with nothing to stop at that leaves the state alone. -/
theorem Mirrors.still_bind {z : Fallible S β} {f : β → Guarded S α} {g : β → Fallible S α}
    (hz : (z.run.run s).2 = s) (hi : I s) (hf : ∀ b, Mirrors I (f b) (g b) s R) :
    Mirrors I (total z >>= f) (z >>= g) s R := by
  refine (mirrors_total (hz.symm ▸ hi)).bind fun b t ht _ _ => ?_
  rw [ht] at hz
  subst hz
  exact hf b

theorem Mirrors.pure (hi : I s) (hr : R a s) :
    Mirrors I (Pure.pure a) (Pure.pure a) s R :=
  .of_run rfl hi fun _ _ h => by cases h; exact hr

theorem Mirrors.throw (e : EditorError) (hi : I s) :
    Mirrors I (MonadExcept.throw e) (MonadExcept.throw e) s R :=
  .of_run rfl hi fun _ _ h => by cases h

/-- What is computed last is what the step gives. -/
theorem Mirrors.compute {c : Checked α} {P : Prop} (hc : Gives c a P) (hi : I s)
    (hr : P → R a s) : Mirrors I (liftM c) (Pure.pure a) s R := by
  unfold Mirrors
  rw [run_compute]
  rcases hc with ⟨rfl, hp⟩ | ⟨size, hsize, rfl⟩
  · exact .inl ⟨rfl, hi, fun _ _ h => by cases h; exact hr hp⟩
  · exact .inr ⟨size, hsize, rfl⟩

theorem Mirrors.ite {c : Prop} [Decidable c] {x' : Guarded S α} {y' : Fallible S α}
    (h : c → Mirrors I x y s R) (h' : ¬c → Mirrors I x' y' s R) :
    Mirrors I (if c then x else x') (if c then y else y') s R := by
  by_cases hc : c
  · rw [if_pos hc, if_pos hc]
    exact h hc
  · rw [if_neg hc, if_neg hc]
    exact h' hc

/-- A look at the state does not show in the step of the editor. -/
theorem Mirrors.state_bind {f : S → Guarded S α} (h : Mirrors I (f s) y s R) :
    Mirrors I (get >>= f) y s R := h

theorem Mirrors.get_bind {f : S → Guarded S α} {g : S → Fallible S α}
    (h : Mirrors I (f s) (g s) s R) : Mirrors I (get >>= f) (get >>= g) s R := h

end Steps
end Bounded
end ModalEditor
