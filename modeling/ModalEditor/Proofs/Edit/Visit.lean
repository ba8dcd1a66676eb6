import Mathlib.Data.List.Chain
import Mathlib.Data.List.Nodup
import ModalEditor.Proofs.Edit.Evolution

/-!
# Which lines a visit comes to

A visit goes to lines by the numbers that they had when they were picked. An edit that takes out
lines above those still to come moves them, and then the visit comes to other lines, or to one line
twice. The lines that it comes to are known from the lines that were taken out before: each time
the edit starts, the numbers of the lines that are left are those that no edit has cut off
(`origins`). They are the numbers that were picked exactly if no edit takes out lines at or above
one that is still to come (`origins_eq_iff`).
-/

namespace ModalEditor

/-- What is left of a list when what is in a span is cut out. -/
def LineSpan.cut {α : Type} (s : LineSpan) (xs : List α) : List α :=
  xs.take s.first ++ xs.drop (s.last + 1)

/-- The lines of a span were taken out of `b`. -/
structure Buffer.TakesOut (s : LineSpan) (b b' : Buffer) : Prop where
  /-- The span does not run backwards. -/
  ordered : s.first ≤ s.last
  /-- Its lines were lines of the buffer. -/
  within : s.last < b.lines.length
  /-- They are gone. -/
  lines : b'.lines = (b.removeLines s).lines
  /-- So are their marks. -/
  marks : b'.marks = (b.removeLines s).marks

/-- Of the lines of `b`, those with the numbers `ks` are left in `b'`. -/
structure Buffer.LeavesOnly (ks : List Nat) (b b' : Buffer) : Prop where
  /-- There are no others, unless none is left at all. -/
  lines : b'.lines = orBlank (ks.map b.line)
  /-- They are in their old order. -/
  ordered : ks.Pairwise (· < ·)

namespace LineSpan

variable {s : LineSpan}

theorem cut_sublist {α : Type} (hs : s.first ≤ s.last) (xs : List α) : (s.cut xs).Sublist xs := by
  have hdrop : (xs.drop (s.last + 1)).Sublist (xs.drop s.first) :=
    List.drop_sublist_drop_left xs (Nat.le_succ_of_le hs)
  have hsub := (List.Sublist.refl (xs.take s.first)).append hdrop
  rwa [List.take_append_drop] at hsub

theorem map_cut {α β : Type} (f : α → β) (xs : List α) : (s.cut xs).map f = s.cut (xs.map f) := by
  rw [cut, cut, List.map_append, List.map_take, List.map_drop]

/-- Numbers in ascending order are at least as large as their places. -/
theorem le_of_getElem?_ascending {ks : List Nat} (hks : ks.Pairwise (· < ·)) {j k : Nat}
    (h : ks[j]? = some k) : j ≤ k := by
  obtain ⟨hj, rfl⟩ := List.getElem?_eq_some_iff.mp h
  clear h
  induction j with
  | zero => exact Nat.zero_le _
  | succ j ih =>
    have hlt := List.pairwise_iff_getElem.mp hks j (j + 1) (Nat.lt_of_succ_lt hj) hj (Nat.lt_succ_self j)
    exact Nat.succ_le_of_lt (Nat.lt_of_le_of_lt (ih (Nat.lt_of_succ_lt hj)) hlt)

/-- A number that is at its own place stays there exactly if it is above the span. -/
theorem getElem?_cut_eq_self {ks : List Nat} (hks : ks.Pairwise (· < ·)) (hs : s.first ≤ s.last)
    (m : Nat) : (s.cut ks)[m]? = some m ↔ ks[m]? = some m ∧ m < s.first := by
  unfold cut
  rcases Nat.lt_or_ge m s.first with hlt | hge
  · rcases Nat.lt_or_ge m ks.length with hm | hm
    · have hlen : m < (ks.take s.first).length := by
        rw [List.length_take]
        exact Nat.lt_min.mpr ⟨hlt, hm⟩
      rw [List.getElem?_append_left hlen, List.getElem?_take_of_lt hlt, and_iff_left hlt]
    · have hdrop : ks.drop (s.last + 1) = [] := List.drop_eq_nil_of_le (by omega)
      rw [List.take_of_length_le (by omega), hdrop, List.append_nil, and_iff_left hlt]
  · refine iff_of_false (fun h => ?_) fun h => Nat.not_lt_of_ge hge h.2
    -- Behind the span everything is too large for the place that it has moved up to.
    rw [List.getElem?_append_right (by rw [List.length_take]; omega), List.getElem?_drop] at h
    have hle := le_of_getElem?_ascending hks h
    rw [List.length_take] at hle
    rcases Nat.le_total s.first ks.length with hfirst | hfirst
    · rw [Nat.min_eq_left hfirst] at hle
      omega
    · rw [List.getElem?_eq_none (by rw [List.length_take]; omega)] at h
      cases h

end LineSpan

namespace Buffer

variable {b t u : Buffer} {ks : List Nat} {s : LineSpan}

theorem leavesOnly_range (hb : b.lines ≠ []) : b.LeavesOnly (List.range b.lineCount) b where
  lines := by
    have hlines : (List.range b.lineCount).map b.line = b.lines := by
      refine List.ext_getElem (by rw [List.length_map, List.length_range]; rfl) fun n _ hn => ?_
      rw [List.getElem_map, List.getElem_range, line, List.getD_eq_getElem?_getD,
        List.getElem?_eq_getElem hn, Option.getD_some]
    rw [hlines, orBlank, if_neg (by rwa [List.isEmpty_iff])]
  ordered := List.pairwise_lt_range

/-- When lines are taken out, their numbers are cut out of those that are left. -/
theorem LeavesOnly.takesOut (h : b.LeavesOnly ks t) (hs : TakesOut s t u) :
    b.LeavesOnly (s.cut ks) u := by
  refine ⟨?_, h.ordered.sublist (LineSpan.cut_sublist hs.ordered ks)⟩
  have hcut : u.lines = orBlank (s.cut t.lines) := hs.lines
  rw [hcut, h.lines, LineSpan.map_cut]
  cases ks with
  | cons k ks => rfl
  | nil =>
    -- There is only the blank line of a buffer without lines, and another one takes its place.
    have hwithin := hs.within
    rw [h.lines] at hwithin
    have hlast : s.last = 0 := Nat.lt_one_iff.mp hwithin
    have hfirst : s.first = 0 := Nat.le_zero.mp (hlast ▸ hs.ordered)
    unfold LineSpan.cut
    rw [hfirst, hlast]
    rfl

/-- A line that is left has its old text. -/
theorem LeavesOnly.line (h : b.LeavesOnly ks t) (n : Nat) :
    t.line n = (ks[n]?.map b.line).getD [] := by
  unfold Buffer.line
  rw [h.lines, List.getD_eq_getElem?_getD]
  cases ks with
  | cons k ks => rw [← List.getElem?_map]; rfl
  | nil => cases n <;> rfl

end Buffer

namespace Edit

/-- The desks on which the edit of a visit starts. -/
def starts (each : Edit Unit) : List Nat → Desk → List Desk
  | [], _ => []
  | n :: rest, d =>
    if d.buffer.lineCount ≤ n then starts each rest d
    else
      let t : Desk := { d with buffer := d.buffer.goTo n }
      t :: match each.run.run t with
        | (.ok (), u) => starts each rest u
        | (.error _, _) => []

/-- The numbers that the lines under the cursor had at first, of desks from one to the next of which
the lines of a span are taken out. A line that was not there has none. -/
def origins (span : Buffer → LineSpan) : List Nat → List Desk → List (Option Nat)
  | _, [] => []
  | ks, t :: ts => ks[t.buffer.current]? :: origins span ((span t.buffer).cut ks) ts

/-- A visit comes only to lines that were picked, and to none of them twice. -/
structure EachOnce (picked : List Nat) (origins : List (Option Nat)) : Prop where
  /-- Every line is one of those that were picked. -/
  picked : ∀ k ∈ origins, ∃ n ∈ picked, k = some n
  /-- They are different lines. -/
  once : origins.Nodup

section Starts

variable {each : Edit Unit} {ns : List Nat} {d : Desk}

theorem current_goTo {n : Nat} (hn : ¬ d.buffer.lineCount ≤ n) : (d.buffer.goTo n).current = n :=
  Nat.min_eq_left (Nat.le_sub_one_of_lt (Nat.lt_of_not_le hn))

/-- The lines of a visit are those under the cursor when the edit starts. -/
theorem lines_visit (each : Edit Unit) (ns : List Nat) (d : Desk) :
    ((visit each ns).run d).1.lines = (starts each ns d).map (·.buffer.current) := by
  induction ns generalizing d with
  | nil => rfl
  | cons n ns ih =>
    rw [run_visit_cons, starts]
    by_cases hpast : d.buffer.lineCount ≤ n
    · rw [if_pos hpast, if_pos hpast]
      exact ih d
    · rw [if_neg hpast, if_neg hpast]
      dsimp only
      rw [List.map_cons, current_goTo hpast]
      rcases each.run.run { d with buffer := d.buffer.goTo n } with ⟨e | ⟨⟩, t⟩
      · rfl
      · exact congrArg (n :: ·) (ih t)

/-- They are some of those that were to be visited, in the same order. -/
theorem starts_sublist (each : Edit Unit) (ns : List Nat) (d : Desk) :
    ((starts each ns d).map (·.buffer.current)).Sublist ns := by
  induction ns generalizing d with
  | nil => exact List.Sublist.slnil
  | cons n ns ih =>
    rw [starts]
    by_cases hpast : d.buffer.lineCount ≤ n
    · rw [if_pos hpast]
      exact (ih d).cons n
    · rw [if_neg hpast, List.map_cons, current_goTo hpast]
      rcases each.run.run { d with buffer := d.buffer.goTo n } with ⟨e | ⟨⟩, t⟩
      · exact (List.nil_sublist ns).cons_cons n
      · exact (ih t).cons_cons n

/-- Up to the first start only the cursor has moved. -/
theorem starts_head {t : Desk} (ht : t ∈ (starts each ns d).head?) :
    t.buffer.lines = d.buffer.lines ∧ t.buffer.marks = d.buffer.marks := by
  induction ns with
  | nil => cases ht
  | cons n ns ih =>
    rw [starts] at ht
    split at ht
    · exact ih ht
    · cases ht
      exact ⟨rfl, rfl⟩

theorem starts_fits (ns : List Nat) (heach : ∀ d : Desk, d.buffer.Fits → Leads Desk.Evolves each d)
    (hd : d.buffer.Fits) : ∀ t ∈ starts each ns d, t.buffer.Fits := by
  induction ns generalizing d with
  | nil => exact fun t ht => absurd ht List.not_mem_nil
  | cons n ns ih =>
    rw [starts]
    split
    · exact ih hd
    · have hgo : (d.buffer.goTo n).Fits := (d.buffer.goTo_evolves n).fits hd
      have hdone := heach { d with buffer := d.buffer.goTo n } hgo
      unfold Leads at hdone
      intro t ht
      rcases List.mem_cons.mp ht with rfl | ht
      · exact hgo
      · rcases hr : each.run.run { d with buffer := d.buffer.goTo n } with ⟨e | ⟨⟩, u⟩
        · rw [hr] at ht
          exact absurd ht List.not_mem_nil
        · rw [hr] at ht hdone
          exact ih (hdone.buffer.fits hgo) t ht

/-- From one start to the next an edit takes out the lines of a span if it does so whenever it
succeeds. -/
theorem starts_isChain (ns : List Nat) {span : Buffer → LineSpan}
    (heach : ∀ d : Desk, d.buffer.Fits → Leads Desk.Evolves each d)
    (htakes : ∀ {t u : Desk}, t.buffer.Fits → each.run.run t = (.ok (), u) →
      Buffer.TakesOut (span t.buffer) t.buffer u.buffer) (hd : d.buffer.Fits) :
    (starts each ns d).IsChain fun t u => Buffer.TakesOut (span t.buffer) t.buffer u.buffer := by
  induction ns generalizing d with
  | nil => exact List.IsChain.nil
  | cons n ns ih =>
    rw [starts]
    split
    · exact ih hd
    · have hgo : (d.buffer.goTo n).Fits := (d.buffer.goTo_evolves n).fits hd
      have hdone := heach { d with buffer := d.buffer.goTo n } hgo
      unfold Leads at hdone
      dsimp only
      rcases hr : each.run.run { d with buffer := d.buffer.goTo n } with ⟨e | ⟨⟩, u⟩
      · exact List.IsChain.singleton _
      · rw [hr] at hdone
        refine List.isChain_cons.mpr ⟨fun t ht => ?_, ih (hdone.buffer.fits hgo)⟩
        have hout := htakes (t := { d with buffer := d.buffer.goTo n }) hgo hr
        obtain ⟨hlines, hmarks⟩ := starts_head ht
        exact ⟨hout.ordered, hout.within, hlines.trans hout.lines, hmarks.trans hout.marks⟩

end Starts

section Origins

variable {span : Buffer → LineSpan} {ks : List Nat} {ts : List Desk} {b : Buffer}

/-- The text under the cursor is the one of the line that it is. -/
theorem line_origins
    (hts : ts.IsChain fun t u => Buffer.TakesOut (span t.buffer) t.buffer u.buffer)
    (hhead : ∀ t ∈ ts.head?, b.LeavesOnly ks t.buffer) :
    ts.map (fun t => t.buffer.line t.buffer.current) =
      (origins span ks ts).map fun k => (k.map b.line).getD [] := by
  induction ts generalizing ks with
  | nil => rfl
  | cons t ts ih =>
    obtain ⟨hnext, hts⟩ := List.isChain_cons.mp hts
    have hleaves := hhead t rfl
    have hrest := ih hts fun u hu => hleaves.takesOut (hnext u hu)
    rw [List.map_cons, hrest, origins, List.map_cons, hleaves.line]

/-- All lines that are visited have kept their numbers exactly if lines are never taken out at or
above one that is still to come. -/
theorem origins_eq_iff (hks : ks.Pairwise (· < ·))
    (hspan : ∀ t ∈ ts, (span t.buffer).first ≤ (span t.buffer).last) :
    origins span ks ts = ts.map (fun t => some t.buffer.current) ↔
      (∀ t ∈ ts, ks[t.buffer.current]? = some t.buffer.current) ∧
        ts.Pairwise fun t u => u.buffer.current < (span t.buffer).first := by
  induction ts generalizing ks with
  | nil => simp [origins]
  | cons t ts ih =>
    obtain ⟨hs, hspan⟩ := List.forall_mem_cons.mp hspan
    have hcut := hks.sublist (LineSpan.cut_sublist hs ks)
    rw [origins, List.map_cons, List.cons.injEq, ih hcut hspan, List.forall_mem_cons,
      List.pairwise_cons]
    have hrest : (∀ u ∈ ts, ((span t.buffer).cut ks)[u.buffer.current]? = some u.buffer.current) ↔
        (∀ u ∈ ts, ks[u.buffer.current]? = some u.buffer.current) ∧
          ∀ u ∈ ts, u.buffer.current < (span t.buffer).first := by
      rw [← forall₂_and]
      exact forall₂_congr fun u _ => LineSpan.getElem?_cut_eq_self hks hs _
    rw [hrest]
    tauto

/-- Lines that were picked are visited once each if all of them have kept their numbers. -/
theorem eachOnce_of_origins_eq {picked : List Nat} (hpicked : picked.Nodup)
    (hts : (ts.map (·.buffer.current)).Sublist picked.reverse)
    (horigins : origins span ks ts = ts.map fun t => some t.buffer.current) :
    EachOnce picked (origins span ks ts) := by
  have hmap : origins span ks ts = (ts.map (·.buffer.current)).map some := by
    rw [horigins, List.map_map]
    rfl
  rw [hmap]
  refine ⟨fun k hk => ?_, ?_⟩
  · obtain ⟨n, hn, rfl⟩ := List.mem_map.mp hk
    exact ⟨n, List.mem_reverse.mp (hts.subset hn), rfl⟩
  · have hnodup := List.Nodup.sublist hts (List.nodup_reverse.mpr hpicked)
    exact hnodup.map fun _ _ => Option.some.inj

end Origins

end Edit
end ModalEditor
