import ModalEditor.Host.Memory
import ModalEditor.Proofs.Edit.Visit
import ModalEditor.Proofs.Ex.GlobalDelete
import ModalEditor.Proofs.Normal.Deletion

/-!
# Keys that delete lines, on every line that matches

`:g` with `norm` and keys that delete lines visits the lines that were picked by their numbers, from
the bottom up. That order is right as long as no deletion starts at or above a line that is still to
come. Then each line that is visited is one that was picked, and none is visited twice. With `dd`
and `Gdd` this is always so. With `1Gdd`, or with a mark further up, it is not: the lines to come
move up, and the visit goes to those that have taken their places.
-/

namespace ModalEditor

open Destination

namespace Ex

variable {σ : Type}

section Keys

variable {keys : Text} {p : Destination} {count : Option Nat} {t u : Desk} {o : Options}

theorem globalEdit_normal_takesOut (hkeys : DeletesLines keys p count) (ht : t.buffer.Fits)
    (h : (globalEdit (.normal keys) o).run.run t = (.ok (), u)) :
    Buffer.TakesOut (p.span count t.buffer) t.buffer u.buffer := by
  obtain ⟨b, t', hb, h⟩ := run_bind_eq_ok h
  cases hb
  obtain ⟨outcome, t', hrun, h⟩ := run_bind_eq_ok h
  cases h
  exact hkeys.runKeys_takesOut ht hrun

end Keys

/-- Where a visit of lines with keys that delete lines comes by. -/
theorem starts_of_deletes {keys : Text} {p : Destination} {count : Option Nat}
    (hkeys : DeletesLines keys p count) {d : Desk} (hd : d.buffer.Fits) (o : Options)
    {targets : List Nat} (hup : targets.Pairwise (· > ·))
    (htargets : ∀ n ∈ targets, n < d.buffer.lineCount) :
    let starts := Edit.starts (globalEdit (.normal keys) o) targets d
    let origins := Edit.origins (p.span count) (List.range d.buffer.lineCount) starts
    (starts.IsChain fun t u => Buffer.TakesOut (p.span count t.buffer) t.buffer u.buffer) ∧
      starts.map (fun t => t.buffer.line t.buffer.current) =
        origins.map (fun k => (k.map d.buffer.line).getD []) ∧
      (origins = starts.map (fun t => some t.buffer.current) ↔
        starts.Pairwise fun t u => u.buffer.current < (p.span count t.buffer).first) ∧
      (p.StaysBelow d.buffer targets.tail →
        starts.Pairwise fun t u => u.buffer.current < (p.span count t.buffer).first) := by
  intro starts origins
  have heach := globalEdit_evolves (.normal keys) o
  have hchain := Edit.starts_isChain targets heach (globalEdit_normal_takesOut (o := o) hkeys) hd
  have hfits := Edit.starts_fits targets heach hd
  have hsub := Edit.starts_sublist (globalEdit (.normal keys) o) targets d
  have hhead : ∀ t ∈ starts.head?, t.buffer.lines = d.buffer.lines ∧
      t.buffer.marks = d.buffer.marks := fun t ht => Edit.starts_head ht
  refine ⟨hchain, Edit.line_origins hchain fun t ht => ?_, ?_, fun hbelow => ?_⟩
  · have hrange := Buffer.leavesOnly_range hd.nonempty
    exact ⟨(hhead t ht).1.trans hrange.lines, hrange.ordered⟩
  · rw [Edit.origins_eq_iff List.pairwise_lt_range fun t ht => span_ordered (hfits t ht)]
    refine and_iff_right fun t ht => List.getElem?_range ?_
    exact htargets _ (hsub.subset (List.mem_map_of_mem ht))
  · refine StaysBelow.pairwise hchain hfits (hup.sublist hsub) (fun t ht => (hhead t ht).2) ?_
    rw [List.map_tail]
    exact hbelow.mono hsub.tail.subset

/-- `:g` with `norm` visits the lines that are picked, from the bottom up, if there are any. -/
theorem run_global_normal (h : Host σ) {e : Editor σ} {range : Range} {s : LineSpan}
    {pattern typed : Text} {re : Pattern} (keys : Text) (he : e.HasCurrent) (hfits : e.buffer.Fits)
    (hrange : range.resolve e.buffer e.options e.buffer.wholeSpan = .ok s)
    (htyped : Edit.typedIn e.buffer pattern = some typed)
    (hre : Search.compile typed e.options.ignoreCase = .ok re) (inverse : Bool) (col : Nat) :
    let d : Desk := ⟨{ e.buffer with lastSearch := some typed }, e.registers⟩
    let picked := d.buffer.pickedNumbers re.isMatch s inverse
    let visited := (Edit.visit (globalEdit (.normal keys) e.options) picked.reverse).run d
    let after := visited.2.buffer.goTo e.buffer.current
    (run h (.global range pattern inverse (.normal keys)) col).run.run e =
      if picked.isEmpty then (.error (.patternNotFound typed), e.setBuffer d.buffer)
      else
        (match visited.1.failure with
          | some err => .error err
          | none => .ok {
              col := after.home
              message := lineReport (e.buffer.lineCount - after.lineCount) "fewer lines" },
          { e.setBuffer after with registers := visited.2.registers }) := by
  intro d picked visited after
  have hl : s.last < e.buffer.lines.length :=
    Range.resolve_last_lt hfits (Nat.sub_one_lt (Nat.ne_of_gt hfits.lines_pos)) hrange
  have hcommand := run_global h pattern inverse (.normal keys) col he hrange
  have hglobal := Edit.run_global_of_ok (d := ⟨e.buffer, e.registers⟩) inverse
    (globalEdit (.normal keys) e.options) hl htyped hre
  dsimp only at hcommand hglobal
  rw [filter_matchingLines] at hglobal
  rw [hcommand, hglobal]
  split
  · rfl
  · change (Except.map _ (match visited.1.failure with
      | some err => .error err
      | none => .ok visited.1.lines.length), _) = _
    cases visited.1.failure with
    | some err => rfl
    | none => rfl

/-- `:g` with `norm` and keys that delete lines visits each line that it has picked where it was, and
none of them twice, as long as no deletion starts at or above a line that is still to come. Whatever
the keys do, it is known to which lines it comes. -/
theorem global_normal_visits (h : Host σ) {e : Editor σ} {range : Range} {s : LineSpan}
    {pattern typed keys : Text} {re : Pattern} {p : Destination} {count : Option Nat}
    (hkeys : DeletesLines keys p count) (he : e.HasCurrent) (hfits : e.buffer.Fits)
    (hrange : range.resolve e.buffer e.options e.buffer.wholeSpan = .ok s)
    (htyped : Edit.typedIn e.buffer pattern = some typed)
    (hre : Search.compile typed e.options.ignoreCase = .ok re) (inverse : Bool) (col : Nat) :
    let d : Desk := ⟨{ e.buffer with lastSearch := some typed }, e.registers⟩
    let picked := d.buffer.pickedNumbers re.isMatch s inverse
    let each := globalEdit (.normal keys) e.options
    let visited := (Edit.visit each picked.reverse).run d
    let after := visited.2.buffer.goTo e.buffer.current
    let starts := Edit.starts each picked.reverse d
    let origins := Edit.origins (p.span count) (List.range d.buffer.lineCount) starts
    ((run h (.global range pattern inverse (.normal keys)) col).run.run e =
      if picked.isEmpty then (.error (.patternNotFound typed), e.setBuffer d.buffer)
      else
        (match visited.1.failure with
          | some err => .error err
          | none => .ok {
              col := after.home
              message := lineReport (e.buffer.lineCount - after.lineCount) "fewer lines" },
          { e.setBuffer after with registers := visited.2.registers })) ∧
    visited.1.lines = starts.map (·.buffer.current) ∧
    (starts.IsChain fun t u => Buffer.TakesOut (p.span count t.buffer) t.buffer u.buffer) ∧
    starts.map (fun t => t.buffer.line t.buffer.current) =
      origins.map (fun k => (k.map e.buffer.line).getD []) ∧
    (origins = starts.map (fun t => some t.buffer.current) ↔
      starts.Pairwise fun t u => u.buffer.current < (p.span count t.buffer).first) ∧
    (origins = starts.map (fun t => some t.buffer.current) → Edit.EachOnce picked origins) ∧
    (p.StaysBelow e.buffer picked.reverse.tail → Edit.EachOnce picked origins) := by
  intro d picked each visited after starts origins
  have hd : d.buffer.Fits := ⟨hfits.nonempty, hfits.current_lt, hfits.marks⟩
  have hup : picked.reverse.Pairwise (· > ·) := reverse_pickedNumbers_pairwise
  obtain ⟨hchain, htexts, hiff, hbelow⟩ :=
    starts_of_deletes hkeys hd e.options hup reverse_pickedNumbers_lt
  have honce : origins = starts.map (fun t => some t.buffer.current) →
      Edit.EachOnce picked origins := by
    refine Edit.eachOnce_of_origins_eq ?_ (Edit.starts_sublist each picked.reverse d)
    exact List.nodup_reverse.mp (hup.imp fun hlt => Nat.ne_of_gt hlt)
  exact ⟨run_global_normal h keys he hfits hrange htyped hre inverse col,
    Edit.lines_visit each picked.reverse d, hchain, htexts, hiff, honce,
    fun hp => honce (hiff.mpr (hbelow hp))⟩

set_option maxRecDepth 4000 in
/-- A letter as a pattern matches that letter and no other. -/
theorem compile_letter : ∃ re, Search.compile ['a'] false = .ok re ∧ re.isMatch ['a'] = true ∧
    re.isMatch ['b'] = false ∧ re.isMatch ['x'] = false := by
  have hmatch : ((Search.compile ['a'] false).toOption.map fun re =>
      [['a'], ['b'], ['x']].map re.isMatch) = some [true, false, false] := by cbv
  cases hre : Search.compile ['a'] false with
  | error err =>
    rw [hre] at hmatch
    cases hmatch
  | ok re =>
    rw [hre] at hmatch
    have hlines := Option.some.inj hmatch
    simp only [List.map_cons, List.map_nil, List.cons.injEq, and_true] at hlines
    exact ⟨re, rfl, hlines⟩

/-- With a mark below the line that is still to come both lines with an `a` are visited. -/
theorem global_normal_visits_with_mark_below :
    let b : Buffer := { lines := [['x'], ['a'], ['b'], ['a']], marks := [('x', 2)] }
    let e : Editor Memory := { buffers := .ofBuffer b, world := {} }
    ∃ re, Search.compile ['a'] false = .ok re ∧
      let d : Desk := ⟨{ b with lastSearch := some ['a'] }, e.registers⟩
      let picked := b.pickedNumbers re.isMatch ⟨0, 3⟩ false
      let starts := Edit.starts (globalEdit (.normal ['\'', 'x', 'd', 'd']) e.options)
        picked.reverse d
      picked = [1, 3] ∧
        Edit.EachOnce picked
          (Edit.origins ((Destination.mark 'x').span none) (List.range 4) starts) := by
  intro b e
  obtain ⟨re, hre, ha, hb, hx⟩ := compile_letter
  have hpicked : b.pickedNumbers re.isMatch ⟨0, 3⟩ false = [1, 3] := by
    simp [b, Buffer.pickedNumbers, Buffer.picked, LineSpan.contains, ha, hb, hx]
  have hcurrent : e.HasCurrent := Nat.zero_lt_one
  have hfits : e.buffer.Fits := ⟨by decide, by decide, by unfold Buffer.MarksValid; decide⟩
  have hvisits := global_normal_visits (Memory.host [])
    (@DeletesLines.mark 'x' [] rfl ⟨by simp, by simp⟩) hcurrent hfits
    (show Range.whole.resolve e.buffer e.options e.buffer.wholeSpan = .ok ⟨0, 3⟩ from rfl)
    (show Edit.typedIn e.buffer ['a'] = some ['a'] from rfl) hre false 0
  refine ⟨re, hre, hpicked, hvisits.2.2.2.2.2.2 fun k hk => ?_⟩
  obtain ⟨⟩ : ('x', k) = ('x', 2) := List.mem_singleton.mp hk
  refine ⟨rfl, fun m hm => ?_⟩
  change m ∈ (b.pickedNumbers re.isMatch ⟨0, 3⟩ false).reverse.tail at hm
  rw [hpicked] at hm
  obtain rfl : m = 1 := List.mem_singleton.mp hm
  decide

/-- With a mark above it is another line that comes second, one without an `a`, and it is deleted in
the place of the one that was picked. -/
theorem global_normal_visits_with_mark_above :
    let b : Buffer := { lines := [['x'], ['a'], ['b'], ['a']], marks := [('x', 0)] }
    let e : Editor Memory := { buffers := .ofBuffer b, world := {} }
    let keys : Text := ['\'', 'x', 'd', 'd']
    DeletesLines keys (.mark 'x') none ∧ ∃ re, Search.compile ['a'] false = .ok re ∧
      let d : Desk := ⟨{ e.buffer with lastSearch := some ['a'] }, e.registers⟩
      let picked := d.buffer.pickedNumbers re.isMatch ⟨0, 3⟩ false
      let starts := Edit.starts (globalEdit (.normal keys) e.options) picked.reverse d
      let origins := Edit.origins ((Destination.mark 'x').span none) (List.range 4) starts
      picked = [1, 3] ∧ origins = [some 3, some 2] ∧ ¬ Edit.EachOnce picked origins ∧
        ((run (Memory.host []) (.global .whole ['a'] false (.normal keys)) 0).run.run
          e).2.buffer.lines = [['a'], ['a']] := by
  intro b e keys
  refine ⟨@DeletesLines.mark 'x' [] rfl ⟨by simp, by simp⟩, ?_⟩
  obtain ⟨re, hre, ha, hb, hx⟩ := compile_letter
  refine ⟨re, hre, ?_⟩
  intro d picked starts origins
  have hpicked : picked = [1, 3] := by
    change b.pickedNumbers re.isMatch ⟨0, 3⟩ false = [1, 3]
    simp [b, Buffer.pickedNumbers, Buffer.picked, LineSpan.contains, ha, hb, hx]
  have horigins : origins = [some 3, some 2] := by
    simp only [origins, starts, hpicked]
    decide
  have hcurrent : e.HasCurrent := Nat.zero_lt_one
  have hfits : e.buffer.Fits := ⟨by decide, by decide, by unfold Buffer.MarksValid; decide⟩
  have hlines : ((Edit.visit (globalEdit (.normal keys) e.options) [1, 3].reverse).run
      d).2.buffer.lines = [['a'], ['a']] := by decide
  have hrun := run_global_normal (Memory.host []) keys hcurrent hfits
    (show Range.whole.resolve e.buffer e.options e.buffer.wholeSpan = .ok ⟨0, 3⟩ from rfl)
    (show Edit.typedIn e.buffer ['a'] = some ['a'] from rfl) hre false 0
  dsimp only at hrun
  rw [show Buffer.pickedNumbers re.isMatch ⟨0, 3⟩ false
    { e.buffer with lastSearch := some ['a'] } = [1, 3] from hpicked, if_neg (by decide)] at hrun
  refine ⟨hpicked, horigins, fun hboth => ?_, ?_⟩
  · obtain ⟨n, hn, hsame⟩ := hboth.picked (some 2) (by rw [horigins]; decide)
    cases hsame
    rw [hpicked] at hn
    exact absurd hn (by decide)
  · rw [hrun]
    exact (congrArg Buffer.lines (Editor.buffer_setBuffer hcurrent _)).trans hlines

end Ex
end ModalEditor
