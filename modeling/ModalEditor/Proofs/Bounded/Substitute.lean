import ModalEditor.Proofs.Bounded.Edit
import ModalEditor.Proofs.Edit.Failure

/-!
# Bounded substitutions and global commands

A substitution goes down the lines of a span and counts three things: the lines it has left behind,
those that breaks in the replacement have added, and the matches. A line has no more matches than it
has places, give or take one. So the number of matches is bounded by the text that is still to come,
which the lines that are put in do not change; that is the invariant of `replaceOn_gives`.

A global command visits lines from the bottom up and counts the visits.
-/

namespace ModalEditor.Bounded

variable {α : Type}

/-! ## Substitution -/

/-- Number of matches on some lines. -/
def countIn (r : Substitute.Rule) (lines : List Text) : Checked Nat :=
  lines.foldlM (fun total line => add total (r.count line)) 0

/-- Replaces on the `n` lines from line `i` on, which `shift` new lines have moved down. `total` is
the number of matches before, and `changed` the last line that was changed. -/
def replaceOn (r : Substitute.Rule) :
    Nat → Nat → Nat → Nat → Option Nat → Buffer → Checked (Buffer × Nat × Option Nat)
  | 0, _, _, total, changed, b => return (b, total, changed)
  | n + 1, i, shift, total, changed, b => do
    held (extent b.lines)
    let place ← add i shift
    match b.lines[place]? with
    | none => return (b, total, changed)
    | some line =>
      if r.count line = 0 then replaceOn r n (i + 1) shift total changed b
      else
        let total ← add total (r.count line)
        match r.linesFor line with
        | [text] =>
          let b ← setLine b place text
          replaceOn r n (i + 1) shift total (some place) b
        | pieces =>
          held (extent pieces)
          let extra ← sub pieces.length 1
          let b ← replaceLines b (.line place) pieces
          let shift ← add shift extra
          let last ← add place extra
          replaceOn r n (i + 1) shift total (some last) b

/-- Replaces matches on the lines of a span, or only counts them. -/
def substitute (s : LineSpan) (pattern replacement : Text) (flags : SubFlags) (o : Options) :
    Guarded Desk Nat := do
  checkSpan s
  let (_, re) ← total (Edit.compile pattern (flags.ignoresCase o))
  let rule := Substitute.Rule.of re replacement flags
  let b ← buffer
  if flags.countOnly then return ← countIn rule ((b.lines.drop s.first).take s.size)
  let (b, count, changed) ← replaceOn rule s.size s.first 0 0 none b
  let b ← (match changed with
    | some n => goTo b n
    | none => pure b : Checked Buffer)
  setBuffer b
  return count

/-! ## Global commands -/

/-- Carries out a step with the cursor on each of the lines that still exist. Gives the number of
lines, `visited` being that of those before, or the failure that ended the visit. -/
def visit (each : Guarded Desk Unit) :
    List Nat → Nat → StateT Desk Checked (Except EditorError Nat)
  | [], visited => return .ok visited
  | n :: rest, visited => do
    let d ← get
    if d.buffer.lineCount ≤ n then visit each rest visited
    else
      set { d with buffer := ← goTo d.buffer n }
      match ← each.run with
      | .ok () => visit each rest (← add visited 1)
      | .error e => return .error e

/-- Carries out a step on the lines of a span that match a typed pattern. -/
def global (s : LineSpan) (pattern : Text) (inverse : Bool) (o : Options)
    (each : Guarded Desk Unit) : Guarded Desk Nat := do
  let (pattern, re) ← total (Edit.compile pattern o.ignoreCase)
  checkSpan s
  let b ← buffer
  let targets := (Search.matchingLines re.isMatch b inverse).filter s.contains
  if targets.isEmpty then throw (.patternNotFound pattern)
  let outcome ← ExceptT.lift (visit each targets.reverse 0)
  setBuffer (← goTo (← buffer) b.current)
  raise (known outcome)

/-! ## Numbers of matches -/

theorem length_matchesFrom_le (p : Pattern.Program) (t : Array Char) (fuel pos : Nat)
    (last : Option Nat) : (p.matchesFrom t fuel pos last).length ≤ fuel := by
  induction fuel generalizing pos last with
  | zero => exact Nat.le_refl 0
  | succ fuel ih =>
    unfold Pattern.Program.matchesFrom
    dsimp only
    split
    · exact Nat.succ_le_succ (ih _ _)
    · exact Nat.zero_le _

/-- The matches on a line are not many more than its characters. -/
theorem count_le (re : Pattern) (replacement : Text) (flags : SubFlags) (line : Text) :
    (Substitute.Rule.of re replacement flags).count line ≤ 2 * (line.length + 1) := by
  have hall : (re.matchesOf line).length ≤ line.length + 2 := length_matchesFrom_le _ _ _ _ _
  unfold Substitute.Rule.count Substitute.Rule.hits
  split
  · exact Nat.le_trans hall (by omega)
  · rw [List.length_take]
    omega

theorem extent_le_of_sublist {ls ls' : List Text} (h : ls.Sublist ls') :
    extent ls ≤ extent ls' := by
  induction h with
  | slnil => exact Nat.le_refl _
  | cons l _ ih =>
    rw [extent_cons]
    omega
  | cons_cons l _ ih =>
    rw [extent_cons, extent_cons]
    omega

/-- The text of a buffer that is held is so small that all its matches can be counted. -/
theorem matches_fit {b : Buffer} (hheld : b.Held) {ls : List Text} (h : ls.Sublist b.lines) :
    0 + 2 * extent ls < wordLimit := by
  have hle := extent_le_of_sublist h
  unfold Buffer.Held at hheld
  rw [wordLimit_eq]
  omega

/-- The pieces of a line take its place, in the same way whether they are one or more. -/
theorem putPieces_gives {b : Buffer} {pieces : List Text} {place shift : Nat}
    {f : Nat → Nat → Buffer → Checked α} {a : α} {Q : Prop} (hb : b.Fits)
    (hlines : b.lines.length < memoryLimit) (hplace : place < b.lines.length)
    (hshift : shift ≤ place) (hpieces : pieces ≠ [])
    (hf : Gives (f (shift + (pieces.length - 1)) (place + (pieces.length - 1))
      (b.replaceLines (.line place) pieces)) a Q) :
    Gives
      (match pieces with
      | [text] => do
        let b ← setLine b place text
        f shift place b
      | pieces => do
        held (extent pieces)
        let extra ← sub pieces.length 1
        let b ← replaceLines b (.line place) pieces
        let shift ← add shift extra
        let last ← add place extra
        f shift last b) a Q := by
  split
  · rename_i text
    rw [setLine_eq hplace, ok_bind, ← Buffer.replaceLine_one hb hplace]
    exact hf
  · refine .held_bind fun hsmall => ?_
    have hfew := Nat.lt_of_le_of_lt (length_le_extent pieces) hsmall
    have hlast : place + (pieces.length - 1) < wordLimit :=
      add_lt_wordLimit (Nat.lt_trans hplace hlines) (Nat.lt_of_le_of_lt (Nat.sub_le _ 1) hfew)
    rw [sub_eq (List.length_pos_iff.mpr hpieces), ok_bind]
    refine (replaceLines_gives hb (Nat.le_refl _) hplace hlines _).bind fun _ => ?_
    rw [add_eq (by omega), ok_bind, add_eq hlast, ok_bind]
    exact hf

section Rule

variable {r : Substitute.Rule} (hr : ∀ line, r.count line ≤ 2 * (line.length + 1))
include hr

theorem foldlM_count {ls : List Text} {n : Nat} (hn : n + 2 * extent ls < wordLimit) :
    ls.foldlM (fun total line => add total (r.count line)) n =
      .ok (ls.foldl (fun total line => total + r.count line) n) := by
  induction ls generalizing n with
  | nil => rfl
  | cons l ls ih =>
    have hl := hr l
    rw [extent_cons] at hn
    rw [List.foldlM_cons, add_eq (by omega), ok_bind, ih (by omega)]
    rfl

theorem replaceOn_gives (n i shift total : Nat) (changed : Option Nat) {b : Buffer} (hb : b.Fits)
    (hplace : i + shift ≤ b.lines.length)
    (htotal : total + 2 * extent (b.lines.drop (i + shift)) < wordLimit) :
    Gives (replaceOn r n i shift total changed b)
      ((Substitute.replaceOn r n (i + shift) b).1,
        total + (Substitute.replaceOn r n (i + shift) b).2.1,
        (Substitute.replaceOn r n (i + shift) b).2.2.or changed) True := by
  induction n generalizing i shift total changed b with
  | zero => exact .of_eq rfl
  | succ n ih =>
    unfold replaceOn Substitute.replaceOn
    refine .held_bind fun hheld => ?_
    have hlines := Buffer.Held.lines_lt hheld
    have hword : i + shift < wordLimit := by
      rw [wordLimit_eq]
      omega
    rw [add_eq hword, ok_bind]
    cases hline : b.lines[i + shift]? with
    | none => exact .of_eq rfl
    | some line =>
      obtain ⟨hlt, hget⟩ := List.getElem?_eq_some_iff.mp hline
      have hnext : i + 1 + shift = i + shift + 1 := by omega
      have hcount := hr line
      rw [List.drop_eq_getElem_cons hlt, hget, extent_cons] at htotal
      dsimp only
      by_cases hzero : r.count line = 0
      · rw [if_pos hzero, if_pos hzero, ← hnext]
        exact ih _ _ _ _ hb (by omega) (by rw [hnext]; omega)
      rw [if_neg hzero, if_neg hzero, add_eq (by omega), ok_bind]
      have hpieces : r.linesFor line ≠ [] := List.splitOn_ne_nil '\n' _
      generalize r.linesFor line = pieces at hpieces ⊢
      have hpos := List.length_pos_iff.mpr hpieces
      have hrest : Gives
          (replaceOn r n (i + 1) (shift + (pieces.length - 1)) (total + r.count line)
            (some (i + shift + (pieces.length - 1))) (b.replaceLines (.line (i + shift)) pieces)) _
          True :=
        ih (i + 1) (shift + (pieces.length - 1)) _ _
          ((b.replaceLines_evolves (Nat.le_refl _) hlt pieces).fits hb)
          (by rw [Buffer.length_replaceLine hlt hpieces]; omega)
          (by
            rw [show i + 1 + (shift + (pieces.length - 1)) = i + shift + pieces.length by omega,
              Buffer.drop_replaceLine hlt hpieces]
            omega)
      rw [show i + 1 + (shift + (pieces.length - 1)) = i + shift + (pieces.length - 1) + 1 by omega]
        at hrest
      dsimp only
      rw [← Nat.add_assoc, Option.or_assoc, Option.some_or]
      exact putPieces_gives hb hlines hlt (Nat.le_add_left _ _) hpieces
        (f := fun shift last b => replaceOn r n (i + 1) shift _ (some last) b) hrest

end Rule

/-! ## They go as the edits of the editor -/

variable {d : Desk} {s : LineSpan} {R : α → Desk → Prop}

/-- Reading a pattern changes only which one was searched for last. -/
theorem compile_bind {pattern : Text} {ignoreCase : Bool} {f : Text × Pattern → Guarded Desk α}
    {g : Text × Pattern → Edit α} (hd : d.InBounds)
    (h : ∀ r t, t.InBounds → t.buffer.lines = d.buffer.lines →
      Mirrors Desk.InBounds (f r) (g r) t R) :
    Mirrors Desk.InBounds (total (Edit.compile pattern ignoreCase) >>= f)
      (Edit.compile pattern ignoreCase >>= g) d R := by
  have hremember (last : Option Text) :
      ({ d with buffer := { d.buffer with lastSearch := last } } : Desk).InBounds :=
    ⟨⟨hd.fits.nonempty, hd.fits.current_lt, hd.fits.marks⟩, hd.registers⟩
  rcases Edit.run_compile pattern ignoreCase d with ⟨typed, re, -, -, hrun⟩ | ⟨-, err, hrun⟩
  · refine (mirrors_total (hrun ▸ hremember _)).bind fun r t ht hi _ => h r t hi ?_
    rw [hrun] at ht
    cases ht
    rfl
  · refine (mirrors_total (hrun ▸ hd)).bind fun r t ht _ _ => ?_
    rw [hrun] at ht
    cases ht

theorem substitute_mirrors (hd : d.InBounds) (hs : s.Within d.buffer) (pattern replacement : Text)
    (flags : SubFlags) (o : Options) :
    Mirrors Desk.InBounds (substitute s pattern replacement flags o)
      (Edit.substitute s pattern replacement flags o) d fun _ _ => True := by
  unfold substitute Edit.substitute
  refine checkSpan_bind hs.last_lt ?_
  refine compile_bind hd fun (_, re) t ht hlines => ?_
  have hcount := count_le re replacement flags
  have hfirst : s.first ≤ t.buffer.lines.length :=
    hlines ▸ Nat.le_of_lt (Nat.lt_of_le_of_lt hs.ordered hs.last_lt)
  refine buffer_bind fun hheld => ?_
  dsimp only
  generalize Substitute.Rule.of re replacement flags = rule at hcount ⊢
  refine .ite (fun _ => ?_) fun _ => ?_
  · have hpart := (List.take_sublist s.size _).trans (List.drop_sublist s.first t.buffer.lines)
    have hfit := matches_fit hheld hpart
    exact .compute (.of_eq (foldlM_count hcount hfit)) ht fun _ => trivial
  · have hfit := matches_fit hheld (List.drop_sublist s.first _)
    have hfits := (Substitute.replaceOn_evolves rule s.size s.first t.buffer).1.fits ht.fits
    refine .compute_bind (replaceOn_gives hcount s.size s.first 0 0 none ht.fits hfirst hfit)
      fun _ => ?_
    unfold Substitute.replace
    rw [Nat.add_zero]
    generalize Substitute.replaceOn rule s.size s.first t.buffer = r at hfits ⊢
    obtain ⟨b, count, changed⟩ := r
    dsimp only at hfits ⊢
    rw [Nat.zero_add, Option.or_none]
    cases changed with
    | none =>
      refine .compute_bind (.of_eq rfl) fun _ => ?_
      refine setBuffer_bind rfl ?_
      exact .pure ⟨hfits, ht.registers⟩ trivial
    | some n =>
      exact setGoTo_bind rfl ht hfits fun hgo => .pure hgo trivial

/-! ## Visits -/

/-- What comes of visits that follow others. -/
def outcome (visited : Nat) (v : Visit) : Except EditorError Nat :=
  match v.failure with
  | some e => .error e
  | none => .ok (visited + v.lines.length)

theorem length_matchingFrom_le (isMatch : Text → Bool) (inverse : Bool) (n : Nat) (ls : List Text) :
    (Search.matchingFrom isMatch inverse n ls).length ≤ ls.length := by
  induction ls generalizing n with
  | nil => exact Nat.le_refl 0
  | cons l ls ih =>
    rw [Search.matchingFrom]
    split
    · exact Nat.succ_le_succ (ih _)
    · exact Nat.le_succ_of_le (ih _)

theorem run_visit (each : Guarded Desk Unit) (n : Nat) (rest : List Nat) (visited : Nat)
    (d : Desk) : (visit each (n :: rest) visited).run d =
      if d.buffer.lineCount ≤ n then (visit each rest visited).run d
      else do
        match ← each.run.run { d with buffer := ← goTo d.buffer n } with
        | (.ok _, t) => (visit each rest (← add visited 1)).run t
        | (.error e, t) => return (.error e, t) := by
  rw [visit]
  simp only [StateT.run_bind, StateT.run_get, pure_bind]
  split
  · rfl
  simp only [StateT.run_bind, StateT.run_monadLift, StateT.run_set]
  cases goTo d.buffer n with
  | error e => rfl
  | ok b =>
    change (each.run.run _ >>= _) = (each.run.run _ >>= _)
    refine bind_congr fun (r, t) => ?_
    rcases r with e | ⟨⟩
    · rfl
    · cases add visited 1 <;> rfl

section Visits

variable {each : Guarded Desk Unit} {each' : Edit Unit}
  (heach : ∀ d : Desk, d.InBounds → Mirrors Desk.InBounds each each' d fun _ _ => True)
include heach

theorem visit_gives (targets : List Nat) (visited : Nat) (hd : d.InBounds)
    (hn : visited + targets.length < wordLimit) :
    Gives ((visit each targets visited).run d)
      (outcome visited ((Edit.visit each' targets).run d).1, ((Edit.visit each' targets).run d).2)
      ((Edit.visit each' targets).run d).2.InBounds := by
  induction targets generalizing visited d with
  | nil => exact .inl ⟨rfl, hd⟩
  | cons n rest ih =>
    rw [Edit.run_visit_cons, run_visit]
    rw [List.length_cons] at hn
    by_cases hgone : d.buffer.lineCount ≤ n
    · rw [if_pos hgone, if_pos hgone]
      exact ih visited hd (by omega)
    rw [if_neg hgone, if_neg hgone, goTo_eq hd.fits.nonempty, ok_bind]
    refine Gives.bind (heach _ (hd.goTo n)) fun ⟨hi, _⟩ => ?_
    generalize each'.run.run { d with buffer := d.buffer.goTo n } = r at hi ⊢
    obtain ⟨e | ⟨⟩, t⟩ := r
    · exact .inl ⟨rfl, hi⟩
    · dsimp only at hi ⊢
      rw [add_eq (by omega), ok_bind]
      have hrest := ih (visited + 1) hi (by omega)
      generalize (Edit.visit each' rest).run t = r at hrest ⊢
      obtain ⟨⟨lines, failure⟩, u⟩ := r
      have hcount : outcome visited { lines := n :: lines, failure } =
          outcome (visited + 1) { lines, failure } := by
        cases failure with
        | some e => rfl
        | none =>
          simp only [outcome, List.length_cons]
          rw [Nat.add_comm lines.length, Nat.add_assoc]
      rw [hcount]
      exact hrest

theorem visit_bind {targets : List Nat} {f : Except EditorError Nat → Guarded Desk α}
    {g : Visit → Edit α} (hd : d.InBounds) (hn : targets.length < wordLimit)
    (h : ∀ v t, t.InBounds → Mirrors Desk.InBounds (f (outcome 0 v)) (g v) t R) :
    Mirrors Desk.InBounds (ExceptT.lift (visit each targets 0) >>= f)
      (liftM (Edit.visit each' targets) >>= g) d R := by
  have hlift : (ExceptT.lift (visit each targets 0) : Guarded Desk _).run.run d =
      (visit each targets 0).run d >>= fun r => .ok (.ok r.1, r.2) := rfl
  unfold Mirrors
  rw [run_guarded_bind, run_bind, hlift, bind_assoc]
  exact Gives.bind (visit_gives heach targets 0 hd (by omega)) fun hi => h _ _ hi

theorem global_mirrors (hd : d.InBounds) (hs : s.last < d.buffer.lines.length) (pattern : Text)
    (inverse : Bool) (o : Options) :
    Mirrors Desk.InBounds (global s pattern inverse o each)
      (Edit.global s pattern inverse o each') d fun _ _ => True := by
  unfold global Edit.global Edit.visitTyped Edit.visitMatching
  simp only [bind_assoc]
  refine compile_bind hd fun (pattern, re) t ht hlines => ?_
  refine checkSpan_bind (hlines ▸ hs) ?_
  refine buffer_bind fun hheld => ?_
  dsimp only
  have hfew : ((Search.matchingLines re.isMatch t.buffer inverse).filter s.contains).reverse.length
      < wordLimit := by
    have hle := length_matchingFrom_le re.isMatch inverse 0 t.buffer.lines
    have hlt := hheld.lines_lt
    rw [List.length_reverse]
    refine Nat.lt_of_le_of_lt (List.length_filter_le _ _) ?_
    unfold Search.matchingLines
    rw [wordLimit_eq]
    omega
  generalize (Search.matchingLines re.isMatch t.buffer inverse).filter s.contains = targets
    at hfew ⊢
  by_cases hnone : targets.isEmpty = true
  · rw [if_pos hnone, if_pos hnone]
    exact .throw _ ht
  rw [if_neg hnone, if_neg hnone]
  simp only [bind_assoc]
  refine visit_bind heach ht hfew fun v u hu => ?_
  refine read_bind fun _ => ?_
  refine setGoTo_bind rfl hu hu.fits fun hgo => ?_
  obtain ⟨lines, failure⟩ := v
  cases failure with
  | some e => exact .of_run rfl hgo fun _ _ _ => trivial
  | none =>
    simp only [outcome, Nat.zero_add]
    exact .of_run rfl hgo fun _ _ _ => trivial

end Visits

end ModalEditor.Bounded
