import ModalEditor.Address
import ModalEditor.Proofs.Buffer.Evolution

/-!
# Resolved ranges lie within the buffer

Whatever range is typed, the lines that it resolves to do not run backwards and are lines of the
buffer. What no range stands for is trusted to be so.
-/

namespace ModalEditor

variable {b : Buffer} {o : Options}

/-- The line of an address is a line of the buffer. -/
theorem Address.resolve_lt {a : Address} {dot start n : Nat}
    (h : a.resolve b o dot start = .ok n) : n < b.lines.length := by
  unfold Address.resolve at h
  cases hbase : a.base.resolve b o dot start with
  | error e =>
    rw [hbase] at h
    cases h
  | ok line =>
    rw [hbase] at h
    simp only [bind, Except.bind] at h
    split at h
    · cases h
    split at h
    · cases h
    · rename_i hcount
      cases h
      simpa [Buffer.lineCount] using hcount

namespace Range

theorem resolve_single {a : Address} {fallback s : LineSpan}
    (h : (single a).resolve b o fallback = .ok s) :
    ∃ n, a.resolve b o b.current b.current = .ok n ∧ s = .line n := by
  cases ha : a.resolve b o b.current b.current with
  | error e => simp [resolve, ha, bind, Except.bind] at h
  | ok n =>
    simp only [resolve, ha, bind, Except.bind] at h
    cases h
    exact ⟨n, rfl, rfl⟩

theorem resolve_pair {first second : Address} {sep : Separator} {fallback s : LineSpan}
    (h : (pair first sep second).resolve b o fallback = .ok s) :
    ∃ dot, first.resolve b o b.current b.current = .ok s.first ∧
      second.resolve b o dot s.first = .ok s.last ∧ s.first ≤ s.last := by
  cases hfirst : first.resolve b o b.current b.current with
  | error e => simp [resolve, hfirst, bind, Except.bind] at h
  | ok start =>
    have hrest : ∀ dot, (do
        let stop ← second.resolve b o dot start
        if stop < start then throw .invalidRange
        return ⟨start, stop⟩ : Except EditorError LineSpan) = .ok s →
        Except.ok start = (.ok s.first : Except EditorError Nat) ∧
          second.resolve b o dot s.first = .ok s.last ∧ s.first ≤ s.last := by
      intro dot h
      cases hsecond : second.resolve b o dot start with
      | error e => simp [hsecond, bind, Except.bind] at h
      | ok stop =>
        simp only [hsecond, bind, Except.bind] at h
        split at h
        · cases h
        · rename_i hle
          cases h
          exact ⟨rfl, hsecond, Nat.le_of_not_lt hle⟩
    simp only [resolve, hfirst, bind, Except.bind] at h
    exact ⟨_, hrest _ h⟩

/-- A resolved range does not run backwards. -/
theorem resolve_ordered {r : Range} {fallback s : LineSpan} (hf : fallback.first ≤ fallback.last)
    (h : r.resolve b o fallback = .ok s) : s.first ≤ s.last := by
  cases r with
  | implicit =>
    cases h
    exact hf
  | whole =>
    cases h
    exact Nat.zero_le _
  | single a =>
    obtain ⟨n, -, rfl⟩ := resolve_single h
    exact Nat.le_refl n
  | pair first sep second =>
    obtain ⟨_, -, -, hle⟩ := resolve_pair h
    exact hle

/-- A resolved range ends at a line of the buffer. -/
theorem resolve_last_lt {r : Range} {fallback s : LineSpan} (hb : b.Fits)
    (hf : fallback.last < b.lines.length) (h : r.resolve b o fallback = .ok s) :
    s.last < b.lines.length := by
  have hpos := hb.lines_pos
  cases r with
  | implicit =>
    cases h
    exact hf
  | whole =>
    cases h
    simp only [Buffer.wholeSpan, Buffer.lastLine]
    omega
  | single a =>
    obtain ⟨n, hn, rfl⟩ := resolve_single h
    exact Address.resolve_lt hn
  | pair first sep second =>
    obtain ⟨_, -, hlast, -⟩ := resolve_pair h
    exact Address.resolve_lt hlast

end Range
end ModalEditor
