import Mathlib
import ModalEditor.Proofs.Address.Bounds
import ModalEditor.Proofs.Address.Search

/-!
# What ranges denote

Each form of a base, an address and a range has its rules: which lines it denotes, and when it
denotes none and which error says so. The rules cover every case, and no two of them apply to the
same one, so that resolving does what they say and nothing else (`Range.resolve_exact`). Searches
start at a line of the buffer, which the current line and the line of a first address both are.
-/

namespace ModalEditor

/-- The pattern that is searched for: an empty one stands for the last. -/
def Buffer.sought (b : Buffer) (pattern : Text) : Option Text :=
  if pattern = [] then b.lastSearch else some pattern

/-- What a base denotes where `.` is line `dot` and searches start at line `start`. -/
inductive Base.Denotes (b : Buffer) (o : Options) (dot start : Nat) :
    Base → Except EditorError Nat → Prop where
  | current : Denotes b o dot start .current (.ok dot)
  | last : Denotes b o dot start .last (.ok (b.lineCount - 1))
  /-- Zero is the first line. -/
  | zero : Denotes b o dot start (.number 0) (.ok 0)
  /-- Lines are counted from one. -/
  | number {n : Nat} (hle : n + 1 ≤ b.lineCount) : Denotes b o dot start (.number (n + 1)) (.ok n)
  | pastEnd {n : Nat} (hlt : b.lineCount < n) :
    Denotes b o dot start (.number n) (.error (.lineOutOfRange n))
  | mark {name : Char} {n : Nat} (hmark : b.mark? name = some n) :
    Denotes b o dot start (.mark name) (.ok n)
  | noMark {name : Char} (hmark : b.mark? name = none) :
    Denotes b o dot start (.mark name) (.error (.markNotSet name))
  /-- The first line that matches and is met from the start on. -/
  | found {direction : Direction} {pattern typed : Text} {re : Pattern} {n : Nat}
    (htyped : b.sought pattern = some typed) (hre : Search.compile typed o.ignoreCase = .ok re)
    (hmeets : Search.Meets (fun i => re.isMatch (b.line i)) b.lineCount start direction
      o.wrapScan n) :
    Denotes b o dot start (.search direction pattern) (.ok n)
  /-- No line ahead matches, and none of all lines if the search goes around. -/
  | notFound {direction : Direction} {pattern typed : Text} {re : Pattern}
    (htyped : b.sought pattern = some typed) (hre : Search.compile typed o.ignoreCase = .ok re)
    (hnone : ∀ i < b.lineCount, o.wrapScan = true ∨ direction.Reaches start i →
      re.isMatch (b.line i) = false) :
    Denotes b o dot start (.search direction pattern) (.error (.patternNotFound typed))
  | badPattern {direction : Direction} {pattern typed : Text} {e : EditorError}
    (htyped : b.sought pattern = some typed) (hre : Search.compile typed o.ignoreCase = .error e) :
    Denotes b o dot start (.search direction pattern) (.error e)
  /-- Nothing was searched for yet. -/
  | noPattern {direction : Direction} {pattern : Text} (htyped : b.sought pattern = none) :
    Denotes b o dot start (.search direction pattern) (.error (.patternNotFound []))

/-- What an address denotes: its offset is added to the line of its base, and the sum is a line or
the address fails. -/
inductive Address.Denotes (b : Buffer) (o : Options) (dot start : Nat) (a : Address) :
    Except EditorError Nat → Prop where
  | line {base n : Nat} (hbase : a.base.Denotes b o dot start (.ok base))
    (hsum : (base : Int) + a.offset = n) (hlt : n < b.lineCount) : Denotes b o dot start a (.ok n)
  | beforeFirst {base : Nat} (hbase : a.base.Denotes b o dot start (.ok base))
    (hneg : (base : Int) + a.offset < 0) : Denotes b o dot start a (.error (.lineOutOfRange 0))
  | pastLast {base n : Nat} (hbase : a.base.Denotes b o dot start (.ok base))
    (hsum : (base : Int) + a.offset = n) (hle : b.lineCount ≤ n) :
    Denotes b o dot start a (.error (.lineOutOfRange (n + 1)))
  | failed {e : EditorError} (hbase : a.base.Denotes b o dot start (.error e)) :
    Denotes b o dot start a (.error e)

/-- The line that `.` is in the second address, after the line `first` of the first. -/
def Separator.dotAfter (sep : Separator) (current first : Nat) : Nat :=
  match sep with
  | comma => current
  | semicolon => first

/-- What a range denotes, where `fallback` is what no range stands for. -/
inductive Range.Denotes (b : Buffer) (o : Options) (fallback : LineSpan) :
    Range → Except EditorError LineSpan → Prop where
  | implicit : Denotes b o fallback .implicit (.ok fallback)
  | whole : Denotes b o fallback .whole (.ok ⟨0, b.lineCount - 1⟩)
  | single {a : Address} {n : Nat} (ha : a.Denotes b o b.current b.current (.ok n)) :
    Denotes b o fallback (.single a) (.ok ⟨n, n⟩)
  | singleFailed {a : Address} {e : EditorError}
    (ha : a.Denotes b o b.current b.current (.error e)) :
    Denotes b o fallback (.single a) (.error e)
  /-- The second address searches from the line of the first on. -/
  | pair {first second : Address} {sep : Separator} {start stop : Nat}
    (hfirst : first.Denotes b o b.current b.current (.ok start))
    (hsecond : second.Denotes b o (sep.dotAfter b.current start) start (.ok stop))
    (hle : start ≤ stop) :
    Denotes b o fallback (.pair first sep second) (.ok ⟨start, stop⟩)
  | reversed {first second : Address} {sep : Separator} {start stop : Nat}
    (hfirst : first.Denotes b o b.current b.current (.ok start))
    (hsecond : second.Denotes b o (sep.dotAfter b.current start) start (.ok stop))
    (hlt : stop < start) :
    Denotes b o fallback (.pair first sep second) (.error .invalidRange)
  | firstFailed {first second : Address} {sep : Separator} {e : EditorError}
    (hfirst : first.Denotes b o b.current b.current (.error e)) :
    Denotes b o fallback (.pair first sep second) (.error e)
  | secondFailed {first second : Address} {sep : Separator} {start : Nat} {e : EditorError}
    (hfirst : first.Denotes b o b.current b.current (.ok start))
    (hsecond : second.Denotes b o (sep.dotAfter b.current start) start (.error e)) :
    Denotes b o fallback (.pair first sep second) (.error e)

/-! ## Bases -/

section Bases

variable {b : Buffer} {o : Options} {dot start : Nat}

/-- A search works with the pattern that is searched for. -/
theorem searchLine_eq (pattern : Text) (direction : Direction) :
    searchLine b o pattern start direction =
      match b.sought pattern with
      | none => .error (.patternNotFound [])
      | some typed =>
        match Search.compile typed o.ignoreCase with
        | .error e => .error e
        | .ok re =>
          match Search.findLine re.isMatch b start direction o.wrapScan with
          | some n => .ok n
          | none => .error (.patternNotFound typed) := by
  have hsearch (typed : Text) : (do
      let re ← Search.compile typed o.ignoreCase
      match Search.findLine re.isMatch b start direction o.wrapScan with
      | some n => return n
      | none => throw (.patternNotFound typed) : Except EditorError Nat) =
      match Search.compile typed o.ignoreCase with
      | .error e => .error e
      | .ok re =>
        match Search.findLine re.isMatch b start direction o.wrapScan with
        | some n => .ok n
        | none => .error (.patternNotFound typed) := by
    cases Search.compile typed o.ignoreCase <;> rfl
  unfold searchLine Buffer.sought
  cases pattern with
  | nil =>
    cases b.lastSearch with
    | none => rfl
    | some typed => exact hsearch typed
  | cons c pattern => exact hsearch (c :: pattern)

/-- A base denotes what it resolves to. -/
theorem Base.denotes_resolve (o : Options) (dot : Nat) (hstart : start < b.lineCount)
    (base : Base) :
    base.Denotes b o dot start (base.resolve b o dot start) := by
  cases base with
  | current => exact .current
  | last => exact .last
  | number n =>
    rw [resolve]
    split
    · exact .pastEnd ‹_›
    · cases n with
      | zero => exact .zero
      | succ n => exact .number (by omega)
  | mark name =>
    cases hmark : b.mark? name with
    | some n =>
      simp only [resolve, hmark]
      exact .mark hmark
    | none =>
      simp only [resolve, hmark]
      exact .noMark hmark
  | search direction pattern =>
    rw [resolve, searchLine_eq]
    split
    · exact .noPattern ‹_›
    · split
      · exact .badPattern ‹_› ‹_›
      · split
        · exact .found ‹_› ‹_› ((Search.findLine_eq_some_iff hstart).mp ‹_›)
        · exact .notFound ‹_› ‹_› ((Search.findLine_eq_none_iff hstart).mp ‹_›)

/-- A base resolves to what it denotes. -/
theorem Base.Denotes.resolve_eq (hstart : start < b.lineCount) {base : Base}
    {result : Except EditorError Nat} (h : base.Denotes b o dot start result) :
    base.resolve b o dot start = result := by
  cases h with
  | current => rfl
  | last => rfl
  | zero => rfl
  | number hle => exact if_neg (by omega)
  | pastEnd hlt => exact if_pos hlt
  | mark hmark => simp only [Base.resolve, hmark]
  | noMark hmark => simp only [Base.resolve, hmark]
  | found htyped hre hmeets =>
    have hfind := (Search.findLine_eq_some_iff hstart).mpr hmeets
    simp only [Base.resolve, searchLine_eq, htyped, hre, hfind]
  | notFound htyped hre hnone =>
    have hfind := (Search.findLine_eq_none_iff hstart).mpr hnone
    simp only [Base.resolve, searchLine_eq, htyped, hre, hfind]
  | badPattern htyped hre => simp only [Base.resolve, searchLine_eq, htyped, hre]
  | noPattern htyped => simp only [Base.resolve, searchLine_eq, htyped]

/-! ## Addresses -/

/-- The offset is added to the line of the base. -/
theorem Address.resolve_of_base {a : Address} {base : Nat}
    (hbase : a.base.resolve b o dot start = .ok base) :
    a.resolve b o dot start =
      if (base : Int) + a.offset < 0 then .error (.lineOutOfRange 0)
      else if b.lineCount ≤ ((base : Int) + a.offset).toNat then
        .error (.lineOutOfRange (((base : Int) + a.offset).toNat + 1))
      else .ok ((base : Int) + a.offset).toNat := by
  rw [resolve, hbase]
  rfl

theorem Address.resolve_of_error {a : Address} {e : EditorError}
    (hbase : a.base.resolve b o dot start = .error e) : a.resolve b o dot start = .error e := by
  rw [resolve, hbase]
  rfl

/-- An address denotes what it resolves to. -/
theorem Address.denotes_resolve (o : Options) (dot : Nat) (hstart : start < b.lineCount)
    (a : Address) :
    a.Denotes b o dot start (a.resolve b o dot start) := by
  have hdenotes := Base.denotes_resolve o dot hstart a.base
  cases hbase : a.base.resolve b o dot start with
  | error e =>
    rw [hbase] at hdenotes
    rw [resolve_of_error hbase]
    exact .failed hdenotes
  | ok base =>
    rw [hbase] at hdenotes
    rw [resolve_of_base hbase]
    split
    · exact .beforeFirst hdenotes ‹_›
    · split
      · exact .pastLast hdenotes (by omega) ‹_›
      · exact .line hdenotes (by omega) (by omega)

/-- An address resolves to what it denotes. -/
theorem Address.Denotes.resolve_eq (hstart : start < b.lineCount) {a : Address}
    {result : Except EditorError Nat} (h : a.Denotes b o dot start result) :
    a.resolve b o dot start = result := by
  cases h with
  | line hbase hsum hlt =>
    rw [resolve_of_base (hbase.resolve_eq hstart), hsum, if_neg (by omega), Int.toNat_natCast,
      if_neg (by omega)]
  | beforeFirst hbase hneg => rw [resolve_of_base (hbase.resolve_eq hstart), if_pos hneg]
  | pastLast hbase hsum hle =>
    rw [resolve_of_base (hbase.resolve_eq hstart), hsum, if_neg (by omega), Int.toNat_natCast,
      if_pos hle]
  | failed hbase => exact resolve_of_error (hbase.resolve_eq hstart)

end Bases

/-! ## Ranges -/

namespace Range

variable {b : Buffer} {o : Options} {fallback : LineSpan} {first second : Address} {sep : Separator}
  {start : Nat}

theorem resolve_pair_of_first (hfirst : first.resolve b o b.current b.current = .ok start) :
    (pair first sep second).resolve b o fallback =
      match second.resolve b o (sep.dotAfter b.current start) start with
      | .error e => .error e
      | .ok stop => if stop < start then .error .invalidRange else .ok ⟨start, stop⟩ := by
  have hrest (dot : Nat) : (do
      let stop ← second.resolve b o dot start
      if stop < start then throw .invalidRange
      return ⟨start, stop⟩ : Except EditorError LineSpan) =
      match second.resolve b o dot start with
      | .error e => .error e
      | .ok stop => if stop < start then .error .invalidRange else .ok ⟨start, stop⟩ := by
    cases second.resolve b o dot start with
    | error e => rfl
    | ok stop =>
      simp only [bind, Except.bind]
      split <;> rfl
  rw [resolve, hfirst]
  cases sep <;> exact hrest _

theorem resolve_pair_of_error {e : EditorError}
    (hfirst : first.resolve b o b.current b.current = .error e) :
    (pair first sep second).resolve b o fallback = .error e := by
  rw [resolve, hfirst]
  rfl

/-- A range denotes what it resolves to. -/
theorem denotes_resolve (hcurrent : b.current < b.lineCount) (r : Range) :
    r.Denotes b o fallback (r.resolve b o fallback) := by
  cases r with
  | implicit => exact .implicit
  | whole => exact .whole
  | single a =>
    have hdenotes := Address.denotes_resolve o b.current hcurrent a
    cases ha : a.resolve b o b.current b.current with
    | error e =>
      rw [ha] at hdenotes
      rw [resolve, ha]
      exact .singleFailed hdenotes
    | ok n =>
      rw [ha] at hdenotes
      rw [resolve, ha]
      exact .single hdenotes
  | pair first sep second =>
    have hdenotes := Address.denotes_resolve o b.current hcurrent first
    cases hfirst : first.resolve b o b.current b.current with
    | error e =>
      rw [hfirst] at hdenotes
      rw [resolve_pair_of_error hfirst]
      exact .firstFailed hdenotes
    | ok start =>
      rw [hfirst] at hdenotes
      have hstart : start < b.lineCount := Address.resolve_lt hfirst
      have hrest := Address.denotes_resolve o (sep.dotAfter b.current start) hstart second
      rw [resolve_pair_of_first hfirst]
      cases hsecond : second.resolve b o (sep.dotAfter b.current start) start with
      | error e =>
        rw [hsecond] at hrest
        exact .secondFailed hdenotes hrest
      | ok stop =>
        rw [hsecond] at hrest
        dsimp only
        split
        · exact .reversed hdenotes hrest ‹_›
        · exact .pair hdenotes hrest (by omega)

/-- A range resolves to what it denotes. -/
theorem Denotes.resolve_eq (hcurrent : b.current < b.lineCount) {r : Range}
    {result : Except EditorError LineSpan} (h : r.Denotes b o fallback result) :
    r.resolve b o fallback = result := by
  cases h with
  | implicit => rfl
  | whole => rfl
  | single ha =>
    rw [resolve, ha.resolve_eq hcurrent]
    rfl
  | singleFailed ha =>
    rw [resolve, ha.resolve_eq hcurrent]
    rfl
  | pair hfirst hsecond hle =>
    have hfirst := hfirst.resolve_eq hcurrent
    rw [resolve_pair_of_first hfirst, hsecond.resolve_eq (Address.resolve_lt hfirst)]
    exact if_neg (by omega)
  | reversed hfirst hsecond hlt =>
    have hfirst := hfirst.resolve_eq hcurrent
    rw [resolve_pair_of_first hfirst, hsecond.resolve_eq (Address.resolve_lt hfirst)]
    exact if_pos hlt
  | firstFailed hfirst => exact resolve_pair_of_error (hfirst.resolve_eq hcurrent)
  | secondFailed hfirst hsecond =>
    have hfirst := hfirst.resolve_eq hcurrent
    rw [resolve_pair_of_first hfirst, hsecond.resolve_eq (Address.resolve_lt hfirst)]

/-- The lines that a range denotes are lines of the buffer, in order. -/
theorem Denotes.within (hpos : 0 < b.lineCount) (hordered : fallback.first ≤ fallback.last)
    (hlast : fallback.last < b.lineCount) {r : Range} {s : LineSpan}
    (h : r.Denotes b o fallback (.ok s)) : s.first ≤ s.last ∧ s.last < b.lineCount := by
  cases h with
  | implicit => exact ⟨hordered, hlast⟩
  | whole => exact ⟨Nat.zero_le _, Nat.sub_one_lt_of_lt hpos⟩
  | single ha =>
    cases ha with
    | line _ _ hlt => exact ⟨Nat.le_refl _, hlt⟩
  | pair _ hsecond hle =>
    cases hsecond with
    | line _ _ hlt => exact ⟨hle, hlt⟩

/-- A range that resolves is a span of lines of the buffer, and resolving a range gives what the
range denotes, be it lines or an error, and nothing else. -/
theorem resolve_exact (hcurrent : b.current < b.lineCount)
    (hordered : fallback.first ≤ fallback.last) (hlast : fallback.last < b.lineCount) (r : Range) :
    (∀ s, r.resolve b o fallback = .ok s → s.first ≤ s.last ∧ s.last < b.lineCount) ∧
    ∀ result, r.resolve b o fallback = result ↔ r.Denotes b o fallback result := by
  have hiff (result : Except EditorError LineSpan) :
      r.resolve b o fallback = result ↔ r.Denotes b o fallback result := by
    constructor
    · rintro rfl
      exact denotes_resolve hcurrent r
    · exact Denotes.resolve_eq hcurrent
  refine ⟨fun s hs => ?_, hiff⟩
  have hpos : 0 < b.lineCount := Nat.zero_lt_of_lt hcurrent
  exact ((hiff (.ok s)).mp hs).within hpos hordered hlast

set_option maxRecDepth 4000 in
/-- The first address is found around the end, and the second from there on, by the pattern that was
searched for before. -/
theorem resolve_exact_around_end :
    let b : Buffer :=
      { lines := [['a'], ['b'], ['a'], ['c']], current := 2, lastSearch := some ['a'] }
    let r : Range := .pair { base := .search .forward ['b'] } .semicolon
      { base := .search .forward [], offset := 1 }
    r.resolve b {} b.currentSpan = .ok ⟨1, 3⟩ ∧ r.Denotes b {} b.currentSpan (.ok ⟨1, 3⟩) ∧
      3 < b.lineCount := by
  intro b r
  have hresolve : r.resolve b {} b.currentSpan = .ok ⟨1, 3⟩ := by cbv
  obtain ⟨hwithin, hexact⟩ :=
    @resolve_exact b {} b.currentSpan (by decide) (by decide) (by decide) r
  exact ⟨hresolve, (hexact _).mp hresolve, (hwithin _ hresolve).2⟩

end Range

end ModalEditor
