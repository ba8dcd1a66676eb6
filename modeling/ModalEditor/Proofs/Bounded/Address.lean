import ModalEditor.Proofs.Address.Bounds
import ModalEditor.Proofs.Bounded.Register
import ModalEditor.Proofs.Ex.Typed

/-!
# Bounded addresses

How ranges are read and resolved, as bounded computations. A reader cuts the text between
characters, so it gives what the reader of the editor gives. An address that was read has an offset
that is a signed word (`Range.InWords`), so the line it counts to, and the line after it, are words.
-/

namespace ModalEditor

namespace Bounded

/-! ## Cutting texts -/

/-- The text from byte `n` on. -/
def behind (t : Text) (n : Nat) : Checked Text := do return (← cut t n).2

/-- A number off the front of a text. -/
def splitNumber (t : Text) : Checked (Option (Nat × Text)) := do
  let stop := Text.byteSize (t.takeWhile isDigit)
  if stop = 0 then return none
  let (digits, rest) ← cut t stop
  return (Text.count? digits).map fun n => (n, rest)

/-- The byte at which the first unescaped `delim` starts, if the text starts at byte `n`. -/
def delimiterAt? (delim : Char) (escaped : Bool) (n : Nat) : Text → Option Nat
  | [] => none
  | c :: rest =>
    if escaped then delimiterAt? delim false (n + c.utf8Size) rest
    else if c = '\\' then delimiterAt? delim true (n + c.utf8Size) rest
    else if c = delim then some n
    else delimiterAt? delim false (n + c.utf8Size) rest

/-- The text before and after the first unescaped `delim`; without one, the text and nothing. -/
def cutUnescaped (delim : Char) (t : Text) : Checked (Text × Text) := do
  match delimiterAt? delim false 0 t with
  | none => return (t, [])
  | some n =>
    held (Text.byteSize t)
    let (before, _) ← cut t n
    return (before, ← behind t (← add n delim.utf8Size))

theorem behind_append (a b : Text) : behind (a ++ b) (Text.byteSize a) = .ok b := by
  unfold behind
  rw [cut_append]
  rfl

theorem behind_char (c : Char) (t : Text) : behind (c :: t) c.utf8Size = .ok t := by
  have h := behind_append [c] t
  rwa [byteSize_cons] at h

/-- A character of one byte in front of a text is cut off. -/
theorem behind_one {c : Char} (hc : c.utf8Size = 1) (t : Text) : behind (c :: t) 1 = .ok t :=
  hc ▸ behind_char c t

theorem utf8Size_lower {c : Char} (hc : isLowerLetter c = true) : c.utf8Size = 1 := by
  have hle := (isLowerLetter_iff.mp hc).2
  unfold Char.utf8Size
  exact if_pos (UInt32.le_iff_toNat_le.mpr (Nat.le_trans hle (by decide)))

theorem byteSize_eq_zero {t : Text} (h : Text.byteSize t = 0) : t = [] := by
  cases t with
  | nil => rfl
  | cons c t =>
    have hpos := c.utf8Size_pos
    rw [byteSize_cons] at h
    omega

/-- A text is cut behind its first characters of a kind. -/
theorem cut_takeWhile (p : Char → Bool) (t : Text) :
    cut t (Text.byteSize (t.takeWhile p)) = .ok (t.takeWhile p, t.dropWhile p) := by
  have h := cut_append (t.takeWhile p) (t.dropWhile p)
  rwa [List.takeWhile_append_dropWhile] at h

theorem splitNumber_eq (t : Text) : splitNumber t = .ok (Text.splitNumber? t) := by
  unfold splitNumber Text.splitNumber?
  dsimp only
  split
  · rename_i hzero
    rw [byteSize_eq_zero hzero]
    rfl
  · rw [cut_takeWhile]
    rfl

/-- A character that escapes nothing is no backslash. -/
theorem ne_backslash {c : Char} {rest : Text} (hend : c = '\\' → rest = [] → False)
    (hescape : ∀ d tail, c = '\\' → rest = d :: tail → False) : c ≠ '\\' := by
  rintro rfl
  cases rest with
  | nil => exact hend rfl rfl
  | cons d tail => exact hescape d tail rfl rfl

theorem delimiterAt?_eq (delim : Char) (t : Text) (n : Nat) :
    delimiterAt? delim false n t =
      (Text.cutUnescaped? delim t).map fun r => n + Text.byteSize r.1 := by
  fun_induction Text.cutUnescaped? delim t generalizing n with
  | case1 => rfl
  | case2 => rfl
  | case3 c rest ih =>
    have hescape : delimiterAt? delim false n ('\\' :: c :: rest) =
        delimiterAt? delim false (n + '\\'.utf8Size + c.utf8Size) rest := rfl
    rw [hescape, ih, Option.map_map]
    simp only [Function.comp_def, byteSize_cons, Nat.add_assoc]
  | case4 rest hend hescape =>
    rw [delimiterAt?, if_neg (by decide), if_neg (ne_backslash hend hescape), if_pos rfl]
    rfl
  | case5 c rest hend hescape hdelim ih =>
    rw [delimiterAt?, if_neg (by decide), if_neg (ne_backslash hend hescape), if_neg hdelim, ih,
      Option.map_map]
    simp only [Function.comp_def, byteSize_cons, Nat.add_assoc]

/-- Between the parts of a cut text stands the delimiter. -/
theorem cutUnescaped?_append {delim : Char} {t a b : Text}
    (h : Text.cutUnescaped? delim t = some (a, b)) : t = a ++ delim :: b := by
  fun_induction Text.cutUnescaped? delim t generalizing a b with
  | case1 => cases h
  | case2 => cases h
  | case3 c rest ih =>
    obtain ⟨⟨a', b'⟩, hcut, hab⟩ := Option.map_eq_some_iff.mp h
    cases hab
    rw [ih hcut]
    rfl
  | case4 =>
    cases h
    rfl
  | case5 c rest _ _ _ ih =>
    obtain ⟨⟨a', b'⟩, hcut, hab⟩ := Option.map_eq_some_iff.mp h
    cases hab
    rw [ih hcut]
    rfl

theorem cutUnescaped_gives (delim : Char) (t : Text) :
    Gives (cutUnescaped delim t) (Text.cutUnescaped delim t) True := by
  unfold cutUnescaped Text.cutUnescaped
  rw [delimiterAt?_eq]
  cases hcut : Text.cutUnescaped? delim t with
  | none => exact .of_eq rfl
  | some r =>
    obtain ⟨before, after⟩ := r
    obtain rfl := cutUnescaped?_append hcut
    refine .held_bind fun hheld => ?_
    rw [byteSize_append, byteSize_cons] at hheld
    have hsum : Text.byteSize before + delim.utf8Size < wordLimit := by
      rw [wordLimit_eq]
      omega
    have hafter : behind (before ++ delim :: after) (Text.byteSize before + delim.utf8Size) =
        .ok after := by
      have h := behind_append (before ++ [delim]) after
      rwa [byteSize_append, byteSize_cons, List.append_assoc] at h
    simp only [Nat.zero_add]
    rw [cut_append, ok_bind, add_eq hsum, ok_bind, hafter]
    exact .of_eq rfl

/-! ## Reading ranges -/

/-- The base of an address off the front of a text. -/
def splitBase : Text → Checked (Option (Base × Text))
  | '.' :: rest => do return some (.current, ← behind ('.' :: rest) 1)
  | '$' :: rest => do return some (.last, ← behind ('$' :: rest) 1)
  | '\'' :: c :: rest =>
    if isLowerLetter c then do return some (.mark c, ← behind ('\'' :: c :: rest) 2)
    else return none
  | '/' :: rest => do
    let (pattern, rest) ← cutUnescaped '/' (← behind ('/' :: rest) 1)
    return some (.search .forward (Text.unescape '/' pattern), rest)
  | '?' :: rest => do
    let (pattern, rest) ← cutUnescaped '?' (← behind ('?' :: rest) 1)
    return some (.search .backward (Text.unescape '?' pattern), rest)
  | t => do return (← splitNumber t).map fun (n, rest) => (.number n, rest)

/-- Offsets off the front of a text. -/
def splitOffsets (offset : Int) (count : Nat) : Nat → Text → Checked (Int × Nat × Text)
  | fuel + 1, c :: rest =>
    if c = '+' || c = '-' then do
      let after ← behind (c :: rest) 1
      let (n, rest) := (← splitNumber after).getD (1, after)
      splitOffsets (Address.addOffset offset c n) (count + 1) fuel rest
    else return (offset, count, c :: rest)
  | _, t => return (offset, count, t)

/-- An address off the front of a text. -/
def splitAddress (t : Text) : Checked (Option (Address × Text)) := do
  match ← splitBase t with
  | some (base, rest) =>
    let (offset, _, rest) ← splitOffsets 0 0 rest.length rest
    return some ({ base, offset }, rest)
  | none =>
    let (offset, count, rest) ← splitOffsets 0 0 t.length t
    return if count = 0 then none else some ({ base := .current, offset }, rest)

/-- The pair with the address that follows, if one does. -/
def pairWith (first : Address) (sep : Separator) (rest : Text) : Checked (Range × Text) := do
  match ← splitAddress rest with
  | some (second, rest) => return (.pair first sep second, rest)
  | none => return (.pair first sep { base := .current }, rest)

/-- A range off the front of a text. -/
def splitRange (t : Text) : Checked (Range × Text) :=
  match t with
  | '%' :: rest => return (.whole, rest)
  | _ => do
    match ← splitAddress t with
    | none => return (.implicit, t)
    | some (first, ',' :: rest) => pairWith first .comma (← behind (',' :: rest) 1)
    | some (first, ';' :: rest) => pairWith first .semicolon (← behind (';' :: rest) 1)
    | some (first, rest) => return (.single first, rest)

theorem splitBase_gives (t : Text) : Gives (splitBase t) (Base.split? t) True := by
  fun_cases Base.split? t with
  | case1 rest => exact Gives.bind (.of_eq (behind_one (by decide) _)) fun _ => .of_eq rfl
  | case2 rest => exact Gives.bind (.of_eq (behind_one (by decide) _)) fun _ => .of_eq rfl
  | case3 c rest hc =>
    have hbehind : behind ('\'' :: c :: rest) 2 = .ok rest := by
      have h := behind_append ['\'', c] rest
      rwa [byteSize_cons, byteSize_cons, utf8Size_lower hc] at h
    rw [splitBase, if_pos hc, hbehind]
    exact .of_eq rfl
  | case4 c rest hc =>
    rw [splitBase, if_neg hc]
    exact .of_eq rfl
  | case5 rest pattern after hcut =>
    refine Gives.bind (.of_eq (behind_one (by decide) _)) fun _ => ?_
    refine (cutUnescaped_gives _ _).bind fun _ => ?_
    rw [hcut]
    exact .of_eq rfl
  | case6 rest pattern after hcut =>
    refine Gives.bind (.of_eq (behind_one (by decide) _)) fun _ => ?_
    refine (cutUnescaped_gives _ _).bind fun _ => ?_
    rw [hcut]
    exact .of_eq rfl
  | case7 t hdot hdollar hquote hslash hquestion =>
    rw [splitBase.eq_6 t hdot hdollar hquote hslash hquestion, splitNumber_eq]
    exact .of_eq rfl

theorem splitOffsets_eq (offset : Int) (count fuel : Nat) (t : Text) :
    splitOffsets offset count fuel t = .ok (Address.splitOffsets offset count fuel t) := by
  fun_induction Address.splitOffsets offset count fuel t with
  | case1 offset count fuel c rest hsign n after hn ih =>
    have hplusminus : c = '+' ∨ c = '-' := by simpa using hsign
    have hsize : c.utf8Size = 1 := by rcases hplusminus with rfl | rfl <;> rfl
    rw [splitOffsets, if_pos hsign, behind_one hsize, ok_bind, splitNumber_eq, ok_bind, hn]
    exact ih
  | case2 offset count fuel c rest hsign =>
    rw [splitOffsets, if_neg hsign]
    rfl
  | case3 offset count fuel t hnone =>
    rw [splitOffsets.eq_2 _ _ _ _ hnone]
    rfl

theorem splitAddress_gives (t : Text) : Gives (splitAddress t) (Address.split? t) True := by
  unfold splitAddress Address.split?
  refine (splitBase_gives t).bind fun _ => ?_
  cases Base.split? t with
  | none =>
    dsimp only
    rw [splitOffsets_eq]
    exact .of_eq rfl
  | some r =>
    dsimp only
    rw [splitOffsets_eq]
    exact .of_eq rfl

theorem pairWith_gives (first : Address) (sep : Separator) (rest : Text) :
    Gives (pairWith first sep rest) (Range.split.pairWith first sep rest) True := by
  unfold pairWith Range.split.pairWith
  refine (splitAddress_gives rest).bind fun _ => ?_
  cases Address.split? rest <;> exact .of_eq rfl

theorem splitRange_gives (t : Text) : Gives (splitRange t) (Range.split t) True := by
  fun_cases Range.split t with
  | case1 rest => exact .of_eq rfl
  | case2 _ hnone hwhole =>
    rw [splitRange.eq_2 t hwhole]
    refine (splitAddress_gives t).bind fun _ => ?_
    rw [hnone]
    exact .of_eq rfl
  | case3 _ first rest hfirst hwhole =>
    rw [splitRange.eq_2 t hwhole]
    refine (splitAddress_gives t).bind fun _ => ?_
    rw [hfirst]
    refine Gives.bind (.of_eq (behind_one (by decide) _)) fun _ => ?_
    exact pairWith_gives _ _ _
  | case4 _ first rest hfirst hwhole =>
    rw [splitRange.eq_2 t hwhole]
    refine (splitAddress_gives t).bind fun _ => ?_
    rw [hfirst]
    refine Gives.bind (.of_eq (behind_one (by decide) _)) fun _ => ?_
    exact pairWith_gives _ _ _
  | case5 _ first rest hcomma hsemicolon hfirst hwhole =>
    rw [splitRange.eq_2 t hwhole]
    refine (splitAddress_gives t).bind fun _ => ?_
    simp only [hfirst]
    exact .of_eq rfl

end Bounded

/-! ## Offsets are signed words -/

/-- The offsets of a range are signed words. -/
def Range.InWords : Range → Prop
  | .single a => a.offset ≤ maxOffset
  | .pair first _ second => first.offset ≤ maxOffset ∧ second.offset ≤ maxOffset
  | _ => True

theorem Address.addOffset_le {offset : Int} (h : offset ≤ maxOffset) (sign : Char) (n : Nat) :
    addOffset offset sign n ≤ maxOffset := by
  have hpos : 0 ≤ maxOffset := by decide
  unfold addOffset
  dsimp only
  split
  · exact Int.min_le_right _ _
  · omega

theorem Address.splitOffsets_le (offset : Int) (h : offset ≤ maxOffset) (count fuel : Nat)
    (t : Text) : (splitOffsets offset count fuel t).1 ≤ maxOffset := by
  fun_induction splitOffsets offset count fuel t with
  | case1 offset count fuel c rest hsign n after hn ih => exact ih (addOffset_le h c n)
  | case2 => exact h
  | case3 => exact h

theorem Address.split?_offset_le {t rest : Text} {a : Address}
    (h : Address.split? t = some (a, rest)) : a.offset ≤ maxOffset := by
  have hzero : (0 : Int) ≤ maxOffset := by decide
  unfold Address.split? at h
  split at h
  · cases h
    exact splitOffsets_le 0 hzero _ _ _
  · dsimp only at h
    split at h
    · cases h
    · cases h
      exact splitOffsets_le 0 hzero _ _ _

theorem Range.pairWith_inWords {first : Address} (h : first.offset ≤ maxOffset) (sep : Separator)
    (rest : Text) : (split.pairWith first sep rest).1.InWords := by
  unfold split.pairWith
  split
  · rename_i hsecond
    exact ⟨h, Address.split?_offset_le hsecond⟩
  · exact ⟨h, by decide⟩

theorem Range.split_inWords (t : Text) : (split t).1.InWords := by
  unfold split
  split
  · trivial
  · split
    · trivial
    · exact pairWith_inWords (Address.split?_offset_le ‹_›) _ _
    · exact pairWith_inWords (Address.split?_offset_le ‹_›) _ _
    · exact Address.split?_offset_le (a := _) ‹_›

namespace Bounded

/-! ## Searching lines -/

/-- The first of the places that some steps lead to that passes a test. -/
def firstPlace (place : Nat → Checked Nat) (test : Nat → Bool) : List Nat → Checked (Option Nat)
  | [] => return none
  | i :: rest => do
    let n ← place i
    if test n then return some n else firstPlace place test rest

/-- The first line in the order of the search that matches. -/
def findLine (isMatch : Text → Bool) (b : Buffer) (start : Nat) (direction : Direction)
    (wrap : Bool) : Checked (Option Nat) := do
  let count := b.lines.length
  let start := min start (← sub count 1)
  let test n := isMatch (b.line n)
  match direction with
  | .forward =>
    let steps ← (if wrap then pure count else sub count start)
    firstPlace (fun i => do rem (← add start i) count) test (List.range steps)
  | .backward =>
    let steps ← (if wrap then pure count else add start 1)
    firstPlace (fun i => do rem (← sub (← add start count) i) count) test (List.range steps)

/-- The line that a search address finds. -/
def searchLine (b : Buffer) (o : Options) (pattern : Text) (start : Nat) (direction : Direction) :
    Tried Nat := do
  let pattern ←
    if pattern.isEmpty then
      match b.lastSearch with
      | some last => pure last
      | none => throw (.patternNotFound [])
    else pure pattern
  let re ← known (Search.compile pattern o.ignoreCase)
  match ← findLine re.isMatch b start direction o.wrapScan with
  | some n => return n
  | none => throw (.patternNotFound pattern)

/-! ## Resolving ranges -/

/-- The line of a base. -/
def resolveBase (base : Base) (b : Buffer) (o : Options) (dot start : Nat) : Tried Nat :=
  match base with
  | .current => return dot
  | .last => lastLine b
  | .number n =>
    if b.lines.length < n then throw (.lineOutOfRange n)
    else if n = 0 then return 0
    else sub n 1
  | .mark name =>
    match b.mark? name with
    | some n => return n
    | none => throw (.markNotSet name)
  | .search direction pattern => searchLine b o pattern start direction

/-- The line of an address. -/
def resolveAddress (a : Address) (b : Buffer) (o : Options) (dot start : Nat) : Tried Nat := do
  let n := (← resolveBase a.base b o dot start : Nat) + a.offset
  if n < 0 then throw (.lineOutOfRange 0)
  else if b.lines.length ≤ n.toNat then throw (.lineOutOfRange (← add n.toNat 1))
  else return n.toNat

/-- The lines of a range. -/
def resolveRange (r : Range) (b : Buffer) (o : Options) (fallback : LineSpan) : Tried LineSpan :=
  match r with
  | .implicit => return fallback
  | .whole => wholeSpan b
  | .single a => do return .line (← resolveAddress a b o b.current b.current)
  | .pair first sep second => do
    let start ← resolveAddress first b o b.current b.current
    let dot := match sep with
      | .comma => b.current
      | .semicolon => start
    let stop ← resolveAddress second b o dot start
    if stop < start then throw .invalidRange
    span start stop

theorem firstPlace_eq {place : Nat → Checked Nat} {test : Nat → Bool} {steps : List Nat}
    (place' : Nat → Nat) (h : ∀ i ∈ steps, place i = .ok (place' i)) :
    firstPlace place test steps = .ok ((steps.map place').find? test) := by
  induction steps with
  | nil => rfl
  | cons i rest ih =>
    rw [firstPlace, h i List.mem_cons_self, ok_bind, List.map_cons, List.find?_cons,
      ih fun j hj => h j (List.mem_cons_of_mem i hj)]
    cases test (place' i) <;> rfl

variable {b : Buffer}

theorem findLine_eq (hb : b.lines ≠ []) (hheld : b.Held) (isMatch : Text → Bool) (start : Nat)
    (direction : Direction) (wrap : Bool) :
    findLine isMatch b start direction wrap =
      .ok (Search.findLine isMatch b start direction wrap) := by
  have hpos := List.length_pos_iff.mpr hb
  have hcount := hheld.lines_lt
  have hfront : min start (b.lines.length - 1) < b.lines.length := by omega
  have hsum {n : Nat} (hn : n ≤ b.lines.length) :
      min start (b.lines.length - 1) + n < wordLimit := by
    rw [wordLimit_eq]
    omega
  unfold findLine Search.findLine Search.order Buffer.lineCount
  dsimp only
  rw [sub_eq hpos, ok_bind]
  cases direction with
  | forward =>
    have hsteps : (if wrap then pure b.lines.length
        else sub b.lines.length (min start (b.lines.length - 1)) : Checked Nat) =
        .ok (if wrap then b.lines.length
          else b.lines.length - min start (b.lines.length - 1)) := by
      cases wrap with
      | true => rfl
      | false => exact sub_eq (Nat.le_of_lt hfront)
    dsimp only
    rw [hsteps, ok_bind]
    refine firstPlace_eq _ fun i hi => ?_
    have hi : i ≤ b.lines.length := by
      have := List.mem_range.mp hi
      split at this <;> omega
    rw [add_eq (hsum hi), ok_bind, rem_eq hpos]
  | backward =>
    have hsteps : (if wrap then pure b.lines.length
        else add (min start (b.lines.length - 1)) 1 : Checked Nat) =
        .ok (if wrap then b.lines.length else min start (b.lines.length - 1) + 1) := by
      cases wrap with
      | true => rfl
      | false => exact add_eq (hsum hpos)
    dsimp only
    rw [hsteps, ok_bind]
    refine firstPlace_eq _ fun i hi => ?_
    have hi : i ≤ min start (b.lines.length - 1) + b.lines.length := by
      have := List.mem_range.mp hi
      split at this <;> omega
    rw [add_eq (hsum (Nat.le_refl _)), ok_bind, sub_eq hi, ok_bind, rem_eq hpos]

/-- A search finds a line of the buffer. -/
theorem findLine_lt (hb : b.lines ≠ []) {isMatch : Text → Bool} {start n : Nat}
    {direction : Direction} {wrap : Bool}
    (h : Search.findLine isMatch b start direction wrap = some n) : n < b.lines.length := by
  have hpos := List.length_pos_iff.mpr hb
  have hmem : n ∈ Search.order b.lineCount start direction wrap := List.mem_of_find?_eq_some h
  unfold Search.order at hmem
  cases direction <;>
    · obtain ⟨i, -, rfl⟩ := List.mem_map.mp hmem
      exact Nat.mod_lt _ hpos

variable {o : Options}

theorem searchLine_tries (hb : b.lines ≠ []) (hheld : b.Held) (pattern : Text) (start : Nat)
    (direction : Direction) :
    Tries (searchLine b o pattern start direction)
      (ModalEditor.searchLine b o pattern start direction) (· < b.lines.length) := by
  unfold searchLine ModalEditor.searchLine
  have hsearch (typed : Text) : Tries
      (do
        let re ← known (Search.compile typed o.ignoreCase)
        match ← findLine re.isMatch b start direction o.wrapScan with
        | some n => return n
        | none => throw (.patternNotFound typed))
      (do
        let re ← Search.compile typed o.ignoreCase
        match Search.findLine re.isMatch b start direction o.wrapScan with
        | some n => return n
        | none => throw (.patternNotFound typed))
      (· < b.lines.length) := by
    refine tries_any.bind fun re _ => ?_
    refine .compute_bind (.of_eq (findLine_eq hb hheld _ _ _ _)) fun _ => ?_
    cases hfind : Search.findLine re.isMatch b start direction o.wrapScan with
    | some n => exact .pure (findLine_lt hb hfind)
    | none => exact .throw _
  refine .ite (fun _ => ?_) fun _ => hsearch pattern
  cases b.lastSearch with
  | some last => exact hsearch last
  | none => exact .throw _

theorem resolveBase_tries (hb : b.Fits) (hheld : b.Held) (base : Base) {dot start : Nat}
    (hdot : dot < b.lines.length) :
    Tries (resolveBase base b o dot start) (base.resolve b o dot start) (· < b.lines.length) := by
  have hpos := hb.lines_pos
  unfold resolveBase Base.resolve
  cases base with
  | current => exact .pure hdot
  | last => exact .compute (.of_eq (lastLine_eq hb.nonempty)) fun _ => Nat.sub_lt hpos Nat.one_pos
  | number n =>
    refine .ite (fun _ => .throw _) fun hn => ?_
    split
    · rename_i hzero
      subst hzero
      exact .pure hpos
    · exact .compute (.of_eq (sub_eq (by omega))) fun _ => by omega
  | mark name =>
    cases hmark : b.mark? name with
    | some n =>
      simp only [hmark]
      exact .pure (hb.mark?_lt hmark)
    | none =>
      simp only [hmark]
      exact .throw _
  | search direction pattern => exact searchLine_tries hb.nonempty hheld _ _ _

theorem resolveAddress_tries (hb : b.Fits) (hheld : b.Held) {a : Address}
    (ha : a.offset ≤ maxOffset) {dot start : Nat} (hdot : dot < b.lines.length) :
    Tries (resolveAddress a b o dot start) (a.resolve b o dot start) (· < b.lines.length) := by
  unfold resolveAddress Address.resolve
  refine (resolveBase_tries hb hheld a.base hdot).bind fun line hline => ?_
  refine .ite (fun _ => .throw _) fun hneg => ?_
  have hword : ((line : Int) + a.offset).toNat + 1 < wordLimit := by
    have hlines := hheld.lines_lt
    unfold maxOffset at ha
    unfold memoryLimit at hlines
    unfold wordLimit
    omega
  refine .ite (fun _ => ?_) fun hlt => .pure (Nat.lt_of_not_le hlt)
  exact .compute_bind (.of_eq (add_eq hword)) fun _ => .throw _

/-- A range that was read resolves to lines of the buffer that do not run backwards. -/
theorem resolveRange_tries (hb : b.Fits) (hheld : b.Held) {r : Range} (hr : r.InWords)
    {fallback : LineSpan} (hf : fallback.Within b) :
    Tries (resolveRange r b o fallback) (r.resolve b o fallback) (·.Within b) := by
  have hpos := hb.lines_pos
  have hcurrent := hb.current_lt
  cases r with
  | implicit => exact .pure hf
  | whole =>
    exact .compute (.of_eq (wholeSpan_eq hb.nonempty)) fun _ =>
      ⟨Nat.zero_le _, Nat.sub_lt hpos Nat.one_pos⟩
  | single a =>
    exact (resolveAddress_tries hb hheld hr hcurrent).bind fun n hn => .pure ⟨Nat.le_refl n, hn⟩
  | pair first sep second =>
    obtain ⟨hfirst, hsecond⟩ := hr
    refine (resolveAddress_tries hb hheld hfirst hcurrent).bind fun start hstart => ?_
    have hdot : (match sep with
        | .comma => b.current
        | .semicolon => start) < b.lines.length := by
      cases sep <;> assumption
    refine (resolveAddress_tries hb hheld hsecond hdot).bind fun stop hstop => ?_
    refine .ite (fun _ => .throw _) fun hle => ?_
    exact .compute (.of_eq (span_eq (Nat.le_of_not_lt hle))) fun _ =>
      ⟨Nat.le_of_not_lt hle, hstop⟩

end Bounded
end ModalEditor
