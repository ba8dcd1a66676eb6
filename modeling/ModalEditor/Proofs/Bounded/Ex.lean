import ModalEditor.Proofs.Bounded.Address
import ModalEditor.Proofs.Bounded.Editor
import ModalEditor.Proofs.Bounded.Normal
import ModalEditor.Proofs.Bounded.Reading
import ModalEditor.Proofs.Bounded.Substitute
import ModalEditor.Proofs.Ex.Evolution

/-!
# Bounded commands of the command line

The commands of the command line, as bounded steps of the editor. A range is resolved on the buffer
that its command then works on, so the span lies within that buffer.
-/

namespace ModalEditor.Bounded.Ex

variable {σ α : Type} (h : Host σ)

/-! ## Ranges -/

/-- The lines of a range on the current buffer. -/
def resolveOr (range : Range) (fallback : Buffer → Checked LineSpan) :
    Guarded (Editor σ) LineSpan := do
  let b ← currentBuffer
  let whole ← fallback b
  raise (resolveRange range b (← get).options whole)

/-- The lines of a range, by default the current line. -/
def spanOf (range : Range) : Guarded (Editor σ) LineSpan :=
  resolveOr range fun b => return b.currentSpan

/-- The lines of `:d` and `:y`. -/
def countedSpan (range : Range) (count : Option Nat) : Guarded (Editor σ) LineSpan := do
  let s ← spanOf range
  match count with
  | none => return s
  | some n =>
    let more ← sub (max n 1) 1
    let last ← lastLine (← currentBuffer)
    span s.last (min (s.last + more) last)

/-! ## Messages -/

/-- A buffer that was read. -/
def loadMessage (b : Buffer) : Checked Text := do
  if b.isNew then return Ex.quoted b.displayName ++ " [New]".toList
  else
    let text ← toText b
    return Ex.quoted b.displayName ++ ' ' :: Ex.sizeText b.lineCount (Text.byteSize text)

/-- A buffer that was gone to. -/
def positionMessage (b : Buffer) : Checked Text := do
  let line ← add b.current 1
  return Ex.quoted b.displayName ++ (if b.modified then " [Modified]" else "").toList ++
    " line ".toList ++ Text.ofNat line ++ " of ".toList ++ Text.ofNat b.lineCount

/-! ## Files -/

/-- Writes the current buffer to its own path. -/
def writeCurrent : Guarded (Editor σ) Text := do
  let new := if (← currentBuffer).isNew then " [New]" else ""
  let size ← writeOwn h
  let b ← currentBuffer
  return Ex.quoted b.displayName ++ new.toList ++ ' ' :: Ex.sizeText b.lineCount size ++
    " written".toList

/-- Gives the current buffer a path. -/
def setPath (path : Path) : Guarded (Editor σ) Unit := do
  putBuffer { ← currentBuffer with path := some path }

/-- `:w` -/
def write (typed : Option Path) : Guarded (Editor σ) Text := do
  match typed with
  | none => writeCurrent h
  | some typed =>
    let target ← total (EditorM.resolve h typed)
    let b ← currentBuffer
    if b.path.any fun own => !Path.same own target then
      let size ← writeTo h target
      return Ex.quoted target ++ ' ' :: Ex.sizeText b.lineCount size ++ " written".toList
    else
      setPath target
      writeCurrent h

/-- The typed path, resolved, or that of the buffer. -/
def pathOrOwn (typed : Option Path) : Guarded (Editor σ) Path := do
  match typed with
  | some typed => total (EditorM.resolve h typed)
  | none =>
    match (← currentBuffer).path with
    | some path => return path
    | none => throw .noFileName

/-- `:e` -/
def edit (typed : Option Path) (force : Bool) : Guarded (Editor σ) ExOutcome := do
  let target ← pathOrOwn h typed
  let b ← currentBuffer
  if b.path.any (Path.same · target) then
    if b.modified && !force then throw (.unsavedChanges b.displayName)
    let reloaded ← load h target
    putBuffer reloaded
  else openPath h target
  let b ← currentBuffer
  return { col := b.home, message := some (← loadMessage b) }

/-- The lines that `:r` reads, and what it has to say. -/
def readLines : ReadSource → Guarded (Editor σ) (List Text × Option Text)
  | .file typed => do
    let path ← pathOrOwn h typed
    match ← total (EditorM.askOrFail (h.load path)) with
    | none => throw (.cannotOpen path)
    | some text =>
      let lines ← (if text.isEmpty then pure [] else do return (← ofText none text).lines :
        Checked (List Text))
      return (lines, some (Ex.quoted path ++ ' ' :: Ex.sizeText lines.length (Text.byteSize text)))
  | .shell command => do return (← total (EditorM.shellLines h command []), none)

/-- `:r` -/
def read (range : Range) (source : ReadSource) : Guarded (Editor σ) ExOutcome := do
  let (lines, message) ← readLines h source
  let s ← spanOf range
  putBuffer (← appendLines (← currentBuffer) s.last lines)
  return { col := (← currentBuffer).home, message }

/-! ## Filters -/

/-- Pipes the lines of a span through a shell command. -/
def filterLines (s : LineSpan) (command : Text) : Guarded (Editor σ) Nat := do
  onCurrent (checkSpan s)
  let stdin := Text.join ['\n'] (← linesOf (← currentBuffer) s) ++ ['\n']
  let lines ← total (EditorM.shellLines h command stdin)
  let b ← replaceLines (← currentBuffer) s lines
  putBuffer (← goTo b s.first)
  return lines.length

/-- `:!` -/
def filter (range : Range) (command : Text) (col : Nat) : Guarded (Editor σ) ExOutcome := do
  if range.isImplicit then
    let lines ← total (EditorM.shellLines h command [])
    return { col, message := if lines.isEmpty then none else some (Text.join ['\n'] lines) }
  else
    let s ← spanOf range
    let _ ← filterLines h s command
    let size ← spanSize s
    return { col := (← currentBuffer).home, message := lineReport size "lines filtered" }

/-! ## Patterns and keys -/

/-- `:s` -/
def substitute (range : Range) (pattern replacement : Text) (flags : SubFlags) :
    Guarded (Editor σ) ExOutcome := do
  let s ← spanOf range
  let count ← onCurrent (Bounded.substitute s pattern replacement flags (← get).options)
  modify fun e => { e with lastSubstitute := some { pattern, replacement, flags } }
  let b ← currentBuffer
  if count = 0 then throw (.patternNotFound (b.lastSearch.getD pattern))
  else if flags.countOnly then return { col := b.home, message := some (Ex.countMessage count) }
  else return { col := b.home, message := lineReport count "substitutions" }

/-- What `:g` does on the current line. -/
def globalEdit (action : GlobalAction) (o : Options) : Guarded Desk Unit := do
  let line := (← buffer).currentSpan
  match action with
  | .delete => let _ ← deleteLines line none
  | .substitute pattern replacement flags =>
    let _ ← Bounded.substitute line pattern replacement flags o
  | .normal keys => let _ ← runKeys keys 0

/-- `:g` -/
def global (range : Range) (pattern : Text) (inverse : Bool) (action : GlobalAction) :
    Guarded (Editor σ) ExOutcome := do
  let s ← resolveOr range wholeSpan
  let before := (← currentBuffer).lineCount
  if let .substitute pattern replacement flags := action then
    modify fun e => { e with lastSubstitute := some { pattern, replacement, flags } }
  let o := (← get).options
  let _ ← onCurrent (Bounded.global s pattern inverse o (globalEdit action o))
  let b ← currentBuffer
  return { col := b.home, message := lineReport (before - b.lineCount) "fewer lines" }

/-- Carries out keys on the `n` lines from line `i` on, as far as they exist. -/
def normalOn (keys : Text) : Nat → Nat → Nat → Guarded (Editor σ) Nat
  | 0, _, col => return col
  | n + 1, i, col => do
    let b ← currentBuffer
    if b.lineCount ≤ i then return col
    putBuffer (← goTo b i)
    let outcome ← onCurrent (runKeys keys 0)
    normalOn keys n (← add i 1) outcome.col

/-- `:norm` -/
def normal (range : Range) (keys : Text) (col : Nat) : Guarded (Editor σ) ExOutcome := do
  if range.isImplicit then
    let outcome ← onCurrent (runKeys keys col)
    return { col := outcome.col, message := outcome.message }
  else
    let s ← spanOf range
    return { col := ← normalOn keys s.size s.first col }

/-! ## All commands -/

/-- Goes to the current buffer of another table. -/
def goToBuffer (t : BufferTable) : Guarded (Editor σ) ExOutcome := do
  setTable t
  let b ← currentBuffer
  return { col := b.home, message := some (← positionMessage b) }

/-- Carries out a command with the cursor at column `col`. -/
def run : ExCommand → Nat → Guarded (Editor σ) ExOutcome
  | .goto range, _ => do
    let s ← spanOf range
    putBuffer (← goTo (← currentBuffer) s.last)
    return { col := (← currentBuffer).home }
  | .edit path force, _ => edit h path force
  | .write path _, col => do return { col, message := ← write h path }
  | .writeQuit path, _ => do
    let _ ← write h path
    total Ex.checkSaved
    return Ex.quitOutcome
  | .exit, _ => do
    if (← currentBuffer).modified then
      let _ ← write h none
    total Ex.checkSaved
    return Ex.quitOutcome
  | .quit force, _ => do
    unless force do total Ex.checkSaved
    return Ex.quitOutcome
  | .nextBuffer, _ => do goToBuffer (← nextBuffer (← get).buffers)
  | .previousBuffer, _ => do goToBuffer (← previousBuffer (← get).buffers)
  | .listBuffers, col => do
    let t := (← get).buffers
    return { col, message := some (Text.join ['\n'] (← rowsFrom t.current 0 t.slots)) }
  | .switchBuffer reference, _ => do
    goToBuffer (← total (EditorM.orFail ((← get).buffers.switch reference)))
  | .read range source, _ => read h range source
  | .saveAs path, col => do
    setPath (← total (EditorM.resolve h path))
    return { col, message := ← writeCurrent h }
  | .showRegisters names, col => do
    let _ ← currentBuffer
    return { col, message := some (Ex.registerListing (← get) names) }
  | .setMark range name, col => do
    let s ← spanOf range
    putBuffer (← raise (ExceptT.mk (setMark (← currentBuffer) name s.last)))
    return { col }
  | .delete range register count, _ => do
    let s ← countedSpan range count
    let removed ← onCurrent (deleteLines s register)
    return { col := (← currentBuffer).home, message := lineReport removed "fewer lines" }
  | .yank range register count, col => do
    let s ← countedSpan range count
    let yanked ← onCurrent (yankLines s register)
    return { col, message := lineReport yanked "lines yanked" }
  | .put range register above, _ => do
    let s ← spanOf range
    putBuffer (← goTo (← currentBuffer) s.last)
    let added ← onCurrent (putLines above register 1)
    return { col := (← currentBuffer).home, message := lineReport added "more lines" }
  | .substitute range pattern replacement flags, _ =>
    substitute range pattern replacement flags
  | .repeatSubstitute range flags, _ => do
    match (← get).lastSubstitute with
    | none => throw .noPreviousSubstitute
    | some last => substitute range last.pattern last.replacement (flags.getD last.flags)
  | .global range pattern inverse action, _ => global range pattern inverse action
  | .normal range keys, col => normal range keys col
  | .filter range command, col => filter h range command col
  | .set args, col => do
    let (options, result) := (← get).options.applySet args
    modify fun e => { e with options }
    return { col, message := ← total (EditorM.orFail result) }
  | .atMark mark next otherwise, col => do
    let b ← currentBuffer
    match b.mark? mark with
    | some n =>
      putBuffer (← goTo b n)
      run next col
    | none => run otherwise col
  | .selectRegister name, col => do
    putBuffer ((← currentBuffer).select name)
    return { col }
  | .withRegister name next, col => do
    putBuffer ((← currentBuffer).select name)
    run next col

/-! ## They go as the commands of the editor -/

variable {h : Host σ} {e : Editor σ} {R : α → Editor σ → Prop} {col : Nat}

theorem resolveOr_bind {range : Range} {fallback : Buffer → Checked LineSpan}
    {fallback' : Buffer → LineSpan} {f : LineSpan → Guarded (Editor σ) α}
    {g : LineSpan → EditorM σ α} (he : e.InBounds) (hr : range.InWords)
    (heq : fallback e.buffer = .ok (fallback' e.buffer))
    (hin : (fallback' e.buffer).Within e.buffer)
    (hf : e.buffer.Held → ∀ s, s.Within e.buffer → Mirrors Editor.InBounds (f s) (g s) e R) :
    Mirrors Editor.InBounds (resolveOr range fallback >>= f)
      (ModalEditor.Ex.resolveOr range fallback' >>= g) e R := by
  unfold resolveOr
  simp only [bind_assoc]
  refine readCurrent_bind he fun hheld => ?_
  refine .compute_bind (.of_eq heq) fun _ => ?_
  refine .state_bind ?_
  exact .raise_bind (resolveRange_tries he.fits.buffer hheld hr hin)
    (ModalEditor.Ex.run_resolveOr range fallback' e) he (hf hheld)

theorem currentSpan_within {b : Buffer} (hb : b.Fits) : b.currentSpan.Within b :=
  ⟨Nat.le_refl _, hb.current_lt⟩

theorem spanOf_bind {range : Range} {f : LineSpan → Guarded (Editor σ) α}
    {g : LineSpan → EditorM σ α} (he : e.InBounds) (hr : range.InWords)
    (hf : ∀ s, s.Within e.buffer → Mirrors Editor.InBounds (f s) (g s) e R) :
    Mirrors Editor.InBounds (spanOf range >>= f) (ModalEditor.Ex.spanOf range >>= g) e R :=
  resolveOr_bind he hr rfl (currentSpan_within he.fits.buffer) fun _ => hf

theorem countedSpan_bind {range : Range} {count : Option Nat} {f : LineSpan → Guarded (Editor σ) α}
    {g : LineSpan → EditorM σ α} (he : e.InBounds) (hr : range.InWords)
    (hf : ∀ s, s.Within e.buffer → Mirrors Editor.InBounds (f s) (g s) e R) :
    Mirrors Editor.InBounds (countedSpan range count >>= f)
      (ModalEditor.Ex.countedSpan range count >>= g) e R := by
  unfold countedSpan ModalEditor.Ex.countedSpan
  rw [bind_assoc, bind_assoc]
  refine spanOf_bind he hr fun s hs => ?_
  cases count with
  | none => exact hf s hs
  | some n =>
    have hfits := he.fits.buffer
    have hlast : s.last ≤ e.buffer.lastLine := Nat.le_sub_one_of_lt hs.last_lt
    have hend : e.buffer.lastLine < e.buffer.lines.length := Nat.sub_lt hfits.lines_pos Nat.one_pos
    have hle : s.last ≤ min (s.last + (max n 1 - 1)) e.buffer.lastLine := by omega
    simp only [bind_assoc]
    refine .compute_bind (.of_eq (sub_eq (by omega))) fun _ => ?_
    refine currentBuffer_bind he fun _ => ?_
    refine .compute_bind (.of_eq (lastLine_eq hfits.nonempty)) fun _ => ?_
    refine .compute_bind (.of_eq (span_eq hle)) fun _ => ?_
    exact hf _ ⟨hle, Nat.lt_of_le_of_lt (Nat.min_le_right _ _) hend⟩

/-- A buffer that takes the place of the current one has the cursor on one of its lines. -/
theorem putGoTo_bind {b : Buffer} {n : Nat} {f : PUnit → Guarded (Editor σ) α}
    {g : PUnit → EditorM σ α} {change : Buffer → Buffer} (hb : change e.buffer = b.goTo n)
    (he : e.InBounds) (hfits : b.Fits)
    (hf : (e.setBuffer (b.goTo n)).InBounds →
      Mirrors Editor.InBounds (f ⟨⟩) (g ⟨⟩) (e.setBuffer (b.goTo n)) R) :
    Mirrors Editor.InBounds (liftM (goTo b n) >>= fun b => putBuffer b >>= f)
      (EditorM.modifyBuffer change >>= g) e R :=
  .compute_bind (.of_eq (goTo_eq hfits.nonempty n)) fun _ =>
    putBuffer_bind he hb (hf (inBounds_setBuffer he ((Buffer.goTo_evolves _ n).fits hfits)))

theorem goTo_bind {n : Nat} {f : PUnit → Guarded (Editor σ) α} {g : PUnit → EditorM σ α}
    (he : e.InBounds)
    (hf : (e.setBuffer (e.buffer.goTo n)).InBounds →
      Mirrors Editor.InBounds (f ⟨⟩) (g ⟨⟩) (e.setBuffer (e.buffer.goTo n)) R) :
    Mirrors Editor.InBounds
      (currentBuffer >>= fun b => liftM (goTo b n) >>= fun b => putBuffer b >>= f)
      (EditorM.modifyBuffer (·.goTo n) >>= g) e R :=
  readCurrent_bind he fun _ => putGoTo_bind rfl he he.fits.buffer hf

/-- A command that ends on a line goes to the text of that line. -/
theorem home_mirrors (he : e.InBounds) (message : Option Text) :
    Mirrors Editor.InBounds (do return { col := (← currentBuffer).home, message })
      (do return { col := (← EditorM.buffer).home, message }) e
      fun o _ => ExOutcome.col o < memoryLimit :=
  currentBuffer_bind he fun hheld => .pure he (firstNonBlank_lt hheld _)

/-! ### Files -/

theorem loadMessage_eq (b : Buffer) : loadMessage b = .ok (ModalEditor.Ex.loadMessage b) := by
  unfold loadMessage ModalEditor.Ex.loadMessage
  rw [toText_eq]
  split <;> rfl

theorem positionMessage_eq {b : Buffer} (hb : b.Fits) (hheld : b.Held) :
    positionMessage b = .ok (ModalEditor.Ex.positionMessage b) := by
  unfold positionMessage
  rw [add_eq (hheld.add_one_lt hb.current_lt)]
  rfl

theorem writeCurrent_mirrors (he : e.InBounds) :
    Mirrors Editor.InBounds (writeCurrent h) (ModalEditor.Ex.writeCurrent h) e fun _ _ => True := by
  refine currentBuffer_bind he fun _ => ?_
  refine (writeOwn_mirrors he).bind fun size t _ ht _ => ?_
  exact currentBuffer_bind ht fun _ => .pure ht trivial

theorem setPath_bind {path : Path} {f : PUnit → Guarded (Editor σ) α} {g : PUnit → EditorM σ α}
    (he : e.InBounds)
    (hf : ∀ t : Editor σ, t.InBounds → Mirrors Editor.InBounds (f ⟨⟩) (g ⟨⟩) t R) :
    Mirrors Editor.InBounds (setPath path >>= f) (ModalEditor.Ex.setPath path >>= g) e R := by
  have hfits := he.fits.buffer
  unfold setPath
  simp only [bind_assoc]
  refine readCurrent_bind he fun _ => ?_
  refine putBuffer_bind he rfl ?_
  exact hf _ (inBounds_setBuffer he ⟨hfits.nonempty, hfits.current_lt, hfits.marks⟩)

theorem resolve_bind {typed : Path} {f : Path → Guarded (Editor σ) α} {g : Path → EditorM σ α}
    (he : e.InBounds) (hf : ∀ path, Mirrors Editor.InBounds (f path) (g path) e R) :
    Mirrors Editor.InBounds (total (EditorM.resolve h typed) >>= f)
      (EditorM.resolve h typed >>= g) e R :=
  .still_bind (congrArg Prod.snd (EditorM.run_orFail _ e)) he hf

theorem write_mirrors (typed : Option Path) (he : e.InBounds) :
    Mirrors Editor.InBounds (write h typed) (ModalEditor.Ex.write h typed) e fun _ _ => True := by
  cases typed with
  | none => exact writeCurrent_mirrors he
  | some typed =>
    refine resolve_bind he fun target => ?_
    refine currentBuffer_bind he fun _ => ?_
    refine .ite (fun _ => ?_) fun _ => ?_
    · exact (writeTo_mirrors target he).bind fun size t _ ht _ => .pure ht trivial
    · exact setPath_bind he fun t ht => writeCurrent_mirrors ht

theorem pathOrOwn_mirrors (typed : Option Path) (he : e.InBounds) :
    Mirrors Editor.InBounds (pathOrOwn h typed) (ModalEditor.Ex.pathOrOwn h typed) e
      fun _ _ => True := by
  cases typed with
  | some typed => exact mirrors_total (congrArg Prod.snd (EditorM.run_orFail _ e) ▸ he)
  | none =>
    refine currentBuffer_bind he fun _ => ?_
    cases e.buffer.path with
    | some path => exact .pure he trivial
    | none => exact .throw _ he

theorem edit_mirrors (typed : Option Path) (force : Bool) (he : e.InBounds) :
    Mirrors Editor.InBounds (edit h typed force) (ModalEditor.Ex.edit h typed force) e
      fun o _ => o.col < memoryLimit := by
  have hshow (t : Editor σ) (ht : t.InBounds) : Mirrors Editor.InBounds
      (do
        let b ← currentBuffer
        return { col := b.home, message := some (← loadMessage b) })
      (do
        let b ← EditorM.buffer
        return { col := b.home, message := some (ModalEditor.Ex.loadMessage b) }) t
      fun o _ => ExOutcome.col o < memoryLimit :=
    currentBuffer_bind ht fun hheld => .compute_bind (.of_eq (loadMessage_eq _)) fun _ =>
      .pure ht (firstNonBlank_lt hheld _)
  refine (pathOrOwn_mirrors typed he).bind fun target t _ ht _ => ?_
  refine currentBuffer_bind ht fun _ => ?_
  dsimp only
  by_cases hown : t.buffer.path.any (Path.same · target) = true
  · rw [if_pos hown, if_pos hown]
    refine .ite (fun _ => .throw _ ht) fun _ => ?_
    refine (load_mirrors target ht).bind fun b u _ hu hb => ?_
    refine putBuffer_bind hu rfl ?_
    exact hshow _ (inBounds_setBuffer hu hb)
  · rw [if_neg hown, if_neg hown]
    exact (openPath_mirrors target ht).bind fun _ u _ hu _ => hshow u hu

theorem readLines_mirrors (source : ReadSource) (he : e.InBounds) :
    Mirrors Editor.InBounds (readLines h source) (ModalEditor.Ex.readLines h source) e
      fun _ _ => True := by
  cases source with
  | file typed =>
    refine (pathOrOwn_mirrors typed he).bind fun path t _ ht _ => ?_
    refine ask_bind ht fun text w => ?_
    cases text with
    | none => exact .throw _ (inBounds_world ht w)
    | some text =>
      have hlines : (if text.isEmpty then pure [] else do return (← ofText none text).lines :
          Checked (List Text)) =
          .ok (if text.isEmpty then [] else (Buffer.ofText none text).lines) := by
        rw [ofText_eq]
        exact (apply_ite Except.ok _ _ _).symm
      exact .compute_bind (.of_eq hlines) fun _ => .pure (inBounds_world ht w) trivial
  | shell command => exact shell_bind he fun lines w => .pure (inBounds_world he w) trivial

theorem read_mirrors {range : Range} (hr : range.InWords) (source : ReadSource) (he : e.InBounds) :
    Mirrors Editor.InBounds (read h range source) (ModalEditor.Ex.read h range source) e
      fun o _ => o.col < memoryLimit := by
  refine (readLines_mirrors source he).bind fun (lines, message) t _ ht _ => ?_
  refine spanOf_bind ht hr fun s hs => ?_
  refine readCurrent_bind ht fun hheld => ?_
  have hfits := ht.fits.buffer
  refine .compute_bind (appendLines_gives hfits hheld hs.last_lt lines) fun _ => ?_
  refine putBuffer_bind ht rfl ?_
  exact home_mirrors (inBounds_setBuffer ht ((Buffer.appendLines_evolves _ _ _).fits hfits)) _

/-! ### Filters -/

/-- A span within the buffer passes the check. -/
theorem checkSpan_current_bind {s : LineSpan} {f : PUnit → Guarded (Editor σ) α}
    {g : PUnit → EditorM σ α} (he : e.InBounds) (hs : s.Within e.buffer)
    (hf : Mirrors Editor.InBounds (f ⟨⟩) (g ⟨⟩) e R) :
    Mirrors Editor.InBounds (onCurrent (checkSpan s) >>= f)
      (EditorM.onCurrent (Edit.checkSpan s) >>= g) e R := by
  have hcheck : Mirrors Desk.InBounds (checkSpan s >>= pure) (Edit.checkSpan s >>= pure)
      ⟨e.buffer, e.registers⟩ fun _ _ => True :=
    checkSpan_bind hs.last_lt (.pure (inBounds_desk he) trivial)
  rw [bind_pure, bind_pure] at hcheck
  refine (onCurrent_mirrors he hcheck).bind fun _ t ht _ _ => ?_
  have hpass : ¬ e.buffer.lineCount ≤ s.last := Nat.not_le_of_lt hs.last_lt
  rw [EditorM.run_onCurrent, Edit.run_checkSpan, if_neg hpass] at ht
  obtain rfl : e = t := (Editor.setBuffer_buffer e).symm.trans (congrArg Prod.snd ht)
  exact hf

theorem filterLines_mirrors {s : LineSpan} (command : Text) (he : e.InBounds)
    (hs : s.Within e.buffer) :
    Mirrors Editor.InBounds (filterLines h s command) (ModalEditor.Ex.filterLines h s command) e
      fun _ _ => True := by
  refine checkSpan_current_bind he hs ?_
  refine currentBuffer_bind he fun hheld => ?_
  refine .compute_bind (.of_eq (linesOf_eq hs.ordered hs.last_lt hheld.lines_lt)) fun _ => ?_
  refine shell_bind he fun lines w => ?_
  have hw := inBounds_world he w
  have hfits : e.buffer.Fits := he.fits.buffer
  have hreplaced := (e.buffer.replaceLines_evolves hs.ordered hs.last_lt lines).fits hfits
  refine readCurrent_bind hw fun hheld => ?_
  refine .compute_bind (replaceLines_gives hfits hs.ordered hs.last_lt hheld.lines_lt lines)
    fun _ => ?_
  exact putGoTo_bind rfl hw hreplaced fun hgo => .pure hgo trivial

theorem filter_mirrors {range : Range} (hr : range.InWords) (command : Text)
    (hcol : col < memoryLimit) (he : e.InBounds) :
    Mirrors Editor.InBounds (filter h range command col) (ModalEditor.Ex.filter h range command col)
      e fun o _ => o.col < memoryLimit := by
  refine .ite (fun _ => ?_) fun _ => ?_
  · exact shell_bind he fun lines w => .pure (inBounds_world he w) hcol
  · refine resolveOr_bind he hr rfl (currentSpan_within he.fits.buffer) fun hheld s hs => ?_
    have hsize := spanSize_eq hs.ordered (hheld.add_one_lt hs.last_lt)
    refine (filterLines_mirrors command he hs).bind fun _ t _ ht _ => ?_
    exact .compute_bind (.of_eq hsize) fun _ => home_mirrors ht _

/-! ### Patterns and keys -/

/-- The substitution to repeat is not in any buffer. -/
theorem remember_bind {last : Option LastSubstitute} {f : PUnit → Guarded (Editor σ) α}
    {g : PUnit → EditorM σ α} (he : e.InBounds)
    (hf : ({ e with lastSubstitute := last } : Editor σ).InBounds →
      Mirrors Editor.InBounds (f ⟨⟩) (g ⟨⟩) { e with lastSubstitute := last } R) :
    Mirrors Editor.InBounds ((modify fun e => { e with lastSubstitute := last }) >>= f)
      ((modify fun e => { e with lastSubstitute := last }) >>= g) e R :=
  hf ⟨he.fits, he.numbered, he.registers⟩

theorem substitute_mirrors {range : Range} (hr : range.InWords) (pattern replacement : Text)
    (flags : SubFlags) (he : e.InBounds) :
    Mirrors Editor.InBounds (substitute range pattern replacement flags)
      (ModalEditor.Ex.substitute range pattern replacement flags) e
      fun o _ => o.col < memoryLimit := by
  refine spanOf_bind he hr fun s hs => ?_
  refine .get_bind ?_
  have hdone := Bounded.substitute_mirrors (inBounds_desk he) hs pattern replacement flags e.options
  refine (onCurrent_mirrors he hdone).bind fun count t _ ht _ => ?_
  refine remember_bind ht fun ht => ?_
  refine currentBuffer_bind ht fun hheld => ?_
  have hhome := firstNonBlank_lt hheld t.buffer.current
  refine .ite (fun _ => .throw _ ht) fun _ => ?_
  exact .ite (fun _ => .pure ht hhome) fun _ => .pure ht hhome

theorem globalEdit_mirrors (action : GlobalAction) (o : Options) {d : Desk} (hd : d.InBounds) :
    Mirrors Desk.InBounds (globalEdit action o) (ModalEditor.Ex.globalEdit action o) d
      fun _ _ => True := by
  have hline := currentSpan_within hd.fits
  refine buffer_bind fun _ => ?_
  cases action with
  | delete => exact (deleteLines_mirrors hd hline none).bind fun _ t _ ht _ => .pure ht trivial
  | substitute pattern replacement flags =>
    exact (Bounded.substitute_mirrors hd hline pattern replacement flags o).bind
      fun _ t _ ht _ => .pure ht trivial
  | normal keys =>
    exact (runKeys_mirrors hd keys memoryLimit_pos).bind fun _ t _ ht _ => .pure ht trivial

theorem global_mirrors {range : Range} (hr : range.InWords) (pattern : Text) (inverse : Bool)
    (action : GlobalAction) (he : e.InBounds) :
    Mirrors Editor.InBounds (global range pattern inverse action)
      (ModalEditor.Ex.global range pattern inverse action) e fun o _ => o.col < memoryLimit := by
  have hfits := he.fits.buffer
  have hwhole : e.buffer.wholeSpan.Within e.buffer :=
    ⟨Nat.zero_le _, Nat.sub_lt hfits.lines_pos Nat.one_pos⟩
  refine resolveOr_bind he hr (wholeSpan_eq hfits.nonempty) hwhole fun _ s hs => ?_
  refine currentBuffer_bind he fun _ => ?_
  have hvisit (t : Editor σ) (ht : t.InBounds) (hsame : t.buffer = e.buffer) :
      Mirrors Editor.InBounds
        (do
          let o := (← get).options
          let _ ← onCurrent (Bounded.global s pattern inverse o (globalEdit action o))
          let b ← currentBuffer
          return ⟨b.home, lineReport (e.buffer.lineCount - b.lineCount) "fewer lines", false⟩)
        (do
          let o := (← get).options
          let _ ← EditorM.onCurrent
            (Edit.global s pattern inverse o (ModalEditor.Ex.globalEdit action o))
          let b ← EditorM.buffer
          return ⟨b.home, lineReport (e.buffer.lineCount - b.lineCount) "fewer lines", false⟩) t
        fun o _ => ExOutcome.col o < memoryLimit := by
    refine .get_bind ?_
    have hdone := Bounded.global_mirrors (fun d hd => globalEdit_mirrors action t.options hd)
      (inBounds_desk ht) (hsame ▸ hs.last_lt) pattern inverse t.options
    refine (onCurrent_mirrors ht hdone).bind fun _ u _ hu _ => ?_
    exact currentBuffer_bind hu fun hheld => .pure hu (firstNonBlank_lt hheld _)
  cases action with
  | substitute pattern replacement flags => exact remember_bind he fun ht => hvisit _ ht rfl
  | delete => exact hvisit e he rfl
  | normal keys => exact hvisit e he rfl

theorem normalOn_mirrors (keys : Text) (n i : Nat) (hcol : col < memoryLimit) (he : e.InBounds) :
    Mirrors Editor.InBounds (normalOn keys n i col) (ModalEditor.Ex.normalOn keys n i col) e
      fun c _ => c < memoryLimit := by
  induction n generalizing i col e with
  | zero => exact .pure he hcol
  | succ n ih =>
    refine currentBuffer_bind he fun hheld => ?_
    refine .ite (fun _ => .pure he hcol) fun hin => ?_
    refine putGoTo_bind rfl he he.fits.buffer fun hgo => ?_
    have hkeys := runKeys_mirrors (inBounds_desk hgo) keys memoryLimit_pos
    refine (onCurrent_mirrors hgo hkeys).bind fun outcome t _ ht houtcome => ?_
    refine .compute_bind (.of_eq (add_eq (hheld.add_one_lt (Nat.lt_of_not_le hin)))) fun _ => ?_
    exact ih _ houtcome ht

theorem normal_mirrors {range : Range} (hr : range.InWords) (keys : Text)
    (hcol : col < memoryLimit) (he : e.InBounds) :
    Mirrors Editor.InBounds (normal range keys col) (ModalEditor.Ex.normal range keys col) e
      fun o _ => o.col < memoryLimit := by
  refine .ite (fun _ => ?_) fun _ => ?_
  · have hkeys := runKeys_mirrors (inBounds_desk he) keys hcol
    exact (onCurrent_mirrors he hkeys).bind fun outcome t _ ht houtcome => .pure ht houtcome
  · refine spanOf_bind he hr fun s _ => ?_
    exact (normalOn_mirrors keys _ _ hcol he).bind fun c t _ ht hc => .pure ht hc

/-! ### All commands -/

theorem goToBuffer_mirrors {place : Nat} {change : BufferTable → BufferTable} (he : e.InBounds)
    (hplace : place < e.buffers.slots.length)
    (hchange : change e.buffers = { e.buffers with current := place }) :
    Mirrors Editor.InBounds (goToBuffer { e.buffers with current := place })
      (ModalEditor.Ex.goToBuffer change) e fun o _ => o.col < memoryLimit := by
  have ht : ({ e with buffers := change e.buffers } : Editor σ).InBounds :=
    hchange ▸ ⟨⟨hplace, he.fits.buffers⟩, he.numbered, he.registers⟩
  have hthere : Mirrors Editor.InBounds
      (do
        let b ← currentBuffer
        return { col := b.home, message := some (← positionMessage b) })
      (do
        let b ← EditorM.buffer
        return { col := b.home, message := some (ModalEditor.Ex.positionMessage b) })
      { e with buffers := change e.buffers } fun o _ => ExOutcome.col o < memoryLimit :=
    currentBuffer_bind ht fun hheld =>
      .compute_bind (.of_eq (positionMessage_eq ht.fits.buffer hheld)) fun _ =>
        .pure ht (firstNonBlank_lt hheld _)
  rw [← hchange]
  exact hthere

/-- A command that ends the session unless a buffer has unsaved changes. -/
theorem quit_mirrors (he : e.InBounds) :
    Mirrors Editor.InBounds
      (do
        total ModalEditor.Ex.checkSaved
        return ModalEditor.Ex.quitOutcome)
      (do
        ModalEditor.Ex.checkSaved
        return ModalEditor.Ex.quitOutcome) e fun o _ => ExOutcome.col o < memoryLimit := by
  refine .still_bind ?_ he fun _ => .pure he memoryLimit_pos
  unfold ModalEditor.Ex.checkSaved
  simp only [run_bind, run_get]
  split <;> rfl

theorem select_bind {name : Char} {f : PUnit → Guarded (Editor σ) α} {g : PUnit → EditorM σ α}
    (he : e.InBounds)
    (hf : (e.setBuffer (e.buffer.select name)).InBounds →
      Mirrors Editor.InBounds (f ⟨⟩) (g ⟨⟩) (e.setBuffer (e.buffer.select name)) R) :
    Mirrors Editor.InBounds (currentBuffer >>= fun b => putBuffer (b.select name) >>= f)
      (EditorM.modifyBuffer (·.select name) >>= g) e R := by
  refine readCurrent_bind he fun _ => ?_
  refine putBuffer_bind he rfl ?_
  exact hf (inBounds_setBuffer he ((Buffer.selected_evolves _ _).fits he.fits.buffer))

theorem switchBuffer_mirrors (reference : Text) (col : Nat) (he : e.InBounds) :
    Mirrors Editor.InBounds (run h (.switchBuffer reference) col)
      (ModalEditor.Ex.run h (.switchBuffer reference) col) e fun o _ => o.col < memoryLimit := by
  refine .get_bind ?_
  have hswitch : Mirrors Editor.InBounds (total (EditorM.orFail (e.buffers.switch reference)))
      (EditorM.orFail (e.buffers.switch reference)) e fun _ _ => True :=
    mirrors_total (by rw [EditorM.run_orFail]; exact he)
  refine hswitch.bind fun t u ht _ _ => ?_
  rw [EditorM.run_orFail] at ht
  obtain ⟨hok, rfl⟩ := Prod.mk.inj ht
  obtain ⟨place, hplace, rfl⟩ := BufferTable.switch_ok hok
  exact goToBuffer_mirrors he hplace rfl

theorem setMark_mirrors {range : Range} (hc : range.InWords) (name : Char)
    (hcol : col < memoryLimit) (he : e.InBounds) :
    Mirrors Editor.InBounds (run h (.setMark range name) col)
      (ModalEditor.Ex.run h (.setMark range name) col) e fun o _ => o.col < memoryLimit := by
  refine spanOf_bind he hc fun s hs => ?_
  refine currentBuffer_bind he fun hheld => ?_
  have hmark := setMark_eq e.buffer name (hheld.add_one_lt hs.last_lt)
  refine .raise_bind (P := fun b => b.Fits) (.inl ⟨hmark, fun b hb => ?_⟩)
    (EditorM.run_orFail _ e) he fun b hb => ?_
  · exact (Buffer.setMark_evolves hb).fits he.fits.buffer
  · refine putBuffer_bind he rfl ?_
    exact .pure (inBounds_setBuffer he hb) hcol

/-- The options are set before the answer says what could not be set. -/
theorem set_mirrors (args : Text) (hcol : col < memoryLimit) (he : e.InBounds) :
    Mirrors Editor.InBounds (run h (.set args) col) (ModalEditor.Ex.run h (.set args) col) e
      fun o _ => o.col < memoryLimit := by
  refine .get_bind ?_
  have hset : ({ e with options := (e.options.applySet args).1 } : Editor σ).InBounds :=
    ⟨he.fits, he.numbered, he.registers⟩
  change Mirrors Editor.InBounds (total (EditorM.orFail (e.options.applySet args).2) >>= _)
    (EditorM.orFail (e.options.applySet args).2 >>= _)
    { e with options := (e.options.applySet args).1 } _
  exact .still_bind (congrArg Prod.snd (EditorM.run_orFail _ _)) hset fun _ => .pure hset hcol

theorem run_mirrors (c : ExCommand) (hc : c.InWords) (hcol : col < memoryLimit) (he : e.InBounds) :
    Mirrors Editor.InBounds (run h c col) (ModalEditor.Ex.run h c col) e
      fun o _ => o.col < memoryLimit := by
  induction c generalizing e with
  | goto range => exact spanOf_bind he hc fun s _ => goTo_bind he fun ht => home_mirrors ht none
  | edit path force => exact edit_mirrors path force he
  | write path => exact (write_mirrors path he).bind fun _ t _ ht _ => .pure ht hcol
  | writeQuit path => exact (write_mirrors path he).bind fun _ t _ ht _ => quit_mirrors ht
  | exit =>
    refine currentBuffer_bind he fun _ => ?_
    dsimp only
    by_cases hm : e.buffer.modified = true
    · rw [if_pos hm, if_pos hm]
      exact (write_mirrors none he).bind fun _ t _ ht _ => quit_mirrors ht
    · rw [if_neg hm, if_neg hm]
      exact quit_mirrors he
  | quit force =>
    cases force with
    | true => exact .pure he memoryLimit_pos
    | false => exact quit_mirrors he
  | nextBuffer =>
    refine .state_bind ?_
    refine .compute_bind (nextBuffer_gives he.fits) fun _ => ?_
    exact goToBuffer_mirrors he (Nat.mod_lt _ (Nat.zero_lt_of_lt he.fits.current_lt)) rfl
  | previousBuffer =>
    refine .state_bind ?_
    refine .compute_bind (previousBuffer_gives he.fits) fun _ => ?_
    exact goToBuffer_mirrors he (Nat.mod_lt _ (Nat.zero_lt_of_lt he.fits.current_lt)) rfl
  | listBuffers =>
    refine .get_bind ?_
    exact .compute_bind (rowsFrom_gives he.fits.buffers _ _) fun _ => .pure he hcol
  | switchBuffer reference => exact switchBuffer_mirrors reference col he
  | read range source => exact read_mirrors hc source he
  | saveAs path =>
    refine resolve_bind he fun target => ?_
    refine setPath_bind he fun t ht => ?_
    exact (writeCurrent_mirrors ht).bind fun _ u _ hu _ => .pure hu hcol
  | showRegisters names => exact readCurrent_bind he fun _ => .get_bind (.pure he hcol)
  | setMark range name => exact setMark_mirrors hc name hcol he
  | delete range register count =>
    refine countedSpan_bind he hc fun s hs => ?_
    refine (onCurrent_mirrors he (deleteLines_mirrors (inBounds_desk he) hs register)).bind
      fun removed t _ ht _ => ?_
    exact home_mirrors ht _
  | yank range register count =>
    refine countedSpan_bind he hc fun s hs => ?_
    exact (onCurrent_mirrors he (yankLines_mirrors (inBounds_desk he) hs register)).bind
      fun yanked t _ ht _ => .pure ht hcol
  | put range register above =>
    refine spanOf_bind he hc fun s _ => ?_
    refine goTo_bind he fun ht => ?_
    refine (onCurrent_mirrors ht (putLines_mirrors (inBounds_desk ht) above register 1)).bind
      fun added t _ ht _ => ?_
    exact home_mirrors ht _
  | substitute range pattern replacement flags =>
    exact substitute_mirrors hc pattern replacement flags he
  | repeatSubstitute range flags =>
    refine .get_bind ?_
    cases e.lastSubstitute with
    | none => exact .throw _ he
    | some last => exact substitute_mirrors hc _ _ _ he
  | global range pattern inverse action => exact global_mirrors hc pattern inverse action he
  | normal range keys => exact normal_mirrors hc keys hcol he
  | filter range command => exact filter_mirrors hc command hcol he
  | set args => exact set_mirrors args hcol he
  | atMark mark next otherwise ihNext ihOtherwise =>
    obtain ⟨hnext, hotherwise⟩ := hc
    refine currentBuffer_bind he fun _ => ?_
    cases e.buffer.mark? mark with
    | some n => exact putGoTo_bind rfl he he.fits.buffer fun hgo => ihNext hnext hgo
    | none => exact ihOtherwise hotherwise he
  | selectRegister name => exact select_bind he fun ht => .pure ht hcol
  | withRegister name next ih => exact select_bind he fun ht => ih hc ht

end ModalEditor.Bounded.Ex
