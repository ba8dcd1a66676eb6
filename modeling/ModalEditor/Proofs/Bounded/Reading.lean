import ModalEditor.Proofs.Bounded.Address

/-!
# Bounded reading of commands

How a command line is read, as a bounded computation. Parts of it are cut at delimiters, behind the
name of a command and behind a register. The ranges of a command that was read have offsets that are
signed words (`ExCommand.InWords`).
-/

namespace ModalEditor

/-- The offsets in the ranges of the command are signed words. -/
def ExCommand.InWords : ExCommand → Prop
  | .goto range => range.InWords
  | .read range _ => range.InWords
  | .setMark range _ => range.InWords
  | .delete range _ _ => range.InWords
  | .yank range _ _ => range.InWords
  | .put range _ _ => range.InWords
  | .substitute range _ _ _ => range.InWords
  | .repeatSubstitute range _ => range.InWords
  | .global range _ _ _ => range.InWords
  | .normal range _ => range.InWords
  | .filter range _ => range.InWords
  | .atMark _ next otherwise => next.InWords ∧ otherwise.InWords
  | .withRegister _ next => next.InWords
  | _ => True

namespace Bounded

open ExCommand

/-! ## Substitutions and global commands -/

/-- Pattern, replacement and flags of a substitution. -/
def substituteParts (delim : Char) (t : Text) : Checked (Text × Text × SubFlags) := do
  let (pattern, rest) ← cutUnescaped delim t
  let (replacement, flags) ← cutUnescaped delim rest
  return (Text.unescape delim pattern, Text.unescape delim replacement, .ofText flags)

/-- A substitution after its name. -/
def readSubstitute (range : Range) : Text → Checked ExCommand
  | [] => return .repeatSubstitute range none
  | delim :: rest => do
    let (pattern, replacement, flags) ← substituteParts delim rest
    return .substitute range pattern replacement flags

/-- A substitution as the action of a global command. -/
def substituteAction (t : Text) : Checked (Option GlobalAction) :=
  match substituteBody? t with
  | some (delim :: rest) => do
    let (pattern, replacement, flags) ← substituteParts delim rest
    return some (.substitute pattern replacement flags)
  | _ => return none

/-- The action of a global command. -/
def readGlobalAction (t : Text) : Tried GlobalAction :=
  if isOneOf t ["d", "delete"] then return .delete
  else do
    match ← substituteAction t with
    | some action => return action
    | none =>
      match (normalKeys? "normal" t).or (normalKeys? "norm" t) with
      | some keys => return .normal keys
      | none => throw (.unsupportedCommand t)

/-- A global command from its delimiter on. -/
def readGlobal (range : Range) (inverse : Bool) : Text → Tried ExCommand
  | [] => throw (badArgument "global".toList)
  | delim :: rest => do
    let (pattern, action) ← cutUnescaped delim rest
    return .global range (Text.unescape delim pattern) inverse
      (← readGlobalAction (Text.trim action))

/-! ## Named commands -/

/-- A register and a count. -/
def readRegisterAndCount (args : Text) : Tried (Option Char × Option Nat) := do
  let (register, rest) ← match args with
    | c :: rest =>
      if isDigit c then pure (none, args)
      else if Register.isName c then do
        pure (some c, Text.trimStart (← behind (c :: rest) c.utf8Size))
      else throw (badArgument args)
    | [] => pure (none, [])
  if rest.isEmpty then return (register, none)
  match ← splitNumber rest with
  | some (n + 1, []) => return (register, some (n + 1))
  | _ => throw (badArgument args)

/-- A command with a name. Only commands on registers and the mark in a name cut their text. -/
def readNamed (range : Range) (text name : Text) (bang : Bool) (args : Text) : Tried ExCommand := do
  if name.length = 2 && name.head? = some 'k' && args.isEmpty then
    return .setMark range (← known (readMark (← behind name 1)))
  else if isOneOf name ["d", "delete"] then
    let (register, count) ← readRegisterAndCount args
    return .delete range register count
  else if isOneOf name ["y", "yank"] then
    let (register, count) ← readRegisterAndCount args
    return .yank range register count
  else if isOneOf name ["p", "pu", "put", "P", "Put"] then
    let (register, _) ← readRegisterAndCount args
    return .put range register (bang || name.head? = some 'P')
  else known (ExCommand.readNamed range text name bang args)

/-- A command after its range. -/
def readCommand (range : Range) (text : Text) : Tried ExCommand :=
  match text with
  | [] => return .goto range
  | '!' :: command => return .filter range (Text.trim command)
  | '&' :: flags => return .repeatSubstitute range (repeatFlags flags)
  | _ =>
    match substituteBody? text, globalBody? text with
    | some body, _ => readSubstitute range body
    | none, some (inverse, body) => readGlobal range inverse body
    | none, none => do
      let (name, after) ← cut text (Text.byteSize (text.takeWhile isLetter))
      match after with
      | '!' :: args => readNamed range text name true (Text.trim args)
      | args => readNamed range text name false (Text.trim args)

/-! ## The whole line -/

/-- A command line; every form in front of a command takes two characters. -/
def readFrom : Nat → Text → Tried ExCommand
  | 0, _ => throw .invalidRange
  | fuel + 1, line => do
    let line := Text.trim line
    match splitMark? line with
    | some (mark, rest) =>
      let next ← readFrom fuel rest
      return .atMark mark next (.withRegister mark next)
    | none =>
      match line with
      | '"' :: name :: rest =>
        if !Register.isName name then throw (badArgument line)
        let rest := Text.trimStart rest
        if rest.isEmpty then return .selectRegister name
        else return .withRegister name (← readFrom fuel rest)
      | ['"'] => throw (badArgument line)
      | _ =>
        let (range, rest) ← splitRange line
        readCommand range (Text.trimStart rest)

/-- A command line. -/
def readLine (line : Text) : Tried ExCommand := readFrom (line.length + 1) line

/-! ## They read what the editor reads -/

theorem substituteParts_gives (delim : Char) (t : Text) :
    Gives (substituteParts delim t) (ExCommand.substituteParts delim t) True := by
  unfold substituteParts ExCommand.substituteParts
  refine (cutUnescaped_gives delim t).bind fun _ => ?_
  refine (cutUnescaped_gives delim _).bind fun _ => ?_
  exact .of_eq rfl

theorem readSubstitute_gives {range : Range} (hr : range.InWords) (t : Text) :
    Gives (readSubstitute range t) (ExCommand.readSubstitute range t)
      (ExCommand.readSubstitute range t).InWords := by
  cases t with
  | nil => exact .inl ⟨rfl, hr⟩
  | cons delim rest => exact (substituteParts_gives delim rest).bind fun _ => .inl ⟨rfl, hr⟩

theorem substituteAction_gives (t : Text) :
    Gives (substituteAction t) (substituteAction? t) True := by
  unfold substituteAction substituteAction?
  rcases substituteBody? t with _ | ⟨_ | ⟨delim, rest⟩⟩
  · exact .of_eq rfl
  · exact .of_eq rfl
  · exact (substituteParts_gives delim rest).bind fun _ => .of_eq rfl

theorem readGlobalAction_tries (t : Text) :
    Tries (readGlobalAction t) (ExCommand.readGlobalAction t) fun _ => True := by
  unfold readGlobalAction ExCommand.readGlobalAction
  refine .ite (fun _ => .pure trivial) fun _ => ?_
  refine .compute_bind (substituteAction_gives t) fun _ => ?_
  cases substituteAction? t with
  | some action => exact .pure trivial
  | none =>
    dsimp only
    cases (normalKeys? "normal" t).or (normalKeys? "norm" t) with
    | some keys => exact .pure trivial
    | none => exact .throw _

theorem readGlobal_tries {range : Range} (hr : range.InWords) (inverse : Bool) (t : Text) :
    Tries (readGlobal range inverse t) (ExCommand.readGlobal range inverse t) InWords := by
  cases t with
  | nil => exact .throw _
  | cons delim rest =>
    refine .compute_bind (cutUnescaped_gives delim rest) fun _ => ?_
    exact (readGlobalAction_tries _).bind fun action _ => .pure hr

theorem readRegisterAndCount_tries (args : Text) :
    Tries (readRegisterAndCount args) (ExCommand.readRegisterAndCount args) fun _ => True := by
  unfold readRegisterAndCount ExCommand.readRegisterAndCount
  have hcount (register : Option Char) (rest : Text) : Tries
      (do
        if rest.isEmpty then return (register, none)
        match ← splitNumber rest with
        | some (n + 1, []) => return (register, some (n + 1))
        | _ => throw (badArgument args))
      (do
        if rest.isEmpty then return (register, none)
        match Text.splitNumber? rest with
        | some (n + 1, []) => return (register, some (n + 1))
        | _ => throw (badArgument args))
      fun _ => True := by
    refine .ite (fun _ => .pure trivial) fun _ => ?_
    refine .compute_bind (.of_eq (splitNumber_eq rest)) fun _ => ?_
    rcases Text.splitNumber? rest with _ | ⟨_ | n, _ | ⟨c, rest⟩⟩
    · exact .throw _
    · exact .throw _
    · exact .throw _
    · exact .pure trivial
    · exact .throw _
  cases args with
  | nil => exact hcount none []
  | cons c rest =>
    refine .ite (fun _ => hcount none (c :: rest)) fun _ => ?_
    refine .ite (fun _ => ?_) fun _ => .throw _
    refine .compute_bind (.of_eq (behind_char c rest)) fun _ => ?_
    exact hcount (some c) (Text.trimStart rest)

theorem isOneOf_iff {name : Text} {names : List String} :
    isOneOf name names = true ↔ ∃ n ∈ names, n.toList = name := by
  simp [isOneOf]

theorem readNamed_delete {name : Text} (h : isOneOf name ["d", "delete"] = true) (range : Range)
    (text : Text) (bang : Bool) (args : Text) :
    ExCommand.readNamed range text name bang args = (do
      let (register, count) ← ExCommand.readRegisterAndCount args
      return .delete range register count) := by
  obtain ⟨n, hn, rfl⟩ := isOneOf_iff.mp h
  simp only [List.mem_cons, List.not_mem_nil, or_false] at hn
  rcases hn with rfl | rfl <;> rfl

theorem readNamed_yank {name : Text} (h : isOneOf name ["y", "yank"] = true) (range : Range)
    (text : Text) (bang : Bool) (args : Text) :
    ExCommand.readNamed range text name bang args = (do
      let (register, count) ← ExCommand.readRegisterAndCount args
      return .yank range register count) := by
  obtain ⟨n, hn, rfl⟩ := isOneOf_iff.mp h
  simp only [List.mem_cons, List.not_mem_nil, or_false] at hn
  rcases hn with rfl | rfl <;> rfl

theorem readNamed_put {name : Text} (h : isOneOf name ["p", "pu", "put", "P", "Put"] = true)
    (range : Range) (text : Text) (bang : Bool) (args : Text) :
    ExCommand.readNamed range text name bang args = (do
      let (register, _) ← ExCommand.readRegisterAndCount args
      return .put range register (bang || name.head? = some 'P')) := by
  obtain ⟨n, hn, rfl⟩ := isOneOf_iff.mp h
  simp only [List.mem_cons, List.not_mem_nil, or_false] at hn
  rcases hn with rfl | rfl | rfl | rfl | rfl <;> rfl

theorem readNamed_mark (mark : Char) (range : Range) (text : Text) (bang : Bool) :
    ExCommand.readNamed range text ['k', mark] bang [] = (do
      return .setMark range (← readMark [mark])) := by
  unfold ExCommand.readNamed
  simp [isOneOf]

/-- A command with a name has the range that was read in front of it, or none. -/
theorem readNamed_yields {range : Range} (hr : range.InWords) (text name : Text) (bang : Bool)
    (args : Text) : Yields (ExCommand.readNamed range text name bang args) InWords := by
  -- `e` and `w`
  refine .ite (.ok trivial) (.ite (.ite (.error _) (.ok trivial)) ?_)
  -- from `wq` to `ls`
  iterate 6 refine .ite (.ok trivial) ?_
  refine .ite (.ite (.error _) (.ok trivial)) ?_
  refine .ite (.ok hr) (.ite (.ite (.error _) (.ok trivial)) (.ite (.ok trivial) ?_))
  -- marks, then `d`, `y` and `p`
  iterate 2 refine .ite (.bind fun _ => .ok hr) ?_
  iterate 3 refine .ite (.bind fun _ => .ok hr) ?_
  refine .ite (.ite (.error _) (.ok hr)) ?_
  exact .ite (.ok trivial) (.error _)

theorem readNamed_tries {range : Range} (hr : range.InWords) (text name : Text) (bang : Bool)
    (args : Text) :
    Tries (readNamed range text name bang args)
      (ExCommand.readNamed range text name bang args) InWords := by
  unfold readNamed
  split
  · rename_i hmark
    simp only [Bool.and_eq_true, decide_eq_true_eq, List.isEmpty_iff] at hmark
    obtain ⟨⟨hlength, hhead⟩, rfl⟩ := hmark
    obtain ⟨first, mark, rfl⟩ := List.length_eq_two.mp hlength
    obtain rfl : first = 'k' := by simpa using hhead
    rw [readNamed_mark]
    refine .compute_bind (.of_eq (behind_one (by decide) _)) fun _ => ?_
    exact tries_any.bind fun _ _ => .pure hr
  split
  · rename_i hname
    rw [readNamed_delete hname]
    exact (readRegisterAndCount_tries args).bind fun _ _ => .pure hr
  split
  · rename_i hname
    rw [readNamed_yank hname]
    exact (readRegisterAndCount_tries args).bind fun _ _ => .pure hr
  split
  · rename_i hname
    rw [readNamed_put hname]
    exact (readRegisterAndCount_tries args).bind fun _ _ => .pure hr
  · exact tries_known (readNamed_yields hr text name bang args)

theorem readCommand_tries {range : Range} (hr : range.InWords) (text : Text) :
    Tries (readCommand range text) (ExCommand.readCommand range text) InWords := by
  fun_cases ExCommand.readCommand range text with
  | case1 => exact .pure hr
  | case2 command => exact .pure hr
  | case3 flags => exact .pure hr
  | case4 text body hbody hnil hbang hand =>
    rw [readCommand.eq_4 range text hnil hbang hand]
    simp only [hbody]
    exact .compute (readSubstitute_gives hr body) id
  | case5 text inverse body hglobal hbody hnil hbang hand =>
    rw [readCommand.eq_4 range text hnil hbang hand]
    simp only [hbody, hglobal]
    exact readGlobal_tries hr inverse body
  | case6 text hglobal hbody args hargs hnil hbang hand =>
    rw [readCommand.eq_4 range text hnil hbang hand]
    simp only [hbody, hglobal]
    refine .compute_bind (.of_eq (cut_takeWhile isLetter text)) fun _ => ?_
    rw [hargs]
    exact readNamed_tries hr _ _ true _
  | case7 text hglobal hbody hnil hbang hand hargs =>
    rw [readCommand.eq_4 range text hnil hbang hand]
    simp only [hbody, hglobal]
    refine .compute_bind (.of_eq (cut_takeWhile isLetter text)) fun _ => ?_
    simp only
    exact readNamed_tries hr _ _ false _

theorem readFrom_tries (fuel : Nat) (line : Text) :
    Tries (readFrom fuel line) (ExCommand.readFrom fuel line) InWords := by
  induction fuel generalizing line with
  | zero => exact .throw _
  | succ fuel ih =>
    unfold readFrom ExCommand.readFrom
    dsimp only
    generalize Text.trim line = line
    cases splitMark? line with
    | some r => exact (ih r.2).bind fun next hnext => .pure ⟨hnext, hnext⟩
    | none =>
      have hread : Tries (do
          let (range, rest) ← splitRange line
          readCommand range (Text.trimStart rest))
          (ExCommand.readCommand (Range.split line).1 (Text.trimStart (Range.split line).2))
          InWords :=
        .compute_bind (splitRange_gives line) fun _ => readCommand_tries (Range.split_inWords line) _
      dsimp only
      split
      · refine .ite (fun _ => .throw _) fun _ => ?_
        refine .ite (fun _ => .pure trivial) fun _ => ?_
        exact (ih _).bind fun next hnext => .pure hnext
      · exact .throw _
      · simpa only using hread

theorem readLine_tries (line : Text) :
    Tries (readLine line) (ExCommand.readLine line) InWords := readFrom_tries _ line

end Bounded
end ModalEditor
