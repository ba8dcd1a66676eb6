import ModalEditor.Proofs.Ex.Delimited
import ModalEditor.Proofs.Text.Numeral

/-!
# Commands with a name, a register and a count

A command that is written out as a name with a register and a count behind it is read as that command. Its
name ends where no letter follows (`ExCommand.readCommand_named`), and unless it starts like a substitution
or a global command it is tried as nothing else. The blank in front of the arguments is trimmed, and a
letter is told from a digit, so a register and a count are read apart
(`ExCommand.readRegisterAndCount_arguments`).
-/

namespace ModalEditor

namespace Text

theorem trimStart_eq_self {t : Text} (ht : ∀ c ∈ t.head?, isBlank c = false) :
    trimStart t = t := by
  cases t with
  | nil => rfl
  | cons c t => exact trimStart_cons (ht c rfl) t

/-- Nothing is trimmed from a text between two characters that are not blank. -/
theorem trim_eq_self {t : Text} (hhead : ∀ c ∈ t.head?, isBlank c = false)
    (hlast : ∀ c ∈ t.getLast?, isBlank c = false) : trim t = t := by
  have hend : t.reverse.dropWhile isBlank = t.reverse := by
    refine trimStart_eq_self ?_
    rw [List.head?_reverse]
    exact hlast
  rw [trim, trimStart_eq_self hhead, trimEnd, hend, List.reverse_reverse]

/-- A blank in front is trimmed, and nothing more if no blank follows and none is at the end. -/
theorem trim_blank {c : Char} {t : Text} (hc : isBlank c = false)
    (hlast : ∀ d ∈ (' ' :: c :: t).getLast?, isBlank d = false) :
    trim (' ' :: c :: t) = c :: t := by
  have hstart : trimStart (' ' :: c :: t) = trimStart (c :: t) :=
    List.dropWhile_cons_of_pos (by decide)
  rw [trim, hstart]
  refine trim_eq_self (fun d hd => ?_) fun d hd => hlast d ?_
  · cases hd
    exact hc
  · rwa [List.getLast?_cons_cons]

end Text

theorem not_isBlank_of_isDigit {c : Char} (hc : isDigit c = true) : isBlank c = false := by
  rw [isDigit_iff] at hc
  simp [isBlank, blankRanges]
  omega

namespace ExCommand

/-! ## A register and a count -/

/-- A register and a count as they stand behind the name of a command. -/
def arguments (register : Option Char) (count : Option Nat) : Text :=
  (register.elim [] fun x => [' ', x]) ++ count.elim [] fun n => ' ' :: Text.ofNat n

section Register

variable {register : Option Char} (hregister : ∀ x ∈ register, x = '"' ∨ isLetter x = true)

include hregister

theorem isBlank_register : ∀ x ∈ register, isBlank x = false := by
  intro x hx
  rcases hregister x hx with rfl | hletter
  · rfl
  · exact not_isBlank_of_isLetter hletter

theorem isDigit_register : ∀ x ∈ register, isDigit x = false := by
  intro x hx
  rcases hregister x hx with rfl | hletter
  · rfl
  · exact not_isDigit_of_isLetter hletter

theorem isName_register : ∀ x ∈ register, Register.isName x = true := by
  intro x hx
  rcases hregister x hx with rfl | hletter
  · rfl
  · simp [Register.isName, hletter]

end Register

section Arguments

variable {register : Option Char} {count : Option Nat}

theorem readRegisterAndCount_register {x : Char} (hdigit : isDigit x = false)
    (hname : Register.isName x = true) : readRegisterAndCount [x] = .ok (some x, none) := by
  rw [readRegisterAndCount]
  dsimp only
  rw [if_neg (by simp [hdigit]), if_pos hname]
  rfl

section Counts

variable {n : Nat} {d : Char} {digits : Text} (hd : isDigit d = true)
  (hsplit : Text.splitNumber? (d :: digits) = some (n + 1, []))

include hd hsplit

theorem readRegisterAndCount_count :
    readRegisterAndCount (d :: digits) = .ok (none, some (n + 1)) := by
  rw [readRegisterAndCount]
  dsimp only
  rw [if_pos hd, pure_bind]
  dsimp only [List.isEmpty_cons]
  rw [hsplit]
  rfl

theorem readRegisterAndCount_both {x : Char} (hdigit : isDigit x = false)
    (hname : Register.isName x = true) :
    readRegisterAndCount (x :: ' ' :: d :: digits) = .ok (some x, some (n + 1)) := by
  have hrest : Text.trimStart (' ' :: d :: digits) = d :: digits :=
    Text.trimStart_cons (not_isBlank_of_isDigit hd) digits
  rw [readRegisterAndCount]
  dsimp only
  rw [if_neg (by simp [hdigit]), if_pos hname, hrest, pure_bind]
  dsimp only [List.isEmpty_cons]
  rw [hsplit]
  rfl

end Counts

theorem isBlank_ofNat (n : Nat) : ∀ c ∈ Text.ofNat n, isBlank c = false := fun c hc =>
  not_isBlank_of_isDigit (Text.isDigit_ofNat n c hc)

theorem getLast?_arguments (hregister : ∀ x ∈ register, isBlank x = false) (count : Option Nat) :
    ∀ c ∈ (arguments register count).getLast?, isBlank c = false := by
  intro c hc
  rw [arguments, List.getLast?_append] at hc
  cases count with
  | none =>
    cases register with
    | none => cases hc
    | some x =>
      cases hc
      exact hregister x rfl
  | some n =>
    have hlast : (' ' :: Text.ofNat n).getLast? = (Text.ofNat n).getLast? :=
      List.getLast?_append_of_ne_nil [' '] (Text.ofNat_ne_nil n)
    have hd := List.getLast?_eq_some_getLast (Text.ofNat_ne_nil n)
    rw [Option.elim_some, hlast, hd, Option.some_or] at hc
    cases hc
    exact isBlank_ofNat n _ (List.getLast_mem _)

/-- A register that is no number is read back, and so is a count behind it. -/
theorem readRegisterAndCount_arguments
    (hregister : ∀ x ∈ register, x = '"' ∨ isLetter x = true)
    (hcount : ∀ n ∈ count, 0 < n ∧ n ≤ maxCount) :
    readRegisterAndCount (Text.trim (arguments register count)) = .ok (register, count) := by
  have hblank := isBlank_register hregister
  have hdigit := isDigit_register hregister
  have hname := isName_register hregister
  have hlast := getLast?_arguments hblank count
  cases count with
  | none =>
    cases register with
    | none => rfl
    | some x =>
      have htrim : Text.trim [' ', x] = [x] := Text.trim_blank (hblank x rfl) hlast
      change readRegisterAndCount (Text.trim [' ', x]) = _
      rw [htrim]
      exact readRegisterAndCount_register (hdigit x rfl) (hname x rfl)
  | some n =>
    obtain ⟨hpos, hmax⟩ := hcount n rfl
    obtain ⟨k, rfl⟩ : ∃ k, n = k + 1 := ⟨n - 1, by omega⟩
    have hsplit : Text.splitNumber? (Text.ofNat (k + 1)) = some (k + 1, []) := by
      have hends : NormalCommand.EndsCount [] := by rintro c ⟨⟩
      have hread := Text.splitNumber?_ofNat hmax hends
      rwa [List.append_nil] at hread
    have hdigits := Text.isDigit_ofNat (k + 1)
    unfold arguments at hlast ⊢
    obtain ⟨d, digits, hwritten⟩ := List.exists_cons_of_ne_nil (Text.ofNat_ne_nil (k + 1))
    rw [Option.elim_some, hwritten] at hlast ⊢
    rw [hwritten] at hsplit hdigits
    have hd := hdigits d List.mem_cons_self
    cases register with
    | none =>
      change readRegisterAndCount (Text.trim (' ' :: d :: digits)) = _
      rw [Text.trim_blank (not_isBlank_of_isDigit hd) hlast]
      exact readRegisterAndCount_count hd hsplit
    | some x =>
      have htrim : Text.trim (' ' :: x :: ' ' :: d :: digits) = x :: ' ' :: d :: digits :=
        Text.trim_blank (hblank x rfl) hlast
      change readRegisterAndCount (Text.trim (' ' :: x :: ' ' :: d :: digits)) = _
      rw [htrim]
      exact readRegisterAndCount_both hd hsplit (hdigit x rfl) (hname x rfl)

end Arguments

/-! ## Names -/

theorem after?_of_ne {c d : Char} (h : c ≠ d) (start t : Text) :
    Text.after? (d :: start) (c :: t) = none := by
  simp [Text.after?, List.isPrefixOf?, h.symm]

theorem substituteBody?_of_ne {c : Char} (hs : c ≠ 's') (t : Text) :
    substituteBody? (c :: t) = none := by
  have hlong : Text.after? "substitute".toList (c :: t) = none := after?_of_ne hs _ _
  rw [substituteBody?, hlong, after?_of_ne hs]
  rfl

theorem globalBody?_of_ne {c : Char} (hg : c ≠ 'g') (hv : c ≠ 'v') (t : Text) :
    globalBody? (c :: t) = none := by
  have hnames : globalNames.findSome? (fun entry =>
      (Text.after? entry.1.toList (c :: t)).map fun rest => (entry.2, rest)) = none := by
    rw [List.findSome?_eq_none_iff]
    intro entry hentry
    have hfirst : ∃ d start, entry.1.toList = d :: start ∧ c ≠ d := by
      simp only [globalNames, List.mem_cons, List.not_mem_nil, or_false] at hentry
      rcases hentry with rfl | rfl | rfl | rfl
      · exact ⟨'g', _, rfl, hg⟩
      · exact ⟨'v', _, rfl, hv⟩
      · exact ⟨'g', _, rfl, hg⟩
      · exact ⟨'v', _, rfl, hv⟩
    obtain ⟨d, start, hname, hne⟩ := hfirst
    rw [hname, after?_of_ne hne]
    rfl
  unfold globalBody?
  exact congrArg (· >>= _) hnames

/-- A command by its name, which a `!` may follow. -/
def named (name : Text) (bang : Bool) (args : Text) : Text :=
  name ++ ((if bang then ['!'] else []) ++ args)

/-- A name ends where no letter follows, and the arguments behind it are trimmed. -/
theorem readCommand_named (range : Range) {c : Char} {name args : Text} (hc : c ∉ ['s', 'g', 'v'])
    (hname : ∀ d ∈ c :: name, isLetter d = true)
    (hargs : ∀ d ∈ args.head?, isLetter d = false ∧ d ≠ '!') (bang : Bool) :
    readCommand range (named (c :: name) bang args) =
      readNamed range (named (c :: name) bang args) (c :: name) bang (Text.trim args) := by
  simp only [List.mem_cons, List.not_mem_nil, or_false, not_or] at hc
  obtain ⟨hs, hg, hv⟩ := hc
  have hletter : isLetter c = true := hname c List.mem_cons_self
  generalize hrest : (if bang then ['!'] else []) ++ args = rest
  have hother : ∀ {d : Char}, isLetter d = false → ∀ t, c :: (name ++ rest) ≠ d :: t := by
    rintro d hd t ⟨⟩
    rw [hletter] at hd
    cases hd
  have hends : ∀ d ∈ rest.head?, isLetter d = false := by
    intro d hd
    cases bang with
    | false =>
      obtain rfl : args = rest := hrest
      exact (hargs d hd).1
    | true =>
      rw [← hrest] at hd
      cases hd
      decide
  have hsplit : (c :: (name ++ rest)).takeWhile isLetter = c :: name ∧
      (c :: (name ++ rest)).dropWhile isLetter = rest := by
    have hstop : rest.takeWhile isLetter = [] ∧ rest.dropWhile isLetter = rest := by
      cases rest with
      | nil => exact ⟨rfl, rfl⟩
      | cons d rest => simp [hends d rfl]
    rw [← List.cons_append, List.takeWhile_append_of_pos hname, List.dropWhile_append_of_pos hname,
      hstop.1, hstop.2, List.append_nil]
    exact ⟨rfl, rfl⟩
  have hline : named (c :: name) bang args = c :: (name ++ rest) := by
    rw [named, hrest, List.cons_append]
  rw [hline, readCommand, substituteBody?_of_ne hs, globalBody?_of_ne hg hv]
  · dsimp only
    rw [hsplit.1, hsplit.2]
    cases bang with
    | false =>
      obtain rfl : args = rest := hrest
      split
      · exact absurd rfl (hargs '!' rfl).2
      · rfl
    | true =>
      obtain rfl : '!' :: args = rest := hrest
      rfl
  · exact List.cons_ne_nil _ _
  · exact hother (by decide)
  · exact hother (by decide)

/-- A line that is a named command with a register and a count. -/
theorem readLine_named (c : Char) (name : Text) (bang : Bool) (count : Option Nat)
    {register : Option Char} (hc : c ∉ ['s', 'g', 'v'])
    (hname : ∀ d ∈ c :: name, isLetter d = true) (hregister : ∀ x ∈ register, isBlank x = false) :
    readLine (named (c :: name) bang (arguments register count)) =
      readNamed .implicit (named (c :: name) bang (arguments register count)) (c :: name) bang
        (Text.trim (arguments register count)) := by
  have hargs : ∀ d ∈ (arguments register count).head?, isLetter d = false ∧ d ≠ '!' := by
    rintro d hd
    have hblank : d = ' ' := by
      cases register <;> cases count <;> cases hd <;> rfl
    rw [hblank]
    decide
  have hletter : isLetter c = true := hname c List.mem_cons_self
  have htrim : Text.trim (named (c :: name) bang (arguments register count)) =
      named (c :: name) bang (arguments register count) := by
    refine Text.trim_eq_self (fun d hd => ?_) fun d hd => ?_
    · cases hd
      exact not_isBlank_of_isLetter hletter
    · rw [named, List.getLast?_append, List.getLast?_append] at hd
      rcases Option.or_eq_some_iff.mp hd with hd | ⟨-, hd⟩
      · rcases Option.or_eq_some_iff.mp hd with hd | ⟨-, hd⟩
        · exact getLast?_arguments hregister count d hd
        · cases bang <;> cases hd
          decide
      · exact not_isBlank_of_isLetter (hname d (List.mem_of_getLast? hd))
  rw [← readCommand_named .implicit hc hname hargs]
  exact readLine_of_letter hletter htrim

section Lines

variable {register : Option Char} (hregister : ∀ x ∈ register, x = '"' ∨ isLetter x = true)

include hregister

/-- A command of one letter that takes a register and a count, read with both behind it. -/
theorem readLine_counted (c : Char) (command : Option Char → Option Nat → ExCommand)
    (hc : c ∉ ['s', 'g', 'v']) (hletter : isLetter c = true)
    (hnamed : ∀ text args, readNamed .implicit text [c] false args =
      (do
        let (register, count) ← readRegisterAndCount args
        return command register count))
    {n : Nat} (hpos : 0 < n) (hmax : n ≤ maxCount) :
    readLine (c :: arguments register (some n)) = .ok (command register (some n)) := by
  have hcount : ∀ m ∈ some n, 0 < m ∧ m ≤ maxCount := by
    rintro m ⟨⟩
    exact ⟨hpos, hmax⟩
  have hline := readLine_named c [] false (some n) hc (by simpa using hletter)
    (isBlank_register hregister)
  rw [hnamed, readRegisterAndCount_arguments hregister hcount] at hline
  exact hline

theorem readLine_put (bang : Bool) :
    readLine (named ['p', 'u'] bang (arguments register none)) =
      .ok (.put .implicit register bang) := by
  have hread : readRegisterAndCount (Text.trim (arguments register none)) = .ok (register, none) :=
    readRegisterAndCount_arguments hregister (by rintro n ⟨⟩)
  have hline := readLine_named 'p' ['u'] bang none (by decide) (List.all_eq_true.mp rfl)
    (isBlank_register hregister)
  have hnamed : ∀ text args, readNamed .implicit text ['p', 'u'] bang args =
      (do
        let (register, _) ← readRegisterAndCount args
        return .put .implicit register (bang || false)) := fun _ _ => rfl
  rw [hnamed, hread, Bool.or_false] at hline
  exact hline

end Lines

/-- No substitution has a letter for its delimiter, so `:set` is read by its name. -/
theorem readCommand_set (range : Range) (args : Text) :
    readCommand range ('s' :: 'e' :: 't' :: ' ' :: args) = .ok (.set (Text.trim (' ' :: args))) := by
  have hletter : isDelimiter 'e' = false := Bool.eq_false_iff.mpr fun hdelim =>
    ne_of_isDelimiter hdelim (c := 'e') (by decide) rfl
  have hlong : Text.after? "substitute".toList ('s' :: 'e' :: 't' :: ' ' :: args) = none := by
    simp [Text.after?, List.isPrefixOf?]
  have hshort : Text.after? ['s'] ('s' :: 'e' :: 't' :: ' ' :: args) =
      some ('e' :: 't' :: ' ' :: args) := by
    simp [Text.after?, List.isPrefixOf?]
  have hhead : ('e' :: 't' :: ' ' :: args).head?.all isDelimiter = false := by
    rw [List.head?_cons, Option.all_some, hletter]
  have hsubstitute : substituteBody? ('s' :: 'e' :: 't' :: ' ' :: args) = none := by
    rw [substituteBody?, hlong, hshort, Option.none_or, Option.bind_eq_bind, Option.bind_some,
      if_neg (Bool.eq_false_iff.mp hhead)]
  have hglobal : globalBody? ('s' :: 'e' :: 't' :: ' ' :: args) = none :=
    globalBody?_of_ne (by decide) (by decide) _
  rw [readCommand, hsubstitute, hglobal]
  · rfl
  all_goals simp

theorem readLine_set (args : Text)
    (htrim : Text.trim ('s' :: 'e' :: 't' :: ' ' :: args) = 's' :: 'e' :: 't' :: ' ' :: args) :
    readLine ('s' :: 'e' :: 't' :: ' ' :: args) = .ok (.set (Text.trim (' ' :: args))) :=
  (readLine_of_letter (by decide) htrim).trans (readCommand_set .implicit args)

end ExCommand

end ModalEditor
