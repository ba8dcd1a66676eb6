import ModalEditor.Host.Memory
import ModalEditor.Proofs.Normal.Completion
import ModalEditor.Proofs.Session.Evolution

/-!
# Pending keys

A session in normal mode keeps the keys that are the start of a command until they are one. Because
a reading is right about the keys that are still missing, the session never keeps keys that nothing
completes, and never drops keys that something would have completed.

The invariant is that pending keys are the start of a command. It holds in all modes, as only keys
in normal mode change them.
-/

namespace ModalEditor.Session

variable {σ : Type} {h : Host σ}

/-- The pending keys are the start of a command. -/
def Waits (s : Session σ) : Prop := NormalCommand.read s.pending = .incomplete

theorem waits_of_nil {s : Session σ} (hs : s.pending = []) : s.Waits := by
  rw [Waits, hs]
  rfl

theorem Waits.typeNormal {s : Session σ} (hs : s.Waits) (c : Char) :
    (s.typeNormal c).1.Waits := by
  unfold Session.typeNormal
  split
  · exact hs
  dsimp only
  split
  · assumption
  · exact waits_of_nil rfl
  · exact waits_of_nil (runNormal_pending _ _)

theorem Waits.normalKey {s : Session σ} (hs : s.Waits) (key : Key) :
    (s.normalKey key).1.Waits := by
  rcases normalKey_cases s key with ⟨c, hkey⟩ | hkey | hkey <;> rw [hkey]
  · exact hs.typeNormal c
  · exact waits_of_nil rfl
  · exact hs

theorem commandKey_pending (s : Session σ) (key : Key) :
    (s.commandKey h key).1.pending = s.pending := by
  cases key with
  | enter =>
    simp only [commandKey]
    split
    · rfl
    · exact runLine_pending _ _
  | _ => rfl

theorem Waits.press {s : Session σ} (hs : s.Waits) (key : Key) : (s.press h key).1.Waits := by
  unfold Session.press
  cases s.mode with
  | normal => exact hs.normalKey key
  | insert =>
    dsimp only
    rwa [Waits, insertKey_pending]
  | commandLine =>
    dsimp only
    rwa [Waits, commandKey_pending]

theorem Waits.after {s : Session σ} (hs : s.Waits) (keys : List Key) : (s.after h keys).Waits :=
  after_induction (P := Waits) hs fun _ ht key _ => ht.press key

theorem begin_waits {o : Options} {world : σ} {file : Option Path} {s : Session σ}
    (hs : begin h o world file = .ok s) : s.Waits := by
  obtain ⟨b, world, -, rfl⟩ := begin_eq_ofBuffer hs
  exact waits_of_nil rfl

/-- A character with which the pending keys can still become a command is kept with them, unless
they are one now. -/
theorem press_char {s : Session σ} (hmode : s.mode = .normal) {c : Char} {more : Text}
    {command : NormalCommand}
    (hread : NormalCommand.read (s.pending ++ c :: more) = .complete command) :
    (s.press h (.char c)).1 = { s with pending := s.pending ++ [c] } ∨
      ∃ now, NormalCommand.read (s.pending ++ [c]) = .complete now ∧
        (s.press h (.char c)).1 = (({ s with pending := [] } : Session σ).runNormal now).1 := by
  rw [List.append_cons] at hread
  have hvalid : NormalCommand.read (s.pending ++ [c]) ≠ .invalid := by
    intro hinvalid
    rw [NormalCommand.read_append_invalid hinvalid] at hread
    cases hread
  have hcolon : ¬ (c = ':' && s.pending.isEmpty) = true := by
    intro hc
    simp only [Bool.and_eq_true, decide_eq_true_eq, List.isEmpty_iff] at hc
    obtain ⟨rfl, hnil⟩ := hc
    rw [hnil] at hvalid
    exact hvalid rfl
  have hpress : (s.press h (.char c)).1 = (s.typeNormal c).1 := press_normal hmode
  rw [hpress]
  unfold typeNormal
  rw [if_neg hcolon]
  dsimp only
  split
  · exact .inl rfl
  · rename_i hinvalid
    exact absurd hinvalid hvalid
  · rename_i now hnow
    exact .inr ⟨now, hnow, rfl⟩

/-- What is no command and no start of one stays so whatever follows, and every start of a command
can be completed. So at every point of a session some keys complete what is pending, and a character
with which it can still become a command is kept or makes it one. -/
theorem keys_prefix_sound :
    (∀ keys, NormalCommand.read keys = .invalid →
      ∀ more, NormalCommand.read (keys ++ more) = .invalid) ∧
    (∀ keys, NormalCommand.read keys = .incomplete →
      ∃ more command, NormalCommand.read (keys ++ more) = .complete command) ∧
    ∀ (σ : Type) (h : Host σ) (o : Options) (world : σ) (file : Option Path) (s₀ : Session σ),
      begin h o world file = .ok s₀ → ∀ keys,
        let s := s₀.after h keys
        (∃ more command, NormalCommand.read (s.pending ++ more) = .complete command) ∧
        ∀ (c : Char) (more : Text) (command : NormalCommand), s.mode = .normal →
          NormalCommand.read (s.pending ++ c :: more) = .complete command →
          (s.press h (.char c)).1 = { s with pending := s.pending ++ [c] } ∨
            ∃ now, NormalCommand.read (s.pending ++ [c]) = .complete now ∧
              (s.press h (.char c)).1 =
                (({ s with pending := [] } : Session σ).runNormal now).1 := by
  refine ⟨fun _ h => NormalCommand.read_append_invalid h,
    fun _ h => NormalCommand.exists_read_complete h, ?_⟩
  intro σ h o world file s₀ hs keys s
  have hwaits : s.Waits := (begin_waits hs).after keys
  exact ⟨NormalCommand.exists_read_complete hwaits, fun c more command hmode => press_char hmode⟩

/-- `d0` is no start of a command, `'a2d` is one, and in a session `"a2` waits and `"a2d` too. -/
theorem keys_prefix_sound_of_counts :
    NormalCommand.read "d0w".toList = .invalid ∧
    (∃ more command, NormalCommand.read ("'a2d".toList ++ more) = .complete command) ∧
    ∃ s₀, begin (Memory.host "/p".toList) {} { files := [("/p/f".toList, "a\nb\n".toList)] }
        (some "f".toList) = .ok s₀ ∧
      let s := s₀.after (Memory.host "/p".toList) ("\"a2".toList.map Key.ofChar)
      (∃ more command, NormalCommand.read (s.pending ++ more) = .complete command) ∧
      (s.press (Memory.host "/p".toList) (.char 'd')).1.pending = "\"a2d".toList := by
  obtain ⟨hinvalid, hstart, hsession⟩ := keys_prefix_sound
  obtain ⟨hwaits, hpress⟩ := hsession Memory (Memory.host "/p".toList) {}
    { files := [("/p/f".toList, "a\nb\n".toList)] } (some "f".toList) _ rfl
    ("\"a2".toList.map Key.ofChar)
  refine ⟨hinvalid "d0".toList (by decide +kernel) "w".toList, hstart _ (by decide +kernel), _, rfl,
    hwaits, ?_⟩
  have hread : NormalCommand.read "\"a2dd".toList =
      .complete (.act (some 2) (some 'a') .deleteLines) := by decide +kernel
  rcases hpress 'd' "d".toList _ (by decide +kernel) hread with hkept | ⟨now, hnow, -⟩
  · rw [hkept]
    decide +kernel
  · cases hnow

end ModalEditor.Session
