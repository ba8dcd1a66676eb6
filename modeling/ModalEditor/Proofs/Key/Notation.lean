import ModalEditor.Key

/-!
# Written keys

Keys are written one after the other, and the script is read again from the front. A character that
is written as itself is never `<`, so a `<` in the script is always the start of a written name, and
the first `>` behind it is the one that closes the name (`group?_display`). What stands around the name
does not matter: a `>` that was typed comes later, and the letters of a name that were typed have no
`<` in front of them.

The keys that come back are those that were written, as long as every character is one that some
character of a script is read as (`ofScript_display_iff`). A control character is not: it is read as
the named key.
-/

namespace ModalEditor.Key

variable {key : Key} {c : Char} {script rest : Text}

/-- Reading a character of a script can give the key. -/
def Typable (key : Key) : Prop := ∀ c, key = .char c → ofChar c = .char c

/-- The key is written as a name in brackets. -/
def Named (key : Key) : Prop := ∀ c, key = .char c → c = '<'

/-! ## One key -/

theorem display_char (hc : c ≠ '<') : display (.char c) = [c] := by
  rw [display]
  exact hc

/-- A written name is read back, whatever follows it. -/
theorem group?_display (h : key.Named) (rest : Text) :
    group? (key.display ++ rest) = some (key, rest) := by
  cases key with
  | char c =>
    obtain rfl := h c rfl
    rfl
  | enter => rfl
  | tab => rfl
  | backspace => rfl
  | escape => rfl

/-- Only a `<` opens a name. -/
theorem group?_char (hc : c ≠ '<') (rest : Text) : group? (c :: rest) = none := by
  unfold group?
  split
  · rename_i heq
    exact absurd (List.cons.inj heq).1 hc
  · rfl

/-- One key is read off a script that starts with it. -/
theorem readScript_display (h : key.Typable) (fuel : Nat) (rest : Text) :
    readScript (fuel + 1) (key.display ++ rest) = key :: readScript fuel rest := by
  by_cases hnamed : key.Named
  · have hgroup := group?_display hnamed rest
    cases hscript : key.display ++ rest with
    | nil =>
      rw [hscript] at hgroup
      cases hgroup
    | cons c after =>
      rw [hscript] at hgroup
      rw [readScript, hgroup]
  · obtain ⟨c, rfl, hc⟩ : ∃ c, key = .char c ∧ c ≠ '<' := by
      simpa [Named] using hnamed
    rw [display_char hc, List.singleton_append, readScript, group?_char hc, h c rfl]

/-! ## Scripts -/

theorem display_ne_nil (key : Key) : key.display ≠ [] := by
  unfold display
  split <;> exact List.cons_ne_nil _ _

theorem length_le_length_display (keys : List Key) : keys.length ≤ (keys.flatMap display).length := by
  induction keys with
  | nil => exact Nat.le_refl 0
  | cons key keys ih =>
    have hkey := List.length_pos_iff.mpr key.display_ne_nil
    rw [List.flatMap_cons, List.length_append, List.length_cons]
    omega

theorem readScript_displays {keys : List Key} (h : ∀ key ∈ keys, key.Typable) {fuel : Nat}
    (hfuel : keys.length ≤ fuel) : readScript fuel (keys.flatMap display) = keys := by
  induction keys generalizing fuel with
  | nil => cases fuel <;> rfl
  | cons key keys ih =>
    obtain ⟨fuel, rfl⟩ : ∃ n, fuel = n + 1 := ⟨fuel - 1, by rw [List.length_cons] at hfuel; omega⟩
    rw [List.flatMap_cons, readScript_display (h key List.mem_cons_self),
      ih (fun k hk => h k (List.mem_cons_of_mem key hk)) (Nat.le_of_succ_le_succ hfuel)]

/-! ## What scripts are read as -/

/-- A character is read as itself or as a named key. -/
theorem eq_of_ofChar {d : Char} (h : ofChar c = .char d) : d = c := by grind [ofChar]

theorem typable_ofChar (c : Char) : (ofChar c).Typable := by
  intro d hd
  obtain rfl := eq_of_ofChar hd
  exact hd

/-- Two characters have names. -/
theorem char_of_ofName? {name : Text} (h : ofName? name = some (.char c)) : c = ' ' ∨ c = '<' := by
  unfold ofName? at h
  iterate 4
    split at h
    · cases h
  split at h
  · cases h
    exact .inl rfl
  split at h
  · cases h
    exact .inr rfl
  · cases h

theorem typable_ofName? {name : Text} (h : ofName? name = some key) : key.Typable := by
  rintro c rfl
  rcases char_of_ofName? h with rfl | rfl <;> rfl

theorem typable_ofSymbol? {symbol : Text} (h : ofSymbol? symbol = some key) : key.Typable := by
  unfold ofSymbol? at h
  split at h
  · cases h
    exact typable_ofChar _
  · exact typable_ofName? h

theorem typable_group? (h : group? script = some (key, rest)) : key.Typable := by
  unfold group? at h
  split at h
  · obtain ⟨⟨name, after⟩, -, h⟩ := Option.bind_eq_some_iff.mp h
    dsimp only at h
    split at h
    · cases h
    · obtain ⟨named, hnamed, h⟩ := Option.bind_eq_some_iff.mp h
      cases h
      exact typable_ofSymbol? hnamed
  · cases h

/-- No script is read as a key that cannot be typed. -/
theorem typable_of_mem_readScript {fuel : Nat} (h : key ∈ readScript fuel script) :
    key.Typable := by
  fun_induction readScript fuel script with
  | case1 => cases h
  | case2 => cases h
  | case3 fuel c rest named after hgroup ih =>
    rcases List.mem_cons.mp h with rfl | h
    · exact typable_group? hgroup
    · exact ih h
  | case4 fuel c rest hgroup ih =>
    rcases List.mem_cons.mp h with rfl | h
    · exact typable_ofChar c
    · exact ih h

/-- Keys that are written in a row are read back as they were, exactly if each character among them
is read as itself. -/
theorem ofScript_display_iff (keys : List Key) :
    ofScript (keys.flatMap display) = keys ↔ ∀ c, .char c ∈ keys → ofChar c = .char c := by
  constructor
  · intro hread c hc
    rw [← hread] at hc
    exact typable_of_mem_readScript hc c rfl
  · intro hkeys
    refine readScript_displays (fun key hkey c hc => hkeys c ?_) (length_le_length_display keys)
    rw [← hc]
    exact hkey

/-- Typed brackets and the letters of a name around a written `<`. -/
example : ofScript ([.char '>', .char 'l', .char '<', .char 'l', .char 't', .char '>',
    .escape].flatMap display) =
    [.char '>', .char 'l', .char '<', .char 'l', .char 't', .char '>', .escape] := by decide

end ModalEditor.Key
