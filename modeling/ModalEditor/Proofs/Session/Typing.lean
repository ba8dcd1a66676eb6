import ModalEditor.Host.Memory
import ModalEditor.Proofs.Edit.PlainText
import ModalEditor.Proofs.Session.Settings

/-!
# Typing edits one plain text

In insert mode a session is an editor of one plain text (`PlainText`): the lines of its buffer joined
by line breaks, with the cursor as a place in it. Each key does to the lines and the cursor what it does
to that text, at the ends of lines as well as within them, for keys in a row of any length.

The invariant is that the buffer shows some parts without line breaks (`Session.Types`); every key but
Escape leads from parts to parts.
-/

namespace ModalEditor.Session

variable {σ : Type} {h : Host σ} {s : Session σ} {p : Parts}

/-- The text of the current buffer with the cursor in it: every line above counts its characters and
its break. -/
def plainText (s : Session σ) : PlainText where
  text := Text.join ['\n'] s.buffer.lines
  place := ((s.buffer.lines.take s.buffer.current).map fun line => line.length + 1).sum + s.col

/-- The session is in insert mode on these parts. -/
structure Types (s : Session σ) (p : Parts) : Prop where
  /-- Keys are text. -/
  mode : s.mode = .insert
  /-- There is a current buffer. -/
  hasCurrent : s.editor.HasCurrent
  /-- Its lines are the parts, with the cursor between them. -/
  shows : s.buffer.Shows s.col p
  /-- Line breaks stand between lines only. -/
  unbroken : p.Unbroken

/-- A valid buffer has such parts. -/
theorem exists_types (hmode : s.mode = .insert) (hs : s.editor.HasCurrent) (hb : s.buffer.Valid)
    (hcol : s.col ≤ s.buffer.lineLength s.buffer.current) : ∃ p, s.Types p := by
  obtain ⟨p, hshows⟩ := Buffer.exists_shows hb.current_lt hcol
  refine ⟨p, hmode, hs, hshows, ?_⟩
  rw [← Parts.unbroken_lines, ← hshows.lines]
  exact hb.noBreaks

theorem Types.plainText_eq (hs : s.Types p) : s.plainText = p.plain := by
  have htext : s.plainText.text = p.plain.text := by
    rw [Parts.plain_text, ← hs.shows.lines]
    rfl
  have habove : s.buffer.lines.take s.buffer.current = p.above := by
    rw [hs.shows.lines, hs.shows.current, Parts.lines, List.take_left]
  have hplace : s.plainText.place = p.plain.place := by
    rw [Parts.plain_place, plainText, habove, hs.shows.col]
  calc s.plainText = ⟨s.plainText.text, s.plainText.place⟩ := rfl
    _ = p.plain := by rw [htext, hplace]

/-! ## One key -/

/-- A buffer that shows parts takes the place of the current one. -/
theorem Types.edited (hs : s.Types p) {b : Buffer} {col : Nat} {q : Parts} (hb : b.Shows col q)
    (hq : q.Unbroken) : (s.edited b col).Types q := by
  have hbuffer : (s.edited b col).buffer = b := Editor.buffer_setBuffer hs.hasCurrent b
  refine ⟨hs.mode, hs.hasCurrent.setBuffer b, ?_, hq⟩
  rw [hbuffer]
  exact hb

theorem Types.insertAtCursor (hs : s.Types p) {t : Text} (ht : '\n' ∉ t) :
    ∃ q, (s.insertAtCursor t).Types q ∧ q.plain = p.plain.insert t := by
  obtain ⟨habove, hleft, hright, hbelow⟩ := hs.unbroken
  have hleft' : '\n' ∉ p.left ++ t := by
    rw [List.mem_append, not_or]
    exact ⟨hleft, ht⟩
  refine ⟨{ p with left := p.left ++ t },
    hs.edited (hs.shows.insertText t) ⟨habove, hleft', hright, hbelow⟩, ?_⟩
  unfold Parts.plain
  rw [PlainText.insert_between, List.append_assoc]

theorem Types.enter (hs : s.Types p) :
    ∃ q, (s.insertKey .enter).Types q ∧ q.plain = p.plain.insert ['\n'] := by
  obtain ⟨habove, hleft, hright, hbelow⟩ := hs.unbroken
  refine ⟨⟨p.above ++ [p.left], [], p.right, p.below⟩,
    hs.edited hs.shows.splitLine
      ⟨habove.append (unbroken_singleton.mpr hleft), List.not_mem_nil, hright, hbelow⟩, ?_⟩
  unfold Parts.plain
  rw [PlainText.insert_between]
  simp [Text.endLines]

theorem insertKey_backspace_some {b : Buffer} {position : Position}
    (h : s.buffer.backspace s.cursor = (b, some position)) :
    s.insertKey .backspace = s.edited b position.col := by
  unfold insertKey
  rw [h]

theorem insertKey_backspace_none {b : Buffer} (h : s.buffer.backspace s.cursor = (b, none)) :
    s.insertKey .backspace = s.edited b s.col := by
  unfold insertKey
  rw [h]

theorem Types.backspace (hs : s.Types p) :
    ∃ q, (s.insertKey .backspace).Types q ∧ q.plain = p.plain.erase := by
  obtain ⟨habove, hleft, hright, hbelow⟩ := hs.unbroken
  rcases List.eq_nil_or_concat' p.left with hnil | ⟨left, c, hchar⟩
  · rcases List.eq_nil_or_concat' p.above with hfirst | ⟨above, last, hlast⟩
    · refine ⟨p, ?_, ?_⟩
      · rw [insertKey_backspace_none (hs.shows.backspace_nothing hnil hfirst)]
        exact hs.edited hs.shows hs.unbroken
      · unfold Parts.plain
        rw [hnil, hfirst]
        exact (PlainText.erase_between_nil _).symm
    · obtain ⟨b, hback, hb⟩ := hs.shows.backspace_break hnil hlast
      rw [hlast] at habove
      refine ⟨⟨above, last, p.right, p.below⟩, ?_, ?_⟩
      · rw [insertKey_backspace_some hback]
        exact hs.edited hb ⟨fun l hl => habove l (by simp [hl]), habove last (by simp), hright, hbelow⟩
      · have hends : Text.endLines ['\n'] (above ++ [last]) ++ [] =
            Text.endLines ['\n'] above ++ last ++ ['\n'] := by simp [Text.endLines]
        unfold Parts.plain
        rw [hnil, hlast, hends, PlainText.erase_between_concat]
  · obtain ⟨b, hback, hb⟩ := hs.shows.backspace_char hchar
    rw [hchar, List.mem_append, not_or] at hleft
    refine ⟨{ p with left }, ?_, ?_⟩
    · rw [insertKey_backspace_some hback]
      exact hs.edited hb ⟨habove, hleft.1, hright, hbelow⟩
    · unfold Parts.plain
      rw [hchar, ← List.append_assoc, PlainText.erase_between_concat]

/-- Every key but Escape leads from parts to parts, and does to the plain text what it is to do. -/
theorem Types.insertKey (hs : s.Types p) {key : Key} (hescape : key ≠ .escape)
    (hbreak : key ≠ .char '\n') :
    ∃ q, (s.insertKey key).Types q ∧ q.plain = p.plain.press s.editor.options.softTabStop key := by
  cases key with
  | char c =>
    have hc : '\n' ∉ [c] := by
      intro hmem
      exact hbreak (congrArg Key.char (List.mem_singleton.mp hmem).symm)
    exact hs.insertAtCursor hc
  | tab =>
    have hblanks : '\n' ∉ List.replicate s.editor.options.softTabStop ' ' := by
      intro hmem
      cases List.eq_of_mem_replicate hmem
    exact hs.insertAtCursor hblanks
  | enter => exact hs.enter
  | backspace => exact hs.backspace
  | escape => exact absurd rfl hescape

/-! ## Keys in a row -/

theorem Types.after (hs : s.Types p) {keys : List Key}
    (hkeys : ∀ key ∈ keys, key ≠ .escape ∧ key ≠ .char '\n') :
    ∃ q, (s.after h keys).Types q ∧
      q.plain = keys.foldl (PlainText.press s.editor.options.softTabStop) p.plain := by
  induction keys generalizing s p with
  | nil => exact ⟨p, hs, rfl⟩
  | cons key keys ih =>
    obtain ⟨hescape, hbreak⟩ := hkeys key List.mem_cons_self
    obtain ⟨q, hq, hplain⟩ := hs.insertKey hescape hbreak
    have hpress : (s.press h key).1 = s.insertKey key := press_inserting hs.mode
    obtain ⟨r, hr, hrest⟩ := ih hq fun key hkey => hkeys key (List.mem_cons_of_mem _ hkey)
    refine ⟨r, ?_, ?_⟩
    · change ((s.press h key).1.after h keys).Types r
      rw [hpress]
      exact hr
    · rw [hrest, hplain, (insertKey_atDesk s key).options]
      rfl

/-- Typing in insert mode edits one plain text: characters, line breaks and blanks go in at the cursor,
and Backspace takes out what is in front of it, be it a character or a line break. -/
theorem typing_edits_plain_text (h : Host σ) (s : Session σ) (hmode : s.mode = .insert)
    (hs : s.editor.HasCurrent) (hb : s.buffer.Valid)
    (hcol : s.col ≤ s.buffer.lineLength s.buffer.current) (keys : List Key)
    (hkeys : ∀ key ∈ keys, key ≠ .escape ∧ key ≠ .char '\n') :
    let typed := keys.foldl (PlainText.press s.editor.options.softTabStop) s.plainText
    (s.after h keys).buffer.lines = typed.lines ∧ (s.after h keys).cursor = typed.cursor ∧
      (s.after h keys).plainText = typed ∧ (s.after h keys).mode = .insert := by
  intro typed
  obtain ⟨p, hp⟩ := exists_types hmode hs hb hcol
  obtain ⟨q, hq, hplain⟩ := hp.after (h := h) hkeys
  have htyped : typed = q.plain := by
    rw [hplain, ← hp.plainText_eq]
  refine ⟨?_, ?_, ?_, hq.mode⟩
  · rw [htyped, Parts.plain_lines hq.unbroken]
    exact hq.shows.lines
  · rw [htyped, Parts.plain_cursor hq.unbroken]
    calc (s.after h keys).cursor = ⟨(s.after h keys).buffer.current, (s.after h keys).col⟩ := rfl
      _ = ⟨q.above.length, q.left.length⟩ := by rw [hq.shows.current, hq.shows.col]
  · rw [htyped]
    exact hq.plainText_eq

/-- Between two characters of several bytes a line is broken and a tab and a character are typed. Six
times Backspace takes all that out again and goes on into the line above. -/
theorem typing_edits_plain_text_over_lines :
    let b : Buffer := { lines := [['a'], ['é', 'ü'], []], current := 1 }
    let s : Session Memory := { ofBuffer b {} {} with mode := .insert, col := 1 }
    let keys : List Key :=
      [.enter, .tab, .char 'x', .backspace, .backspace, .backspace, .backspace, .backspace, .backspace]
    s.mode = .insert ∧ s.col ≤ s.buffer.lineLength s.buffer.current ∧
      (∀ key ∈ keys, key ≠ .escape ∧ key ≠ .char '\n') ∧
      (s.after (Memory.host []) keys).buffer.lines = [['a', 'ü'], []] ∧
      (s.after (Memory.host []) keys).cursor = ⟨0, 1⟩ := by
  intro b s keys
  have hkeys : ∀ key ∈ keys, key ≠ .escape ∧ key ≠ .char '\n' := by decide
  have hvalid : s.buffer.Valid := by
    refine ⟨by decide, by decide, fun m hm => ?_, by decide⟩
    cases hm
  obtain ⟨hlines, hcursor, -, -⟩ := typing_edits_plain_text (Memory.host []) s rfl Nat.zero_lt_one
    hvalid (by decide) keys hkeys
  refine ⟨rfl, by decide, hkeys, hlines.trans ?_, hcursor.trans ?_⟩ <;> decide +kernel

end ModalEditor.Session
