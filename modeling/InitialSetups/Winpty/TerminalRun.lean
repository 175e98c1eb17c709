import InitialSetups.Text.Latest
import InitialSetups.Winpty.Layout

/-!
# The terminal over a whole run

Every operation of the terminal leaves it knowing the screen (`Tracks`), so that a row shows the
line that was last sent to it, however the operations are mixed (`rows_shown`).
-/

namespace InitialSetups.Winpty

open InitialSetups.Text

variable {d : Display} {t t' : Terminal} {s : Screen (Option ℕ)} {line : ℤ} {n column : ℕ}
  {lineData : List CharInfo} {xs ys : List (List CharInfo)} {cursorColumn : ℤ}

/-- The cursor is at a place, or off. -/
structure ShowsCursor (screen : Screen (Option ℕ)) (shown : Bool) (row column : ℤ) : Prop where
  on : shown = true → screen.row = row ∧ screen.col = column ∧ screen.cursor = true
  off : shown = false → screen.cursor = false

namespace Terminal

/-- The terminal has moved to a line, and the rows are as they were. -/
structure Moved (d : Display) (s : Screen (Option ℕ)) (t t' : Terminal) (line : ℤ) : Prop where
  tracks : Tracks d t' (t'.screen d s)
  cells : (t'.screen d s).cells = (t.screen d s).cells
  bottom : (t'.screen d s).bottom = max (t.screen d s).bottom line
  remoteLine : t'.remoteLine = line
  plainMode : t'.plainMode = t.plainMode
  outputColor : t'.outputColor = t.outputColor

lemma newLines_eq (n : ℕ) (hvisible : (t.screen d s).row ≤ (t.screen d s).bottom) :
    ∃ out, t.newLines n = { t with output := out, remoteLine := t.remoteLine + n } ∧
      (t.newLines n).screen d s =
        { t.screen d s with
          row := (t.screen d s).row + n
          col := if n = 0 then (t.screen d s).col else 0
          bottom := max (t.screen d s).bottom ((t.screen d s).row + n) } := by
  induction n generalizing t with
  | zero => exact ⟨t.output, by simp [newLines], by simp [newLines, hvisible]⟩
  | succ n ih =>
      rw [newLines]
      set t₁ : Terminal := { t.write [.cr, .lf] with remoteLine := t.remoteLine + 1 } with ht₁
      have hs₁ : t₁.screen d s =
          Screen.lineFeed { t.screen d s with col := 0 } := screen_write [.cr, .lf]
      obtain ⟨out, ht, hs⟩ := ih (t := t₁) (by
        rw [hs₁]
        exact le_max_right _ _)
      have hcast : ∀ z : ℤ, z + 1 + n = z + (n + 1 : ℕ) := fun z => by
        push_cast
        omega
      have hmax : ∀ z : ℤ, max (max z ((t.screen d s).row + 1))
          ((t.screen d s).row + (n + 1 : ℕ)) = max z ((t.screen d s).row + (n + 1 : ℕ)) :=
        fun z => by
          push_cast
          omega
      refine ⟨out, ?_, ?_⟩
      · rw [ht, ht₁]
        simp only [write, hcast]
      · rw [hs, hs₁]
        simp only [Screen.lineFeed, hcast, hmax, if_neg n.succ_ne_zero, ite_self]

/-- The terminal at the beginning of a row. -/
lemma moved_of_eq {o : List (Command (Option ℕ))} (h : Tracks d t (t.screen d s))
    (ht' : t' = { t with
      output := o, cursorHidden := true, remoteLine := line
      lineDataValid := true, lineData := [], remoteColumn := 0 })
    (hs' : t'.screen d s = { t.screen d s with
      row := line, col := 0, cursor := false, bottom := max (t.screen d s).bottom line }) :
    Moved d s t t' line := by
  refine ⟨⟨?_, ?_, ?_, ?_, ?_, ?_, ?_⟩, ?_, ?_, ?_, ?_, ?_⟩
  · rw [hs', ht']
  · rw [hs']
    exact le_max_right _ _
  · rw [hs', ht']
  · rw [hs', ht']
    rfl
  · rw [hs', ht']
    exact h.color
  · rw [ht']
    exact h.uncolored
  · intro _
    rw [ht']
    refine ⟨[], ?_, rfl, rfl, ?_⟩
    · intro x hx
      cases hx
    · intro i cell hcell
      cases hcell
  · rw [hs']
  · rw [hs']
  · rw [ht']
  · rw [ht']
  · rw [ht']

/-- The terminal goes to a line that is on the screen, or below it. -/
lemma moveTerminalToLine_spec (h : Tracks d t (t.screen d s)) (hplain : t.plainMode = false)
    (hheight : d.height ≤ 0x100000000) (hline : (t.screen d s).bottom - line < d.height) :
    Moved d s t (t.moveTerminalToLine line) line := by
  have hrow := h.row
  have hvisible := h.visible
  rw [moveTerminalToLine]
  by_cases hsame : line = t.remoteLine
  · rw [if_pos hsame]
    exact ⟨h, rfl, by rw [hsame, ← hrow, max_eq_left hvisible], hsame.symm, rfl, rfl⟩
  rw [if_neg hsame]
  obtain ⟨o, ht₁, hs₁⟩ := hideTerminalCursor_eq (d := d) (s := s) hplain h.cursor
  set t₁ := t.hideTerminalCursor
  have hremote : t₁.remoteLine = t.remoteLine := by rw [ht₁]
  by_cases hup : line < t.remoteLine
  · have hplain₁ : t₁.plainMode = false := by rw [ht₁]; exact hplain
    simp only [hremote, if_pos hup, hplain₁, if_neg Bool.false_ne_true]
    set m := (t.remoteLine - line).toNat % 0x100000000 with hm
    have hm' : (m : ℤ) = t.remoteLine - line := by omega
    refine moved_of_eq (o := o ++ [.cr, .up m]) h (by rw [ht₁]; rfl) ?_
    · show (t₁.write [.cr, .up m]).screen d s = _
      rw [screen_write, hs₁]
      have hone : max m 1 = m := by omega
      have htarget : max ((t.screen d s).row - (m : ℤ))
          ((t.screen d s).bottom - d.height + 1) = line := by omega
      have hbottom : max (t.screen d s).bottom line = (t.screen d s).bottom := by omega
      show ({ t.screen d s with
        row := max ((t.screen d s).row - ((max m 1 : ℕ) : ℤ)) ((t.screen d s).bottom - d.height + 1)
        col := 0
        cursor := false } : Screen (Option ℕ)) = _
      rw [hone, htarget, hbottom]
  · have hdown : t.remoteLine < line := by omega
    simp only [hremote, if_neg hup]
    obtain ⟨o', ht₂, hs₂⟩ := newLines_eq (t := t₁) (d := d) (s := s)
      (line - t.remoteLine).toNat (by rw [hs₁]; exact hvisible)
    have hcast : ((line - t.remoteLine).toNat : ℤ) = line - t.remoteLine := by omega
    refine moved_of_eq (o := o') h ?_ ?_
    · rw [ht₂, hremote, hcast, ht₁, add_sub_cancel]
    · have hrow' : (t.screen d s).row + (line - t.remoteLine) = line := by omega
      show (t₁.newLines (line - t.remoteLine).toNat).screen d s = _
      rw [hs₂, hs₁, if_neg (by omega), hcast]
      simp only [hrow']

lemma Moved.refl (h : Tracks d t (t.screen d s)) : Moved d s t t t.remoteLine :=
  ⟨h, rfl, (max_eq_left h.remoteLine_le).symm, rfl, rfl, rfl⟩

lemma Moved.trans {t'' : Terminal} (h : Moved d s t t' line) (h' : Moved d s t' t'' line) :
    Moved d s t t'' line where
  tracks := h'.tracks
  cells := h'.cells.trans h.cells
  bottom := by rw [h'.bottom, h.bottom, max_assoc, max_self]
  remoteLine := h'.remoteLine
  plainMode := h'.plainMode.trans h.plainMode
  outputColor := h'.outputColor.trans h.outputColor

/-- The row ends where the line goes on: `ys` is there, and `zs` is not. -/
structure Starts (d : Display) (s : Screen (Option ℕ)) (t t' : Terminal)
    (ys zs : List (List CharInfo)) : Prop extends Moved d s t t' t.remoteLine where
  ne_nil : zs ≠ []
  data : t'.lineData = ys.flatten
  length : t'.lineData.length = t'.remoteColumn
  looks : ∀ i cell, (picture t.outputColor ys)[i]? = some cell →
    ((t.screen d s).cells (t.screen d s).row i).Looks cell

/-- The row is written again from its beginning. -/
lemma starts_resetLine (h : Tracks d t (t.screen d s)) (hplain : t.plainMode = false)
    (hxs : xs ≠ []) :
    Starts d s t ({ t with lineDataValid := false } : Terminal).resetLine [] xs := by
  obtain ⟨o, ht₁, hs₁⟩ := hideTerminalCursor_eq (d := d) (s := s)
    (t := { t with lineDataValid := false }) hplain h.cursor
  rw [resetLine, if_neg Bool.false_ne_true]
  set t₁ := ({ t with lineDataValid := false } : Terminal).hideTerminalCursor
  have hplain₁ : ¬ t₁.plainMode = true := by
    rw [ht₁]
    exact Bool.eq_false_iff.1 hplain
  simp only [if_neg hplain₁]
  refine ⟨moved_of_eq (o := o ++ [.cr]) h (by rw [ht₁]; rfl) ?_, hxs, rfl, rfl, ?_⟩
  · show (t₁.write [.cr]).screen d s = _
    rw [screen_write, hs₁, max_eq_left h.remoteLine_le, ← h.row]
    rfl
  · intro i cell hcell
    cases hcell

/-- No assertion fails, and the row is kept only where the line begins with it. -/
lemma checkLineData_cases (hplain : t.plainMode = false)
    (hlength : t.lineDataValid = true → t.lineData.length = t.remoteColumn)
    (lineData : List CharInfo) :
    t.checkLineData lineData = some { t with lineDataValid := false } ∨
      t.checkLineData lineData = some t ∧ t.lineDataValid = true ∧
        (t.remoteColumn = 0 ∨ t.lineData.length < lineData.length ∧
          t.lineData = lineData.take t.lineData.length) := by
  rw [checkLineData]
  cases hvalid : t.lineDataValid with
  | false =>
      left
      rw [if_neg Bool.false_ne_true, ← hvalid]
  | true =>
      rw [if_pos rfl, if_neg (not_not.2 (hlength hvalid)), if_neg (Bool.eq_false_iff.1 hplain)]
      by_cases hcol : 0 < t.remoteColumn
      · rw [if_pos hcol]
        by_cases hfits : t.lineData.length < lineData.length ∧
            t.lineData = lineData.take t.lineData.length
        · right
          refine ⟨if_neg ?_, rfl, .inr hfits⟩
          rw [decide_eq_true hfits.1]
          rintro (hno | hno)
          · cases hno
          · exact hno hfits.2
        · left
          refine if_pos ?_
          rw [Bool.not_eq_true', decide_eq_false_iff_not]
          exact not_and_or.1 hfits
      · right
        rw [if_neg hcol]
        exact ⟨rfl, rfl, .inl (by omega)⟩

/-- Where the line goes on. -/
lemma exists_starts (h : Tracks d t (t.screen d s)) (hplain : t.plainMode = false)
    (hproper : ∀ x ∈ xs, Proper d x) (hxs : xs ≠ []) :
    ∃ t₁ ys zs, t.checkLineData xs.flatten = some t₁ ∧ xs = ys ++ zs ∧
      Starts d s t t₁.resetLine ys zs := by
  have hlength : t.lineDataValid = true → t.lineData.length = t.remoteColumn := fun hvalid => by
    obtain ⟨-, -, -, hlength, -⟩ := h.known hvalid
    exact hlength
  rcases checkLineData_cases hplain hlength xs.flatten with
    hcheck | ⟨hcheck, hvalid, hrow⟩
  · exact ⟨_, [], xs, hcheck, rfl, starts_resetLine h hplain hxs⟩
  obtain ⟨ys, hys, hdata, hlength, hlooks⟩ := h.known hvalid
  have hkeep : t.resetLine = t := by rw [resetLine, if_pos hvalid]
  -- the row shows the first characters of the line
  have hflatten : xs.flatten = ys.flatten ++ xs.flatten.drop t.lineData.length := by
    rcases hrow with hzero | ⟨-, htake⟩
    · rw [hzero] at hlength
      rw [← hdata, hlength, List.eq_nil_of_length_eq_zero hlength]
      rfl
    · rw [← hdata]
      conv_lhs => rw [← List.take_append_drop t.lineData.length xs.flatten, ← htake]
  obtain ⟨zs, rfl, hzs⟩ := exists_of_flatten_eq (fun y hy => (hys y hy).toWhole)
    (fun x hx => (hproper x hx).toWhole) hflatten
  have hne : zs ≠ [] := by
    rintro rfl
    rw [List.append_nil] at hrow hxs
    rcases hrow with hzero | ⟨hlt, -⟩
    · -- an empty row cannot be the whole line
      obtain ⟨y, ys, rfl⟩ := List.exists_cons_of_ne_nil hxs
      have hpos := (hys y List.mem_cons_self).length_pos
      rw [hdata, List.flatten_cons, List.length_append] at hlength
      omega
    · rw [hdata] at hlt
      exact lt_irrefl _ hlt
  refine ⟨t, ys, zs, hcheck, rfl, ?_⟩
  rw [hkeep]
  exact ⟨Moved.refl h, hne, hdata, hlength, hlooks⟩

/-- A line that is sent is drawn, and no assertion fails. -/
lemma sendLine_spec (h : Tracks d t (t.screen d s)) (hplain : t.plainMode = false)
    (hspace : d.columns 32 = 1) (hheight : d.height ≤ 0x100000000)
    (hline : (t.screen d s).bottom - line < d.height) (hproper : ∀ x ∈ xs, Proper d x)
    (hxs : xs ≠ []) (hwidth : xs.flatten.length ≤ d.width) (cursorColumn : ℤ) :
    ∃ t', t.sendLine line xs.flatten cursorColumn = some t' ∧ LineSent d s t t' line xs := by
  have hne : xs.flatten ≠ [] := by
    obtain ⟨x, xs, rfl⟩ := List.exists_cons_of_ne_nil hxs
    rw [List.flatten_cons]
    exact List.append_ne_nil_of_left_ne_nil (hproper x List.mem_cons_self).ne_nil _
  have hmoved := moveTerminalToLine_spec h hplain hheight hline
  rw [sendLine, if_neg hne]
  set t₁ := t.moveTerminalToLine line
  obtain ⟨t₂, ys, zs, hcheck, rfl, hstarts⟩ := exists_starts hmoved.tracks
    (hmoved.plainMode.trans hplain) hproper hxs
  rw [hcheck]
  set t₃ := t₂.resetLine
  have hplain₃ : t₃.plainMode = false := by rw [hstarts.plainMode, hmoved.plainMode, hplain]
  have hrow₃ : (t₃.screen d s).row = (t₁.screen d s).row := by
    rw [hstarts.tracks.row, hstarts.remoteLine, hmoved.tracks.row]
  obtain ⟨t', hwrite, hsent⟩ := writeLine_spec hstarts.tracks hplain₃ hspace hproper hstarts.ne_nil
    hwidth hstarts.data hstarts.length (by
      rw [hstarts.outputColor, hstarts.cells, hrow₃]
      exact hstarts.looks) cursorColumn
  have hline₃ : t₃.remoteLine = line := hstarts.remoteLine.trans hmoved.remoteLine
  have hcells : (t₃.screen d s).cells = (t.screen d s).cells := hstarts.cells.trans hmoved.cells
  have hbottom : (t₃.screen d s).bottom = max (t.screen d s).bottom line := by
    rw [hstarts.bottom, hmoved.bottom, hmoved.remoteLine, max_assoc, max_self]
  have hshows := hsent.shows
  have hothers := hsent.others
  have hbottom' := hsent.bottom
  rw [hline₃, hstarts.outputColor, hmoved.outputColor] at hshows
  rw [hline₃, hcells] at hothers
  rw [hline₃, hbottom, max_assoc, max_self] at hbottom'
  exact ⟨t', hwrite, hsent.tracks, hshows, hothers, hbottom', hsent.remoteLine.trans hline₃,
    by rw [hsent.plainMode, hstarts.plainMode, hmoved.plainMode],
    by rw [hsent.outputColor, hstarts.outputColor, hmoved.outputColor]⟩

/-! ### A cursor that is hidden -/

lemma hidden_hideTerminalCursor (h : t.cursorHidden = true) :
    t.hideTerminalCursor.cursorHidden = true := by
  rw [hideTerminalCursor]
  split_ifs
  · exact h
  · exact h

lemma hidden_newLines (h : t.cursorHidden = true) (n : ℕ) :
    (t.newLines n).cursorHidden = true := by
  induction n generalizing t with
  | zero => exact h
  | succ n ih =>
      rw [newLines]
      exact ih h

lemma hidden_moveTerminalToLine (h : t.cursorHidden = true) :
    (t.moveTerminalToLine line).cursorHidden = true := by
  have hhide := hidden_hideTerminalCursor h
  rw [moveTerminalToLine]
  dsimp only
  split_ifs
  · exact h
  · exact hhide
  · exact hhide
  · exact hidden_newLines hhide _

lemma hidden_resetLine (h : t.cursorHidden = true) : t.resetLine.cursorHidden = true := by
  have hhide := hidden_hideTerminalCursor h
  rw [resetLine]
  dsimp only
  split_ifs
  · exact h
  · exact hhide
  · exact hhide

lemma hidden_checkLineData (h : t.cursorHidden = true)
    (ht' : t.checkLineData lineData = some t') : t'.cursorHidden = true := by
  rw [checkLineData] at ht'
  dsimp only at ht'
  split_ifs at ht' <;> cases ht' <;> exact h

lemma hidden_writeLine (h : t.cursorHidden = true)
    (ht' : t.writeLine lineData cursorColumn = some t') : t'.cursorHidden = true := by
  have hpast : ({ t with remoteColor := (t.termLine lineData).remoteColor }.hidePast
      (t.termLine lineData).trimmedCellCount cursorColumn).cursorHidden = true := by
    rw [hidePast]
    split_ifs
    · exact hidden_hideTerminalCursor h
    · exact h
  rw [writeLine] at ht'
  split_ifs at ht'
  all_goals
    cases ht'
    exact hpast

/-- Sending lines does not bring the cursor back. -/
lemma hidden_sendLine (h : t.cursorHidden = true)
    (ht' : t.sendLine line lineData cursorColumn = some t') : t'.cursorHidden = true := by
  rw [sendLine] at ht'
  split_ifs at ht'
  obtain ⟨t₁, hcheck, hwrite⟩ := Option.bind_eq_some_iff.1 ht'
  exact hidden_writeLine
    (hidden_resetLine (hidden_checkLineData (hidden_moveTerminalToLine h) hcheck)) hwrite

/-- Only the cursor has been shown or hidden. -/
lemma moved_of_cursor {o : List (Command (Option ℕ))} (hidden enabled : Bool)
    (h : Tracks d t (t.screen d s))
    (ht' : t' = { t with output := o, cursorHidden := hidden, mouseModeEnabled := enabled })
    (hs' : t'.screen d s = { t.screen d s with cursor := !hidden }) :
    Moved d s t t' t.remoteLine := by
  have hvisible := h.visible
  refine ⟨⟨?_, ?_, ?_, ?_, ?_, ?_, ?_⟩, ?_, ?_, ?_, ?_, ?_⟩
  · rw [hs', ht']
    exact h.row
  · rw [hs']
    exact hvisible
  · rw [hs', ht']
    exact h.col
  · rw [hs', ht']
  · rw [hs', ht']
    exact h.color
  · rw [ht']
    exact h.uncolored
  · rw [hs', ht']
    exact h.known
  · rw [hs']
  · rw [hs', ← h.row]
    exact (max_eq_left hvisible).symm
  all_goals rw [ht']

lemma hideTerminalCursor_spec (h : Tracks d t (t.screen d s)) (hplain : t.plainMode = false) :
    Moved d s t t.hideTerminalCursor t.remoteLine := by
  obtain ⟨o, ht, hs⟩ := hideTerminalCursor_eq (d := d) (s := s) hplain h.cursor
  exact moved_of_cursor true t.mouseModeEnabled h ht hs

/-- The cursor is hidden where the console has none. -/
lemma hideUnless_spec (h : Tracks d t (t.screen d s)) (hplain : t.plainMode = false)
    (shows : Bool) :
    Moved d s t (if !shows then t.hideTerminalCursor else t) t.remoteLine ∧
      (shows = false → (if !shows then t.hideTerminalCursor else t).cursorHidden = true) := by
  cases shows with
  | false =>
      obtain ⟨o, hhide, -⟩ := hideTerminalCursor_eq (d := d) (s := s) hplain h.cursor
      refine ⟨hideTerminalCursor_spec h hplain, fun _ => ?_⟩
      rw [Bool.not_false, if_pos rfl, hhide]
  | true =>
      refine ⟨Moved.refl h, fun hno => ?_⟩
      cases hno

lemma enableMouseMode_spec (h : Tracks d t (t.screen d s)) (enabled : Bool) :
    Moved d s t (t.enableMouseMode enabled) t.remoteLine := by
  rw [enableMouseMode]
  split_ifs with hsame hon
  · exact Moved.refl h
  all_goals
    refine moved_of_cursor t.cursorHidden enabled h rfl ?_
    rw [screen_write, ← h.cursor]
    rfl

/-- The cursor goes along the row, which is not known any more. -/
lemma moved_of_column {o : List (Command (Option ℕ))} (h : Tracks d t (t.screen d s))
    (ht' : t' = { t with
      output := o, lineDataValid := column = 0, lineData := [], remoteColumn := column })
    (hs' : t'.screen d s = { t.screen d s with col := column }) :
    Moved d s t t' t.remoteLine := by
  have hvisible := h.visible
  refine ⟨⟨?_, ?_, ?_, ?_, ?_, ?_, ?_⟩, ?_, ?_, ?_, ?_, ?_⟩
  · rw [hs', ht']
    exact h.row
  · rw [hs']
    exact hvisible
  · rw [hs', ht']
  · rw [hs', ht']
    exact h.cursor
  · rw [hs', ht']
    exact h.color
  · rw [ht']
    exact h.uncolored
  · intro hvalid
    rw [ht'] at hvalid ⊢
    refine ⟨[], ?_, rfl, (of_decide_eq_true hvalid).symm, ?_⟩
    · intro x hx
      cases hx
    · intro i cell hcell
      cases hcell
  · rw [hs']
  · rw [hs', ← h.row]
    exact (max_eq_left hvisible).symm
  all_goals rw [ht']

/-- The cursor is shown where it is wanted. -/
lemma showTerminalCursor_spec (h : Tracks d t (t.screen d s)) (hplain : t.plainMode = false)
    (hheight : d.height ≤ 0x100000000) (hline : (t.screen d s).bottom - line < d.height)
    (hcolumn : column < d.width) :
    Moved d s t (t.showTerminalCursor column line) line ∧
      ((t.showTerminalCursor column line).screen d s).col = column ∧
      ((t.showTerminalCursor column line).screen d s).cursor = true := by
  have hmoved := moveTerminalToLine_spec h hplain hheight hline
  rw [showTerminalCursor]
  set t₁ := t.moveTerminalToLine line
  have hplain₁ : ¬ t₁.plainMode = true := by
    rw [hmoved.plainMode]
    exact Bool.eq_false_iff.1 hplain
  simp only [if_neg hplain₁]
  set t₂ := if t₁.remoteColumn ≠ column then
    { t₁.write [.column (column + 1)] with
      lineDataValid := decide (column = 0), lineData := [], remoteColumn := column }
    else t₁ with ht₂
  have hmoved₂ : Moved d s t₁ t₂ line := by
    rw [← hmoved.remoteLine, ht₂]
    split_ifs with hcol
    · refine moved_of_column hmoved.tracks rfl ((screen_write [.column (column + 1)]).trans ?_)
      have hmin : min (column + 1 - 1) (d.width - 1) = column := by omega
      show ({ t₁.screen d s with col := min (column + 1 - 1) (d.width - 1) } : Screen _) = _
      rw [hmin]
    · exact Moved.refl hmoved.tracks
  have hcol₂ : t₂.remoteColumn = column := by
    rw [ht₂]
    split_ifs with hcol
    · rfl
    · exact not_not.1 hcol
  set t₃ := if t₂.cursorHidden = true then
    { t₂.write [.mode 25 true] with cursorHidden := false } else t₂ with ht₃
  have hmoved₃ : Moved d s t₂ t₃ line := by
    rw [← hmoved₂.remoteLine, ht₃]
    split_ifs with hhidden
    · exact moved_of_cursor false t₂.mouseModeEnabled hmoved₂.tracks rfl
        (screen_write [.mode 25 true])
    · exact Moved.refl hmoved₂.tracks
  refine ⟨hmoved.trans (hmoved₂.trans hmoved₃), ?_, ?_⟩
  · rw [hmoved₃.tracks.col, ← hcol₂, ht₃]
    split_ifs <;> rfl
  · rw [hmoved₃.tracks.cursor, ht₃]
    split_ifs with hhidden
    · rfl
    · rw [Bool.eq_false_iff.2 hhidden]
      rfl

/-- The cursor is shown where the console has one. -/
lemma showIf_spec (h : Tracks d t (t.screen d s)) (hplain : t.plainMode = false)
    (hheight : d.height ≤ 0x100000000) {shows : Bool} {row col bottom : ℤ}
    (hbottom : (t.screen d s).bottom ≤ bottom)
    (hrow : shows = true → (t.screen d s).bottom - row < d.height ∧ row ≤ bottom)
    (hcol : shows = true → 0 ≤ col ∧ col < d.width)
    (hhidden : shows = false → t.cursorHidden = true)
    (ht' : t' = if shows then t.showTerminalCursor (if !shows then -1 else col).toNat
      (if !shows then -1 else row) else t) :
    ∃ r ≤ bottom, Moved d s t t' r ∧ ShowsCursor (t'.screen d s) shows row col := by
  cases shows with
  | false =>
      rw [if_neg Bool.false_ne_true] at ht'
      subst ht'
      refine ⟨t'.remoteLine, h.remoteLine_le.trans hbottom, Moved.refl h, ?_, fun _ => ?_⟩
      · intro hno
        cases hno
      · rw [h.cursor, hhidden rfl]
        rfl
  | true =>
      obtain ⟨hlow, hhigh⟩ := hrow rfl
      obtain ⟨hpos, hlt⟩ := hcol rfl
      simp only [Bool.not_true, if_neg Bool.false_ne_true, if_pos] at ht'
      subst ht'
      obtain ⟨hmoved, hcolumn, hon⟩ := showTerminalCursor_spec h hplain hheight hlow
        (by omega : col.toNat < d.width)
      refine ⟨row, hhigh, hmoved, fun _ => ⟨?_, ?_, hon⟩, ?_⟩
      · exact hmoved.tracks.row.trans hmoved.remoteLine
      · rw [hcolumn]
        exact Int.toNat_of_nonneg hpos
      · intro hno
        cases hno

end Terminal

/-! ### Runs -/

/-- What the agent asks of the terminal, from one reset to the next. -/
inductive TerminalOp
  | sendLine (line : ℤ) (lineData : List CharInfo) (cursorColumn : ℤ)
  | showTerminalCursor (column : ℕ) (line : ℤ)
  | hideTerminalCursor
  | enableMouseMode (enabled : Bool)

namespace TerminalOp

def apply (t : Terminal) : TerminalOp → Option Terminal
  | .sendLine line lineData cursorColumn => t.sendLine line lineData cursorColumn
  | .showTerminalCursor column line => some (t.showTerminalCursor column line)
  | .hideTerminalCursor => some t.hideTerminalCursor
  | .enableMouseMode enabled => some (t.enableMouseMode enabled)

/-- The row an operation goes to. -/
def target : TerminalOp → Option ℤ
  | .sendLine line _ _ => some line
  | .showTerminalCursor _ line => some line
  | _ => none

/-- What an operation sends to a row. -/
def sent (line : ℤ) : TerminalOp → Option (List CharInfo)
  | .sendLine line' lineData _ => if line' = line then some lineData else none
  | _ => none

/-- The line fits the terminal, and so does the column of the cursor. -/
def Fits (d : Display) : TerminalOp → Prop
  | .sendLine _ lineData _ => lineData.length ≤ d.width ∧ LineFits d lineData
  | .showTerminalCursor column _ => column < d.width
  | _ => True

end TerminalOp

def Terminal.run (t : Terminal) (ops : List TerminalOp) : Option Terminal :=
  ops.foldlM TerminalOp.apply t

/-- The terminal after `ops`, on a screen whose lowest row was `bottom` before them. -/
structure Shown (d : Display) (s : Screen (Option ℕ)) (b : Bool) (bottom : ℤ)
    (ops : List TerminalOp) (t : Terminal) : Prop where
  tracks : Tracks d t (t.screen d s)
  plainMode : t.plainMode = false
  outputColor : t.outputColor = b
  bottom : (t.screen d s).bottom ∈ bottom :: ops.filterMap TerminalOp.target
  rows : ∀ line xs, (∀ x ∈ xs, Proper d x) →
    latest (TerminalOp.sent line) ops = some xs.flatten → Shows ((t.screen d s).cells line) b xs
  cursor : ∀ column line, ops.getLast? = some (.showTerminalCursor column line) →
    (t.screen d s).row = line ∧ (t.screen d s).col = column ∧ (t.screen d s).cursor = true

variable {ops : List TerminalOp} {op : TerminalOp} {b : Bool} {bottom : ℤ}

namespace Shown

/-- The lowest row is the one it was, or the one the operation goes to. -/
lemma bottom_mem (h : Shown d s b bottom ops t)
    (hbottom : (t'.screen d s).bottom = max (t.screen d s).bottom line)
    (htarget : op.target = some line ∨ line = t.remoteLine) :
    (t'.screen d s).bottom ∈ bottom :: (ops ++ [op]).filterMap TerminalOp.target := by
  rw [hbottom, List.filterMap_append, ← List.cons_append, List.mem_append]
  rcases htarget with htarget | rfl
  · rcases max_choice (t.screen d s).bottom line with hmax | hmax
    · rw [hmax]
      exact .inl h.bottom
    · right
      rw [hmax, List.filterMap_cons_some htarget]
      exact List.mem_cons_self
  · rw [max_eq_left h.tracks.remoteLine_le]
    exact .inl h.bottom

/-- An operation that draws nothing. -/
lemma of_moved (h : Shown d s b bottom ops t) (hmoved : Terminal.Moved d s t t' line)
    (hsent : ∀ r, op.sent r = none) (htarget : op.target = some line ∨ line = t.remoteLine)
    (hcursor : ∀ column r, op = .showTerminalCursor column r →
      (t'.screen d s).row = r ∧ (t'.screen d s).col = column ∧ (t'.screen d s).cursor = true) :
    Shown d s b bottom (ops ++ [op]) t' := by
  refine ⟨hmoved.tracks, hmoved.plainMode.trans h.plainMode,
    hmoved.outputColor.trans h.outputColor, h.bottom_mem hmoved.bottom htarget, ?_, ?_⟩
  · intro r xs hxs hlatest
    rw [latest_concat, hsent, Option.none_or] at hlatest
    rw [hmoved.cells]
    exact h.rows r xs hxs hlatest
  · intro column r hlast
    rw [List.getLast?_concat] at hlast
    exact hcursor column r (Option.some.inj hlast)

lemma of_sent (h : Shown d s b bottom ops t) (hsent : LineSent d s t t' line xs)
    (hxs : ∀ x ∈ xs, Proper d x) :
    Shown d s b bottom (ops ++ [.sendLine line xs.flatten cursorColumn]) t' := by
  refine ⟨hsent.tracks, hsent.plainMode.trans h.plainMode,
    hsent.outputColor.trans h.outputColor, h.bottom_mem hsent.bottom (.inl rfl), ?_, ?_⟩
  · intro r ys hys hlatest
    rw [latest_concat, TerminalOp.sent] at hlatest
    by_cases hline : line = r
    · rw [if_pos hline, Option.some_or] at hlatest
      rw [eq_of_flatten_eq (fun x hx => (hxs x hx).toWhole) (fun y hy => (hys y hy).toWhole)
        (Option.some.inj hlatest).symm, ← hline, ← h.outputColor]
      exact hsent.shows
    · rw [if_neg hline, Option.none_or] at hlatest
      rw [hsent.others r (Ne.symm hline)]
      exact h.rows r ys hys hlatest
  · intro column r hlast
    rw [List.getLast?_concat] at hlast
    cases hlast

/-- One operation. -/
lemma step (h : Shown d s b bottom ops t) (hspace : d.columns 32 = 1)
    (hheight : d.height ≤ 0x100000000) (hfits : op.Fits d)
    (hnear : ∀ a ∈ bottom :: ops.filterMap TerminalOp.target, ∀ r, op.target = some r →
      a - r < d.height) :
    ∃ t', op.apply t = some t' ∧ Shown d s b bottom (ops ++ [op]) t' := by
  cases op with
  | sendLine line lineData cursorColumn =>
      obtain ⟨hwidth, xs, hne, hxs, rfl⟩ := hfits
      obtain ⟨t', happly, hsent⟩ := Terminal.sendLine_spec h.tracks h.plainMode hspace hheight
        (hnear _ h.bottom line rfl) hxs hne hwidth cursorColumn
      exact ⟨t', happly, h.of_sent hsent hxs⟩
  | showTerminalCursor column line =>
      obtain ⟨hmoved, hcol, hcursor⟩ := Terminal.showTerminalCursor_spec h.tracks h.plainMode
        hheight (hnear _ h.bottom line rfl) hfits
      refine ⟨_, rfl, h.of_moved hmoved (fun _ => rfl) (.inl rfl) ?_⟩
      rintro column' r ⟨⟩
      exact ⟨hmoved.tracks.row.trans hmoved.remoteLine, hcol, hcursor⟩
  | hideTerminalCursor =>
      refine ⟨_, rfl, h.of_moved (Terminal.hideTerminalCursor_spec h.tracks h.plainMode)
        (fun _ => rfl) (.inr rfl) ?_⟩
      rintro column r ⟨⟩
  | enableMouseMode enabled =>
      refine ⟨_, rfl, h.of_moved (Terminal.enableMouseMode_spec h.tracks enabled)
        (fun _ => rfl) (.inr rfl) ?_⟩
      rintro column r ⟨⟩

end Shown

/-- A screen on which the agent can begin: it is at `newLine`, or is cleared and gets there. -/
structure AtReset (d : Display) (s : Screen (Option ℕ)) (sendClear : Bool) (newLine : ℤ) :
    Prop where
  cursor : s.cursor = true
  visible : s.row ≤ s.bottom
  omitClear : sendClear = false → s.row = newLine ∧ s.col = 0 ∧ s.color = none
  sendClear : sendClear = true → s.top d = newLine ∧ 0 < d.height

lemma tracks_nil (hdata : t.lineData = []) (hcolumn : t.remoteColumn = 0)
    (hcolor : t.remoteColor = none) (hcursor : t.cursorHidden = false)
    (hs : s.row = t.remoteLine ∧ s.row ≤ s.bottom ∧ s.col = 0 ∧ s.color = none ∧ s.cursor = true) :
    Tracks d t s := by
  obtain ⟨hrow, hvisible, hcol, hcolor', hcursor'⟩ := hs
  refine ⟨hrow, hvisible, by rw [hcol, hcolumn], by rw [hcursor', hcursor]; rfl,
    by rw [hcolor', hcolor], fun _ => hcolor, fun _ => ⟨[], ?_, hdata, ?_, ?_⟩⟩
  · intro x hx
    cases hx
  · rw [hdata, hcolumn]
    rfl
  · intro i cell hcell
    cases hcell

/-- A reset, whatever has been before. -/
lemma tracks_reset {sendClear : Bool} {newLine : ℤ} (hplain : t.plainMode = false)
    (h : AtReset d (t.screen d s) sendClear newLine) :
    Tracks d (t.reset sendClear newLine) ((t.reset sendClear newLine).screen d s) ∧
      (t.reset sendClear newLine).plainMode = false ∧
      (t.reset sendClear newLine).outputColor = t.outputColor ∧
      ((t.reset sendClear newLine).screen d s).bottom = (t.screen d s).bottom := by
  cases hclear : sendClear with
  | false =>
      obtain ⟨hrow, hcol, hcolor⟩ := h.omitClear hclear
      exact ⟨tracks_nil rfl rfl rfl rfl ⟨hrow, h.visible, hcol, hcolor, h.cursor⟩, hplain, rfl, rfl⟩
  | true =>
      obtain ⟨htop, hheight⟩ := h.sendClear hclear
      have ht : t.reset true newLine = { t.write [.color none, .home, .clear] with
          remoteLine := newLine, remoteColumn := 0, lineData := [], cursorHidden := false
          remoteColor := none } := by
        rw [Terminal.reset, hplain, Bool.not_false, Bool.and_true, if_pos rfl]
      have hs : (t.reset true newLine).screen d s =
          (t.screen d s).run d [.color none, .home, .clear] := by
        rw [ht]
        exact Terminal.screen_write _
      rw [hs, ht]
      refine ⟨tracks_nil rfl rfl rfl rfl ⟨htop, ?_, rfl, rfl, h.cursor⟩, hplain, rfl, rfl⟩
      show (t.screen d s).bottom - d.height + 1 ≤ (t.screen d s).bottom
      omega

end InitialSetups.Winpty
