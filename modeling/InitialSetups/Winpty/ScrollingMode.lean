import InitialSetups.Winpty.Scraper

/-!
# Scrolling mode

Lines have numbers that count on, and a ring remembers the last ones.  What a scrape sends, it
sends to the rows of these numbers (`sendVirtLines_spec`).
-/

namespace InitialSetups.Winpty

open InitialSetups.Text

variable {d : Display} {s s' : Scraper} {v : ConsoleView} {s₀ : Screen (Option ℕ)} {b saw : Bool}
  {first line firstVirtLine cursorLine cursorColumn : ℤ} {n : ℕ} {cells : List CharInfo}
  {xs : List (List CharInfo)}

/-! ### The lines that are sent -/

/-- The terminal knows the screen, and the ring the rows of the lines from `first` to the last one
that it has had. -/
structure Numbered (d : Display) (s₀ : Screen (Option ℕ)) (b : Bool) (first : ℤ) (s : Scraper) :
    Prop where
  tracks : Tracks d s.terminal (s.terminal.screen d s₀)
  plainMode : s.terminal.plainMode = false
  outputColor : s.terminal.outputColor = b
  known : ∀ line, first ≤ line → line ≤ s.maxBufferedLine →
    s.maxBufferedLine < line + BUFFER_LINE_COUNT →
    (s.bufferData (line % BUFFER_LINE_COUNT).toNat).Known d ((s.terminal.screen d s₀).cells line) b

/-- The line is the next one, or one that the ring and the screen still have. -/
structure Next (d : Display) (s₀ : Screen (Option ℕ)) (b : Bool) (first line : ℤ) (s : Scraper) :
    Prop extends Numbered d s₀ b first s where
  first_le : first ≤ line
  bottom : (s.terminal.screen d s₀).bottom - line < d.height
  noGap : line ≤ max (s.maxBufferedLine + 1) first
  ring : s.maxBufferedLine < line + BUFFER_LINE_COUNT

/-- The console's window is inside its buffer, and not larger than the terminal. -/
structure InBuffer (d : Display) (info : ConsoleScreenBufferInfo) : Prop where
  window : info.windowRect.Valid
  bottom : info.windowRect.Bottom < BUFFER_LINE_COUNT
  right : info.windowRect.Right < info.bufferSize.X
  columns : info.bufferSize.X ≤ d.width
  rows : info.windowRect.height ≤ d.height
  cursor : 0 ≤ info.cursorPosition.Y ∧ info.cursorPosition.Y < BUFFER_LINE_COUNT

/-- A cursor that is in the console's window has a place on the terminal. -/
lemma InBuffer.cursor_inside {info : ConsoleScreenBufferInfo} (h : InBuffer d info)
    (hcontains : info.windowRect.contains info.cursorPosition = true) :
    (info.windowRect.Top ≤ info.cursorPosition.Y ∧
      info.cursorPosition.Y ≤ info.windowRect.Top + d.height - 1) ∧
      0 ≤ info.cursorPosition.X ∧ info.cursorPosition.X < d.width := by
  obtain ⟨hleft, hright, htop, hbottom⟩ := of_decide_eq_true hcontains
  have hrows := h.rows
  rw [h.window.height_eq] at hrows
  have hwide := h.right.trans_le h.columns
  have hpos := h.window.left
  omega

lemma Next.congr (h : Next d s₀ b first line s) (hterminal : s'.terminal = s.terminal)
    (hdata : s'.bufferData = s.bufferData) (hmax : s'.maxBufferedLine = s.maxBufferedLine) :
    Next d s₀ b first line s' := by
  refine ⟨⟨?_, ?_, ?_, ?_⟩, h.first_le, ?_, ?_, ?_⟩
  · rw [hterminal]
    exact h.tracks
  · rw [hterminal]
    exact h.plainMode
  · rw [hterminal]
    exact h.outputColor
  · rw [hterminal, hdata, hmax]
    exact h.known
  · rw [hterminal]
    exact h.bottom
  · rw [hmax]
    exact h.noGap
  · rw [hmax]
    exact h.ring

namespace Scraper

/-- The fields that are changed when lines are sent. -/
def withSent (s : Scraper) (t : Terminal) (data : ℕ → ConsoleLine) (k : ℤ) : Scraper :=
  { s with terminal := t, bufferData := data, maxBufferedLine := k }

/-- Lines that are not far from each other have slots of their own. -/
lemma slot_ne {line line' : ℤ} (hne : line ≠ line') (hlt : line < line' + BUFFER_LINE_COUNT)
    (hgt : line' < line + BUFFER_LINE_COUNT) :
    (line % BUFFER_LINE_COUNT).toNat ≠ (line' % BUFFER_LINE_COUNT).toNat := by
  rw [BUFFER_LINE_COUNT] at *
  omega

/-- The line has been looked at, and its row shows what the ring remembers. -/
lemma next_succ (h : Next d s₀ b first line s) {t : Terminal} {l : ConsoleLine}
    (ht : Tracks d t (t.screen d s₀)) (hplain : t.plainMode = false) (hcolor : t.outputColor = b)
    (hbottom : (t.screen d s₀).bottom ≤ max (s.terminal.screen d s₀).bottom line)
    (hknown : l.Known d ((t.screen d s₀).cells line) b)
    (hothers : ∀ r : ℤ, r ≠ line → (t.screen d s₀).cells r = (s.terminal.screen d s₀).cells r) :
    Next d s₀ b first (line + 1)
      (s.withSent t (Function.update s.bufferData (line % BUFFER_LINE_COUNT).toNat l)
        (max s.maxBufferedLine line)) := by
  have hfirst := h.first_le
  have hprev := h.bottom
  have hgap := h.noGap
  have hring := h.ring
  refine ⟨⟨ht, hplain, hcolor, ?_⟩, by omega, ?_, ?_, ?_⟩
  · intro line' hfirst' hle hlt
    dsimp only [withSent] at hle hlt ⊢
    -- the slot of the line has been filled, and the ring is long enough for the others
    by_cases hline : line' = line
    · rw [hline, Function.update_self]
      exact hknown
    · rw [Function.update_of_ne (slot_ne hline (by omega) (by omega)), hothers line' hline]
      exact h.known line' hfirst' (by omega) (by omega)
  · show (t.screen d s₀).bottom - (line + 1) < d.height
    omega
  · show line + 1 ≤ max (max s.maxBufferedLine line + 1) first
    omega
  · show max s.maxBufferedLine line < line + 1 + BUFFER_LINE_COUNT
    rw [BUFFER_LINE_COUNT] at *
    omega

/-- What the loop has done up to a line: the rows from `firstVirtLine` on show theirs, and the
others are as they were. -/
structure Looped (d : Display) (s₀ : Screen (Option ℕ)) (b : Bool) (lines : ℤ → List CharInfo)
    (firstVirtLine line : ℤ) (s : Scraper) (t : Terminal) : Prop where
  shows : ∀ r, firstVirtLine ≤ r → r < line →
    ShowsLine d ((t.screen d s₀).cells r) b (lines r)
  others : ∀ r, r < firstVirtLine → (t.screen d s₀).cells r = (s.terminal.screen d s₀).cells r
  bottom : (t.screen d s₀).bottom ≤ max (s.terminal.screen d s₀).bottom (line - 1)
  hidden : s.terminal.cursorHidden = true → t.cursorHidden = true

/-- One line. -/
lemma scrapeVirtLine_spec (h : Next d s₀ b first line s) (hspace : d.columns 32 = 1)
    (hheight : d.height ≤ 0x100000000)
    (hread : s.readBuffer.lineData (line - s.scrolledCount) = some cells) (hfits : LineFits d cells)
    (hwidth : cells.length ≤ d.width) (cursorLine cursorColumn : ℤ) (saw : Bool) :
    ∃ saw' t data, scrapeVirtLine cursorLine cursorColumn (saw, s) line =
        some (saw', s.withSent t data (max s.maxBufferedLine line)) ∧
      Next d s₀ b first (line + 1) (s.withSent t data (max s.maxBufferedLine line)) ∧
      ShowsLine d ((t.screen d s₀).cells line) b cells ∧
      (∀ r : ℤ, r ≠ line → (t.screen d s₀).cells r = (s.terminal.screen d s₀).cells r) ∧
      (t.screen d s₀).bottom ≤ max (s.terminal.screen d s₀).bottom line ∧
      (s.terminal.cursorHidden = true → t.cursorHidden = true) := by
  obtain ⟨xs, hne, hxs, rfl⟩ := hfits
  set slot := (line % BUFFER_LINE_COUNT).toNat with hslot
  -- the line is known to have changed, or is compared with the one in its slot
  obtain ⟨saw', l, hdetect, hlength, hdata, hsame⟩ : ∃ saw' l,
      setOrDetect (saw || decide (line > s.maxBufferedLine)) (s.bufferData slot) xs.flatten =
        some (saw', l) ∧
      l.prevLength ≤ l.prevData.length ∧ l.prevData.take l.prevLength = xs.flatten ∧
      (saw' = false → Shows ((s.terminal.screen d s₀).cells line) b xs) := by
    rw [setOrDetect]
    by_cases hsaw : (saw || decide (line > s.maxBufferedLine)) = true
    · refine ⟨true, _, if_pos hsaw, ConsoleLine.length_setLine, ConsoleLine.take_setLine, ?_⟩
      intro hno
      cases hno
    · rw [if_neg hsaw]
      rw [Bool.or_eq_true, decide_eq_true_eq, not_or] at hsaw
      exact (s.bufferData slot).detectChangeAndSetLine_spec hspace
        (h.known line h.first_le (by omega) h.ring) hxs hne
  rw [scrapeVirtLine]
  simp only [Option.bind_eq_bind, hread, Option.bind_some, hdetect, ← hslot]
  cases saw' with
  | false =>
      have hshows := hsame rfl
      refine ⟨false, s.terminal, _, rfl, ?_, ⟨xs, hxs, rfl, hshows⟩, fun _ _ => rfl,
        le_max_left _ _, id⟩
      exact next_succ h h.tracks h.plainMode h.outputColor (le_max_left _ _)
        ⟨hlength, fun _ => ⟨xs, hxs, hdata, hshows⟩⟩ fun _ _ => rfl
  | true =>
      obtain ⟨t, hsend, hsent⟩ := Terminal.sendLine_spec h.tracks h.plainMode hspace hheight
        h.bottom hxs hne hwidth (if line = cursorLine then cursorColumn else -1)
      have hshows := hsent.shows
      rw [h.outputColor] at hshows
      rw [if_pos rfl, hsend, Option.bind_some]
      refine ⟨true, t, _, rfl, ?_, ⟨xs, hxs, rfl, hshows⟩, hsent.others, hsent.bottom.le,
        fun hhidden => Terminal.hidden_sendLine hhidden hsend⟩
      exact next_succ h hsent.tracks (hsent.plainMode.trans h.plainMode)
        (hsent.outputColor.trans h.outputColor) hsent.bottom.le
        ⟨hlength, fun _ => ⟨xs, hxs, hdata, hshows⟩⟩ hsent.others

/-- All lines from one on. -/
lemma scrapeVirtLines_spec (lines : ℤ → List CharInfo) (h : Next d s₀ b first line s)
    (hspace : d.columns 32 = 1) (hheight : d.height ≤ 0x100000000)
    (hread : ∀ r, line ≤ r → r < line + n →
      s.readBuffer.lineData (r - s.scrolledCount) = some (lines r))
    (hfits : ∀ r, line ≤ r → r < line + n → LineFits d (lines r) ∧ (lines r).length ≤ d.width)
    (cursorLine cursorColumn : ℤ) (saw : Bool) :
    ∃ saw' t data k, scrapeVirtLines cursorLine cursorColumn n line (saw, s) =
        some (saw', s.withSent t data k) ∧
      k ≤ max s.maxBufferedLine (line + n - 1) ∧
      Next d s₀ b first (line + n) (s.withSent t data k) ∧
      Looped d s₀ b lines line (line + n) s t := by
  induction n generalizing line saw s with
  | zero =>
      refine ⟨saw, s.terminal, s.bufferData, s.maxBufferedLine, rfl, le_max_left _ _, ?_, ?_⟩
      · have hline : line + ((0 : ℕ) : ℤ) = line := by omega
        rw [hline]
        exact h
      · refine ⟨fun r hle hlt => ?_, fun _ _ => rfl, le_max_left _ _, id⟩
        omega
  | succ n ih =>
      obtain ⟨saw₁, t₁, _, hline, hnext, hshows, hothers, hbottom, hhidden⟩ :=
        scrapeVirtLine_spec h hspace hheight (hread line le_rfl (by omega))
          (hfits line le_rfl (by omega)).1 (hfits line le_rfl (by omega)).2 cursorLine cursorColumn
          saw
      obtain ⟨saw', t, data, k, hrun, hk, hnext', hlooped⟩ := ih hnext
        (fun r hle hlt => hread r (by omega) (by omega))
        (fun r hle hlt => hfits r (by omega) (by omega)) saw₁
      have hstop : line + 1 + (n : ℤ) = line + (n + 1 : ℕ) := by omega
      have hbottom' := hlooped.bottom
      rw [hstop] at hk hnext' hlooped hbottom'
      dsimp only [withSent] at hk hbottom'
      refine ⟨saw', t, data, k, ?_, ?_, hnext', ?_, ?_, ?_, ?_⟩
      · rw [scrapeVirtLines, hline]
        exact hrun
      · omega
      · intro r hle hlt
        rcases hle.eq_or_lt with rfl | hgt
        · rw [hlooped.others line (by omega)]
          exact hshows
        · exact hlooped.shows r (by omega) hlt
      · intro r hr
        rw [hlooped.others r (by omega)]
        exact hothers r hr.ne
      · omega
      · exact fun h => hlooped.hidden (hhidden h)

/-- A terminal that has moved on its screen. -/
lemma next_of_moved (h : Next d s₀ b first line s) {t : Terminal} {r : ℤ}
    (hmoved : Terminal.Moved d s₀ s.terminal t r) (hr : r - line < d.height) :
    Next d s₀ b first line { s with terminal := t } := by
  have hbottom := h.bottom
  refine ⟨⟨hmoved.tracks, hmoved.plainMode.trans h.plainMode,
    hmoved.outputColor.trans h.outputColor, ?_⟩, h.first_le, ?_, h.noGap, h.ring⟩
  · intro line' hfirst hle hlt
    show ConsoleLine.Known d ((t.screen d s₀).cells line') b _
    rw [hmoved.cells]
    exact h.known line' hfirst hle hlt
  · show (t.screen d s₀).bottom - line < d.height
    rw [hmoved.bottom]
    omega

/-- The lines that a scrape has to look at are on the terminal, and so is the cursor. -/
structure Scraped (d : Display) (s₀ : Screen (Option ℕ)) (b : Bool) (first firstVirtLine : ℤ)
    (lines : ℤ → List CharInfo) (v : ConsoleView) (s s' : Scraper) : Prop where
  next : Next d s₀ b first s'.scrapedLineCount s'
  shows : ∀ r, firstVirtLine ≤ r → r < min s.dirtyLineCount
      (v.info.windowRect.Top + v.info.windowRect.height) + s.scrolledCount →
    ShowsLine d ((s'.terminal.screen d s₀).cells r) b (lines r)
  others : ∀ r, r < firstVirtLine →
    (s'.terminal.screen d s₀).cells r = (s.terminal.screen d s₀).cells r
  cursor : ShowsCursor (s'.terminal.screen d s₀)
    (v.cursorVisible && v.info.windowRect.contains v.info.cursorPosition)
    (v.info.cursorPosition.Y + s.scrolledCount) v.info.cursorPosition.X

/-- What has been read is sent. -/
lemma sendVirtLines_spec {lines : ℤ → List CharInfo} (h : Next d s₀ b first firstVirtLine s)
    (hspace : d.columns 32 = 1) (hheight : d.height ≤ 0x100000000) (hin : InBuffer d v.info)
    (hfirst : firstVirtLine ≤ v.info.windowRect.Top + s.scrolledCount)
    (hdirty : v.info.windowRect.Top ≤ s.dirtyLineCount)
    (hread : ∀ r, firstVirtLine ≤ r → r < min s.dirtyLineCount
        (v.info.windowRect.Top + v.info.windowRect.height) + s.scrolledCount →
      s.readBuffer.lineData (r - s.scrolledCount) = some (lines r))
    (hlines : ∀ r, LineFits d (lines r) ∧ (lines r).length ≤ d.width) :
    ∃ t data k, s.sendVirtLines v firstVirtLine = some
        { s.withSent t data k with
          scrapedLineCount := v.info.windowRect.Top + s.scrolledCount } ∧
      Scraped d s₀ b first firstVirtLine lines v s
        { s.withSent t data k with
          scrapedLineCount := v.info.windowRect.Top + s.scrolledCount } := by
  have hrows := hin.rows
  have hbottom := h.bottom
  have hlow : v.info.windowRect.Top + v.info.windowRect.height ≤ BUFFER_LINE_COUNT := by
    have := hin.bottom
    rw [hin.window.height_eq]
    omega
  have hpos := hin.window.height_pos
  have htop := hin.window.top
  rw [sendVirtLines]
  dsimp only
  set top := v.info.windowRect.Top
  set stop := min s.dirtyLineCount (top + v.info.windowRect.height) + s.scrolledCount with hstop
  have hstopLe : stop ≤ top + v.info.windowRect.height + s.scrolledCount := by omega
  have hstopGe : top + s.scrolledCount ≤ stop := by omega
  have hlt_stop : ∀ r, r < min s.dirtyLineCount (top + v.info.windowRect.height) +
      s.scrolledCount → r < stop := fun r hr => hr.trans_eq hstop.symm
  -- from here on only the bounds of the last line matter
  clear_value stop
  clear hstop
  set shows := v.cursorVisible && v.info.windowRect.contains v.info.cursorPosition with hshows
  set cursorLine := if !shows then -1 else v.info.cursorPosition.Y + s.scrolledCount
  set cursorColumn := if !shows then -1 else v.info.cursorPosition.X
  -- the cursor may be hidden first
  obtain ⟨hmoved, hhides⟩ := Terminal.hideUnless_spec h.tracks h.plainMode shows
  set t₁ := if !shows then s.terminal.hideTerminalCursor else s.terminal
  have hremote := h.tracks.remoteLine_le
  have hbottom₁ : (t₁.screen d s₀).bottom ≤ firstVirtLine + d.height - 1 := by
    rw [hmoved.bottom, max_eq_left hremote]
    omega
  have hnext₁ := next_of_moved h hmoved (by omega)
  have hcount : firstVirtLine + ((stop - firstVirtLine).toNat : ℤ) = stop := by omega
  obtain ⟨_, t₂, data, k, hrun, hk, hnext₂, hlooped⟩ := scrapeVirtLines_spec
    (n := (stop - firstVirtLine).toNat) lines hnext₁ hspace hheight
    (by rw [hcount]; exact hread) (fun r _ _ => hlines r) cursorLine cursorColumn false
  rw [hcount] at hk hnext₂ hlooped
  clear hcount
  have hbottom₂ : (t₂.screen d s₀).bottom ≤ top + s.scrolledCount + d.height - 1 :=
    hlooped.bottom.trans (max_le (hbottom₁.trans (by omega)) (by omega))
  have hring : k < top + s.scrolledCount + BUFFER_LINE_COUNT :=
    hk.trans_lt (max_lt (h.ring.trans_le (by omega)) (by omega))
  have hnext : Next d s₀ b first (top + s.scrolledCount)
      { s.withSent t₂ data k with scrapedLineCount := top + s.scrolledCount } := by
    refine ⟨⟨hnext₂.tracks, hnext₂.plainMode, hnext₂.outputColor, hnext₂.known⟩,
      h.first_le.trans hfirst, ?_, hstopGe.trans hnext₂.noGap, hring⟩
    show (t₂.screen d s₀).bottom - _ < _
    omega
  have hothers : ∀ r, r < firstVirtLine →
      (t₂.screen d s₀).cells r = (s.terminal.screen d s₀).cells r := by
    intro r hr
    rw [hlooped.others r hr]
    show (t₁.screen d s₀).cells r = _
    rw [hmoved.cells]
  have hinside := fun hon => hin.cursor_inside (Bool.and_eq_true_iff.1 (hshows.symm.trans hon)).2
  have hrow : shows = true →
      (t₂.screen d s₀).bottom - (v.info.cursorPosition.Y + s.scrolledCount) < d.height ∧
        v.info.cursorPosition.Y + s.scrolledCount ≤ top + s.scrolledCount + d.height - 1 := by
    intro hon
    have hplace := (hinside hon).1
    omega
  have htracks₂ : Tracks d t₂ (t₂.screen d s₀) := hnext₂.tracks
  have hplain₂ : t₂.plainMode = false := hnext₂.plainMode
  set t₃ := if shows then t₂.showTerminalCursor cursorColumn.toNat cursorLine else t₂ with ht₃
  obtain ⟨r₃, hr₃, hmoved₃, hcursor⟩ := Terminal.showIf_spec htracks₂ hplain₂ hheight hbottom₂
    hrow (fun hon => (hinside hon).2) (fun hoff => hlooped.hidden (hhides hoff)) ht₃
  rw [hrun]
  simp only [Option.bind_eq_bind, Option.bind_some]
  refine ⟨t₃, data, k, ?_, next_of_moved hnext hmoved₃ (by omega), ?_, ?_, hcursor⟩
  · rw [ht₃]
    split_ifs <;> rfl
  · intro r hle hlt
    show ShowsLine d ((t₃.screen d s₀).cells r) b _
    rw [hmoved₃.cells]
    exact hlooped.shows r hle (hlt_stop r hlt)
  · intro r hr
    show (t₃.screen d s₀).cells r = _
    rw [hmoved₃.cells]
    exact hothers r hr

/-! ### The lines that are read -/

/-- A line in which no cell is dirty is made of spaces. -/
lemma eq_space_of_not_dirty {attr : ℕ} (h : ¬ cells.any (isDirtyCell attr) = true) {c : CharInfo}
    (hc : c ∈ cells) : c.UnicodeChar = 0x20 := by
  rw [Bool.not_eq_true, List.any_eq_false] at h
  have hclean := h c hc
  rw [isDirtyCell, decide_eq_true_eq, not_or, not_not] at hclean
  exact hclean.1

/-- Below the lines that are dirty, there are only spaces. -/
lemma scanLines_spec (readBuffer : LargeConsoleReadBuffer) (w attr : ℕ) {dirty : ℤ}
    (hdirty : dirty ≤ line)
    (hread : ∀ r, line ≤ r → r < line + n → ∃ cells, readBuffer.lineData r = some cells) :
    ∃ dirty', scanLines readBuffer w n line attr dirty = some dirty' ∧ dirty ≤ dirty' ∧
      dirty' ≤ line + n ∧ ∀ r cells, dirty' ≤ r → line ≤ r → r < line + n →
        readBuffer.lineData r = some cells → ∀ c ∈ cells, c.UnicodeChar = 0x20 := by
  induction n generalizing line attr dirty with
  | zero =>
      refine ⟨dirty, rfl, le_rfl, by simpa using hdirty, fun r cells _ hle hlt => ?_⟩
      omega
  | succ n ih =>
      obtain ⟨cells, hline⟩ := hread line le_rfl (by omega)
      rw [scanLines, hline]
      simp only [Option.bind_eq_bind, Option.bind_some]
      set dirty₁ := if cells.any (isDirtyCell attr) = true then line + 1 else dirty with hdirty₁
      have hle₁ : dirty ≤ dirty₁ ∧ dirty₁ ≤ line + 1 := by
        rw [hdirty₁]
        split_ifs <;> omega
      obtain ⟨dirty', hscan, hge, hle, hblank⟩ := ih
        (cells.getD (w - 1) ⟨0, 0⟩).Attributes hle₁.2
        fun r hle hlt => hread r (by omega) (by omega)
      refine ⟨dirty', hscan, hle₁.1.trans hge, by push_cast; omega, ?_⟩
      intro r cells' hr hle hlt hcells'
      -- this line would have raised the count, had it been dirty
      rcases hle.eq_or_lt with rfl | hgt
      · rw [hline] at hcells'
        cases hcells'
        have hclean : ¬ cells.any (isDirtyCell attr) = true := by
          intro hany
          rw [if_pos hany] at hdirty₁
          omega
        exact fun c hc => eq_space_of_not_dirty hclean hc
      · exact hblank r cells' hr (by omega) (by push_cast at hlt; omega) hcells'

/-- The dirty line count goes down as far as something is written. -/
lemma scanForDirtyLines_spec (rect : SmallRect) (hdirty : 1 ≤ s.dirtyLineCount)
    (hread : ∀ r, s.dirtyLineCount - 1 ≤ r → r < rect.Top + rect.height ∨ r < s.dirtyLineCount →
      ∃ cells, s.readBuffer.lineData r = some cells) :
    ∃ dirty', s.scanForDirtyLines rect = some { s with dirtyLineCount := dirty' } ∧
      s.dirtyLineCount ≤ dirty' ∧ dirty' ≤ max s.dirtyLineCount (rect.Top + rect.height) ∧
      ∀ r cells, dirty' ≤ r → r < rect.Top + rect.height →
        s.readBuffer.lineData r = some cells → ∀ c ∈ cells, c.UnicodeChar = 0x20 := by
  obtain ⟨prev, hprev⟩ := hread (s.dirtyLineCount - 1) le_rfl (.inr (by omega))
  obtain ⟨dirty', hscan, hge, hle, hblank⟩ := scanLines_spec
    (n := (rect.Top + rect.height - s.dirtyLineCount).toNat) s.readBuffer
    s.readBuffer.rect.width.toNat (prev.getD (s.readBuffer.rect.width.toNat - 1) ⟨0, 0⟩).Attributes
    (le_refl s.dirtyLineCount) (fun r hle hlt => hread r (by omega) (.inl (by omega)))
  refine ⟨dirty', ?_, hge, by omega, ?_⟩
  · rw [scanForDirtyLines]
    simp only [Option.bind_eq_bind, if_pos hdirty, hprev, Option.bind_some, hscan]
    rfl
  · intro r cells hr hlt hcells
    exact hblank r cells hr (by omega) (by omega) hcells

/-- The width of the lines that are read. -/
def readWidth (info : ConsoleScreenBufferInfo) : ℕ :=
  (min info.bufferSize.X MAX_CONSOLE_WIDTH).toNat

lemma readWidth_eq (hin : InBuffer d v.info) :
    (readWidth v.info : ℤ) = min v.info.bufferSize.X 2500 := by
  have hleft := hin.window.left
  have hright := hin.window.right
  have hright' := hin.right
  rw [readWidth, MAX_CONSOLE_WIDTH]
  omega

lemma readRect_spec (hin : InBuffer d v.info) (hdirty : 1 ≤ s.dirtyLineCount)
    (hdirty' : s.dirtyLineCount ≤ BUFFER_LINE_COUNT)
    (hscrolled : s.scrolledCount ≤ s.scrapedLineCount)
    (hwindow : s.scrapedLineCount ≤ v.info.windowRect.Top + s.scrolledCount) :
    s.readRect v = ⟨0, min (s.scrapedLineCount - s.scrolledCount) (s.dirtyLineCount - 1),
      readWidth v.info - 1,
      max (v.info.windowRect.Top + v.info.windowRect.height) s.dirtyLineCount - 1⟩ := by
  have hleft := hin.window.left
  have hright := hin.window.right
  have hright' := hin.right
  have htop := hin.window.top
  have hbottom := hin.bottom
  have hheight := hin.window.height_eq
  have hwidth := readWidth_eq hin
  rw [BUFFER_LINE_COUNT] at *
  rw [readRect, firstVirtLine, min_eq_left hwindow, hwidth, MAX_CONSOLE_WIDTH, SmallRect.ofSize,
    toShort_of_lt (by omega) (by omega), toShort_of_lt (by omega) (by omega),
    toShort_of_lt (by omega) (by omega), toShort_of_lt (by omega) (by omega)]
  congr 1
  · omega
  · omega

/-- The lines from the first one to scrape down to the bottom of the window are read. -/
lemma readLines_spec (hin : InBuffer d v.info) (hdirty : 1 ≤ s.dirtyLineCount)
    (hdirty' : s.dirtyLineCount ≤ BUFFER_LINE_COUNT)
    (hscrolled : s.scrolledCount ≤ s.scrapedLineCount)
    (hwindow : s.scrapedLineCount ≤ v.info.windowRect.Top + s.scrolledCount) :
    ∃ out, s.readLines v = some { s with readBuffer := out } ∧
      ∀ r, s.scrapedLineCount - s.scrolledCount ≤ r ∨ s.dirtyLineCount - 1 ≤ r →
        r < v.info.windowRect.Top + v.info.windowRect.height ∨ r < s.dirtyLineCount →
        out.lineData r =
          some (gridLine (maskGrid v.attributesMask v.grid) 0 (readWidth v.info) r) := by
  have hrect := readRect_spec hin hdirty hdirty' hscrolled hwindow
  have hleft := hin.window.left
  have hright := hin.window.right
  have hright' := hin.right
  have htop := hin.window.top
  have hbottom := hin.bottom
  have hheight := hin.window.height_eq
  have hwidth := readWidth_eq hin
  have hbuffer : BUFFER_LINE_COUNT = 3000 := rfl
  have hvalid : (s.readRect v).Valid := by
    rw [hrect]
    refine ⟨le_rfl, ?_, ⟨?_, ?_⟩, ⟨?_, ?_⟩⟩
    all_goals
      dsimp only
      omega
  have hwidth' : (s.readRect v).width = readWidth v.info := by
    rw [hvalid.width_eq, hrect]
    dsimp only
    omega
  obtain ⟨out, hread, hdata⟩ := largeConsoleRead_spec hvalid
    (by rw [hwidth', hwidth]; exact min_le_right _ _) s.readBuffer v.grid v.attributesMask
    v.useLargeReads
  refine ⟨out, ?_, fun r hfirst hstop => ?_⟩
  · rw [readLines, firstVirtLine, min_eq_left hwindow]
    rw [if_pos ⟨hdirty, by omega, by omega⟩, hread]
    rfl
  · -- the rows asked for are among those of the rectangle
    have hline := hdata r (by rw [hrect]; dsimp only; omega) (by rw [hrect]; dsimp only; omega)
    rw [hwidth', Int.toNat_natCast] at hline
    rw [hline, hrect]

end Scraper

end InitialSetups.Winpty
