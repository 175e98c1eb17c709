import InitialSetups.Winpty.Document
import Mathlib.Logic.Relation

/-!
# The scrollback

While an application writes, the agent scrapes, with the console frozen or not.  However the two
are interleaved, the terminal's rows above the window show what the application has written
(`scrollback_shown`).
-/

namespace InitialSetups.Winpty

open InitialSetups.Text

variable {d : Display} {s s' : Scraper} {v : ConsoleView} {s₀ : Screen (Option ℕ)}
  {b : Bool} {first line m o : ℤ} {c c' c₁ c₂ c₃ c₄ : Document}

/-- The application goes on.  It may scroll the buffer and move the window down, and leaves the
lines above the window as they are. -/
structure Document.Grows (c c' : Document) : Prop where
  origin : c.origin ≤ c'.origin
  top : c.info.windowRect.Top ≤ c'.info.windowRect.Top
  above : ∀ line column, line < c.windowLine → c'.text line column = c.text line column
  marked : c'.marked = c.marked
  bufferSize : c'.info.bufferSize = c.info.bufferSize
  attributesMask : c'.attributesMask = c.attributesMask

/-- The line that may not leave the buffer before the next scrape: the one of the marker, or the
first one. -/
def Scraper.limit (s : Scraper) : ℤ := s.scrolledCount + max s.syncRow 0

/-- A console whose lines the terminal can show, that has not scrolled too far, and on which the
application does not write markers. -/
structure Document.Sound (d : Display) (limit : ℤ) (c : Document) : Prop where
  info : InBuffer d c.info
  lines : ∀ line, LineFits d (c.textLine line)
  unlike : ∀ syncCounter line, Scraper.markerAt syncCounter c.text line = false
  origin : c.origin ≤ limit

namespace Document

lemma Grows.refl (c : Document) : c.Grows c :=
  ⟨le_rfl, le_rfl, fun _ _ _ => rfl, rfl, rfl, rfl⟩

lemma Grows.windowLine (h : c.Grows c') : c.windowLine ≤ c'.windowLine := by
  have horigin := h.origin
  have htop := h.top
  rw [Document.windowLine, Document.windowLine]
  omega

lemma Grows.trans (h : c.Grows c') (h' : c'.Grows c₁) : c.Grows c₁ where
  origin := h.origin.trans h'.origin
  top := h.top.trans h'.top
  above line column hline :=
    (h'.above line column (hline.trans_le h.windowLine)).trans (h.above line column hline)
  marked := h'.marked.trans h.marked
  bufferSize := h'.bufferSize.trans h.bufferSize
  attributesMask := h'.attributesMask.trans h.attributesMask

lemma Grows.textLine (h : c.Grows c') (hline : line < c.windowLine) :
    c'.textLine line = c.textLine line := by
  rw [Document.textLine, Document.textLine, h.attributesMask, gridLine, gridLine, Scraper.readWidth,
    Scraper.readWidth, h.bufferSize]
  refine List.map_congr_left fun j _ => ?_
  rw [maskGrid, maskGrid, h.above line _ hline]

/-- A row over which the agent has not written is read as the application wrote it. -/
lemma gridLine_grid {row : ℤ} (h : c.marked (row + c.origin) = none) :
    gridLine (maskGrid c.attributesMask c.grid) 0 (Scraper.readWidth c.info) row =
      c.textLine (row + c.origin) := by
  rw [textLine, gridLine, gridLine]
  refine List.map_congr_left fun j _ => ?_
  rw [maskGrid, maskGrid, grid, h]

lemma Sound.length_textLine (h : c.Sound d m) (line : ℤ) :
    (c.textLine line).length ≤ d.width := by
  have hcolumns := h.info.columns
  rw [textLine, length_gridLine, Scraper.readWidth]
  omega

end Document

namespace Scraper

/-- The scraper knows how far the buffer has scrolled. -/
def syncTo (s : Scraper) (origin : ℤ) : Scraper :=
  { s with
    scrolledCount := origin
    syncRow := if s.syncRow = -1 then -1 else s.scrolledCount + s.syncRow - origin }

/-- The marker is where the scraper has it, if it has one. -/
def Anchored (c : Document) (s : Scraper) : Prop :=
  (s.syncRow = -1 ∧ ∀ line, c.marked line = none) ∨
    (0 ≤ s.syncRow ∧ c.Marked s.syncCounter (s.scrolledCount + s.syncRow))

lemma limit_syncTo (h : s.scrolledCount ≤ o) (ho : o ≤ s.limit) : (s.syncTo o).limit = s.limit := by
  rw [limit] at ho ⊢
  rw [limit]
  show o + max (if s.syncRow = -1 then -1 else s.scrolledCount + s.syncRow - o) 0 = _
  split_ifs <;> omega

lemma Anchored.congr (h : Anchored c s) (hc : c'.marked = c.marked) : Anchored c' s := by
  rcases h with ⟨hrow, hnone⟩ | ⟨hrow, hmarked⟩
  · refine .inl ⟨hrow, fun line => ?_⟩
    rw [hc]
    exact hnone line
  · refine .inr ⟨hrow, fun i hi => ?_, fun r hr => ?_⟩
    · rw [hc]
      exact hmarked.cells i hi
    · rw [hc]
      exact hmarked.below r hr

lemma Anchored.syncTo (h : Anchored c s) (ho : o ≤ s.limit) : Anchored c (s.syncTo o) := by
  rw [limit] at ho
  rcases h with ⟨hrow, hnone⟩ | ⟨hrow, hmarked⟩
  · exact .inl ⟨if_pos hrow, hnone⟩
  · have hne : s.syncRow ≠ -1 := by omega
    have hsync : (s.syncTo o).syncRow = s.scrolledCount + s.syncRow - o := if_neg hne
    have hline : (s.syncTo o).scrolledCount + (s.syncTo o).syncRow =
        s.scrolledCount + s.syncRow := by
      rw [hsync]
      show o + _ = _
      omega
    refine .inr ⟨by omega, ?_⟩
    rw [hline]
    exact hmarked

/-- The marker tells how far the buffer has scrolled. -/
lemma syncScrollCount_spec (h : Anchored c s) (hle : s.scrolledCount ≤ c.origin)
    (hc : c.Sound d s.limit) (hv : v.markerGrid = c.grid) (tentative : Bool) :
    ∃ n, s.syncScrollCount v tentative =
        some (true, { s.syncTo c.origin with dirtyLineCount := n }) ∧ s.dirtyLineCount ≤ n ∧
      n ≤ max s.dirtyLineCount (v.info.windowRect.Top + v.info.windowRect.height) := by
  have horigin := hc.origin
  rw [limit] at horigin
  rw [syncScrollCount]
  rcases h with ⟨hrow, -⟩ | ⟨hrow, hmarked⟩
  · -- without a marker the buffer must not have scrolled at all
    have hsame : c.origin = s.scrolledCount := by omega
    refine ⟨s.dirtyLineCount, ?_, le_rfl, le_max_left _ _⟩
    rw [if_neg (not_not.2 hrow), syncTo, if_pos hrow, hsame, ← hrow]
  · have hne : s.syncRow ≠ -1 := by omega
    have hfind := findSyncMarker_eq hmarked (hc.unlike _) (by omega) (by omega)
    rw [if_pos hne]
    dsimp only
    rw [hv, hfind, if_neg (by omega)]
    by_cases hstays : s.scrolledCount + s.syncRow - c.origin = s.syncRow
    · have hsame : c.origin = s.scrolledCount := by omega
      refine ⟨s.dirtyLineCount, ?_, le_rfl, le_max_left _ _⟩
      rw [if_neg (not_not.2 hstays), syncTo, if_neg hne, hstays, hsame]
    · have hcount : s.scrolledCount + (s.syncRow - (s.scrolledCount + s.syncRow - c.origin)) =
          c.origin := by omega
      refine ⟨_, ?_, le_max_left _ _, le_rfl⟩
      rw [if_pos hstays, if_pos (by omega), hcount, syncTo, if_neg hne]
      rfl

/-- A window that has not moved up. -/
lemma syncWindowTop_spec (h : s.dirtyWindowTop ≤ v.info.windowRect.Top) (tentative : Bool) :
    ∃ n, s.syncWindowTop v tentative = (true, { s with dirtyLineCount := n }) ∧
      s.dirtyLineCount ≤ n ∧
      n ≤ max s.dirtyLineCount (v.info.windowRect.Top + v.info.windowRect.height) := by
  rw [syncWindowTop]
  by_cases hknown : s.dirtyWindowTop ≠ -1
  · rw [if_pos hknown]
    by_cases hdown : v.info.windowRect.Top > s.dirtyWindowTop
    · rw [if_pos hdown]
      exact ⟨_, rfl, le_max_left _ _, le_rfl⟩
    · rw [if_neg hdown, if_neg (by omega)]
      exact ⟨s.dirtyLineCount, rfl, le_rfl, le_max_left _ _⟩
  · rw [if_neg hknown]
    exact ⟨s.dirtyLineCount, rfl, le_rfl, le_max_left _ _⟩

/-- The scrape after the synchronization. -/
lemma scrollingScrapeOutput_eq {s₁ s₂ : Scraper} {tentative : Bool}
    (hsync : s.syncScrollCount v tentative = some (true, s₁))
    (hwindow : s₁.syncWindowTop v tentative = (true, s₂)) :
    s.scrollingScrapeOutput v tentative =
      if (tentative && s₁.shouldCreateSyncRow v) = true then some (false, s₁)
      else ((s₂.updateDirtyLineCount v).readLines v).bind fun s₃ =>
        if (tentative && !s₃.stillThere v) = true then some (false, s₃)
        else (if s₁.shouldCreateSyncRow v = true then s₃.createSyncMarker (newSyncRow v)
            else some s₃).bind fun s₄ =>
          s₄.sendOutput v ((s₂.updateDirtyLineCount v).firstVirtLine v) := by
  rw [scrollingScrapeOutput, hsync]
  simp only [Option.bind_eq_bind, Option.bind_some, hwindow, Bool.not_true, Bool.false_eq_true,
    if_false]
  cases s₁.shouldCreateSyncRow v <;> rfl

/-- After the synchronization. -/
lemma sync_spec (hanchored : Anchored c₁ s) (hle : s.scrolledCount ≤ c₁.origin)
    (hc : c₁.Sound d s.limit) (hv : v.markerGrid = c₁.grid)
    (hin : InBuffer d v.info) (htop : s.dirtyWindowTop ≤ v.info.windowRect.Top)
    (hdirty : s.dirtyLineCount ≤ BUFFER_LINE_COUNT) (tentative : Bool) :
    ∃ n₁ n₂ n, s.syncScrollCount v tentative =
        some (true, { s.syncTo c₁.origin with dirtyLineCount := n₁ }) ∧
      ({ s.syncTo c₁.origin with dirtyLineCount := n₁ } : Scraper).syncWindowTop v tentative =
        (true, { s.syncTo c₁.origin with dirtyLineCount := n₂ }) ∧
      ({ s.syncTo c₁.origin with dirtyLineCount := n₂ } : Scraper).updateDirtyLineCount v =
        { s.syncTo c₁.origin with
          dirtyWindowTop := v.info.windowRect.Top, dirtyLineCount := n } ∧
      n₁ ≤ n ∧ max v.info.windowRect.Top (v.info.cursorPosition.Y + 1) ≤ n ∧
      n ≤ BUFFER_LINE_COUNT := by
  have hcursor := hin.cursor.2
  have hbottom := hin.bottom
  have hheight := hin.window.height_eq
  have hpos := hin.window.height_pos
  obtain ⟨n₁, hsync, hge₁, hle₁⟩ := syncScrollCount_spec hanchored hle hc hv tentative
  obtain ⟨n₂, hwindow, hge₂, hle₂⟩ := syncWindowTop_spec
    (s := { s.syncTo c₁.origin with dirtyLineCount := n₁ }) htop tentative
  dsimp only at hge₂ hle₂
  refine ⟨n₁, n₂, _, hsync, hwindow, rfl, ?_, ?_, ?_⟩
  all_goals
    dsimp only
    omega

/-! ### The invariant -/

/-- The terminal shows all lines that have left the window at the last scrape, and the marker is
where it has been laid. -/
structure Follows (d : Display) (s₀ : Screen (Option ℕ)) (b : Bool) (first : ℤ) (s : Scraper)
    (c : Document) : Prop where
  next : Next d s₀ b first s.scrapedLineCount s
  shown : ∀ line, first ≤ line → line < s.scrapedLineCount →
    ShowsLine d ((s.terminal.screen d s₀).cells line) b (c.textLine line)
  sound : c.Sound d s.limit
  anchored : Anchored c s
  scrolled : s.scrolledCount ≤ c.origin
  limit : s.limit ≤ s.scrapedLineCount
  clear : ∀ line, s.scrapedLineCount ≤ line → c.marked line = none
  window : s.scrapedLineCount ≤ c.info.windowRect.Top + s.scrolledCount
  dirtyTop : s.dirtyWindowTop ≤ c.info.windowRect.Top
  dirty : s.dirtyLineCount ≤ BUFFER_LINE_COUNT

lemma Follows.windowLine (h : Follows d s₀ b first s c) : s.scrapedLineCount ≤ c.windowLine := by
  have hwindow := h.window
  have hscrolled := h.scrolled
  rw [Document.windowLine]
  omega

/-- Nothing has been sent, and the application has gone on. -/
lemma Follows.quiet (h : Follows d s₀ b first s c) (hgrows : c.Grows c')
    (hc : c'.Sound d s.limit) (hle : s.scrolledCount ≤ o) (ho : o ≤ c'.origin) {top n : ℤ}
    (htop : top ≤ c'.info.windowRect.Top) (hn : n ≤ BUFFER_LINE_COUNT)
    (out : LargeConsoleReadBuffer) :
    Follows d s₀ b first
      { s.syncTo o with dirtyWindowTop := top, dirtyLineCount := n, readBuffer := out } c' := by
  have hlimit := limit_syncTo hle (ho.trans hc.origin)
  have hwindow := h.window
  have hgrowsTop := hgrows.top
  refine ⟨h.next.congr rfl rfl rfl, ?_, ?_, ?_, ho, ?_, ?_, ?_, htop, hn⟩
  · -- what has left the window is final
    intro line hfirst hlt
    rw [hgrows.textLine (hlt.trans_le h.windowLine)]
    exact h.shown line hfirst hlt
  · show c'.Sound d (s.syncTo o).limit
    rw [hlimit]
    exact hc
  · exact (h.anchored.syncTo (ho.trans hc.origin)).congr hgrows.marked
  · show (s.syncTo o).limit ≤ _
    rw [hlimit]
    exact h.limit
  · intro line hline
    rw [hgrows.marked]
    exact h.clear line hline
  · show s.scrapedLineCount ≤ c'.info.windowRect.Top + o
    omega

/-! ### One scrape -/

/-- What a scrape leaves behind: the lines down to the bottom of the window are on the terminal,
but for some of spaces at the end. -/
structure Complete (d : Display) (s₀ : Screen (Option ℕ)) (b : Bool) (first : ℤ)
    (lines : ℤ → List CharInfo) (v : ConsoleView) (s s' : Scraper) : Prop where
  next : Next d s₀ b first s'.scrapedLineCount s'
  others : ∀ line, line < s.scrapedLineCount →
    (s'.terminal.screen d s₀).cells line = (s.terminal.screen d s₀).cells line
  shown : ∀ line, s.scrapedLineCount ≤ line →
    line < v.info.windowRect.Top + v.info.windowRect.height + s.scrolledCount →
    ShowsLine d ((s'.terminal.screen d s₀).cells line) b (lines line) ∨
      v.info.windowRect.Top + s.scrolledCount ≤ line ∧ ∀ cell ∈ lines line, cell.UnicodeChar = 0x20
  cursor : ShowsCursor (s'.terminal.screen d s₀)
    (v.cursorVisible && v.info.windowRect.contains v.info.cursorPosition)
    (v.info.cursorPosition.Y + s.scrolledCount) v.info.cursorPosition.X

lemma sendOutput_spec (lines : ℤ → List CharInfo) (h : Next d s₀ b first s.scrapedLineCount s)
    (hspace : d.columns 32 = 1) (hheight : d.height ≤ 0x100000000) (hin : InBuffer d v.info)
    (hwindow : s.scrapedLineCount ≤ v.info.windowRect.Top + s.scrolledCount)
    (hdirty : max v.info.windowRect.Top (v.info.cursorPosition.Y + 1) ≤ s.dirtyLineCount)
    (hdirty' : s.dirtyLineCount ≤ BUFFER_LINE_COUNT)
    (hread : ∀ r, s.scrapedLineCount - s.scrolledCount ≤ r ∨ s.dirtyLineCount - 1 ≤ r →
      r < v.info.windowRect.Top + v.info.windowRect.height ∨ r < s.dirtyLineCount →
      ∃ cells, s.readBuffer.lineData r = some cells ∧
        (s.scrapedLineCount ≤ r + s.scrolledCount → cells = lines (r + s.scrolledCount)))
    (hlines : ∀ r, LineFits d (lines r) ∧ (lines r).length ≤ d.width) :
    ∃ t data k n, s.sendOutput v s.scrapedLineCount = some (true,
        { s.withSent t data k with
          dirtyLineCount := n
          scrapedLineCount := v.info.windowRect.Top + s.scrolledCount }) ∧
      n ≤ BUFFER_LINE_COUNT ∧
      Complete d s₀ b first lines v s
        { s.withSent t data k with
          dirtyLineCount := n
          scrapedLineCount := v.info.windowRect.Top + s.scrolledCount } := by
  have hcursor := hin.cursor.1
  have hbuffer := hin.bottom
  have hheightEq := hin.window.height_eq
  obtain ⟨n, hscan, hge, hle, hblank⟩ := scanForDirtyLines_spec (s := s)
    v.info.windowRect (by omega) fun r hr hlt => by
      obtain ⟨cells, hcells, -⟩ := hread r (.inr hr) hlt
      exact ⟨cells, hcells⟩
  have hn : n ≤ BUFFER_LINE_COUNT := by omega
  -- a line from the first one to scrape on is the document's
  have hdata : ∀ line, s.scrapedLineCount ≤ line →
      line < v.info.windowRect.Top + v.info.windowRect.height + s.scrolledCount →
      s.readBuffer.lineData (line - s.scrolledCount) = some (lines line) := by
    intro line hline hlt
    obtain ⟨cells, hcells, heq⟩ := hread (line - s.scrolledCount) (.inl (by omega))
      (.inl (by omega))
    have hsub : line - s.scrolledCount + s.scrolledCount = line := by omega
    rw [hsub] at heq
    rw [hcells, heq hline]
  obtain ⟨t, data, k, hsend, hscraped⟩ := sendVirtLines_spec
    (s := { s with dirtyLineCount := n }) (v := v) (h.congr rfl rfl rfl)
    hspace hheight hin hwindow (by dsimp only; omega)
    (fun r hr hlt => hdata r hr (by dsimp only at hlt; omega)) hlines
  refine ⟨t, data, k, n, ?_, hn, hscraped.next, hscraped.others, ?_, hscraped.cursor⟩
  · rw [sendOutput, hscan]
    simp only [Option.bind_eq_bind, Option.bind_some, hsend]
    rfl
  · -- a line that is not sent is below all that is dirty
    intro line hline hlt
    rcases Int.lt_or_le line (min n (v.info.windowRect.Top + v.info.windowRect.height) +
        s.scrolledCount) with hstop | hstop
    · exact .inl (hscraped.shows line hline hstop)
    · refine .inr ⟨by omega, ?_⟩
      exact hblank (line - s.scrolledCount) (lines line) (by omega) (by omega)
        (hdata line hline hlt)

/-- The lines that are sent are the document's. -/
lemma Follows.sent {lines : ℤ → List CharInfo} {t : Terminal} {data : ℕ → ConsoleLine} {k n : ℤ}
    (h : Follows d s₀ b first s c) (htop : v.info.windowRect.Top ≤ c.info.windowRect.Top)
    (hwindow : s.scrapedLineCount ≤ v.info.windowRect.Top + s.scrolledCount)
    (hpos : 0 < v.info.windowRect.height)
    (hlines : ∀ line, line < v.info.windowRect.Top + s.scrolledCount → lines line = c.textLine line)
    (hn : n ≤ BUFFER_LINE_COUNT)
    (hcomplete : Complete d s₀ b first lines v s
      { s.withSent t data k with
        dirtyLineCount := n
        scrapedLineCount := v.info.windowRect.Top + s.scrolledCount }) :
    Follows d s₀ b first
      { s.withSent t data k with
        dirtyLineCount := n
        scrapedLineCount := v.info.windowRect.Top + s.scrolledCount } c := by
  refine ⟨hcomplete.next, ?_, h.sound, h.anchored, h.scrolled, h.limit.trans hwindow,
    fun line hline => h.clear line (hwindow.trans hline), ?_, h.dirtyTop, hn⟩
  · intro line hfirst hlt
    rcases Int.lt_or_le line s.scrapedLineCount with hold | hnew
    · rw [hcomplete.others line hold]
      exact h.shown line hfirst hold
    · dsimp only at hlt
      rcases hcomplete.shown line hnew (by omega) with hshows | ⟨hbelow, -⟩
      · rwa [hlines line hlt] at hshows
      · omega
  · show v.info.windowRect.Top + s.scrolledCount ≤ c.info.windowRect.Top + s.scrolledCount
    omega

/-- A new marker is far below the last one. -/
lemma le_newSyncRow (hanchored : Anchored c s) (hshould : s.shouldCreateSyncRow v = true) :
    s.syncRow + 216 ≤ newSyncRow v ∧ 215 ≤ newSyncRow v := by
  have hrow := of_decide_eq_true hshould
  rw [SYNC_MARKER_LEN, SYNC_MARKER_MARGIN] at hrow
  rcases hanchored with ⟨hnone, -⟩ | ⟨hle, -⟩
  · omega
  · omega

lemma createSyncMarker_eq (hanchored : Anchored c s) (hshould : s.shouldCreateSyncRow v = true) :
    s.createSyncMarker (newSyncRow v) = some
      { s with
        syncCounter := (s.syncCounter + 1) % 0x100000000
        syncRow := newSyncRow v } := by
  have hbelow := (le_newSyncRow hanchored hshould).2
  exact if_pos (by omega)

/-- A new marker is laid above the window. -/
lemma Follows.mark (h : Follows d s₀ b first s c) (horigin : s.scrolledCount = c.origin)
    (htop : v.info.windowRect.Top = c.info.windowRect.Top)
    (hscraped : s.scrapedLineCount = v.info.windowRect.Top + c.origin)
    (hshould : s.shouldCreateSyncRow v = true) (syncCounter : ℕ) :
    Follows d s₀ b first { s with syncCounter := syncCounter, syncRow := newSyncRow v }
      (c.mark (newSyncRow v) syncCounter) := by
  obtain ⟨hbelow, hnonneg⟩ := le_newSyncRow h.anchored hshould
  have hlen : (SYNC_MARKER_LEN : ℤ) = 16 := rfl
  -- the old marker is above the new one, so it is not in the way
  have hold : ∀ r, s.scrolledCount + newSyncRow v ≤ r → c.marked r = none := by
    intro r hr
    rcases h.anchored with ⟨-, hnone⟩ | ⟨-, hmarked⟩
    · exact hnone r
    · exact hmarked.below r (by omega)
  have hnew : newSyncRow v = v.info.windowRect.Top - 216 := by
    rw [newSyncRow, SYNC_MARKER_MARGIN, SYNC_MARKER_LEN]
    omega
  refine ⟨h.next.congr rfl rfl rfl, h.shown, ⟨h.sound.info, h.sound.lines, h.sound.unlike, ?_⟩,
    .inr ⟨by dsimp only; omega, fun i hi => ?_, fun r hr => ?_⟩, h.scrolled, ?_,
    fun line hline => ?_, h.window, h.dirtyTop, h.dirty⟩
  · show c.origin ≤ s.scrolledCount + max (newSyncRow v) 0
    omega
  · have hi' : s.scrolledCount + newSyncRow v + i - c.origin - newSyncRow v = i := by omega
    refine ⟨_, if_pos ?_, ?_⟩
    · dsimp only
      omega
    · dsimp only
      rw [hi', if_pos ⟨by omega, rfl⟩, Int.toNat_natCast]
  · dsimp only at hr
    refine (if_neg ?_).trans (hold r (by omega))
    omega
  · show s.scrolledCount + max (newSyncRow v) 0 ≤ s.scrapedLineCount
    have := h.sound.info.window.top
    omega
  · refine (if_neg ?_).trans (h.clear line hline)
    dsimp only at hline ⊢
    omega

/-- What a scrape reads. -/
lemma Follows.read (h : Follows d s₀ b first s c) (hgrows : c.Grows c₂) (hinfo : v.info = c.info)
    (hgrid : v.grid = c₂.grid) (hmask : v.attributesMask = c₂.attributesMask)
    (hle : s.scrolledCount ≤ o) (ho : o ≤ s.limit) {n : ℤ}
    (hn : max v.info.windowRect.Top (v.info.cursorPosition.Y + 1) ≤ n)
    (hn' : n ≤ BUFFER_LINE_COUNT) :
    ∃ out, ({ s.syncTo o with dirtyWindowTop := v.info.windowRect.Top, dirtyLineCount := n } :
        Scraper).readLines v = some
          { s.syncTo o with
            dirtyWindowTop := v.info.windowRect.Top, dirtyLineCount := n, readBuffer := out } ∧
      ∀ r, s.scrapedLineCount - o ≤ r ∨ n - 1 ≤ r →
        r < v.info.windowRect.Top + v.info.windowRect.height ∨ r < n →
        ∃ cells, out.lineData r = some cells ∧
          (c₂.origin = o → s.scrapedLineCount ≤ r + o → cells = c₂.textLine (r + o)) := by
  have hwindow := h.window
  have hlimit := h.limit
  have hin : InBuffer d v.info := by
    rw [hinfo]
    exact h.sound.info
  have hcursor := hin.cursor.1
  have htop : v.info.windowRect.Top = c.info.windowRect.Top := by rw [hinfo]
  obtain ⟨out, hread, hdata⟩ := readLines_spec
    (s := { s.syncTo o with dirtyWindowTop := v.info.windowRect.Top, dirtyLineCount := n }) hin
    (by dsimp only; omega) hn' (ho.trans hlimit)
    (by show s.scrapedLineCount ≤ v.info.windowRect.Top + o; omega)
  refine ⟨out, hread, fun r hr hlt => ⟨_, hdata r hr hlt, fun horigin hline => ?_⟩⟩
  -- no marker is among the lines that are still to be scraped
  have hclear : c₂.marked (r + c₂.origin) = none := by
    rw [hgrows.marked, horigin]
    exact h.clear _ hline
  have hwidth : readWidth v.info = readWidth c₂.info := by
    rw [hinfo, readWidth, readWidth, hgrows.bufferSize]
  rw [hgrid, hmask, hwidth, Document.gridLine_grid hclear, horigin]

end Scraper

/-- The console after a frozen scrape: a new counter says that a marker has been laid. -/
def Document.after (c : Document) (s s' : Scraper) : Document :=
  if s'.syncCounter = s.syncCounter then c else c.mark s'.syncRow s'.syncCounter

lemma Document.after_eq_self (h : s'.syncCounter = s.syncCounter) : c.after s s' = c := if_pos h

lemma Document.after_eq_mark (h : s'.syncCounter ≠ s.syncCounter) :
    c.after s s' = c.mark s'.syncRow s'.syncCounter := if_neg h

/-- The terminal shows the document from a line on down to the bottom of the window, but for some
lines of spaces at the end, and the cursor where the console has it. -/
structure ShowsDocument (d : Display) (screen : Screen (Option ℕ)) (b : Bool) (first : ℤ)
    (c : Document) : Prop where
  lines : ∀ line, first ≤ line → line < c.windowLine + c.info.windowRect.height →
    ShowsLine d (screen.cells line) b (c.textLine line) ∨
      c.windowLine ≤ line ∧ ∀ cell ∈ c.textLine line, cell.UnicodeChar = 0x20
  cursor : ShowsCursor screen
    (c.cursorVisible && c.info.windowRect.contains c.info.cursorPosition)
    (c.info.cursorPosition.Y + c.origin) c.info.cursorPosition.X

namespace Scraper

lemma Complete.showsDocument (h : Complete d s₀ b first c.textLine v s s')
    (hinfo : v.info = c.info) (hvisible : v.cursorVisible = c.cursorVisible)
    (horigin : s.scrolledCount = c.origin)
    (hold : ∀ line, first ≤ line → line < s.scrapedLineCount →
      ShowsLine d ((s.terminal.screen d s₀).cells line) b (c.textLine line)) :
    ShowsDocument d (s'.terminal.screen d s₀) b first c := by
  have hshown := h.shown
  have hcursor := h.cursor
  rw [horigin, hinfo] at hshown hcursor
  rw [hvisible] at hcursor
  refine ⟨fun line hfirst hlt => ?_, hcursor⟩
  rw [Document.windowLine] at hlt ⊢
  rcases Int.lt_or_le line s.scrapedLineCount with hlt' | hge
  · rw [h.others line hlt']
    exact .inl (hold line hfirst hlt')
  · exact hshown line hge (by omega)

/-- A frozen scrape. -/
lemma Follows.frozen (h : Follows d s₀ b first s c) (hspace : d.columns 32 = 1)
    (hheight : d.height ≤ 0x100000000) :
    ∃ s', s.scrollingScrapeOutput (c.view c c c c) false = some (true, s') ∧
      Follows d s₀ b first s' (c.after s s') ∧
      ShowsDocument d (s'.terminal.screen d s₀) b first c := by
  have hin := h.sound.info
  have hpos := hin.window.height_pos
  obtain ⟨n₁, n₂, n, hsync, hwindow, hupdate, -, hge, hn⟩ := sync_spec (v := c.view c c c c)
    h.anchored h.scrolled h.sound rfl hin h.dirtyTop h.dirty false
  obtain ⟨out, hread, hdata⟩ := h.read (v := c.view c c c c) (Document.Grows.refl c) rfl rfl rfl
    h.scrolled h.sound.origin hge hn
  have hquiet := h.quiet (Document.Grows.refl c) h.sound h.scrolled le_rfl
    (le_refl c.info.windowRect.Top) hn out
  have hwindowLe : s.scrapedLineCount ≤ c.info.windowRect.Top + c.origin := h.windowLine
  have hfirst : ({ s.syncTo c.origin with
      dirtyWindowTop := c.info.windowRect.Top, dirtyLineCount := n } : Scraper).firstVirtLine
        (c.view c c c c) = s.scrapedLineCount := min_eq_left hwindowLe
  have hfits : ∀ r, LineFits d (c.textLine r) ∧ (c.textLine r).length ≤ d.width :=
    fun r => ⟨h.sound.lines r, h.sound.length_textLine r⟩
  rw [scrollingScrapeOutput_eq hsync hwindow, Bool.false_and, if_neg Bool.false_ne_true, hupdate,
    hread, Option.bind_some, Bool.false_and, if_neg Bool.false_ne_true]
  set s₃ : Scraper := { s.syncTo c.origin with
    dirtyWindowTop := (c.view c c c c).info.windowRect.Top
    dirtyLineCount := n
    readBuffer := out }
  have hlines : ∀ r, s.scrapedLineCount - c.origin ≤ r ∨ n - 1 ≤ r →
      r < c.info.windowRect.Top + c.info.windowRect.height ∨ r < n →
      ∃ cells, out.lineData r = some cells ∧
        (s.scrapedLineCount ≤ r + c.origin → cells = c.textLine (r + c.origin)) := by
    intro r hr hlt
    obtain ⟨cells, hcells, heq⟩ := hdata r hr hlt
    exact ⟨cells, hcells, heq rfl⟩
  cases hshould : ({ s.syncTo c.origin with dirtyLineCount := n₁ } : Scraper).shouldCreateSyncRow
      (c.view c c c c) with
  | false =>
      obtain ⟨t, data, k, n', hsend, hn', hcomplete⟩ := sendOutput_spec (s := s₃)
        (v := c.view c c c c) c.textLine hquiet.next hspace hheight hin hwindowLe hge hn hlines
        hfits
      refine ⟨_, ?_, ?_, hcomplete.showsDocument rfl rfl rfl hquiet.shown⟩
      · rw [if_neg Bool.false_ne_true, Option.bind_some, ← hsend]
        exact congrArg _ hfirst
      · rw [Document.after_eq_self]
        · exact hquiet.sent le_rfl hwindowLe hpos (fun _ _ => rfl) hn' hcomplete
        · rfl
  | true =>
      have hcreate := createSyncMarker_eq (s := s₃) hquiet.anchored hshould
      obtain ⟨t, data, k, n', hsend, hn', hcomplete⟩ := sendOutput_spec
        (s := { s₃ with
          syncCounter := (s₃.syncCounter + 1) % 0x100000000
          syncRow := newSyncRow (c.view c c c c) })
        (v := c.view c c c c) c.textLine (hquiet.next.congr rfl rfl rfl) hspace hheight hin
        hwindowLe hge hn hlines hfits
      -- the marker is laid on what the scrape would have left without it
      have hcomplete₃ : Complete d s₀ b first c.textLine (c.view c c c c) s₃
          { s₃.withSent t data k with
            dirtyLineCount := n'
            scrapedLineCount := c.info.windowRect.Top + c.origin } :=
        ⟨hcomplete.next.congr rfl rfl rfl, hcomplete.others, hcomplete.shown, hcomplete.cursor⟩
      have hsent := hquiet.sent (v := c.view c c c c) le_rfl hwindowLe hpos (fun _ _ => rfl) hn'
        hcomplete₃
      have hmark := hsent.mark (v := c.view c c c c) rfl rfl rfl hshould
        ((s₃.syncCounter + 1) % 0x100000000)
      have hshows := hcomplete₃.showsDocument rfl rfl rfl hquiet.shown
      refine ⟨{ s₃.withSent t data k with
        syncCounter := (s₃.syncCounter + 1) % 0x100000000
        syncRow := newSyncRow (c.view c c c c)
        dirtyLineCount := n'
        scrapedLineCount := c.info.windowRect.Top + c.origin }, ?_, ?_, hshows⟩
      · rw [if_pos rfl, hcreate, Option.bind_some]
        refine Eq.trans ?_ hsend
        exact congrArg _ hfirst
      · rw [Document.after_eq_mark]
        · exact hmark
        · show (s.syncCounter + 1) % 0x100000000 ≠ s.syncCounter
          omega

/-- The marker stays where it is while a scrape goes on, so the buffer has not scrolled. -/
lemma origin_eq_of_stillThere (hanchored : Anchored c₄ s) (hle : s.scrolledCount ≤ c₄.origin)
    (hc : c₄.Sound d s.limit) (hv : v.gridCheck = c₄.grid) (hstill : s.stillThere v = true) :
    c₄.origin = s.scrolledCount := by
  have horigin := hc.origin
  rw [limit] at horigin
  obtain ⟨-, hrow⟩ := of_decide_eq_true hstill
  rcases hanchored with ⟨hnone, -⟩ | ⟨hnonneg, hmarked⟩
  · omega
  · have hfind := findSyncMarker_eq hmarked (hc.unlike _) (by omega) (by omega)
    rw [hv, hfind] at hrow
    omega

/-- A tentative scrape, while the application goes on from one reading to the next. -/
lemma Follows.tentative (h : Follows d s₀ b first s c) (hspace : d.columns 32 = 1)
    (hheight : d.height ≤ 0x100000000) (h₁ : c.Grows c₁) (h₂ : c₁.Grows c₂) (h₄ : c₂.Grows c₄)
    (hc₁ : c₁.Sound d s.limit) (hc₂ : c₂.Sound d s.limit) (hc₄ : c₄.Sound d s.limit) :
    ∃ done s', s.scrollingScrapeOutput (c.view c₁ c₂ c₃ c₄) true = some (done, s') ∧
      Follows d s₀ b first s' c₄ ∧ (done = false → s'.terminal = s.terminal) ∧
      (done = true → ShowsDocument d (s'.terminal.screen d s₀) b first
        { c₂ with info := c.info, cursorVisible := c.cursorVisible }) := by
  have hin := h.sound.info
  have hpos := hin.window.height_pos
  have hscrolled₁ := h.scrolled.trans h₁.origin
  have hgrows₂ := h₁.trans h₂
  have hgrows₄ := hgrows₂.trans h₄
  have horigin₄ : c₁.origin ≤ c₄.origin := h₂.origin.trans h₄.origin
  obtain ⟨n₁, n₂, n, hsync, hwindow, hupdate, hn₁, hge, hn⟩ :=
    sync_spec (v := c.view c₁ c₂ c₃ c₄) (h.anchored.congr h₁.marked) hscrolled₁ hc₁ rfl hin
      h.dirtyTop h.dirty true
  obtain ⟨out, hread, hdata⟩ := h.read (v := c.view c₁ c₂ c₃ c₄) hgrows₂ rfl rfl rfl hscrolled₁
    hc₁.origin hge hn
  rw [scrollingScrapeOutput_eq hsync hwindow, Bool.true_and, hupdate, hread, Option.bind_some,
    Bool.true_and]
  cases hshould : ({ s.syncTo c₁.origin with dirtyLineCount := n₁ } : Scraper).shouldCreateSyncRow
      (c.view c₁ c₂ c₃ c₄) with
  | true =>
      have hquiet := h.quiet hgrows₄ hc₄ hscrolled₁ horigin₄ (h.dirtyTop.trans hgrows₄.top)
        (hn₁.trans hn) s.readBuffer
      refine ⟨false, _, if_pos rfl, hquiet, fun _ => rfl, fun hno => ?_⟩
      cases hno
  | false =>
      have hquiet := h.quiet hgrows₄ hc₄ hscrolled₁ horigin₄ hgrows₄.top hn out
      rw [if_neg Bool.false_ne_true]
      set s₃ : Scraper := { s.syncTo c₁.origin with
        dirtyWindowTop := (c.view c₁ c₂ c₃ c₄).info.windowRect.Top
        dirtyLineCount := n
        readBuffer := out }
      cases hstill : s₃.stillThere (c.view c₁ c₂ c₃ c₄) with
      | false =>
          refine ⟨false, s₃, if_pos rfl, hquiet, fun _ => rfl, fun hno => ?_⟩
          cases hno
      | true =>
          -- the lines have been read from a buffer that was as far as the marker says
          have hstay := origin_eq_of_stillThere hquiet.anchored horigin₄ hquiet.sound rfl hstill
          have horigin₂ : c₂.origin = c₁.origin := by
            have hstay' : c₄.origin = c₁.origin := hstay
            have := h₂.origin
            have := h₄.origin
            omega
          have hwindowLe : s.scrapedLineCount ≤ c.info.windowRect.Top + c₁.origin := by
            have := h.window
            omega
          obtain ⟨t, data, k, n', hsend, hn', hcomplete⟩ := sendOutput_spec (s := s₃)
            (v := c.view c₁ c₂ c₃ c₄) c₂.textLine hquiet.next hspace hheight hin
            hwindowLe hge hn (fun r hr hlt => by
              obtain ⟨cells, hcells, heq⟩ := hdata r hr hlt
              exact ⟨cells, hcells, heq horigin₂⟩)
            fun r => ⟨hc₂.lines r, hc₂.length_textLine r⟩
          -- the lines above the window do not change after they have been read
          have hfinal : ∀ line, line < c.info.windowRect.Top + c₁.origin →
              c₂.textLine line = c₄.textLine line := by
            intro line hline
            refine (h₄.textLine ?_).symm
            have := hgrows₂.top
            rw [Document.windowLine]
            omega
          have htext : ({ c₂ with info := c.info, cursorVisible := c.cursorVisible } :
              Document).textLine = c₂.textLine := by
            funext line
            show gridLine _ 0 (readWidth c.info) line = gridLine _ 0 (readWidth c₂.info) line
            rw [readWidth, readWidth, hgrows₂.bufferSize]
          refine ⟨true, _, ?_, hquiet.sent (v := c.view c₁ c₂ c₃ c₄) hgrows₄.top hwindowLe hpos
            hfinal hn' hcomplete, fun hno => ?_, fun _ => ?_⟩
          · rw [Bool.not_true, if_neg Bool.false_ne_true, if_neg Bool.false_ne_true,
              Option.bind_some]
            refine Eq.trans ?_ hsend
            exact congrArg _ (min_eq_left hwindowLe)
          · cases hno
          · rw [← htext] at hcomplete
            refine hcomplete.showsDocument rfl rfl horigin₂.symm fun line hfirst hlt => ?_
            rw [htext, hfinal line (hlt.trans_le hwindowLe)]
            exact hquiet.shown line hfirst hlt

/-! ### Runs -/

/-- The application goes on, or the agent scrapes: tentatively, while the application goes on from
one reading to the next, or with the console frozen. -/
inductive Step (d : Display) : Scraper × Document → Scraper × Document → Prop
  | write {s : Scraper} {c c' : Document} :
      c.Grows c' → c'.Sound d s.limit → Step d (s, c) (s, c')
  | tentative {s s' : Scraper} {c c₁ c₂ c₃ c₄ : Document} {done : Bool} :
      c.Grows c₁ → c₁.Grows c₂ → c₂.Grows c₃ → c₃.Grows c₄ →
      c₁.Sound d s.limit → c₂.Sound d s.limit → c₃.Sound d s.limit → c₄.Sound d s.limit →
      s.scrollingScrapeOutput (c.view c₁ c₂ c₃ c₄) true = some (done, s') → Step d (s, c) (s', c₄)
  | frozen {s s' : Scraper} {c : Document} {done : Bool} :
      s.scrollingScrapeOutput (c.view c c c c) false = some (done, s') →
      Step d (s, c) (s', c.after s s')

lemma syncTo_self (s : Scraper) : s.syncTo s.scrolledCount = s := by
  have hrow : (if s.syncRow = -1 then -1 else s.scrolledCount + s.syncRow - s.scrolledCount) =
      s.syncRow := by
    split_ifs <;> omega
  rw [syncTo, hrow]

lemma Follows.step {p p' : Scraper × Document} (hstep : Step d p p') (hspace : d.columns 32 = 1)
    (hheight : d.height ≤ 0x100000000) (h : Follows d s₀ b first p.1 p.2) :
    Follows d s₀ b first p'.1 p'.2 := by
  cases hstep with
  | @write s c c' hgrows hc =>
      have hquiet := h.quiet hgrows hc le_rfl (h.scrolled.trans hgrows.origin)
        (h.dirtyTop.trans hgrows.top) h.dirty s.readBuffer
      rw [syncTo_self] at hquiet
      exact hquiet
  | tentative h₁ h₂ h₃ h₄ hc₁ hc₂ _ hc₄ hscrape =>
      obtain ⟨done, s', hscrape', hfollows, -⟩ :=
        h.tentative hspace hheight h₁ h₂ (h₃.trans h₄) hc₁ hc₂ hc₄
      rw [hscrape'] at hscrape
      cases hscrape
      exact hfollows
  | frozen hscrape =>
      obtain ⟨s', hscrape', hfollows, -⟩ := h.frozen hspace hheight
      rw [hscrape'] at hscrape
      cases hscrape
      exact hfollows

lemma Follows.run {p p' : Scraper × Document} (hrun : Relation.ReflTransGen (Step d) p p')
    (hspace : d.columns 32 = 1) (hheight : d.height ≤ 0x100000000)
    (h : Follows d s₀ b first p.1 p.2) : Follows d s₀ b first p'.1 p'.2 := by
  induction hrun with
  | refl => exact h
  | tail _ hstep ih => exact ih.step hstep hspace hheight

/-- A console that the agent begins with: its lines are numbered from the top of the buffer, and
there is no marker yet. -/
structure Begins (d : Display) (s₀ : Screen (Option ℕ)) (sendClear : Bool) (s : Scraper)
    (c : Document) : Prop where
  plainMode : s.terminal.plainMode = false
  atReset : AtReset d (s.terminal.screen d s₀) sendClear c.info.windowRect.Top
  bottom : (s.terminal.screen d s₀).bottom - c.info.windowRect.Top < d.height
  origin : c.origin = 0
  marked : ∀ line, c.marked line = none
  sound : c.Sound d 0

lemma Begins.follows {sendClear : Bool} (h : Begins d s₀ sendClear s c) :
    Follows d s₀ s.terminal.outputColor c.info.windowRect.Top
      (s.resetConsoleTracking sendClear c.info.windowRect.Top) c := by
  obtain ⟨htracks, hplain, hcolor, hbottom⟩ := tracks_reset h.plainMode h.atReset
  have htop := h.sound.info.window.top
  have hlimit : (s.resetConsoleTracking sendClear c.info.windowRect.Top).limit = 0 := rfl
  have hscraped : (s.resetConsoleTracking sendClear c.info.windowRect.Top).scrapedLineCount =
      c.info.windowRect.Top := rfl
  refine ⟨⟨⟨htracks, hplain, hcolor, ?_⟩, le_rfl, ?_, ?_, ?_⟩, ?_, h.sound, .inl ⟨rfl, h.marked⟩,
    ?_, ?_, fun line _ => h.marked line, ?_, ?_, ?_⟩
  · -- the ring is empty
    intro line hfirst hle
    have hno : line ≤ -1 := hle
    omega
  · show ((s.terminal.reset sendClear c.info.windowRect.Top).screen d s₀).bottom -
      c.info.windowRect.Top < d.height
    rw [hbottom]
    exact h.bottom
  · exact le_max_right _ _
  · show (-1 : ℤ) < c.info.windowRect.Top + 3000
    omega
  · intro line hfirst hlt
    rw [hscraped] at hlt
    omega
  · rw [h.origin]
    rfl
  · rw [hlimit, hscraped]
    exact htop
  · rw [hscraped]
    exact (add_zero _).ge
  · show (-1 : ℤ) ≤ c.info.windowRect.Top
    omega
  · show (0 : ℤ) ≤ 3000
    omega

end Scraper

/-- A console full of one letter. -/
def letters (top : ℤ) : Document where
  text := fun _ _ => ⟨0x41, 7⟩
  info := ⟨⟨4, 3000⟩, ⟨0, top, 3, top + 1⟩, ⟨1, top⟩⟩
  cursorVisible := true
  attributesMask := 0xFFFF
  useLargeReads := true

def smallDisplay : Display := ⟨8, 4, fun _ => 1⟩

def smallScreen : Screen (Option ℕ) := ⟨fun _ _ => .blank none, 2, 5, 3, some 4, true⟩

def newScraper : Scraper where
  terminal := { plainMode := false, outputColor := true }
  ptySize := ⟨4, 2⟩

lemma grows_letters {top top' : ℤ} (h : top ≤ top') : (letters top).Grows (letters top') :=
  ⟨le_rfl, h, fun _ _ _ => rfl, rfl, rfl, rfl⟩

lemma sound_letters {top : ℤ} (htop : 0 ≤ top) (hbottom : top < 2000) :
    (letters top).Sound smallDisplay 0 := by
  have hproper : Proper smallDisplay [⟨0x41, 7⟩] := proper_cell (by decide) rfl rfl
  have hvalid : (letters top).info.windowRect.Valid := by
    refine ⟨le_rfl, htop, ⟨?_, ?_⟩, ⟨?_, ?_⟩⟩
    all_goals
      dsimp only [letters]
      omega
  refine ⟨⟨hvalid, ?_, (by decide : (3 : ℤ) < 4), (by decide : (4 : ℤ) ≤ 8), ?_, htop, ?_⟩, ?_, ?_,
    le_rfl⟩
  · show top + 1 < 3000
    omega
  · rw [hvalid.height_eq]
    show top + 1 - top + 1 ≤ 4
    omega
  · show top < 3000
    omega
  · intro line
    refine ⟨List.replicate 4 [⟨0x41, 7⟩], by decide, ?_, rfl⟩
    intro x hx
    rw [List.eq_of_mem_replicate hx]
    exact hproper
  · intro syncCounter line
    rw [Scraper.markerAt, List.all_eq_false]
    refine ⟨0, List.mem_range.2 (by decide), ?_⟩
    rw [decide_eq_true_eq]
    show ¬ 0x41 = 0x53
    omega

lemma begins_letters : Scraper.Begins smallDisplay smallScreen true newScraper (letters 0) :=
  ⟨rfl, ⟨rfl, by decide, fun hno => (Bool.false_ne_true hno.symm).elim, fun _ => ⟨rfl, by decide⟩⟩,
    by decide, rfl, fun _ => rfl, sound_letters le_rfl (by decide)⟩

end InitialSetups.Winpty
