import InitialSetups.Winpty.Scraper

/-!
# Direct mode

After every scrape the terminal shows the console's window (`directScrapeOutput_shows`).
-/

namespace InitialSetups.Winpty

open InitialSetups.Text

/-! ### What the terminal shows -/

variable {d : Display} {s s' : Scraper} {v : ConsoleView} {s₀ : Screen (Option ℕ)} {b : Bool}
  {rect : SmallRect} {grid : Grid} {cursorLine cursorColumn : ℤ} {n : ℕ}

/-- The terminal knows the screen, its lines are the screen's, and so are those in the buffer. -/
structure Synced (d : Display) (s₀ : Screen (Option ℕ)) (b : Bool) (s : Scraper) : Prop where
  tracks : Tracks d s.terminal (s.terminal.screen d s₀)
  plainMode : s.terminal.plainMode = false
  outputColor : s.terminal.outputColor = b
  bottom : (s.terminal.screen d s₀).bottom = d.height - 1
  known : ∀ line : ℕ, (s.bufferData line).Known d ((s.terminal.screen d s₀).cells line) b

namespace Scraper

variable {xs : List (List CharInfo)} {l : ConsoleLine}

/-- A line that the row shows by now is known. -/
lemma synced_update (h : Synced d s₀ b s) {t : Terminal} (ht : Tracks d t (t.screen d s₀))
    (hplain : t.plainMode = false) (hcolor : t.outputColor = b)
    (hbottom : (t.screen d s₀).bottom = d.height - 1) (hxs : ∀ x ∈ xs, Proper d x)
    (hlength : l.prevLength ≤ l.prevData.length) (hdata : l.prevData.take l.prevLength = xs.flatten)
    (hshows : Shows ((t.screen d s₀).cells n) b xs)
    (hothers : ∀ r : ℤ, r ≠ n → (t.screen d s₀).cells r = (s.terminal.screen d s₀).cells r) :
    Synced d s₀ b
      { s with bufferData := Function.update s.bufferData n l, terminal := t } := by
  refine ⟨ht, hplain, hcolor, hbottom, fun line => ?_⟩
  by_cases hline : line = n
  · subst hline
    show ConsoleLine.Known d _ b (Function.update s.bufferData line l line)
    rw [Function.update_self]
    exact ⟨hlength, fun _ => ⟨xs, hxs, hdata, hshows⟩⟩
  · show ConsoleLine.Known d ((t.screen d s₀).cells line) b (Function.update s.bufferData n l line)
    rw [Function.update_of_ne hline, hothers line (by exact_mod_cast hline)]
    exact h.known line

/-- One line of the window. -/
lemma scrapeLine_spec (h : Synced d s₀ b s) (hspace : d.columns 32 = 1)
    (hheight : d.height ≤ 0x100000000) (hn : n < d.height) {cells : List CharInfo}
    (hread : s.readBuffer.lineData (rect.Top + n) = some cells) (hfits : LineFits d cells)
    (hwidth : cells.length ≤ d.width) (cursorLine cursorColumn : ℤ) :
    ∃ s', scrapeLine rect cursorLine cursorColumn s n = some s' ∧ Synced d s₀ b s' ∧
      s'.readBuffer = s.readBuffer ∧ s'.ptySize = s.ptySize ∧
      (s.terminal.cursorHidden = true → s'.terminal.cursorHidden = true) ∧
      ShowsLine d ((s'.terminal.screen d s₀).cells n) b cells ∧
      ∀ r : ℤ, r ≠ n → (s'.terminal.screen d s₀).cells r = (s.terminal.screen d s₀).cells r := by
  obtain ⟨xs, hne, hxs, rfl⟩ := hfits
  obtain ⟨changed, l, hdetect, hlength, hdata, hsame⟩ :=
    (s.bufferData n).detectChangeAndSetLine_spec hspace (h.known n) hxs hne
  cases changed with
  | false =>
      have hshows := hsame rfl
      refine ⟨{ s with bufferData := Function.update s.bufferData n l }, ?_,
        synced_update h h.tracks h.plainMode h.outputColor h.bottom hxs hlength hdata hshows
          (fun _ _ => rfl), rfl, rfl, id, ⟨xs, hxs, rfl, hshows⟩, fun _ _ => rfl⟩
      rw [scrapeLine, hread]
      simp only [Option.bind_eq_bind, Option.bind_some, hdetect]
      rfl
  | true =>
      obtain ⟨t, hsend, hsent⟩ := Terminal.sendLine_spec h.tracks h.plainMode hspace hheight
        (by rw [h.bottom]; omega : _ - (n : ℤ) < _) hxs hne hwidth
        (if (n : ℤ) = cursorLine then cursorColumn else -1)
      have hshows := hsent.shows
      have hbottom := hsent.bottom
      rw [h.outputColor] at hshows
      rw [h.bottom, max_eq_left (by omega)] at hbottom
      refine ⟨{ s with bufferData := Function.update s.bufferData n l, terminal := t }, ?_,
        synced_update h hsent.tracks (hsent.plainMode.trans h.plainMode)
          (hsent.outputColor.trans h.outputColor) hbottom hxs hlength hdata hshows hsent.others,
        rfl, rfl, fun hhidden => Terminal.hidden_sendLine hhidden hsend, ⟨xs, hxs, rfl, hshows⟩,
        hsent.others⟩
      rw [scrapeLine, hread]
      simp only [Option.bind_eq_bind, Option.bind_some, hdetect, if_true, hsend]
      rfl

/-- All lines of the window. -/
lemma scrapeLines_spec (h : Synced d s₀ b s) (hspace : d.columns 32 = 1)
    (hheight : d.height ≤ 0x100000000) (hn : n ≤ d.height) {cells : ℕ → List CharInfo}
    (hread : ∀ i < n, s.readBuffer.lineData (rect.Top + i) = some (cells i))
    (hfits : ∀ i < n, LineFits d (cells i) ∧ (cells i).length ≤ d.width) :
    ∃ s', (List.range n).foldlM (scrapeLine rect cursorLine cursorColumn) s = some s' ∧
      Synced d s₀ b s' ∧ s'.ptySize = s.ptySize ∧ s'.readBuffer = s.readBuffer ∧
      (s.terminal.cursorHidden = true → s'.terminal.cursorHidden = true) ∧
      ∀ i < n, ShowsLine d ((s'.terminal.screen d s₀).cells i) b (cells i) := by
  induction n with
  | zero => exact ⟨s, rfl, h, rfl, rfl, id, fun i hi => absurd hi (Nat.not_lt_zero i)⟩
  | succ n ih =>
      obtain ⟨s₁, hrun, hsynced, hpty, hbuffer, hhidden, hshows⟩ := ih (by omega)
        (fun i hi => hread i (by omega)) (fun i hi => hfits i (by omega))
      obtain ⟨s₂, hline, hsynced₂, hbuffer₂, hpty₂, hhidden₂, hshows₂, hothers⟩ :=
        scrapeLine_spec (n := n) hsynced hspace hheight (by omega)
          (by rw [hbuffer]; exact hread n (by omega)) (hfits n (by omega)).1 (hfits n (by omega)).2
          cursorLine cursorColumn
      refine ⟨s₂, ?_, hsynced₂, hpty₂.trans hpty, hbuffer₂.trans hbuffer,
        fun h => hhidden₂ (hhidden h), fun i hi => ?_⟩
      · rw [List.range_succ, List.foldlM_append, hrun]
        simpa using hline
      · by_cases hin : i = n
        · rw [hin]
          exact hshows₂
        · rw [hothers i (by exact_mod_cast hin)]
          exact hshows i (by omega)

/-- A terminal that has moved on its screen. -/
lemma synced_of_moved (h : Synced d s₀ b s) {t : Terminal} {line : ℤ}
    (hmoved : Terminal.Moved d s₀ s.terminal t line) (hline : line ≤ d.height - 1) :
    Synced d s₀ b { s with terminal := t } := by
  refine ⟨hmoved.tracks, hmoved.plainMode.trans h.plainMode,
    hmoved.outputColor.trans h.outputColor, ?_, fun line => ?_⟩
  · rw [hmoved.bottom, h.bottom, max_eq_left hline]
  · show ConsoleLine.Known d ((t.screen d s₀).cells line) b (s.bufferData line)
    rw [hmoved.cells]
    exact h.known line

/-- The lines of a window that the scraper reads. -/
def viewLine (rect : SmallRect) (v : ConsoleView) (i : ℕ) : List CharInfo :=
  gridLine (maskGrid v.attributesMask v.grid) rect.Left rect.width.toNat (rect.Top + i)

/-- The terminal is of the size that the agent was told, and the console's window has lines that
it can show. -/
structure ViewFits (d : Display) (ptySize : Coord) (v : ConsoleView) : Prop where
  window : v.info.windowRect.Valid
  columns : 0 < ptySize.X ∧ ptySize.X ≤ d.width
  rows : 0 < ptySize.Y ∧ ptySize.Y ≤ d.height
  lines : ∀ i : ℕ, i < (scrapeRect ptySize v).height →
    LineFits d (viewLine (scrapeRect ptySize v) v i)

/-- The terminal shows the window, and the cursor where the console has it. -/
structure ShowsWindow (d : Display) (screen : Screen (Option ℕ)) (b : Bool) (rect : SmallRect)
    (v : ConsoleView) : Prop where
  lines : ∀ i : ℕ, i < rect.height → ShowsLine d (screen.cells i) b (viewLine rect v i)
  cursor : v.cursorVisible = true → rect.contains v.info.cursorPosition = true →
    screen.row = v.info.cursorPosition.Y - rect.Top ∧
      screen.col = v.info.cursorPosition.X - rect.Left ∧ screen.cursor = true
  noCursor : v.cursorVisible = false ∨ rect.contains v.info.cursorPosition = false →
    screen.cursor = false

lemma scrapeRect_spec {p : Coord} (h : ViewFits d p v) : (scrapeRect p v).Valid ∧
    (scrapeRect p v).width ≤ MAX_CONSOLE_WIDTH ∧ (scrapeRect p v).width ≤ d.width ∧
    (scrapeRect p v).height ≤ d.height := by
  have hleft := h.window.left
  have htop := h.window.top
  have hright := h.window.right
  have hbottom := h.window.bottom
  have hwidth := h.window.width_eq
  have hheight := h.window.height_eq
  have hcolumns := h.columns
  have hrows := h.rows
  set w := min (min v.info.windowRect.width p.X) MAX_CONSOLE_WIDTH with hw
  set k := min (min v.info.windowRect.height p.Y) BUFFER_LINE_COUNT with hk
  have hw' : w = min (min v.info.windowRect.width p.X) 2500 := hw
  have hk' : k = min (min v.info.windowRect.height p.Y) 3000 := hk
  have hrect : scrapeRect p v = ⟨v.info.windowRect.Left, v.info.windowRect.Top,
      v.info.windowRect.Left + w - 1, v.info.windowRect.Top + k - 1⟩ := by
    rw [scrapeRect, ← hw, ← hk, SmallRect.ofSize, toShort_of_lt (by omega) (by omega),
      toShort_of_lt (by omega) (by omega), toShort_of_lt (by omega) (by omega),
      toShort_of_lt (by omega) (by omega)]
  have hvalid : (scrapeRect p v).Valid := by
    rw [hrect]
    refine ⟨hleft, htop, ?_, ?_⟩
    all_goals
      dsimp only
      omega
  have hwidth' := hvalid.width_eq
  have hheight' := hvalid.height_eq
  rw [hrect] at hwidth' hheight'
  dsimp only at hwidth' hheight'
  refine ⟨hvalid, ?_, ?_, ?_⟩
  all_goals
    rw [hrect]
  · rw [hwidth', MAX_CONSOLE_WIDTH]
    omega
  · rw [hwidth']
    omega
  · rw [hheight']
    omega

/-- One scrape. -/
lemma directScrapeOutput_spec (h : Synced d s₀ b s) (hspace : d.columns 32 = 1)
    (hheight : d.height ≤ 0x100000000) (hfits : ViewFits d s.ptySize v) :
    ∃ s', s.directScrapeOutput v = some s' ∧ Synced d s₀ b s' ∧ s'.ptySize = s.ptySize ∧
      ShowsWindow d (s'.terminal.screen d s₀) b (scrapeRect s.ptySize v) v := by
  obtain ⟨hvalid, hmax, hwidth, hheight'⟩ := scrapeRect_spec hfits
  have hlines := hfits.lines
  have hwidthPos := hvalid.width_pos
  have hheightPos := hvalid.height_pos
  have hheightEq := hvalid.height_eq
  rw [directScrapeOutput]
  dsimp only
  set rect := scrapeRect s.ptySize v
  set shows := v.cursorVisible && rect.contains v.info.cursorPosition with hshows
  set column := if !shows then -1 else v.info.cursorPosition.X - rect.Left
  set line := if !shows then -1 else v.info.cursorPosition.Y - rect.Top
  obtain ⟨out, hread, hdata⟩ :=
    largeConsoleRead_spec hvalid hmax s.readBuffer v.grid v.attributesMask v.useLargeReads
  rw [hread]
  -- the cursor may be hidden first
  obtain ⟨hmoved, hhides⟩ := Terminal.hideUnless_spec h.tracks h.plainMode shows
  set t := if !shows then s.terminal.hideTerminalCursor else s.terminal
  have hsynced : Synced d s₀ b { s with terminal := t, readBuffer := out } := by
    obtain ⟨htracks, hplain, hcolor, hbottom, hknown⟩ :=
      synced_of_moved h hmoved (h.tracks.remoteLine_le.trans h.bottom.le)
    exact ⟨htracks, hplain, hcolor, hbottom, hknown⟩
  obtain ⟨s₁, hrun, hsynced₁, hpty, -, hhidden, hshown⟩ := scrapeLines_spec
    (n := rect.height.toNat) hsynced hspace hheight (by omega)
    (fun i hi => hdata (rect.Top + i) (by omega) (by omega))
    (fun i hi => ⟨hlines i (by omega), by rw [length_gridLine]; omega⟩)
  have hlines₁ : ∀ i : ℕ, i < rect.height →
      ShowsLine d ((s₁.terminal.screen d s₀).cells i) b (viewLine rect v i) :=
    fun i hi => hshown i (by omega)
  simp only [Option.bind_eq_bind, Option.bind_some]
  rw [hrun]
  set t₁ := if shows then s₁.terminal.showTerminalCursor column.toNat line else s₁.terminal with ht₁
  have hrow : shows = true → (s₁.terminal.screen d s₀).bottom - (v.info.cursorPosition.Y - rect.Top)
      < d.height ∧ v.info.cursorPosition.Y - rect.Top ≤ d.height - 1 := by
    intro hon
    rw [hshows, Bool.and_eq_true] at hon
    have hinside := of_decide_eq_true hon.2
    rw [hsynced₁.bottom]
    omega
  have hcol : shows = true → 0 ≤ v.info.cursorPosition.X - rect.Left ∧
      v.info.cursorPosition.X - rect.Left < d.width := by
    intro hon
    rw [hshows, Bool.and_eq_true] at hon
    have hinside := of_decide_eq_true hon.2
    have hwidthEq := hvalid.width_eq
    omega
  obtain ⟨r, hr, hmoved₁, hcursor⟩ := Terminal.showIf_spec hsynced₁.tracks hsynced₁.plainMode
    hheight hsynced₁.bottom.le hrow hcol (fun hoff => hhidden (hhides hoff)) ht₁
  refine ⟨{ s₁ with terminal := t₁ }, ?_, synced_of_moved hsynced₁ hmoved₁ hr, hpty, ?_, ?_, ?_⟩
  · rw [ht₁]
    split_ifs <;> rfl
  · intro i hi
    show ShowsLine d ((t₁.screen d s₀).cells i) b _
    rw [hmoved₁.cells]
    exact hlines₁ i hi
  · intro hvisible hcontains
    exact hcursor.on (by rw [hshows, hvisible, hcontains]; rfl)
  · intro hno
    exact hcursor.off (by rwa [hshows, Bool.and_eq_false_iff])

/-- The scrapes of one stay in direct mode. -/
def run (s : Scraper) (views : List ConsoleView) : Option Scraper :=
  views.foldlM directScrapeOutput s

lemma run_spec {views : List ConsoleView} (h : Synced d s₀ b s) (hspace : d.columns 32 = 1)
    (hheight : d.height ≤ 0x100000000) (hfits : ∀ v ∈ views, ViewFits d s.ptySize v) :
    ∃ s', s.run views = some s' ∧ Synced d s₀ b s' ∧ s'.ptySize = s.ptySize ∧
      ∀ v, views.getLast? = some v →
        ShowsWindow d (s'.terminal.screen d s₀) b (scrapeRect s.ptySize v) v := by
  induction views using List.reverseRecOn with
  | nil => exact ⟨s, rfl, h, rfl, fun v hv => by cases hv⟩
  | append_singleton views v ih =>
      rw [List.forall_mem_append, List.forall_mem_singleton] at hfits
      obtain ⟨s₁, hrun, hsynced, hpty, -⟩ := ih hfits.1
      rw [← hpty] at hfits
      obtain ⟨s₂, hscrape, hsynced₂, hpty₂, hshows⟩ :=
        directScrapeOutput_spec hsynced hspace hheight hfits.2
      rw [hpty] at hshows
      refine ⟨s₂, ?_, hsynced₂, hpty₂.trans hpty, fun v' hv' => ?_⟩
      · rw [run, List.foldlM_append]
        rw [run] at hrun
        rw [hrun]
        simpa using hscrape
      · rw [List.getLast?_concat] at hv'
        cases hv'
        exact hshows

/-- Direct mode begins with a cleared screen, and nothing known. -/
lemma synced_reset (hplain : s.terminal.plainMode = false)
    (hs : AtReset d (s.terminal.screen d s₀) true 0) :
    Synced d s₀ s.terminal.outputColor (s.resetConsoleTracking true 0) := by
  obtain ⟨htracks, hplain', hcolor, hbottom⟩ := tracks_reset hplain hs
  obtain ⟨htop, hheight⟩ := hs.sendClear rfl
  refine ⟨htracks, hplain', hcolor, ?_, fun line => ⟨le_rfl, fun hno => absurd rfl hno⟩⟩
  have hbottom' : (s.terminal.screen d s₀).bottom - d.height + 1 = 0 := htop
  show ((s.terminal.reset true 0).screen d s₀).bottom = _
  rw [hbottom]
  omega

end Scraper

end InitialSetups.Winpty
