import InitialSetups.Winpty.ScrollingMode

/-!
# The document that is scraped

The lines that an application writes are numbered on; the console's buffer holds the last 3000 of
them.  The agent lays its markers over some of them, and the one that it laid last is what it finds
again, as long as the application does not write one (`findSyncMarker_eq`).
-/

namespace InitialSetups.Winpty

open InitialSetups.Text
open Scraper (hexDigit syncMarkerText)

/-- The text of the application, and what the agent has written over it.  `origin` is the number of
the line at the top of the buffer. -/
structure Document where
  text : Grid
  marked : ℤ → Option (ℤ → CharInfo) := fun _ => none
  origin : ℤ := 0
  info : ConsoleScreenBufferInfo
  cursorVisible : Bool
  attributesMask : ℕ
  useLargeReads : Bool

namespace Document

variable {d : Display} {c c' c'' : Document} {row line limit : ℤ} {n i : ℕ}

def grid (c : Document) : Grid := fun row column =>
  match c.marked (row + c.origin) with
  | some cells => cells column
  | none => c.text (row + c.origin) column

/-- A line of the text as the agent reads it. -/
def textLine (c : Document) (line : ℤ) : List CharInfo :=
  gridLine (maskGrid c.attributesMask c.text) 0 (Scraper.readWidth c.info) line

/-- The line at the top of the window. -/
def windowLine (c : Document) : ℤ := c.info.windowRect.Top + c.origin

/-- `createSyncMarker` clears the lines around the marker and writes it down the first column. -/
def mark (c : Document) (row : ℤ) (syncCounter : ℕ) : Document :=
  { c with
    marked := fun line =>
      let i := line - c.origin - row
      if -1 ≤ i ∧ i < SYNC_MARKER_LEN then
        some fun column =>
          if 0 ≤ i ∧ column = 0 then ⟨(syncMarkerText syncCounter).getD i.toNat 0, 7⟩
          else ⟨0x20, 7⟩
      else c.marked line }

/-- What a scrape sees of a console that goes on from one reading to the next. -/
def view (c c₁ c₂ c₃ c₄ : Document) : ConsoleView where
  info := c.info
  cursorVisible := c.cursorVisible
  markerGrid := c₁.grid
  grid := c₂.grid
  attributesMask := c₂.attributesMask
  useLargeReads := c₂.useLargeReads
  infoCheck := c₃.info
  gridCheck := c₄.grid

/-! ### The marker -/

/-- The marker stands at the line, and nothing else that the agent has written below it. -/
structure Marked (c : Document) (syncCounter : ℕ) (line : ℤ) : Prop where
  cells : ∀ i < SYNC_MARKER_LEN, ∃ cells, c.marked (line + i) = some cells ∧
    (cells 0).UnicodeChar = (syncMarkerText syncCounter).getD i 0
  below : ∀ r, line + SYNC_MARKER_LEN ≤ r → c.marked r = none

/-- Only the first character of a marker is an S. -/
lemma syncMarkerText_ne (n : ℕ) (hi : 0 < i) (hlt : i < SYNC_MARKER_LEN) :
    (syncMarkerText n).getD i 0 ≠ (syncMarkerText n).getD 0 0 := by
  have hletter : ∀ j < 8, 0 < j →
      [0x53, 0x2A, 0x59, 0x2A, 0x4E, 0x2A, 0x43, 0x2A].getD j 0 ≠ 0x53 := by decide
  have hdigit : ∀ k, hexDigit k ≠ 0x53 := by
    intro k
    rw [hexDigit]
    split_ifs <;> omega
  show _ ≠ 0x53
  rw [SYNC_MARKER_LEN] at hlt
  rw [syncMarkerText]
  rcases Nat.lt_or_ge i 8 with hlt' | hge
  · rw [List.getD_append _ _ _ _ hlt']
    exact hletter i hlt' hi
  · rw [List.getD_append_right _ _ _ _ hge]
    show (List.map _ (List.range 8)).getD (i - 8) 0 ≠ 0x53
    rw [List.getD_eq_getElem _ _ (by simp; omega), List.getElem_map]
    exact hdigit _

lemma Marked.markerAt (h : c.Marked n line) :
    Scraper.markerAt n c.grid (line - c.origin) = true := by
  rw [Scraper.markerAt, List.all_eq_true]
  intro j hj
  obtain ⟨cells, hcells, hchar⟩ := h.cells j (List.mem_range.1 hj)
  have hline : line - c.origin + j + c.origin = line + j := by omega
  rw [decide_eq_true_eq, grid, hline, hcells]
  exact hchar

/-- Below it, nothing looks like the marker. -/
lemma Marked.not_markerAt (h : c.Marked n line) (hunlike : ∀ r, Scraper.markerAt n c.text r = false)
    (hrow : line < row + c.origin) : Scraper.markerAt n c.grid row = false := by
  rcases Int.lt_or_le (row + c.origin) (line + SYNC_MARKER_LEN) with hlt | hge
  · -- the row is one of the marker's own
    obtain ⟨i, hi⟩ : ∃ i : ℕ, row + c.origin = line + i :=
      ⟨(row + c.origin - line).toNat, by omega⟩
    obtain ⟨cells, hcells, hchar⟩ := h.cells i (by omega)
    rw [Scraper.markerAt, List.all_eq_false]
    refine ⟨0, List.mem_range.2 (by decide), ?_⟩
    have hline : row + (0 : ℕ) + c.origin = line + i := by omega
    rw [decide_eq_true_eq, grid, hline, hcells]
    show ¬ (cells 0).UnicodeChar = _
    rw [hchar]
    exact syncMarkerText_ne n (by omega) (by omega)
  · rw [← hunlike (row + c.origin), Scraper.markerAt, Scraper.markerAt]
    congr 1
    funext j
    have hline : row + j + c.origin = row + c.origin + j := by omega
    rw [grid, hline, h.below _ (by omega)]

end Document

namespace Scraper

lemma findFrom_eq {grid : Grid} {syncCounter row n : ℕ} (hrow : row ≤ n)
    (hmarker : markerAt syncCounter grid row = true)
    (hothers : ∀ i : ℤ, row < i → markerAt syncCounter grid i = false) :
    findFrom syncCounter grid n = row := by
  induction n with
  | zero =>
      obtain rfl := Nat.le_zero.1 hrow
      exact if_pos hmarker
  | succ n ih =>
      rw [findFrom]
      rcases hrow.eq_or_lt with rfl | hlt
      · exact if_pos hmarker
      · have hno := hothers (n + 1) (by omega)
        rw [hno, if_neg Bool.false_ne_true]
        exact ih (by omega)

/-- The marker is found where the scrolling has taken it. -/
lemma findSyncMarker_eq {s : Scraper} {c : Document} (hmarked : c.Marked s.syncCounter line)
    (hunlike : ∀ r, markerAt s.syncCounter c.text r = false) (hnonneg : c.origin ≤ line)
    (hle : line - c.origin ≤ s.syncRow) : s.findSyncMarker c.grid = line - c.origin := by
  have hrow : ((line - c.origin).toNat : ℤ) = line - c.origin := by omega
  rw [findSyncMarker, findFrom_eq (by omega : (line - c.origin).toNat ≤ s.syncRow.toNat), hrow]
  · rw [hrow]
    exact hmarked.markerAt
  · intro i hi
    exact hmarked.not_markerAt hunlike (by omega)

end Scraper

end InitialSetups.Winpty
