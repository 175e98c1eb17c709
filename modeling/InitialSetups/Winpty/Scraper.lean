import InitialSetups.Winpty.ConsoleLine
import InitialSetups.Winpty.LargeConsoleRead
import InitialSetups.Winpty.TerminalRun

/-!
# The scraper

The agent reads the console again and again and sends what has changed.  In direct mode, when an
application has set the size of the console's buffer, it compares the lines of the window with
those it sent last.  In scrolling mode it follows the lines that scroll by as well: a marker in the
console's history tells how far, and lines have numbers that count on.  An assertion that fails is
`none`.
-/

namespace InitialSetups.Winpty

def BUFFER_LINE_COUNT : ℤ := 3000
def SYNC_MARKER_LEN : ℕ := 16
def SYNC_MARKER_MARGIN : ℤ := 200

structure ConsoleScreenBufferInfo where
  bufferSize : Coord
  windowRect : SmallRect
  cursorPosition : Coord
deriving DecidableEq, Repr

/-- The console at the time of a scrape.  When it is not frozen, it is read once for the marker,
once for its lines and once more for both the position and the marker. -/
structure ConsoleView where
  info : ConsoleScreenBufferInfo
  cursorVisible : Bool
  grid : Grid
  markerGrid : Grid
  infoCheck : ConsoleScreenBufferInfo
  gridCheck : Grid
  attributesMask : ℕ
  useLargeReads : Bool

structure Scraper where
  terminal : Terminal
  syncRow : ℤ := -1
  syncCounter : ℕ := 0
  ptySize : Coord
  scrapedLineCount : ℤ := 0
  scrolledCount : ℤ := 0
  maxBufferedLine : ℤ := -1
  readBuffer : LargeConsoleReadBuffer := {}
  bufferData : ℕ → ConsoleLine := fun _ => {}
  dirtyWindowTop : ℤ := -1
  dirtyLineCount : ℤ := 0

namespace Scraper

def resetConsoleTracking (s : Scraper) (sendClear : Bool) (scrapedLineCount : ℤ) : Scraper :=
  { s with
    bufferData := fun _ => {}
    syncRow := -1
    scrapedLineCount := scrapedLineCount
    scrolledCount := 0
    maxBufferedLine := -1
    dirtyWindowTop := -1
    dirtyLineCount := 0
    terminal := s.terminal.reset sendClear scrapedLineCount }

/-! ### Direct mode -/

/-- The part of the window that fits the terminal. -/
def scrapeRect (ptySize : Coord) (v : ConsoleView) : SmallRect :=
  .ofSize v.info.windowRect.Left v.info.windowRect.Top
    (min (min v.info.windowRect.width ptySize.X) MAX_CONSOLE_WIDTH)
    (min (min v.info.windowRect.height ptySize.Y) BUFFER_LINE_COUNT)

/-- A line of the window, which is sent if it has changed. -/
def scrapeLine (rect : SmallRect) (cursorLine cursorColumn : ℤ) (s : Scraper) (line : ℕ) :
    Option Scraper := do
  let curLine ← s.readBuffer.lineData (rect.Top + line)
  let (changed, bufLine) ← (s.bufferData line).detectChangeAndSetLine curLine
  let s := { s with bufferData := Function.update s.bufferData line bufLine }
  if changed then
    let lineCursorColumn := if (line : ℤ) = cursorLine then cursorColumn else -1
    let t ← s.terminal.sendLine line curLine lineCursorColumn
    return { s with terminal := t }
  else return s

def directScrapeOutput (s : Scraper) (v : ConsoleView) : Option Scraper := do
  let rect := scrapeRect s.ptySize v
  let cursor := v.info.cursorPosition
  let showTerminalCursor := v.cursorVisible && rect.contains cursor
  let cursorColumn := if !showTerminalCursor then -1 else cursor.X - rect.Left
  let cursorLine := if !showTerminalCursor then -1 else cursor.Y - rect.Top
  let t := if !showTerminalCursor then s.terminal.hideTerminalCursor else s.terminal
  let readBuffer ← largeConsoleRead s.readBuffer v.grid rect v.attributesMask v.useLargeReads
  let s := { s with terminal := t, readBuffer := readBuffer }
  let s ← (List.range rect.height.toNat).foldlM (scrapeLine rect cursorLine cursorColumn) s
  if showTerminalCursor then
    return { s with terminal := s.terminal.showTerminalCursor cursorColumn.toNat cursorLine }
  else return s

/-! ### Scrolling mode -/

def hexDigit (n : ℕ) : ℕ := if n < 10 then 0x30 + n else 0x61 + (n - 10)

/-- `S*Y*N*C*` and the counter in eight digits. -/
def syncMarkerText (syncCounter : ℕ) : List ℕ :=
  [0x53, 0x2A, 0x59, 0x2A, 0x4E, 0x2A, 0x43, 0x2A] ++
    (List.range 8).map fun k => hexDigit (syncCounter / 16 ^ (7 - k) % 16)

/-- The marker stands in the first column, from this row down. -/
def markerAt (syncCounter : ℕ) (grid : Grid) (row : ℤ) : Bool :=
  (List.range SYNC_MARKER_LEN).all fun j : ℕ =>
    (grid (row + j) 0).UnicodeChar = (syncMarkerText syncCounter).getD j 0

/-- The loop from a row up to the top. -/
def findFrom (syncCounter : ℕ) (grid : Grid) : ℕ → ℤ
  | 0 => if markerAt syncCounter grid 0 then 0 else -1
  | i + 1 => if markerAt syncCounter grid (i + 1) then i + 1 else findFrom syncCounter grid i

def findSyncMarker (s : Scraper) (grid : Grid) : ℤ :=
  findFrom s.syncCounter grid s.syncRow.toNat

def markEntireWindowDirty (s : Scraper) (windowRect : SmallRect) : Scraper :=
  { s with dirtyLineCount := max s.dirtyLineCount (windowRect.Top + windowRect.height) }

/-- A cell that is not blank in the attributes of the line before. -/
def isDirtyCell (prevLineAttr : ℕ) (c : CharInfo) : Bool :=
  c.UnicodeChar ≠ 0x20 ∨ c.Attributes ≠ prevLineAttr

/-- The loop over the lines from `line` on; it moves the dirty line count. -/
def scanLines (readBuffer : LargeConsoleReadBuffer) (w : ℕ) :
    ℕ → ℤ → ℕ → ℤ → Option ℤ
  | 0, _, _, dirtyLineCount => some dirtyLineCount
  | n + 1, line, prevLineAttr, dirtyLineCount => do
      let lineData ← readBuffer.lineData line
      let dirtyLineCount := if lineData.any (isDirtyCell prevLineAttr) then line + 1
        else dirtyLineCount
      scanLines readBuffer w n (line + 1) (lineData.getD (w - 1) ⟨0, 0⟩).Attributes dirtyLineCount

def scanForDirtyLines (s : Scraper) (windowRect : SmallRect) : Option Scraper := do
  let w := s.readBuffer.rect.width.toNat
  if s.dirtyLineCount ≥ 1 then
    let prevLine ← s.readBuffer.lineData (s.dirtyLineCount - 1)
    let stopLine := windowRect.Top + windowRect.height
    let dirtyLineCount ← scanLines s.readBuffer w (stopLine - s.dirtyLineCount).toNat
      s.dirtyLineCount (prevLine.getD (w - 1) ⟨0, 0⟩).Attributes s.dirtyLineCount
    return { s with dirtyLineCount := dirtyLineCount }
  else none

/-- A new marker; what it overwrites in the console is not followed. -/
def createSyncMarker (s : Scraper) (row : ℤ) : Option Scraper :=
  if row ≥ 1 then
    some { s with syncCounter := (s.syncCounter + 1) % 0x100000000, syncRow := row }
  else none

/-- The marker is looked for: `false` where a tentative scrape gives up. -/
def syncScrollCount (s : Scraper) (v : ConsoleView) (tentative : Bool) : Option (Bool × Scraper) :=
  if s.syncRow ≠ -1 then
    let markerRow := s.findSyncMarker v.markerGrid
    if markerRow = -1 then
      if tentative then some (false, s)
      else some (true, s.resetConsoleTracking true v.info.windowRect.Top)
    else if markerRow ≠ s.syncRow then
      if markerRow < s.syncRow then
        some (true, { s with
          scrolledCount := s.scrolledCount + (s.syncRow - markerRow)
          syncRow := markerRow }.markEntireWindowDirty v.info.windowRect)
      else none
    else some (true, s)
  else some (true, s)

/-- The window's movement is looked at. -/
def syncWindowTop (s : Scraper) (v : ConsoleView) (tentative : Bool) : Bool × Scraper :=
  let windowRect := v.info.windowRect
  if s.dirtyWindowTop ≠ -1 then
    if windowRect.Top > s.dirtyWindowTop then (true, s.markEntireWindowDirty windowRect)
    else if windowRect.Top < s.dirtyWindowTop then
      if tentative then (false, s) else (true, s.resetConsoleTracking true windowRect.Top)
    else (true, s)
  else (true, s)

/-- Everything up to the cursor and above the window is dirty. -/
def updateDirtyLineCount (s : Scraper) (v : ConsoleView) : Scraper :=
  { s with
    dirtyWindowTop := v.info.windowRect.Top
    dirtyLineCount := max (max s.dirtyLineCount (v.info.cursorPosition.Y + 1))
      v.info.windowRect.Top }

def firstVirtLine (s : Scraper) (v : ConsoleView) : ℤ :=
  min s.scrapedLineCount (v.info.windowRect.Top + s.scrolledCount)

/-- The lines that are read. -/
def readRect (s : Scraper) (v : ConsoleView) : SmallRect :=
  let windowRect := v.info.windowRect
  let firstReadLine := min (s.firstVirtLine v - s.scrolledCount) (s.dirtyLineCount - 1)
  let stopReadLine := max (windowRect.Top + windowRect.height) s.dirtyLineCount
  .ofSize 0 firstReadLine (min v.info.bufferSize.X MAX_CONSOLE_WIDTH) (stopReadLine - firstReadLine)

def readLines (s : Scraper) (v : ConsoleView) : Option Scraper := do
  let windowRect := v.info.windowRect
  let firstReadLine := min (s.firstVirtLine v - s.scrolledCount) (s.dirtyLineCount - 1)
  let stopReadLine := max (windowRect.Top + windowRect.height) s.dirtyLineCount
  if s.dirtyLineCount ≥ 1 ∧ firstReadLine ≥ 0 ∧ stopReadLine > firstReadLine then
    let readBuffer ←
      largeConsoleRead s.readBuffer v.grid (s.readRect v) v.attributesMask v.useLargeReads
    return { s with readBuffer := readBuffer }
  else none

/-- Whether the console is still where it was when the scrape began. -/
def stillThere (s : Scraper) (v : ConsoleView) : Bool :=
  v.info = v.infoCheck ∧ (s.syncRow = -1 ∨ s.syncRow = s.findSyncMarker v.gridCheck)

/-- After a line that has changed, no other one is compared. -/
def setOrDetect (sawModifiedLine : Bool) (bufLine : ConsoleLine) (curLine : List CharInfo) :
    Option (Bool × ConsoleLine) :=
  if sawModifiedLine then some (true, bufLine.setLine curLine)
  else bufLine.detectChangeAndSetLine curLine

/-- A line by its number; from the first one that has changed, all are sent. -/
def scrapeVirtLine (cursorLine cursorColumn : ℤ) (p : Bool × Scraper) (line : ℤ) :
    Option (Bool × Scraper) := do
  let (sawModifiedLine, s) := p
  let curLine ← s.readBuffer.lineData (line - s.scrolledCount)
  let slot := (line % BUFFER_LINE_COUNT).toNat
  let sawModifiedLine := sawModifiedLine || decide (line > s.maxBufferedLine)
  let s := { s with maxBufferedLine := max s.maxBufferedLine line }
  let (sawModifiedLine, bufLine) ← setOrDetect sawModifiedLine (s.bufferData slot) curLine
  let s := { s with bufferData := Function.update s.bufferData slot bufLine }
  if sawModifiedLine then
    let lineCursorColumn := if line = cursorLine then cursorColumn else -1
    let t ← s.terminal.sendLine line curLine lineCursorColumn
    return (true, { s with terminal := t })
  else return (false, s)

/-- The loop over the lines from `line` on. -/
def scrapeVirtLines (cursorLine cursorColumn : ℤ) :
    ℕ → ℤ → Bool × Scraper → Option (Bool × Scraper)
  | 0, _, p => some p
  | n + 1, line, p => do
      let p ← scrapeVirtLine cursorLine cursorColumn p line
      scrapeVirtLines cursorLine cursorColumn n (line + 1) p

/-- What has been read becomes output. -/
def sendVirtLines (s : Scraper) (v : ConsoleView) (firstVirtLine : ℤ) : Option Scraper := do
  let windowRect := v.info.windowRect
  let cursor := v.info.cursorPosition
  let stopVirtLine :=
    min s.dirtyLineCount (windowRect.Top + windowRect.height) + s.scrolledCount
  let showTerminalCursor := v.cursorVisible && windowRect.contains cursor
  let cursorLine := if !showTerminalCursor then -1 else cursor.Y + s.scrolledCount
  let cursorColumn := if !showTerminalCursor then -1 else cursor.X
  let t := if !showTerminalCursor then s.terminal.hideTerminalCursor else s.terminal
  let (_, s) ← scrapeVirtLines cursorLine cursorColumn (stopVirtLine - firstVirtLine).toNat
    firstVirtLine (false, { s with terminal := t })
  let s := { s with scrapedLineCount := windowRect.Top + s.scrolledCount }
  if showTerminalCursor then
    return { s with terminal := s.terminal.showTerminalCursor cursorColumn.toNat cursorLine }
  else return s

def newSyncRow (v : ConsoleView) : ℤ :=
  v.info.windowRect.Top - SYNC_MARKER_LEN - SYNC_MARKER_MARGIN

/-- A marker that is good enough is kept, since another one clears a part of the buffer. -/
def shouldCreateSyncRow (s : Scraper) (v : ConsoleView) : Bool :=
  newSyncRow v ≥ s.syncRow + SYNC_MARKER_LEN + SYNC_MARKER_MARGIN

/-- The console is not needed any more. -/
def sendOutput (s : Scraper) (v : ConsoleView) (firstVirtLine : ℤ) : Option (Bool × Scraper) := do
  let s ← s.scanForDirtyLines v.info.windowRect
  let s ← s.sendVirtLines v firstVirtLine
  return (true, s)

/-- A scrape that follows what scrolls by; `false` where it is to be made again, frozen. -/
def scrollingScrapeOutput (s : Scraper) (v : ConsoleView) (tentative : Bool) :
    Option (Bool × Scraper) := do
  let (going, s) ← s.syncScrollCount v tentative
  if !going then return (false, s)
  let shouldCreate := s.shouldCreateSyncRow v
  if tentative && shouldCreate then return (false, s)
  let (going, s) := s.syncWindowTop v tentative
  if !going then return (false, s)
  let s := s.updateDirtyLineCount v
  let firstVirtLine := s.firstVirtLine v
  let s ← s.readLines v
  if tentative && !s.stillThere v then return (false, s)
  let s ← if shouldCreate then s.createSyncMarker (newSyncRow v) else some s
  s.sendOutput v firstVirtLine

end Scraper

end InitialSetups.Winpty
