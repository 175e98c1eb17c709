import InitialSetups.Text.Screen
import InitialSetups.Winpty.Unicode

/-!
# The terminal of the agent

`Terminal` is what the agent writes the console's lines to.  It remembers what it has put on the
row the cursor is on, so that a line that only got longer is continued where it was left, and it
holds back spaces until something is known to follow them.  An assertion that fails is `none`.
-/

namespace InitialSetups.Winpty

open InitialSetups.Text (Command)

/-- A cell of the console. -/
structure CharInfo where
  UnicodeChar : ℕ
  Attributes : ℕ
deriving DecidableEq, Repr

def WINPTY_COMMON_LVB_LEADING_BYTE : ℕ := 0x100
def WINPTY_COMMON_LVB_TRAILING_BYTE : ℕ := 0x200
def WINPTY_COMMON_LVB_REVERSE_VIDEO : ℕ := 0x4000
def WINPTY_COMMON_LVB_UNDERSCORE : ℕ := 0x8000

/-- The four bits of the foreground, the four of the background and the two above. -/
def COLOR_ATTRIBUTE_MASK : ℕ :=
  0x0F ||| 0xF0 ||| WINPTY_COMMON_LVB_REVERSE_VIDEO ||| WINPTY_COMMON_LVB_UNDERSCORE

/-- The box drawing characters that a console has at 1 to 6, and no escape character. -/
def fixSpecialCharacters (ch : ℕ) : ℕ :=
  if ch ≤ 0x1b then
    match ch with
    | 1 => 0x2554
    | 2 => 0x2557
    | 3 => 0x255A
    | 4 => 0x255D
    | 5 => 0x2551
    | 6 => 0x2550
    | 0x1b => 0x3F
    | _ => ch
  else ch

def isFullWidthCharacter : List CharInfo → Bool
  | a :: b :: _ =>
      a.Attributes &&& WINPTY_COMMON_LVB_LEADING_BYTE ≠ 0 ∧
        b.Attributes &&& WINPTY_COMMON_LVB_TRAILING_BYTE ≠ 0 ∧ a.UnicodeChar = b.UnicodeChar
  | _ => false

/-- The cells of a full-width character, or of another one. -/
def widthOf (data : List CharInfo) : ℕ := if isFullWidthCharacter data then 2 else 1

/-- The number of cells of the first character, and its value. -/
def scanUnicodeScalarValue (data : List CharInfo) : ℕ × ℕ :=
  match data with
  | [] => (1, 0)
  | c :: _ =>
      let w1 := widthOf data
      if c.UnicodeChar &&& 0xF800 = 0xD800 then
        match data.drop w1 with
        | [] => (w1, 0x3F)
        | d :: _ =>
            if c.UnicodeChar &&& 0xFC00 ≠ 0xD800 ∨ d.UnicodeChar &&& 0xFC00 ≠ 0xDC00 then
              (w1, 0x3F)
            else (w1 + widthOf (data.drop w1), decodeSurrogatePair c.UnicodeChar d.UnicodeChar)
      else (w1, c.UnicodeChar)

/-- The terminal as the agent believes it to be, and what has been written to it.  The colour is
`none` where it is not known. -/
structure Terminal where
  output : List (Command (Option ℕ)) := []
  plainMode : Bool
  outputColor : Bool
  remoteLine : ℤ := 0
  remoteColumn : ℕ := 0
  lineDataValid : Bool := true
  lineData : List CharInfo := []
  cursorHidden : Bool := false
  remoteColor : Option ℕ := none
  mouseModeEnabled : Bool := false
deriving DecidableEq, Repr

/-- The line that is being put together: what will be written of it is `trimmedLineLength` long
and stands for `trimmedCellCount` cells. -/
structure TermLine where
  termLine : List (Command (Option ℕ)) := []
  trimmedLineLength : ℕ := 0
  trimmedCellCount : ℕ
  alreadyErasedLine : Bool := false
  remoteColor : Option ℕ
deriving DecidableEq, Repr

namespace Terminal

variable {t : Terminal}

def write (t : Terminal) (commands : List (Command (Option ℕ))) : Terminal :=
  { t with output := t.output ++ commands }

def reset (t : Terminal) (sendClearFirst : Bool) (newLine : ℤ) : Terminal :=
  let t :=
    if sendClearFirst && !t.plainMode then t.write [.color none, .home, .clear] else t
  { t with
    remoteLine := newLine
    remoteColumn := 0
    lineData := []
    cursorHidden := false
    remoteColor := none }

def hideTerminalCursor (t : Terminal) : Terminal :=
  if t.plainMode then t
  else if t.cursorHidden then t
  else { t.write [.mode 25 false] with cursorHidden := true }

/-- The loop that goes down. -/
def newLines (t : Terminal) : ℕ → Terminal
  | 0 => t
  | n + 1 => newLines { t.write [.cr, .lf] with remoteLine := t.remoteLine + 1 } n

def moveTerminalToLine (t : Terminal) (line : ℤ) : Terminal :=
  if line = t.remoteLine then t
  else
    let t := t.hideTerminalCursor
    let t :=
      if line < t.remoteLine then
        if t.plainMode then { t.write [.cr, .lf] with remoteLine := line }
        else
          { t.write [.cr, .up ((t.remoteLine - line).toNat % 0x100000000)] with
            remoteLine := line }
      else t.newLines (line - t.remoteLine).toNat
    { t with lineDataValid := true, lineData := [], remoteColumn := 0 }

/-- Whether the line goes on where the row ends. -/
def checkLineData (t : Terminal) (lineData : List CharInfo) : Option Terminal :=
  if t.lineDataValid then
    if t.lineData.length ≠ t.remoteColumn then none
    else if 0 < t.remoteColumn then
      -- in plain mode nothing is erased, and the row may be full
      let okWidth : Bool :=
        if t.plainMode then t.lineData.length ≤ lineData.length
        else t.lineData.length < lineData.length
      if !okWidth ∨ t.lineData ≠ lineData.take t.lineData.length then
        some { t with lineDataValid := false }
      else some t
    else some t
  else some t

/-- Where it does not, the row is written again. -/
def resetLine (t : Terminal) : Terminal :=
  if t.lineDataValid then t
  else
    let t := t.hideTerminalCursor
    let t := if t.plainMode then t.write [.cr, .lf] else t.write [.cr]
    { t with lineDataValid := true, lineData := [], remoteColumn := 0 }

/-- The colour of the cell at `i`. -/
def sendColor (t : Terminal) (i : ℕ) (data : List CharInfo) (w : TermLine) : TermLine :=
  if t.outputColor then
    let color := (data.headD ⟨0, 0⟩).Attributes &&& COLOR_ATTRIBUTE_MASK
    if some color ≠ w.remoteColor then
      let termLine := w.termLine ++ [.color (some color)]
      { w with
        termLine := termLine
        trimmedLineLength := termLine.length
        remoteColor := some color
        trimmedCellCount := i }
    else w
  else w

/-- The character at `i`, which has `cellCount` cells. -/
def sendCharacter (t : Terminal) (i cellCount ch width : ℕ) (w : TermLine) : TermLine :=
  if ch = 0x20 then { w with termLine := w.termLine ++ [.put 0x20] }
  else
    let atEnd : Bool := i + cellCount = width
    let erase := if atEnd && !t.plainMode then [.eraseRest] else []
    let ch := fixSpecialCharacters ch
    let ch := if encodeUtf8 ch = [] then 0x3F else ch
    let termLine := w.termLine ++ erase ++ [.put ch]
    { w with
      termLine := termLine
      trimmedLineLength := termLine.length
      trimmedCellCount := i + cellCount
      alreadyErasedLine := w.alreadyErasedLine || atEnd }

def sendCell (t : Terminal) (i width : ℕ) (data : List CharInfo) (w : TermLine) : TermLine :=
  let r := scanUnicodeScalarValue data
  t.sendCharacter i r.1 r.2 width (t.sendColor i data w)

/-- The loop over the cells from `i` on.  There is a cell to every step. -/
def sendCells (t : Terminal) (width : ℕ) : ℕ → ℕ → List CharInfo → TermLine → TermLine
  | 0, _, _, w => w
  | fuel + 1, i, data, w =>
      if data = [] then w
      else
        let cellCount := (scanUnicodeScalarValue data).1
        t.sendCells width fuel (i + cellCount) (data.drop cellCount) (t.sendCell i width data w)

/-- The line from where the row ends. -/
def termLine (t : Terminal) (lineData : List CharInfo) : TermLine :=
  t.sendCells lineData.length lineData.length t.lineData.length (lineData.drop t.lineData.length)
    { trimmedCellCount := t.lineData.length, remoteColor := t.remoteColor }

/-- The cursor is hidden where the line would run past it. -/
def hidePast (t : Terminal) (cellCount : ℕ) (cursorColumn : ℤ) : Terminal :=
  if cursorColumn ≠ -1 ∧ (cellCount : ℤ) > cursorColumn then t.hideTerminalCursor else t

/-- The line is written, and the row is known as far as it has been. -/
def writeLine (t : Terminal) (lineData : List CharInfo) (cursorColumn : ℤ) : Option Terminal :=
  let w := t.termLine lineData
  let t := { t with remoteColor := w.remoteColor }.hidePast w.trimmedCellCount cursorColumn
  let t := t.write (w.termLine.take w.trimmedLineLength)
  let t := t.write (if !w.alreadyErasedLine && !t.plainMode then [.eraseRest] else [])
  if w.trimmedCellCount ≤ lineData.length then
    some { t with
      lineData := t.lineData ++
        (lineData.drop t.lineData.length).take (w.trimmedCellCount - t.lineData.length)
      remoteColumn := w.trimmedCellCount }
  else none

/-- A line of the console is sent; `-1` stands for no cursor. -/
def sendLine (t : Terminal) (line : ℤ) (lineData : List CharInfo) (cursorColumn : ℤ) :
    Option Terminal :=
  if lineData = [] then none
  else do
    let t ← (t.moveTerminalToLine line).checkLineData lineData
    t.resetLine.writeLine lineData cursorColumn

def showTerminalCursor (t : Terminal) (column : ℕ) (line : ℤ) : Terminal :=
  let t := t.moveTerminalToLine line
  if t.plainMode then t
  else
    let t :=
      if t.remoteColumn ≠ column then
        { t.write [.column (column + 1)] with
          lineDataValid := column = 0
          lineData := []
          remoteColumn := column }
      else t
    if t.cursorHidden then { t.write [.mode 25 true] with cursorHidden := false } else t

def enableMouseMode (t : Terminal) (enabled : Bool) : Terminal :=
  if t.mouseModeEnabled = enabled ∨ t.plainMode then t
  else
    let t := { t with mouseModeEnabled := enabled }
    if enabled then
      t.write [.mode 1005 false, .mode 1000 true, .mode 1002 true, .mode 1003 true,
        .mode 1015 true, .mode 1006 true]
    else
      t.write [.mode 1006 false, .mode 1015 false, .mode 1003 false, .mode 1002 false,
        .mode 1000 false]

end Terminal

end InitialSetups.Winpty
