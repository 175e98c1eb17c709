import InitialSetups.Text.Stream
import InitialSetups.Winpty.KeyPress
import InitialSetups.Winpty.Matchers

/-!
# The console input of the agent

`ConsoleInput` takes the bytes that the terminal sends, in the pieces they come in, and turns them
into console input records.  What may go on as a longer sequence waits in a queue, for more bytes or
for the end of a second; with the first byte that waits, the agent asks the terminal for its status,
so that the reply follows whatever is waiting.
-/

namespace InitialSetups.Winpty

open InitialSetups.Text

abbrev FROM_LEFT_1ST_BUTTON_PRESSED : ℕ := 0x1
abbrev RIGHTMOST_BUTTON_PRESSED : ℕ := 0x2
abbrev FROM_LEFT_2ND_BUTTON_PRESSED : ℕ := 0x4
abbrev MOUSE_MOVED : ℕ := 0x1
abbrev DOUBLE_CLICK : ℕ := 0x2
abbrev MOUSE_WHEELED : ℕ := 0x4

def kIncompleteEscapeTimeoutMs : ℕ := 1000

/-- What stays as it is while input is scanned: the console modes, the window of the mouse, the
keyboard and the input map. -/
structure Settings where
  processedInput : Bool
  mouseInputEnabled : Bool
  quickEditEnabled : Bool
  escapeInputEnabled : Bool
  mouseWindowRect : SmallRect
  doubleClickTime : ℕ
  keyboard : Keyboard
  inputMap : InputMap

structure DoubleClickDetection where
  button : ℕ := 0
  pos : Coord := {}
  tick : ℕ := 0
  released : Bool := false
deriving DecidableEq, Repr

/-- What the scanner keeps from one sequence to the next. -/
structure Scanner where
  console : Console := {}
  dsrSent : Bool := false
  mouseButtonState : ℕ := 0
  doubleClick : DoubleClickDetection := {}
deriving DecidableEq, Repr

/-! ### Mouse input -/

/-- The button of a report, by its flag. -/
def relevantFlag (button : ℕ) : ℕ :=
  if button = 0 then FROM_LEFT_1ST_BUTTON_PRESSED
  else if button = 1 then FROM_LEFT_2ND_BUTTON_PRESSED
  else if button = 2 then RIGHTMOST_BUTTON_PRESSED
  else 0

/-- A button goes up or down, at a clock reading; with the event flags. -/
def Scanner.ordinaryMouseEvent (s : Scanner) (settings : Settings) (tick : ℕ)
    (record : MouseRecord) : Scanner × ℕ :=
  let moved := if anyBit record.flags 0x20 then MOUSE_MOVED else 0
  let button := record.flags &&& 0x03
  if button = 3 then
    ({ s with
        mouseButtonState := 0
        doubleClick := { s.doubleClick with released := true } }, moved)
  else
    let flag := relevantFlag button
    if record.release then
      ({ s with
          mouseButtonState := s.mouseButtonState &&& (0xFFFFFFFF ^^^ flag)
          doubleClick := if flag = s.doubleClick.button then { s.doubleClick with released := true }
            else {} }, moved)
    else if s.mouseButtonState &&& flag = 0 then
      -- newly pressed
      if s.doubleClick.button = flag ∧ s.doubleClick.pos = record.coord ∧
          subUInt32 tick s.doubleClick.tick < settings.doubleClickTime then
        ({ s with mouseButtonState := s.mouseButtonState ||| flag, doubleClick := {} },
          moved ||| DOUBLE_CLICK)
      else
        ({ s with
            mouseButtonState := s.mouseButtonState ||| flag
            doubleClick :=
              { s.doubleClick with button := flag, pos := record.coord, tick := tick } },
          moved)
    else (s, moved)

/-- A coordinate of the window. -/
def windowCoord (origin extent pos : ℤ) : ℤ := toShort (origin + max 0 (min pos (extent - 1)))

/-- The event of a report, in the state that the button is in. -/
def mouseEvent (settings : Settings) (record : MouseRecord) (buttonState eventFlags : ℕ) :
    MouseEvent where
  X := windowCoord settings.mouseWindowRect.Left settings.mouseWindowRect.width record.coord.X
  Y := windowCoord settings.mouseWindowRect.Top settings.mouseWindowRect.height record.coord.Y
  buttonState := buttonState
  controlKeyState := (if anyBit record.flags 0x04 then SHIFT_PRESSED else 0) |||
    (if anyBit record.flags 0x08 then LEFT_ALT_PRESSED else 0) |||
    (if anyBit record.flags 0x10 then LEFT_CTRL_PRESSED else 0)
  eventFlags := eventFlags

/-- Write a mouse event if the console wants it. -/
def Scanner.pushMouseEvent (s : Scanner) (settings : Settings) (e : MouseEvent) : Scanner :=
  if settings.mouseInputEnabled && !settings.quickEditEnabled then
    { s with console := s.console.push [.mouse e] }
  else s

def Scanner.scanMouseInput (s : Scanner) (settings : Settings) (tick : ℕ) (record : MouseRecord) :
    Scanner :=
  if anyBit record.flags 0x40 then
    let button := record.flags &&& 0x03
    if button = 0 then
      s.pushMouseEvent settings
        (mouseEvent settings record (0x00780000 ||| s.mouseButtonState) MOUSE_WHEELED)
    else if button = 1 then
      s.pushMouseEvent settings
        (mouseEvent settings record (0xff880000 ||| s.mouseButtonState) MOUSE_WHEELED)
    else s
  else
    let r := s.ordinaryMouseEvent settings tick record
    r.1.pushMouseEvent settings (mouseEvent settings record r.1.mouseButtonState r.2)

/-! ### Characters -/

/-- A character, with Alt or without it. -/
def Scanner.appendUtf8Char (s : Scanner) (settings : Settings) (charBuffer : Bytes)
    (terminalAltEscape : Bool) : Scanner :=
  let codePoint := decodeUtf8 charBuffer
  if codePoint = kInvalid then s
  else
    let charScan := if codePoint > 0xFFFF then none else settings.keyboard.vkKeyScan codePoint
    let virtualKey := match charScan with
      | some scan => scan &&& 0xFF
      | none => 0
    let winKeyState := match charScan with
      | some scan => (if anyBit scan 0x100 then SHIFT_PRESSED else 0) |||
          (if anyBit scan 0x200 then LEFT_CTRL_PRESSED else 0) |||
          (if anyBit scan 0x400 then RIGHT_ALT_PRESSED else 0)
      | none => 0
    let zeroed := terminalAltEscape && anyBit winKeyState LEFT_CTRL_PRESSED
    let winCodePointDn := if zeroed then 0 else codePoint
    let winCodePointUp := if terminalAltEscape then 0 else winCodePointDn
    let alt := if terminalAltEscape then LEFT_ALT_PRESSED else 0
    { s with
      console := s.console.appendKeyPress settings.keyboard settings.escapeInputEnabled virtualKey
        winCodePointDn winCodePointUp (winKeyState ||| alt) codePoint alt }

/-- A key of the input map. -/
def Scanner.appendMapKey (s : Scanner) (settings : Settings) (key : Key) : Scanner :=
  let winCodePointDn :=
    if anyBit key.keyState LEFT_CTRL_PRESSED && anyBit key.keyState LEFT_ALT_PRESSED then 0
    else key.unicodeChar
  let winCodePointUp := if anyBit key.keyState LEFT_ALT_PRESSED then 0 else winCodePointDn
  { s with
    console := s.console.appendKeyPress settings.keyboard settings.escapeInputEnabled key.virtualKey
      winCodePointDn winCodePointUp key.keyState key.unicodeChar key.keyState }

/-- The end of `scanInput`: a character after the escape byte, or a character. -/
def scanChar (settings : Settings) (s : Scanner) (input : Bytes) : Option (ℕ × Scanner) :=
  let altLen := utf8CharLength (input.getD 1 0)
  if input.headD 0 = esc ∧ input.length ≥ 2 ∧ input.getD 1 0 ≠ esc ∧ altLen > 0 then
    if 1 + altLen > input.length then none
    else some (1 + altLen, s.appendUtf8Char settings (input.drop 1) true)
  else
    let len := utf8CharLength (input.headD 0)
    if len = 0 then some (1, s)
    else if len > input.length then none
    else some (len, s.appendUtf8Char settings input false)

/-- The middle of `scanInput`: search the input map. -/
def scanKey (settings : Settings) (isEof : Bool) (s : Scanner) (input : Bytes) :
    Option (ℕ × Scanner) :=
  let r := settings.inputMap.lookupKey input
  if !isEof && r.2.2 then none
  else if r.1 > 0 then some (r.1, s.appendMapKey settings r.2.1)
  else scanChar settings s input

/-- The number of bytes of a match that ends with the first byte of `pch`. -/
def matchLen (input pch : Bytes) : ℕ := input.length - pch.length + 1

/-- One sequence at the beginning of the input, which is not empty: its length and what it does, or
`none` where more bytes are needed. -/
def scanInput (settings : Settings) (isEof : Bool) (tick : ℕ) (s : Scanner) (input : Bytes) :
    Option (ℕ × Scanner) :=
  if input.headD 0 = 0x03 ∧ settings.processedInput = true then
    some (1, { s with console := s.console.flushInputRecords.call .generateCtrlC })
  else if input.headD 0 = esc then
    match matchDsr input, isEof with
    | .yes _ pch, _ => some (matchLen input pch, { s with dsrSent := false })
    | .more, false => none
    | _, _ =>
        match matchMouseRecord input, isEof with
        | .yes record pch, _ =>
            some (matchLen input pch, s.scanMouseInput settings tick record)
        | .more, false => none
        | _, _ => scanKey settings isEof s input
  else scanKey settings isEof s input

/-! ### The queue -/

structure ConsoleInput where
  scanner : Scanner := {}
  byteQueue : Bytes := []
  lastWriteTick : ℕ := 0
deriving DecidableEq, Repr

namespace ConsoleInput

variable (settings : Settings)

def doWrite (c : ConsoleInput) (isEof : Bool) (tick : ℕ) : ConsoleInput :=
  let r := drain (scanInput settings isEof) tick c.scanner c.byteQueue
  { c with
    scanner := { r.1 with console := r.1.console.flushInputRecords }
    byteQueue := r.2 }

/-- Ask for the terminal's status when bytes wait and no reply is on its way. -/
def sendDsr (c : ConsoleInput) : ConsoleInput :=
  if c.byteQueue ≠ [] ∧ c.scanner.dsrSent = false then
    { c with
      scanner := { c.scanner with console := c.scanner.console.call .sendDsr, dsrSent := true } }
  else c

def writeInput (c : ConsoleInput) (tick : ℕ) (input : Bytes) : ConsoleInput :=
  if input.length = 0 then c
  else
    { (({ c with byteQueue := c.byteQueue ++ input }).doWrite settings false tick).sendDsr with
      lastWriteTick := tick }

def flushIncompleteEscapeCode (c : ConsoleInput) (tick : ℕ) : ConsoleInput :=
  if c.byteQueue ≠ [] ∧ subUInt32 tick c.lastWriteTick > kIncompleteEscapeTimeoutMs then
    { c.doWrite settings true tick with byteQueue := [] }
  else c

end ConsoleInput

end InitialSetups.Winpty
