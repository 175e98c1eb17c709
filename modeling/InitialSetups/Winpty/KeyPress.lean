import InitialSetups.Winpty.Unicode

/-!
# Key presses

A key press becomes the records of the modifiers going down, of the key going down and up, and of
the modifiers going up.  In escape input mode the record of the key going down becomes the escape
sequence that a terminal would send for the key.
-/

namespace InitialSetups.Winpty

abbrev RIGHT_ALT_PRESSED : ℕ := 0x1
abbrev LEFT_ALT_PRESSED : ℕ := 0x2
abbrev LEFT_CTRL_PRESSED : ℕ := 0x8
abbrev SHIFT_PRESSED : ℕ := 0x10
abbrev ENHANCED_KEY : ℕ := 0x100

abbrev VK_BACK : ℕ := 0x08
abbrev VK_TAB : ℕ := 0x09
abbrev VK_CLEAR : ℕ := 0x0C
abbrev VK_SHIFT : ℕ := 0x10
abbrev VK_CONTROL : ℕ := 0x11
abbrev VK_MENU : ℕ := 0x12
abbrev VK_PRIOR : ℕ := 0x21
abbrev VK_NEXT : ℕ := 0x22
abbrev VK_END : ℕ := 0x23
abbrev VK_HOME : ℕ := 0x24
abbrev VK_LEFT : ℕ := 0x25
abbrev VK_UP : ℕ := 0x26
abbrev VK_RIGHT : ℕ := 0x27
abbrev VK_DOWN : ℕ := 0x28
abbrev VK_INSERT : ℕ := 0x2D
abbrev VK_DELETE : ℕ := 0x2E
abbrev VK_F1 : ℕ := 0x70

/-- A key event record; the repeat count is always 1. -/
structure KeyEvent where
  keyDown : Bool
  virtualKey : ℕ
  scanCode : ℕ
  utf16Char : ℕ
  keyState : ℕ
deriving DecidableEq, Repr

/-- A mouse event record. -/
structure MouseEvent where
  X : ℤ
  Y : ℤ
  buttonState : ℕ
  controlKeyState : ℕ
  eventFlags : ℕ
deriving DecidableEq, Repr

inductive InputRecord where
  | key (e : KeyEvent)
  | mouse (e : MouseEvent)
deriving DecidableEq, Repr

/-- The keyboard layout. -/
structure Keyboard where
  /-- `VkKeyScan`, `none` where it answers with `-1`. -/
  vkKeyScan : ℕ → Option ℕ
  /-- `MapVirtualKey` to scan codes. -/
  mapVirtualKey : ℕ → ℕ

/-- Some of the bits are set. -/
def anyBit (state mask : ℕ) : Bool := state &&& mask ≠ 0

variable (kb : Keyboard)

def appendInputRecord (keyDown : Bool) (virtualKey utf16Char keyState : ℕ) : InputRecord :=
  .key ⟨keyDown, virtualKey, kb.mapVirtualKey virtualKey, utf16Char, keyState⟩

/-- The records of a code point, one for each code unit. -/
def appendCPInputRecords (keyDown : Bool) (virtualKey codePoint keyState : ℕ) :
    List InputRecord :=
  (encodeUtf16 codePoint).map fun ch => appendInputRecord kb keyDown virtualKey ch keyState

/-- The escape sequences of the keys that have one: digits and a tilde, or a letter. -/
inductive EscapedKey where
  | numeric (content : List Char)
  | letter (content : Char)
deriving DecidableEq

def escapeCode (virtualKey : ℕ) : Option EscapedKey :=
  if virtualKey = VK_UP then some (.letter 'A')
  else if virtualKey = VK_DOWN then some (.letter 'B')
  else if virtualKey = VK_RIGHT then some (.letter 'C')
  else if virtualKey = VK_LEFT then some (.letter 'D')
  else if virtualKey = VK_CLEAR then some (.letter 'E')
  else if virtualKey = VK_F1 then some (.numeric ['1', '1'])
  else if virtualKey = VK_F1 + 1 then some (.numeric ['1', '2'])
  else if virtualKey = VK_F1 + 2 then some (.numeric ['1', '3'])
  else if virtualKey = VK_F1 + 3 then some (.numeric ['1', '4'])
  else if virtualKey = VK_F1 + 4 then some (.numeric ['1', '5'])
  else if virtualKey = VK_F1 + 5 then some (.numeric ['1', '7'])
  else if virtualKey = VK_F1 + 6 then some (.numeric ['1', '8'])
  else if virtualKey = VK_F1 + 7 then some (.numeric ['1', '9'])
  else if virtualKey = VK_F1 + 8 then some (.numeric ['2', '0'])
  else if virtualKey = VK_F1 + 9 then some (.numeric ['2', '1'])
  else if virtualKey = VK_F1 + 10 then some (.numeric ['2', '3'])
  else if virtualKey = VK_F1 + 11 then some (.numeric ['2', '4'])
  else if virtualKey = VK_HOME then some (.letter 'H')
  else if virtualKey = VK_INSERT then some (.numeric ['2'])
  else if virtualKey = VK_DELETE then some (.numeric ['3'])
  else if virtualKey = VK_END then some (.letter 'F')
  else if virtualKey = VK_PRIOR then some (.numeric ['5'])
  else if virtualKey = VK_NEXT then some (.numeric ['6'])
  else none

/-- The characters of the escape sequence of a key with these modifiers, `1` for Shift, `2` for
Alt and `4` for Ctrl. -/
def escapeChars (code : EscapedKey) (flags : ℕ) : List ℕ :=
  0x1b :: '['.toNat ::
    (match code with
      | .numeric content => content.map Char.toNat
      | .letter _ => if flags ≠ 0 then ['1'.toNat] else []) ++
    (if flags ≠ 0 then [';'.toNat, '1'.toNat + flags] else []) ++
    [match code with
      | .numeric _ => '~'.toNat
      | .letter content => content.toNat]

def escapeFlags (keyState : ℕ) : ℕ :=
  (if anyBit keyState SHIFT_PRESSED then 0x1 else 0) |||
    (if anyBit keyState LEFT_ALT_PRESSED then 0x2 else 0) |||
    (if anyBit keyState LEFT_CTRL_PRESSED then 0x4 else 0)

def outch (ch : ℕ) : InputRecord := appendInputRecord kb true 0 ch 0

/-- The escape byte that stands for Alt. -/
def altPrefix (keyState : ℕ) : List InputRecord :=
  if anyBit keyState LEFT_ALT_PRESSED then [outch kb 0x1b] else []

def reencodeEscapedKeyPress (virtualKey codePoint keyState : ℕ) : List InputRecord :=
  match escapeCode virtualKey with
  | some code => (escapeChars code (escapeFlags keyState)).map (outch kb)
  | none =>
      if virtualKey = VK_BACK then altPrefix kb keyState ++ [outch kb 0x7f]
      else if virtualKey = VK_TAB ∧ anyBit keyState SHIFT_PRESSED = true then
        [outch kb 0x1b, outch kb '['.toNat, outch kb 'Z'.toNat]
      else if codePoint ≠ 0 then
        altPrefix kb keyState ++ appendCPInputRecords kb true 0 codePoint 0
      else []

/-- What the agent does to the console, in order. -/
inductive Call where
  | writeConsoleInput (records : List InputRecord)
  | generateCtrlC
  | sendKeyMessage (keyDown : Bool) (virtualKey : ℕ)
  | sendDsr
deriving DecidableEq, Repr

/-- The records that wait to be written, and the calls so far. -/
structure Console where
  records : List InputRecord := []
  calls : List Call := []
deriving DecidableEq, Repr

namespace Console

def push (c : Console) (records : List InputRecord) : Console :=
  { c with records := c.records ++ records }

def call (c : Console) (call : Call) : Console := { c with calls := c.calls ++ [call] }

def flushInputRecords (c : Console) : Console :=
  if c.records.length = 0 then c
  else { records := [], calls := c.calls ++ [.writeConsoleInput c.records] }

end Console

/-- A modifier of a key press: its flag, the key that its records name, and what they add to the
key state. -/
structure Modifier where
  flag : ℕ
  virtualKey : ℕ
  extra : ℕ
deriving DecidableEq

/-- The modifiers in the order in which they go down. -/
def modifiers : List Modifier :=
  [⟨LEFT_CTRL_PRESSED, VK_CONTROL, 0⟩, ⟨LEFT_ALT_PRESSED, VK_MENU, 0⟩,
    ⟨RIGHT_ALT_PRESSED, VK_MENU, ENHANCED_KEY⟩, ⟨SHIFT_PRESSED, VK_SHIFT, 0⟩]

/-- The modifiers of a key state. -/
def heldModifiers (keyState : ℕ) : List Modifier :=
  modifiers.filter fun modifier => anyBit keyState modifier.flag

/-- The state without these bits, in 16 bits. -/
def clearBits (state mask : ℕ) : ℕ := state &&& (0xFFFF ^^^ mask)

/-- The modifiers go down, each with the state it leads to. -/
def pressModifiers : ℕ → List Modifier → List InputRecord × ℕ
  | stepKeyState, [] => ([], stepKeyState)
  | stepKeyState, modifier :: rest =>
      let stepKeyState := stepKeyState ||| modifier.flag
      let r := pressModifiers stepKeyState rest
      (appendInputRecord kb true modifier.virtualKey 0 (stepKeyState ||| modifier.extra) :: r.1,
        r.2)

/-- The modifiers go up, each with the state it leads to. -/
def releaseModifiers : ℕ → List Modifier → List InputRecord × ℕ
  | stepKeyState, [] => ([], stepKeyState)
  | stepKeyState, modifier :: rest =>
      let stepKeyState := clearBits stepKeyState modifier.flag
      let r := releaseModifiers stepKeyState rest
      (appendInputRecord kb false modifier.virtualKey 0 (stepKeyState ||| modifier.extra) :: r.1,
        r.2)

/-- The records of a key press. -/
def keyPressRecords (escapeInputEnabled : Bool) (virtualKey winCodePointDn winCodePointUp
    winKeyState vtCodePoint vtKeyState : ℕ) : List InputRecord :=
  let held := heldModifiers winKeyState
  let down := pressModifiers kb 0 held
  let enhanced := anyBit winKeyState ENHANCED_KEY
  let stepKeyState := if enhanced then down.2 ||| ENHANCED_KEY else down.2
  let keyDown :=
    if escapeInputEnabled then reencodeEscapedKeyPress kb virtualKey vtCodePoint vtKeyState
    else appendCPInputRecords kb true virtualKey winCodePointDn stepKeyState
  let keyUp := appendCPInputRecords kb false virtualKey winCodePointUp stepKeyState
  let up := releaseModifiers kb
    (if enhanced then clearBits stepKeyState ENHANCED_KEY else stepKeyState) held.reverse
  down.1 ++ keyDown ++ keyUp ++ up.1

/-- The keys that go to the console window in escape input mode when no modifier is held. -/
def isWindowKey (virtualKey : ℕ) : Bool :=
  virtualKey ∈ [VK_UP, VK_DOWN, VK_LEFT, VK_RIGHT, VK_HOME, VK_END]

def Console.appendKeyPress (c : Console) (escapeInputEnabled : Bool) (virtualKey winCodePointDn
    winCodePointUp winKeyState vtCodePoint vtKeyState : ℕ) : Console :=
  if escapeInputEnabled && isWindowKey virtualKey && (heldModifiers winKeyState).isEmpty then
    (c.flushInputRecords.call (.sendKeyMessage true virtualKey)).call
      (.sendKeyMessage false virtualKey)
  else
    c.push (keyPressRecords kb escapeInputEnabled virtualKey winCodePointDn winCodePointUp
      winKeyState vtCodePoint vtKeyState)

end InitialSetups.Winpty
