import InitialSetups.Winpty.ConsoleInput
import InitialSetups.Winpty.LongestMatch

/-!
# Input in pieces

The terminal's bytes come in pieces, cut anywhere, and what is incomplete at the end of a piece
waits.  The agent does with the pieces what it does with all bytes at once, whatever the clock says
in between: only the double clicks depend on it (`writeInput_pieces`).
-/

namespace InitialSetups.Winpty

open InitialSetups.Text

variable {settings : Settings} {s t : Scanner} {c : Console} {q r input : Bytes} {k : ℕ}

/-! ### What the console gets to see -/

inductive Event where
  | record (r : InputRecord)
  | ctrlC
  | keyMessage (keyDown : Bool) (virtualKey : ℕ)
deriving DecidableEq, Repr

def Call.events : Call → List Event
  | .writeConsoleInput records => records.map .record
  | .generateCtrlC => [.ctrlC]
  | .sendKeyMessage keyDown virtualKey => [.keyMessage keyDown virtualKey]
  | .sendDsr => []

/-- The events in order, those that wait to be written at the end. -/
def Console.events (c : Console) : List Event :=
  c.calls.flatMap Call.events ++ c.records.map .record

/-- The event without the mark of a double click. -/
def Event.plain : Event → Event
  | .record (.mouse e) =>
      .record (.mouse { e with eventFlags := e.eventFlags &&& (0xFFFFFFFF ^^^ DOUBLE_CLICK) })
  | e => e

def Scanner.plainEvents (s : Scanner) : List Event := s.console.events.map Event.plain

/-- The same events, double clicks apart, and the same buttons down. -/
def SameOutput (s t : Scanner) : Prop :=
  s.plainEvents = t.plainEvents ∧ s.mouseButtonState = t.mouseButtonState

lemma sameOutput_equiv : Equivalence SameOutput :=
  ⟨fun _ => ⟨rfl, rfl⟩, fun h => ⟨h.1.symm, h.2.symm⟩,
    fun h h' => ⟨h.1.trans h'.1, h.2.trans h'.2⟩⟩

namespace Console

lemma events_push (records : List InputRecord) :
    (c.push records).events = c.events ++ records.map .record := by
  rw [events, events, push, List.map_append, List.append_assoc]

lemma events_call (hc : c.records = []) (call : Call) :
    (c.call call).events = c.events ++ call.events := by
  rw [events, events, Console.call, hc, List.flatMap_append, List.flatMap_singleton]
  simp

@[simp] lemma events_flush : c.flushInputRecords.events = c.events := by
  rw [flushInputRecords]
  split_ifs with h
  · rfl
  · rw [events, events, List.flatMap_append, List.flatMap_singleton, List.map_nil, List.append_nil]
    rfl

lemma records_flush : c.flushInputRecords.records = [] := by
  rw [flushInputRecords]
  split_ifs with h
  · exact List.length_eq_zero_iff.1 h
  · rfl

/-- The events of a key press do not depend on the console. -/
def keyPressEvents (kb : Keyboard) (escapeInputEnabled : Bool) (virtualKey winCodePointDn
    winCodePointUp winKeyState vtCodePoint vtKeyState : ℕ) : List Event :=
  if escapeInputEnabled && isWindowKey virtualKey && (heldModifiers winKeyState).isEmpty then
    [.keyMessage true virtualKey, .keyMessage false virtualKey]
  else
    (keyPressRecords kb escapeInputEnabled virtualKey winCodePointDn winCodePointUp winKeyState
      vtCodePoint vtKeyState).map .record

lemma events_appendKeyPress (kb : Keyboard) (esc : Bool) (vk dn up st vc vs : ℕ) :
    (c.appendKeyPress kb esc vk dn up st vc vs).events =
      c.events ++ keyPressEvents kb esc vk dn up st vc vs := by
  rw [appendKeyPress, keyPressEvents]
  split_ifs with h
  · have hcall : (c.flushInputRecords.call (.sendKeyMessage true vk)).records = [] := records_flush
    rw [events_call hcall, events_call records_flush, events_flush, List.append_assoc]
    rfl
  · exact events_push _

end Console

lemma SameOutput.console (h : SameOutput s t) (es : List Event) {c c' : Console}
    (hc : c.events = s.console.events ++ es) (hc' : c'.events = t.console.events ++ es) :
    SameOutput { s with console := c } { t with console := c' } := by
  refine ⟨?_, h.2⟩
  show c.events.map Event.plain = c'.events.map Event.plain
  rw [hc, hc', List.map_append, List.map_append]
  exact congrArg (· ++ es.map Event.plain) h.1

lemma SameOutput.appendUtf8Char (h : SameOutput s t) (charBuffer : Bytes) (alt : Bool) :
    SameOutput (s.appendUtf8Char settings charBuffer alt)
      (t.appendUtf8Char settings charBuffer alt) := by
  rw [Scanner.appendUtf8Char, Scanner.appendUtf8Char]
  by_cases hinvalid : decodeUtf8 charBuffer = kInvalid
  · rw [if_pos hinvalid, if_pos hinvalid]
    exact h
  · rw [if_neg hinvalid, if_neg hinvalid]
    exact h.console _ (Console.events_appendKeyPress ..) (Console.events_appendKeyPress ..)

lemma SameOutput.appendMapKey (h : SameOutput s t) (key : Key) :
    SameOutput (s.appendMapKey settings key) (t.appendMapKey settings key) :=
  h.console _ (Console.events_appendKeyPress ..) (Console.events_appendKeyPress ..)

/-- The event flags without that of a double click. -/
def plainFlags (flags : ℕ) : ℕ := flags &&& (0xFFFFFFFF ^^^ DOUBLE_CLICK)

lemma plain_mouseEvent (record : MouseRecord) (buttonState flags : ℕ) :
    Event.plain (.record (.mouse (mouseEvent settings record buttonState flags))) =
      .record (.mouse (mouseEvent settings record buttonState (plainFlags flags))) := rfl

lemma plainFlags_or (flags : ℕ) : plainFlags (flags ||| DOUBLE_CLICK) = plainFlags flags := by
  rw [plainFlags, plainFlags, Nat.and_or_distrib_right]
  exact Nat.or_zero _

/-- Only the mark of a double click depends on the clock and on the clicks before. -/
lemma ordinaryMouseEvent_same (settings : Settings)
    (h : s.mouseButtonState = t.mouseButtonState) (tick tick' : ℕ)
    (record : MouseRecord) :
    (s.ordinaryMouseEvent settings tick record).1.mouseButtonState =
        (t.ordinaryMouseEvent settings tick' record).1.mouseButtonState ∧
      plainFlags (s.ordinaryMouseEvent settings tick record).2 =
        plainFlags (t.ordinaryMouseEvent settings tick' record).2 := by
  rw [Scanner.ordinaryMouseEvent, Scanner.ordinaryMouseEvent]
  by_cases h3 : record.flags &&& 0x03 = 3
  · simp only [if_pos h3, and_self]
  simp only [if_neg h3]
  by_cases hrelease : record.release = true
  · simp only [if_pos hrelease, h, and_self]
  simp only [if_neg hrelease, h]
  by_cases hdown : t.mouseButtonState &&& relevantFlag (record.flags &&& 0x03) = 0
  · simp only [if_pos hdown]
    -- a double click on either side
    split_ifs <;> simp only [plainFlags_or, and_self]
  · simp only [if_neg hdown, h, and_self]

lemma ordinaryMouseEvent_console (s : Scanner) (tick : ℕ) (record : MouseRecord) :
    (s.ordinaryMouseEvent settings tick record).1.console = s.console := by
  rw [Scanner.ordinaryMouseEvent]
  by_cases h3 : record.flags &&& 0x03 = 3
  · simp only [if_pos h3]
  simp only [if_neg h3]
  by_cases hrelease : record.release = true
  · simp only [if_pos hrelease]
  simp only [if_neg hrelease]
  by_cases hdown : s.mouseButtonState &&& relevantFlag (record.flags &&& 0x03) = 0
  · simp only [if_pos hdown]
    split_ifs <;> rfl
  · simp only [if_neg hdown]

lemma SameOutput.pushMouseEvent (h : SameOutput s t) {e e' : MouseEvent}
    (he : Event.plain (.record (.mouse e)) = Event.plain (.record (.mouse e'))) :
    SameOutput (s.pushMouseEvent settings e) (t.pushMouseEvent settings e') := by
  rw [Scanner.pushMouseEvent, Scanner.pushMouseEvent]
  split_ifs
  · refine ⟨?_, h.2⟩
    show (s.console.push [.mouse e]).events.map Event.plain =
      (t.console.push [.mouse e']).events.map Event.plain
    rw [Console.events_push, Console.events_push, List.map_append, List.map_append]
    show _ ++ [Event.plain (.record (.mouse e))] = _ ++ [Event.plain (.record (.mouse e'))]
    rw [he]
    exact congrArg (· ++ _) h.1
  · exact h

lemma SameOutput.scanMouseInput (h : SameOutput s t) (tick tick' : ℕ) (record : MouseRecord) :
    SameOutput (s.scanMouseInput settings tick record)
      (t.scanMouseInput settings tick' record) := by
  rw [Scanner.scanMouseInput, Scanner.scanMouseInput]
  by_cases hwheel : anyBit record.flags 0x40 = true
  · simp only [if_pos hwheel]
    split_ifs
    · exact h.pushMouseEvent (by rw [h.2])
    · exact h.pushMouseEvent (by rw [h.2])
    · exact h
  · simp only [if_neg hwheel]
    obtain ⟨hstate, hflags⟩ := ordinaryMouseEvent_same settings h.2 tick tick' record
    refine SameOutput.pushMouseEvent ⟨?_, hstate⟩ ?_
    · rw [Scanner.plainEvents, Scanner.plainEvents, ordinaryMouseEvent_console,
        ordinaryMouseEvent_console]
      exact h.1
    · rw [plain_mouseEvent, plain_mouseEvent, hstate, hflags]

/-! ### More bytes -/

lemma byteAt_append {i : ℕ} (hi : i < q.length) : byteAt (q ++ r) i = byteAt q i := by
  rw [byteAt, byteAt, List.getD_eq_getElem?_getD, List.getD_eq_getElem?_getD,
    List.getElem?_append_left hi]

lemma getD_append {i : ℕ} (hi : i < q.length) : (q ++ r).getD i 0 = q.getD i 0 := by
  rw [List.getD_eq_getElem?_getD, List.getD_eq_getElem?_getD, List.getElem?_append_left hi]

/-- The decoder reads the bytes that the first byte announces and no others. -/
lemma decodeUtf8_append (hq : q ≠ []) (hlen : utf8CharLength (q.getD 0 0) ≤ q.length) :
    decodeUtf8 (q ++ r) = decodeUtf8 q := by
  have hpos := List.length_pos_iff.2 hq
  rw [decodeUtf8, decodeUtf8, getD_append hpos]
  rcases hn : utf8CharLength (q.getD 0 0) with _ | _ | _ | _ | _ | n
  · rfl
  · exact byteAt_append hpos
  · rw [byteAt_append hpos, byteAt_append (by omega : 1 < q.length)]
    rfl
  · rw [byteAt_append hpos, byteAt_append (by omega : 1 < q.length),
      byteAt_append (by omega : 2 < q.length)]
    rfl
  · rw [byteAt_append hpos, byteAt_append (by omega : 1 < q.length),
      byteAt_append (by omega : 2 < q.length), byteAt_append (by omega : 3 < q.length)]
  · rfl

lemma appendUtf8Char_append (hq : q ≠ []) (hlen : utf8CharLength (q.getD 0 0) ≤ q.length)
    (alt : Bool) : s.appendUtf8Char settings (q ++ r) alt = s.appendUtf8Char settings q alt := by
  rw [Scanner.appendUtf8Char, Scanner.appendUtf8Char, decodeUtf8_append hq hlen]

namespace InputMap

variable {m : InputMap} {n : Addr} {i len : ℕ} {key : Key}

lemma lookupFrom_le (hlen : len ≤ i) : (m.lookupFrom input n i len key).1 ≤ i + input.length := by
  induction input generalizing n i len key with
  | nil => exact hlen
  | cons ch input ih =>
      rw [List.length_cons]
      cases hchild : (m.node n).getChild ch with
      | none =>
          rw [lookupFrom_of_none hchild]
          show len ≤ _
          omega
      | some c =>
          rw [lookupFrom_of_some hchild]
          split_ifs
          · exact (ih le_rfl).trans (by omega)
          · exact (ih (by omega)).trans (by omega)

/-- A lookup that is complete does not look at what comes after. -/
lemma lookupFrom_append (h : (m.lookupFrom input n i len key).2.2 = false) :
    m.lookupFrom (input ++ r) n i len key = m.lookupFrom input n i len key := by
  induction input generalizing n i len key with
  | nil =>
      have hcount : (m.node n).childCount = 0 := by
        have hpos := of_decide_eq_false h
        omega
      cases r with
      | nil => rfl
      | cons ch r =>
          have hchild : (m.node n).getChild ch = none := by
            rw [Node.getChild, hcount]
            rfl
          rw [List.nil_append, lookupFrom_of_none hchild]
          show _ = (len, key, decide ((m.node n).childCount > 0))
          rw [hcount]
          rfl
  | cons ch input ih =>
      rw [List.cons_append]
      cases hchild : (m.node n).getChild ch with
      | none => rw [lookupFrom_of_none hchild, lookupFrom_of_none hchild]
      | some c =>
          rw [lookupFrom_of_some hchild] at h ⊢
          rw [lookupFrom_of_some hchild]
          split_ifs at h ⊢
          · exact ih h
          · exact ih h

end InputMap

/-! ### The scanner -/

lemma matchLen_append {pch : Bytes} : matchLen (q ++ r) (pch ++ r) = matchLen q pch := by
  rw [matchLen, matchLen, List.length_append, List.length_append]
  omega

lemma matchLen_le {α : Type} {f : Matcher α} {L : α → Bytes → Prop} (hf : Exact f L q) {a : α}
    {pch : Bytes} (h : f q = .yes a pch) : 0 < matchLen q pch ∧ matchLen q pch ≤ q.length := by
  obtain ⟨w, b, r, rfl, rfl, -⟩ := hf.yes h
  rw [matchLen, List.length_append, List.length_cons]
  omega

lemma headD_append (hq : q ≠ []) : (q ++ r).headD 0 = q.headD 0 := by
  obtain ⟨b, q, rfl⟩ := List.exists_cons_of_ne_nil hq
  rfl

lemma getD_zero (q : Bytes) : q.getD 0 0 = q.headD 0 := by
  cases q <;> rfl

/-- Whether a character with Alt comes is seen from the bytes that are there. -/
lemma altChar_iff (hq : q ≠ []) (hesc : q.headD 0 = esc → 2 ≤ q.length) :
    ((q ++ r).headD 0 = esc ∧ (q ++ r).length ≥ 2 ∧ (q ++ r).getD 1 0 ≠ esc ∧
        utf8CharLength ((q ++ r).getD 1 0) > 0) ↔
      q.headD 0 = esc ∧ q.length ≥ 2 ∧ q.getD 1 0 ≠ esc ∧ utf8CharLength (q.getD 1 0) > 0 := by
  rw [headD_append hq]
  refine and_congr_right fun h => ?_
  have hlen := hesc h
  rw [getD_append (show 1 < q.length from hlen), List.length_append]
  exact and_congr_left fun _ => ⟨fun _ => hlen, fun _ => by omega⟩

/-- `scanChar` takes a byte at least, and more bytes do not matter. -/
lemma scanChar_spec (hq : q ≠ []) (hesc : q.headD 0 = esc → 2 ≤ q.length)
    (h : scanChar settings s q = some (k, t)) :
    (0 < k ∧ k ≤ q.length) ∧ ∀ r, scanChar settings s (q ++ r) = some (k, t) := by
  have hpos := List.length_pos_iff.2 hq
  rw [scanChar] at h
  by_cases halt : q.headD 0 = esc ∧ q.length ≥ 2 ∧ q.getD 1 0 ≠ esc ∧
      utf8CharLength (q.getD 1 0) > 0
  · have htwo : 2 ≤ q.length := halt.2.1
    simp only [if_pos halt] at h
    split_ifs at h with hlen
    obtain ⟨rfl, rfl⟩ := Prod.mk.inj (Option.some.inj h)
    refine ⟨by omega, fun r => ?_⟩
    rw [scanChar]
    simp only [if_pos ((altChar_iff hq hesc).2 halt)]
    rw [getD_append (show 1 < q.length from htwo), List.length_append, if_neg (by omega),
      List.drop_append_of_le_length (by omega : 1 ≤ q.length)]
    have hdrop : (q.drop 1).length = q.length - 1 := List.length_drop
    have hhead : (q.drop 1).getD 0 0 = q.getD 1 0 := by
      rw [List.getD_eq_getElem?_getD, List.getElem?_drop, List.getD_eq_getElem?_getD]
    rw [appendUtf8Char_append (List.ne_nil_of_length_pos (by omega))
      (by rw [hhead, hdrop]; omega)]
  · simp only [if_neg halt] at h
    have hgoal : ∀ r, scanChar settings s (q ++ r) =
        (let len := utf8CharLength (q.headD 0)
        if len = 0 then some (1, s)
        else if len > (q ++ r).length then none
        else some (len, s.appendUtf8Char settings (q ++ r) false)) := by
      intro r
      have hno := fun h => halt ((altChar_iff (r := r) hq hesc).1 h)
      rw [scanChar]
      simp only [if_neg hno]
      rw [headD_append hq]
    split_ifs at h with hzero hlen
    · obtain ⟨rfl, rfl⟩ := Prod.mk.inj (Option.some.inj h)
      refine ⟨by omega, fun r => ?_⟩
      rw [hgoal]
      exact if_pos hzero
    · obtain ⟨rfl, rfl⟩ := Prod.mk.inj (Option.some.inj h)
      refine ⟨by omega, fun r => ?_⟩
      rw [hgoal]
      simp only [if_neg hzero]
      rw [List.length_append, if_neg (by omega),
        appendUtf8Char_append hq (by rw [getD_zero]; omega)]

lemma scanKey_spec (hq : q ≠ []) (hesc : q.headD 0 = esc → 2 ≤ q.length)
    (h : scanKey settings false s q = some (k, t)) :
    (0 < k ∧ k ≤ q.length) ∧ ∀ r, scanKey settings false s (q ++ r) = some (k, t) := by
  rw [scanKey] at h
  simp only [Bool.not_false, Bool.true_and] at h
  split_ifs at h with hmore hmatch
  · obtain ⟨rfl, rfl⟩ := Prod.mk.inj (Option.some.inj h)
    have hsame : ∀ r, settings.inputMap.lookupKey (q ++ r) = settings.inputMap.lookupKey q :=
      fun r => InputMap.lookupFrom_append (Bool.eq_false_of_not_eq_true hmore)
    refine ⟨⟨hmatch, (InputMap.lookupFrom_le le_rfl).trans (by omega)⟩, fun r => ?_⟩
    rw [scanKey]
    simp only [Bool.not_false, Bool.true_and, hsame, if_neg hmore, if_pos hmatch]
  · have hsame : ∀ r, settings.inputMap.lookupKey (q ++ r) = settings.inputMap.lookupKey q :=
      fun r => InputMap.lookupFrom_append (Bool.eq_false_of_not_eq_true hmore)
    obtain ⟨hk, hnext⟩ := scanChar_spec hq hesc h
    refine ⟨hk, fun r => ?_⟩
    rw [scanKey]
    simp only [Bool.not_false, Bool.true_and, hsame, if_neg hmore, if_neg hmatch]
    exact hnext r

/-- The escape byte alone waits for the rest of a status reply. -/
lemma two_le_of_dsr_no (hq : q ≠ []) (hesc : q.headD 0 = esc) (h : matchDsr q = .no) :
    2 ≤ q.length := by
  match q, hq, hesc with
  | [_], _, rfl => cases h
  | _ :: _ :: _, _, _ => simp

lemma stable_matchDsr (hq : q ≠ []) (r : Bytes) :
    (matchDsr q = .no → matchDsr (q ++ r) = .no) ∧
      ∀ a rest, matchDsr q = .yes a rest → matchDsr (q ++ r) = .yes a (rest ++ r) :=
  Exact.stable (fun _ => exact_matchDsr) prefixFree_dsrReply hq r

lemma stable_matchMouseRecord (hq : q ≠ []) (r : Bytes) :
    (matchMouseRecord q = .no → matchMouseRecord (q ++ r) = .no) ∧
      ∀ a rest, matchMouseRecord q = .yes a rest →
        matchMouseRecord (q ++ r) = .yes a (rest ++ r) :=
  Exact.stable (fun _ => exact_matchMouseRecord) prefixFree_mouseReport hq r

/-- What `scanInput` can do with a sequence that is complete. -/
inductive Scans (settings : Settings) (tick : ℕ) (s : Scanner) (q : Bytes) : ℕ → Scanner → Prop
  | ctrlC (hhead : q.headD 0 = 0x03) (hprocessed : settings.processedInput = true) :
      Scans settings tick s q 1
        { s with console := s.console.flushInputRecords.call .generateCtrlC }
  | dsr {pch : Bytes} (hhead : q.headD 0 = esc) (hdsr : matchDsr q = .yes () pch) :
      Scans settings tick s q (matchLen q pch) { s with dsrSent := false }
  | mouse {pch : Bytes} {record : MouseRecord} (hhead : q.headD 0 = esc)
      (hdsr : matchDsr q = .no) (hmouse : matchMouseRecord q = .yes record pch) :
      Scans settings tick s q (matchLen q pch) (s.scanMouseInput settings tick record)
  | key {k : ℕ} {t : Scanner} (hctrl : ¬ (q.headD 0 = 0x03 ∧ settings.processedInput = true))
      (hhead : q.headD 0 = esc → matchDsr q = .no ∧ matchMouseRecord q = .no)
      (hkey : scanKey settings false s q = some (k, t)) : Scans settings tick s q k t

lemma scans_iff {tick : ℕ} :
    scanInput settings false tick s q = some (k, t) ↔ Scans settings tick s q k t := by
  constructor
  · intro h
    unfold scanInput at h
    by_cases hctrl : q.headD 0 = 0x03 ∧ settings.processedInput = true
    · rw [if_pos hctrl] at h
      obtain ⟨rfl, rfl⟩ := Prod.mk.inj (Option.some.inj h)
      exact .ctrlC hctrl.1 hctrl.2
    rw [if_neg hctrl] at h
    by_cases hhead : q.headD 0 = esc
    · rw [if_pos hhead] at h
      cases hdsr : matchDsr q with
      | yes a pch =>
          rw [hdsr] at h
          obtain ⟨rfl, rfl⟩ := Prod.mk.inj (Option.some.inj h)
          exact .dsr hhead hdsr
      | more =>
          rw [hdsr] at h
          cases h
      | no =>
          rw [hdsr] at h
          cases hmouse : matchMouseRecord q with
          | yes record pch =>
              rw [hmouse] at h
              obtain ⟨rfl, rfl⟩ := Prod.mk.inj (Option.some.inj h)
              exact .mouse hhead hdsr hmouse
          | more =>
              rw [hmouse] at h
              cases h
          | no =>
              rw [hmouse] at h
              exact .key hctrl (fun _ => ⟨hdsr, hmouse⟩) h
    · rw [if_neg hhead] at h
      exact .key hctrl (fun h' => absurd h' hhead) h
  · intro h
    cases h with
    | ctrlC hhead hprocessed =>
        unfold scanInput
        rw [if_pos ⟨hhead, hprocessed⟩]
    | dsr hhead hdsr =>
        have hne : ¬ (q.headD 0 = 0x03 ∧ settings.processedInput = true) := by
          rw [hhead]
          exact fun h => absurd h.1 (by decide)
        unfold scanInput
        rw [if_neg hne, if_pos hhead, hdsr]
    | mouse hhead hdsr hmouse =>
        have hne : ¬ (q.headD 0 = 0x03 ∧ settings.processedInput = true) := by
          rw [hhead]
          exact fun h => absurd h.1 (by decide)
        unfold scanInput
        rw [if_neg hne, if_pos hhead, hdsr, hmouse]
    | key hctrl hhead hkey =>
        unfold scanInput
        rw [if_neg hctrl]
        by_cases hesc : q.headD 0 = esc
        · rw [if_pos hesc, (hhead hesc).1, (hhead hesc).2]
          exact hkey
        · rw [if_neg hesc]
          exact hkey

lemma scanChar_congr (hst : SameOutput s t) {s' : Scanner}
    (h : scanChar settings s q = some (k, s')) :
    ∃ t', scanChar settings t q = some (k, t') ∧ SameOutput s' t' := by
  rw [scanChar] at h
  simp only at h
  split_ifs at h with halt hlen hzero hlen
  · obtain ⟨rfl, rfl⟩ := Prod.mk.inj (Option.some.inj h)
    refine ⟨_, ?_, hst.appendUtf8Char (q.drop 1) true⟩
    rw [scanChar]
    simp only [if_pos halt, if_neg hlen]
  · obtain ⟨rfl, rfl⟩ := Prod.mk.inj (Option.some.inj h)
    refine ⟨_, ?_, hst⟩
    rw [scanChar]
    simp only [if_neg halt, if_pos hzero]
  · obtain ⟨rfl, rfl⟩ := Prod.mk.inj (Option.some.inj h)
    refine ⟨_, ?_, hst.appendUtf8Char q false⟩
    rw [scanChar]
    simp only [if_neg halt, if_neg hzero, if_neg hlen]

lemma scanKey_congr (hst : SameOutput s t) {s' : Scanner}
    (h : scanKey settings false s q = some (k, s')) :
    ∃ t', scanKey settings false t q = some (k, t') ∧ SameOutput s' t' := by
  rw [scanKey] at h
  simp only [Bool.not_false, Bool.true_and] at h
  split_ifs at h with hmore hmatch
  · obtain ⟨rfl, rfl⟩ := Prod.mk.inj (Option.some.inj h)
    refine ⟨_, ?_, hst.appendMapKey _⟩
    rw [scanKey]
    simp only [Bool.not_false, Bool.true_and, if_neg hmore, if_pos hmatch]
  · obtain ⟨t', ht', hst'⟩ := scanChar_congr hst h
    refine ⟨t', ?_, hst'⟩
    rw [scanKey]
    simp only [Bool.not_false, Bool.true_and, if_neg hmore, if_neg hmatch]
    exact ht'

/-- More bytes do not make the scanner change its mind. -/
lemma incremental_scanInput (settings : Settings) :
    Incremental (scanInput settings false) SameOutput where
  equiv := sameOutput_equiv
  advances {tick s q k t} hq h := by
    have hpos := List.length_pos_iff.2 hq
    cases scans_iff.1 h with
    | ctrlC => omega
    | dsr hhead hdsr => exact matchLen_le (exact_matchDsr hq) hdsr
    | mouse hhead hdsr hmouse => exact matchLen_le (exact_matchMouseRecord hq) hmouse
    | key hctrl hhead hkey =>
        exact (scanKey_spec hq (fun h => two_le_of_dsr_no hq h (hhead h).1) hkey).1
  stable {tick s q k t} r hq h := by
    refine scans_iff.2 ?_
    cases scans_iff.1 h with
    | ctrlC hhead hprocessed => exact .ctrlC (by rw [headD_append hq, hhead]) hprocessed
    | dsr hhead hdsr =>
        have hnext : Scans settings tick s (q ++ r) _ _ :=
          .dsr (by rw [headD_append hq, hhead]) ((stable_matchDsr hq r).2 _ _ hdsr)
        rwa [matchLen_append] at hnext
    | mouse hhead hdsr hmouse =>
        have hnext : Scans settings tick s (q ++ r) _ _ :=
          .mouse (by rw [headD_append hq, hhead]) ((stable_matchDsr hq r).1 hdsr)
          ((stable_matchMouseRecord hq r).2 _ _ hmouse)
        rwa [matchLen_append] at hnext
    | key hctrl hhead hkey =>
        refine .key (by rwa [headD_append hq]) (fun h => ?_)
          ((scanKey_spec hq (fun h => two_le_of_dsr_no hq h (hhead h).1) hkey).2 r)
        rw [headD_append hq] at h
        exact ⟨(stable_matchDsr hq r).1 (hhead h).1, (stable_matchMouseRecord hq r).1 (hhead h).2⟩
  congr {tick s t q k s'} tick' hst hq h := by
    cases scans_iff.1 h with
    | ctrlC hhead hprocessed =>
        refine ⟨_, scans_iff.2 (.ctrlC hhead hprocessed), hst.console [.ctrlC] ?_ ?_⟩
        · rw [Console.events_call Console.records_flush, Console.events_flush]
          rfl
        · rw [Console.events_call Console.records_flush, Console.events_flush]
          rfl
    | dsr hhead hdsr => exact ⟨_, scans_iff.2 (.dsr hhead hdsr), hst⟩
    | mouse hhead hdsr hmouse =>
        exact ⟨_, scans_iff.2 (.mouse hhead hdsr hmouse), hst.scanMouseInput tick tick' _⟩
    | key hctrl hhead hkey =>
        obtain ⟨t', ht', hst'⟩ := scanKey_congr hst hkey
        exact ⟨t', scans_iff.2 (.key hctrl hhead ht'), hst'⟩

/-! ### The queue -/

variable {c : ConsoleInput}

/-- The states that writes and the passing of time lead to. -/
inductive Reachable (settings : Settings) : ConsoleInput → Prop
  | start : Reachable settings {}
  | write {c : ConsoleInput} (h : Reachable settings c) (tick : ℕ) (input : Bytes) :
      Reachable settings (c.writeInput settings tick input)
  | flush {c : ConsoleInput} (h : Reachable settings c) (tick : ℕ) :
      Reachable settings (c.flushIncompleteEscapeCode settings tick)

/-- What holds between the calls. -/
structure ConsoleInput.Settled (settings : Settings) (c : ConsoleInput) : Prop where
  waits : c.byteQueue = [] ∨
    ∀ tick, scanInput settings false tick c.scanner c.byteQueue = none
  asked : c.byteQueue ≠ [] → c.scanner.dsrSent = true
  written : c.scanner.console.records = []

/-- What `doWrite` and `sendDsr` leave of the scanner. -/
def finishWrite (_ : ℕ) (s : Scanner) (q : Bytes) : Scanner :=
  let s := { s with console := s.console.flushInputRecords }
  if q ≠ [] ∧ s.dsrSent = false then { s with console := s.console.call .sendDsr, dsrSent := true }
  else s

lemma sameOutput_finishWrite (tick : ℕ) (s : Scanner) (q : Bytes) :
    SameOutput (finishWrite tick s q) s := by
  have hflush : SameOutput { s with console := s.console.flushInputRecords } s := by
    refine ⟨?_, rfl⟩
    show s.console.flushInputRecords.events.map _ = _
    rw [Console.events_flush]
    rfl
  rw [finishWrite]
  split_ifs
  · refine ⟨?_, rfl⟩
    show (s.console.flushInputRecords.call .sendDsr).events.map _ = _
    rw [Console.events_call Console.records_flush, Console.events_flush, List.map_append]
    exact List.append_nil _
  · exact hflush

/-- The scanner and the queue. -/
def ConsoleInput.stream (c : ConsoleInput) : Scanner × Bytes := (c.scanner, c.byteQueue)

/-- A write is a step of reading a stream in pieces. -/
lemma stream_writeInput (settings : Settings) (c : ConsoleInput) (tick : ℕ) (hinput : input ≠ []) :
    (c.writeInput settings tick input).stream =
      Incremental.feed (scanInput settings false) finishWrite c.stream (tick, input) := by
  have hlen : ¬ input.length = 0 := by simpa using hinput
  rw [ConsoleInput.writeInput, if_neg hlen]
  show (ConsoleInput.sendDsr _).stream = (finishWrite _ _ _, _)
  rw [ConsoleInput.sendDsr, finishWrite]
  by_cases h : (drain (scanInput settings false) tick c.scanner (c.byteQueue ++ input)).2 ≠ [] ∧
      (drain (scanInput settings false) tick c.scanner (c.byteQueue ++ input)).1.dsrSent = false
  · exact (congrArg ConsoleInput.stream (if_pos h)).trans (Prod.ext (if_pos h).symm rfl)
  · exact (congrArg ConsoleInput.stream (if_neg h)).trans (Prod.ext (if_neg h).symm rfl)

lemma writeInput_nil (c : ConsoleInput) (tick : ℕ) : c.writeInput settings tick [] = c := rfl

/-- Writes of nothing change nothing. -/
lemma stream_foldl_writeInput (settings : Settings) (c : ConsoleInput) (writes : List (ℕ × Bytes)) :
    (writes.foldl (fun c w => c.writeInput settings w.1 w.2) c).stream =
      (writes.filter fun w => w.2 ≠ []).foldl
        (Incremental.feed (scanInput settings false) finishWrite) c.stream := by
  induction writes generalizing c with
  | nil => rfl
  | cons w writes ih =>
      rw [List.foldl_cons, ih]
      by_cases hw : w.2 = []
      · rw [List.filter_cons_of_neg (by simpa using hw), hw, writeInput_nil]
      · rw [List.filter_cons_of_pos (by simpa using hw), List.foldl_cons,
          stream_writeInput settings c w.1 hw]

lemma flatten_filter (writes : List (ℕ × Bytes)) :
    ((writes.filter fun w => w.2 ≠ []).map (·.2)).flatten = (writes.map (·.2)).flatten := by
  induction writes with
  | nil => rfl
  | cons w writes ih =>
      by_cases hw : w.2 = []
      · rw [List.filter_cons_of_neg (by simpa using hw), ih, List.map_cons, List.flatten_cons, hw,
          List.nil_append]
      · rw [List.filter_cons_of_pos (by simpa using hw), List.map_cons, List.flatten_cons, ih,
          List.map_cons, List.flatten_cons]

lemma ConsoleInput.Settled.drain_eq (hc : c.Settled settings) (tick : ℕ) :
    drain (scanInput settings false) tick c.scanner c.byteQueue = (c.scanner, c.byteQueue) := by
  rcases hc.waits with h | h
  · rw [h]
    rfl
  · exact Incremental.drain_of_none (h tick)

lemma settled_writeInput (hc : c.Settled settings) (tick : ℕ) (input : Bytes) :
    (c.writeInput settings tick input).Settled settings := by
  by_cases hinput : input = []
  · rw [hinput, writeInput_nil]
    exact hc
  have hstream := stream_writeInput settings c tick hinput
  set r := drain (scanInput settings false) tick c.scanner (c.byteQueue ++ input) with hr
  have hscanner : (c.writeInput settings tick input).scanner = finishWrite tick r.1 r.2 :=
    congrArg Prod.fst hstream
  have hqueue : (c.writeInput settings tick input).byteQueue = r.2 := congrArg Prod.snd hstream
  refine ⟨?_, fun hne => ?_, ?_⟩
  · rw [hscanner, hqueue]
    by_cases hnil : r.2 = []
    · exact .inl hnil
    · have hstop := ((incremental_scanInput settings).drain_stops (e := tick) (s := c.scanner)
        (q := c.byteQueue ++ input)).resolve_left hnil
      exact .inr fun tick' => (incremental_scanInput settings).none_congr
        (sameOutput_equiv.symm (sameOutput_finishWrite tick r.1 r.2)) hnil hstop
  · rw [hqueue] at hne
    rw [hscanner, finishWrite]
    split_ifs with h
    · rfl
    · simpa [hne] using h
  · rw [hscanner, finishWrite]
    split_ifs
    · exact Console.records_flush
    · exact Console.records_flush

lemma settled_flush (hc : c.Settled settings) (tick : ℕ) :
    (c.flushIncompleteEscapeCode settings tick).Settled settings := by
  rw [ConsoleInput.flushIncompleteEscapeCode]
  split_ifs
  · exact ⟨.inl rfl, fun h => absurd rfl h, Console.records_flush⟩
  · exact hc

/-- **What holds between the calls.**  After any writes in any pieces and any timeouts, the bytes in
the queue cannot be decided without more, whatever the clock says, a status request is under way
when there are any, and all records have been written. -/
theorem settled_of_reachable (h : Reachable settings c) : c.Settled settings := by
  induction h with
  | start => exact ⟨.inl rfl, fun h => absurd rfl h, rfl⟩
  | write h tick input ih => exact settled_writeInput ih tick input
  | flush h tick ih => exact settled_flush ih tick

/-- What writes do, in terms of all bytes at once. -/
lemma foldl_writeInput_drain (hc : c.Settled settings) (writes : List (ℕ × Bytes)) (tick : ℕ) :
    let c' := writes.foldl (fun c w => c.writeInput settings w.1 w.2) c
    let all := drain (scanInput settings false) tick c.scanner
      (c.byteQueue ++ (writes.map (·.2)).flatten)
    SameOutput c'.scanner all.1 ∧ c'.byteQueue = all.2 := by
  have h := (incremental_scanInput settings).foldl_feed sameOutput_finishWrite tick c.scanner
    c.byteQueue (writes.filter fun w => w.2 ≠ [])
  rw [hc.drain_eq tick, flatten_filter] at h
  have hstream := stream_foldl_writeInput settings c writes
  refine ⟨?_, ((Prod.ext_iff.1 hstream).2).trans h.2⟩
  show SameOutput (ConsoleInput.stream _).1 _
  rw [hstream]
  exact h.1

/-- **Input may come in pieces.**  After any run, in whatever pieces bytes are written, at whatever
times, the agent does with them what it does with all bytes written at once: the same events, double
clicks apart, the same buttons are down, and the same bytes wait. -/
theorem writeInput_pieces (hc : Reachable settings c) (writes : List (ℕ × Bytes)) (tick : ℕ) :
    let c' := writes.foldl (fun c w => c.writeInput settings w.1 w.2) c
    let all := c.writeInput settings tick (writes.map (·.2)).flatten
    SameOutput c'.scanner all.scanner ∧ c'.byteQueue = all.byteQueue := by
  have hsettled := settled_of_reachable hc
  obtain ⟨h1, h2⟩ := foldl_writeInput_drain hsettled writes tick
  obtain ⟨h3, h4⟩ := foldl_writeInput_drain hsettled [(tick, (writes.map (·.2)).flatten)] tick
  simp only [List.map_cons, List.map_nil, List.flatten_cons, List.flatten_nil, List.append_nil,
    List.foldl_cons, List.foldl_nil] at h3 h4
  exact ⟨sameOutput_equiv.trans h1 (sameOutput_equiv.symm h3), h2.trans h4.symm⟩

/-- A console that wants all input, with an empty input map. -/
def plainSettings : Settings where
  processedInput := true
  mouseInputEnabled := true
  quickEditEnabled := false
  escapeInputEnabled := false
  mouseWindowRect := {}
  doubleClickTime := 500
  keyboard := ⟨fun _ => none, id⟩
  inputMap := {}

/-- A status reply after a letter, cut in three. -/
theorem writeInput_pieces_reply :
    let writes := [(0, bytes "a"), (10, esc :: bytes "[2"), (20, bytes ";10R")]
    let c' : ConsoleInput :=
      writes.foldl (fun c w => ConsoleInput.writeInput plainSettings c w.1 w.2) {}
    let all := ConsoleInput.writeInput plainSettings {} 30 (writes.map (·.2)).flatten
    SameOutput c'.scanner all.scanner ∧ c'.byteQueue = all.byteQueue :=
  writeInput_pieces .start _ 30

theorem settled_of_reachable_escape :
    (ConsoleInput.writeInput plainSettings {} 0 [esc]).Settled plainSettings :=
  settled_of_reachable (.write .start 0 [esc])

example : (ConsoleInput.writeInput plainSettings {} 0 [esc]).byteQueue = [esc] ∧
    (ConsoleInput.writeInput plainSettings {} 0 [esc]).scanner.console.calls = [.sendDsr] := by
  decide

end InitialSetups.Winpty
