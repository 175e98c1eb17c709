import InitialSetups.Text.Matcher
import InitialSetups.Winpty.InputMap
import InitialSetups.Winpty.SmallRect

/-!
# The matchers of the console input

Besides the sequences of the input map, the agent recognises the terminal's reply to a status
request and the reports of mouse events, in three formats.  Each matcher answers that the input
begins with such a sequence, or that it may when more comes in, exactly when this is so
(`matchDsr_spec`, `matchMouseRecord_spec`).
-/

namespace InitialSetups.Winpty

open InitialSetups.Text Matcher

variable {pch input w : Bytes}

def esc : UInt8 := 0x1B

/-- The byte is this character. -/
def isChar (c : Char) (b : UInt8) : Bool := b = c.toUInt8

/-- A number of 32 bits less another. -/
def subUInt32 (a b : ℕ) : ℕ := (a + 0x100000000 - b) % 0x100000000

/-- A mouse event as the terminal reports it; `flags` in 32 bits. -/
structure MouseRecord where
  release : Bool
  flags : ℕ
  coord : Coord
deriving DecidableEq, Repr

/-- What the bytes of a report in the default format say. -/
def defaultRecord (flags x y : UInt8) : MouseRecord :=
  ⟨false, (flags - 32).toNat, (x - 33).toNat, (y - 33).toNat⟩

def record1006 (flags : ℕ) (x y : ℤ) (c : UInt8) : MouseRecord :=
  ⟨isChar 'm' c, flags, toShort (x - 1), toShort (y - 1)⟩

def record1015 (flags : ℕ) (x y : ℤ) : MouseRecord :=
  ⟨false, subUInt32 flags 32, toShort (x - 1), toShort (y - 1)⟩

/-- Match the reply to a status request: `ESC [ nn ; mm R`. -/
def matchDsr : Matcher Unit := do
  check (· = esc)
  advance
  check (isChar '[')
  advance
  let _ ← scanInt 8
  check (isChar ';')
  advance
  let _ ← scanInt 8
  check (isChar 'R')

def matchMouseDefault : Matcher MouseRecord := do
  check (· = esc)
  advance
  check (isChar '[')
  advance
  check (isChar 'M')
  advance
  let flags ← current
  advance
  let x ← current
  advance
  let y ← current
  pure (defaultRecord flags x y)

def matchMouse1006 : Matcher MouseRecord := do
  check (· = esc)
  advance
  check (isChar '[')
  advance
  check (isChar '<')
  advance
  let flags ← scanInt 8
  check (isChar ';')
  advance
  let x ← scanSignedInt 8
  check (isChar ';')
  advance
  let y ← scanSignedInt 8
  let c ← current
  check fun c => isChar 'M' c || isChar 'm' c
  pure (record1006 flags x y c)

def matchMouse1015 : Matcher MouseRecord := do
  check (· = esc)
  advance
  check (isChar '[')
  advance
  let flags ← scanInt 8
  check (isChar ';')
  advance
  let x ← scanSignedInt 8
  check (isChar ';')
  advance
  let y ← scanSignedInt 8
  check (isChar 'M')
  pure (record1015 flags x y)

/-- Match a mouse report of any kind. -/
def matchMouseRecord : Matcher MouseRecord := fun pch =>
  match matchMouse1006 pch with
  | .no =>
      match matchMouse1015 pch with
      | .no => matchMouseDefault pch
      | r => r
  | r => r

/-! ### The sequences they match -/

/-- The byte `c`, then a word of `L`. -/
abbrev After (c : Char) {α : Type} (L : α → Bytes → Prop) : α → Bytes → Prop :=
  Step (isChar c) fun _ => L

/-- The escape byte, then a word of `L`. -/
abbrev AfterEsc {α : Type} (L : α → Bytes → Prop) : α → Bytes → Prop :=
  Step (fun b => decide (b = esc)) fun _ => L

def DsrReply : Unit → Bytes → Prop :=
  AfterEsc <| After '[' <| Number 8 fun _ => After ';' <| Number 8 fun _ =>
    Last (isChar 'R') fun _ => ()

def DefaultReport : MouseRecord → Bytes → Prop :=
  AfterEsc <| After '[' <| After 'M' <| Step (fun _ => true) fun flags =>
    Step (fun _ => true) fun x => Last (fun _ => true) (defaultRecord flags x)

/-- Two coordinates and what ends the report. -/
abbrev Coordinates {α : Type} (p : UInt8 → Bool) (v : ℤ → ℤ → UInt8 → α) : α → Bytes → Prop :=
  SignedNumber 8 fun x => After ';' <| SignedNumber 8 fun y => Last p (v x y)

def Report1006 : MouseRecord → Bytes → Prop :=
  AfterEsc <| After '[' <| After '<' <| Number 8 fun flags => After ';' <|
    Coordinates (fun c => isChar 'M' c || isChar 'm' c) (record1006 flags)

def Report1015 : MouseRecord → Bytes → Prop :=
  AfterEsc <| After '[' <| Number 8 fun flags => After ';' <|
    Coordinates (isChar 'M') fun x y _ => record1015 flags x y

/-- A mouse report, with what it says. -/
def MouseReport (record : MouseRecord) (w : Bytes) : Prop :=
  Report1006 record w ∨ Report1015 record w ∨ DefaultReport record w

/-! ### Exactness -/

section
variable {α : Type} {L : α → Bytes → Prop}

lemma not_digit_of_isChar {c : Char} (hc : isDigit c.toUInt8 = false) (b : UInt8)
    (hb : isChar c b = true) : isDigit b = false := by
  rwa [of_decide_eq_true hb]

lemma hasWord_after (c : Char) (hL : HasWord L) : HasWord (After c L) :=
  .step c.toUInt8 (decide_eq_true rfl) hL

lemma semicolon_not_digit : ∀ b, isChar ';' b = true → isDigit b = false := not_digit_of_isChar rfl

variable {p : UInt8 → Bool} {v : ℤ → ℤ → UInt8 → α} {k : ℤ → ℤ → Matcher α}

lemma hasWord_coordinates (b : UInt8) (hb : p b = true) : HasWord (Coordinates p v) :=
  .signedNumber (by omega) fun _ =>
    hasWord_after ';' (.signedNumber (by omega) fun _ => .last b hb)

lemma exact_coordinates (hp : ∀ b, p b = true → isDigit b = false) (b : UInt8) (hb : p b = true)
    (hk : ∀ x y b r, k x y (b :: r) = if p b then .yes (v x y b) (b :: r) else .no)
    (hpch : pch ≠ []) :
    Exact (scanSignedInt 8 >>= fun x => check (isChar ';') >>= fun _ => advance >>= fun _ =>
      scanSignedInt 8 >>= fun y => k x y) (Coordinates p v) pch := by
  have hlast : ∀ x y, HasWord (Last p (v x y)) := fun x y => .last b hb
  have hy : ∀ x, HasWord (SignedNumber 8 fun y => Last p (v x y)) :=
    fun x => .signedNumber (by omega) (hlast x)
  refine Exact.signedNumber (by omega) (fun x _ => ?_) (fun x => hasWord_after ';' (hy x))
    (fun _ => .step semicolon_not_digit) hpch
  refine Exact.checkAdvance (hy x) fun _ => ?_
  exact Exact.signedNumber (by omega) (fun y _ => Exact.last (hk x y)) (hlast x) fun _ => .last hp

lemma prefixFree_coordinates (hp : ∀ b, p b = true → isDigit b = false) :
    PrefixFree (Coordinates p v) :=
  .signedNumber (fun _ => .step fun _ => .signedNumber (fun _ => .last) fun _ => .last hp)
    fun _ => .step semicolon_not_digit

end

lemma R_not_digit : ∀ b, isChar 'R' b = true → isDigit b = false := not_digit_of_isChar rfl

lemma exact_matchDsr (hpch : pch ≠ []) : Exact matchDsr DsrReply pch := by
  have hR : HasWord (Last (isChar 'R') fun _ => ()) := .last 'R'.toUInt8 rfl
  have hmm : HasWord (Number 8 fun _ => Last (isChar 'R') fun _ => ()) :=
    .number (by omega) fun _ => hR
  have hnn : HasWord (Number 8 fun _ => After ';' <| Number 8 fun _ =>
      Last (isChar 'R') fun _ => ()) := .number (by omega) fun _ => hasWord_after ';' hmm
  refine Exact.checkAdvance (hasWord_after '[' hnn) (fun _ => ?_) hpch
  refine Exact.checkAdvance hnn fun _ => ?_
  refine Exact.number (fun _ _ => ?_) (fun _ => hasWord_after ';' hmm)
    fun _ => .step semicolon_not_digit
  refine Exact.checkAdvance hmm fun _ => ?_
  exact Exact.number (fun _ _ => Exact.last fun _ _ => rfl) (fun _ => hR) fun _ => .last R_not_digit

lemma prefixFree_dsrReply : PrefixFree DsrReply :=
  .step fun _ => .step fun _ => .number (fun _ => .step fun _ => .number (fun _ => .last)
    fun _ => .last R_not_digit) fun _ => .step semicolon_not_digit

lemma exact_matchMouseDefault (hpch : pch ≠ []) : Exact matchMouseDefault DefaultReport pch := by
  have hy : ∀ flags x, HasWord (Last (fun _ => true) (defaultRecord flags x)) :=
    fun _ _ => .last 0 rfl
  have hx : ∀ flags, HasWord (Step (fun _ => true) fun x =>
      Last (fun _ => true) (defaultRecord flags x)) := fun flags => .step 0 rfl (hy flags 0)
  have hflags : HasWord (Step (fun _ => true) fun flags => Step (fun _ => true) fun x =>
      Last (fun _ => true) (defaultRecord flags x)) := .step 0 rfl (hx 0)
  refine Exact.checkAdvance (hasWord_after '[' (hasWord_after 'M' hflags)) (fun _ => ?_) hpch
  refine Exact.checkAdvance (hasWord_after 'M' hflags) fun _ => ?_
  refine Exact.checkAdvance hflags fun _ => ?_
  refine Exact.takeAdvance hx fun flags _ => ?_
  exact Exact.takeAdvance (hy flags) fun x _ => Exact.last fun _ _ => rfl

lemma exact_matchMouse1006 (hpch : pch ≠ []) : Exact matchMouse1006 Report1006 pch := by
  have hp : ∀ b, (isChar 'M' b || isChar 'm' b) = true → isDigit b = false := by
    intro b hb
    rcases Bool.or_eq_true_iff.1 hb with h | h
    · exact not_digit_of_isChar rfl b h
    · exact not_digit_of_isChar rfl b h
  have hxy : ∀ flags, HasWord (Coordinates (fun c => isChar 'M' c || isChar 'm' c)
      (record1006 flags)) := fun _ => hasWord_coordinates 'M'.toUInt8 rfl
  have hflags : HasWord (Number 8 fun flags => After ';' <|
      Coordinates (fun c => isChar 'M' c || isChar 'm' c) (record1006 flags)) :=
    .number (by omega) fun flags => hasWord_after ';' (hxy flags)
  refine Exact.checkAdvance (hasWord_after '[' (hasWord_after '<' hflags)) (fun _ => ?_) hpch
  refine Exact.checkAdvance (hasWord_after '<' hflags) fun _ => ?_
  refine Exact.checkAdvance hflags fun _ => ?_
  refine Exact.number (fun flags _ => ?_) (fun flags => hasWord_after ';' (hxy flags))
    fun _ => .step semicolon_not_digit
  refine Exact.checkAdvance (hxy flags) fun _ => ?_
  refine exact_coordinates hp 'M'.toUInt8 rfl fun x y b r => ?_
  rw [current_cons, check_cons]
  rfl

lemma exact_matchMouse1015 (hpch : pch ≠ []) : Exact matchMouse1015 Report1015 pch := by
  have hxy : ∀ flags, HasWord (Coordinates (isChar 'M') fun x y _ => record1015 flags x y) :=
    fun _ => hasWord_coordinates 'M'.toUInt8 rfl
  have hflags : HasWord (Number 8 fun flags => After ';' <|
      Coordinates (isChar 'M') fun x y _ => record1015 flags x y) :=
    .number (by omega) fun flags => hasWord_after ';' (hxy flags)
  refine Exact.checkAdvance (hasWord_after '[' hflags) (fun _ => ?_) hpch
  refine Exact.checkAdvance hflags fun _ => ?_
  refine Exact.number (fun flags _ => ?_) (fun flags => hasWord_after ';' (hxy flags))
    fun _ => .step semicolon_not_digit
  refine Exact.checkAdvance (hxy flags) fun _ => ?_
  refine exact_coordinates (not_digit_of_isChar rfl) 'M'.toUInt8 rfl fun x y b r => ?_
  rw [check_cons]
  rfl

lemma exact_matchMouseRecord (hpch : pch ≠ []) : Exact matchMouseRecord MouseReport pch := by
  have h1 := exact_matchMouse1006 hpch
  have h2 := exact_matchMouse1015 hpch
  have h3 := exact_matchMouseDefault hpch
  cases hm1 : matchMouse1006 pch with
  | more =>
      obtain ⟨a, w, hw, hpre, hne⟩ := h1.more hm1
      exact .of_more (by rw [matchMouseRecord, hm1]) (.inl hw) hpre hne
  | yes a rest =>
      refine ⟨fun h => ?_, fun h => ?_, fun h => ?_⟩
      all_goals rw [matchMouseRecord, hm1] at h
      · obtain ⟨w, b, r, hrest, heq, hw⟩ := h1.yes (hm1.trans h)
        exact ⟨w, b, r, hrest, heq, .inl hw⟩
      all_goals cases h
  | no =>
      cases hm2 : matchMouse1015 pch with
      | more =>
          obtain ⟨a, w, hw, hpre, hne⟩ := h2.more hm2
          exact .of_more (by rw [matchMouseRecord, hm1, hm2]) (.inr (.inl hw)) hpre hne
      | yes a rest =>
          refine ⟨fun h => ?_, fun h => ?_, fun h => ?_⟩
          all_goals rw [matchMouseRecord, hm1, hm2] at h
          · obtain ⟨w, b, r, hrest, heq, hw⟩ := h2.yes (hm2.trans h)
            exact ⟨w, b, r, hrest, heq, .inr (.inl hw)⟩
          all_goals cases h
      | no =>
          have hdefault : matchMouseRecord pch = matchMouseDefault pch := by
            rw [matchMouseRecord, hm1, hm2]
          refine .congr hdefault (h3.widen (fun _ _ hw => .inr (.inr hw)) ?_)
          rintro a w (hw | hw | hw) hpre
          · exact (hpre.elim (h1.no hm1 a w hw).1 (h1.no hm1 a w hw).2).elim
          · exact (hpre.elim (h2.no hm2 a w hw).1 (h2.no hm2 a w hw).2).elim
          · exact hw

/-- The third byte tells the formats apart. -/
def third (w : Bytes) : UInt8 := w.getD 2 0

lemma third_1006 {record : MouseRecord} (h : Report1006 record w) :
    2 < w.length ∧ third w = '<'.toUInt8 := by
  obtain ⟨_, _, rfl, -, _, _, rfl, -, c, w, rfl, hc, -⟩ := h
  exact ⟨by simp, of_decide_eq_true hc⟩

lemma third_1015 {record : MouseRecord} (h : Report1015 record w) :
    2 < w.length ∧ isDigit (third w) = true := by
  obtain ⟨_, _, rfl, -, _, w, rfl, -, hw⟩ := h
  obtain ⟨c, w, rfl, hc⟩ := hw.head
  exact ⟨by simp, hc⟩

lemma third_default {record : MouseRecord} (h : DefaultReport record w) :
    2 < w.length ∧ third w = 'M'.toUInt8 := by
  obtain ⟨_, _, rfl, -, _, _, rfl, -, c, w, rfl, hc, -⟩ := h
  exact ⟨by simp, of_decide_eq_true hc⟩

lemma third_mono {w' : Bytes} (hw : 2 < w.length) (h : w <+: w') : third w = third w' := by
  obtain ⟨t, rfl⟩ := h
  rw [third, third, List.getD_eq_getElem?_getD, List.getD_eq_getElem?_getD,
    List.getElem?_append_left hw]

lemma prefixFree_mouseReport : PrefixFree MouseReport := by
  have h1006 : PrefixFree Report1006 := .step fun _ => .step fun _ => .step fun _ =>
    .number (fun _ => .step fun _ => prefixFree_coordinates fun b hb => by
      rcases Bool.or_eq_true_iff.1 hb with h | h
      · exact not_digit_of_isChar rfl b h
      · exact not_digit_of_isChar rfl b h) fun _ => .step semicolon_not_digit
  have h1015 : PrefixFree Report1015 := .step fun _ => .step fun _ =>
    .number (fun _ => .step fun _ => prefixFree_coordinates (not_digit_of_isChar rfl))
      fun _ => .step semicolon_not_digit
  have hdefault : PrefixFree DefaultReport := .step fun _ => .step fun _ => .step fun _ =>
    .step fun _ => .step fun _ => .last
  rintro a w a' w' (hw | hw | hw) (hw' | hw' | hw') hpre
  · exact h1006 a w a' w' hw hw' hpre
  · have h := third_mono (third_1006 hw).1 hpre
    have h' := (third_1015 hw').2
    rw [← h, (third_1006 hw).2] at h'
    cases h'
  · have h := third_mono (third_1006 hw).1 hpre
    rw [(third_1006 hw).2, (third_default hw').2] at h
    cases h
  · have h := third_mono (third_1015 hw).1 hpre
    have h' := (third_1015 hw).2
    rw [h, (third_1006 hw').2] at h'
    cases h'
  · exact h1015 a w a' w' hw hw' hpre
  · have h := third_mono (third_1015 hw).1 hpre
    have h' := (third_1015 hw).2
    rw [h, (third_default hw').2] at h'
    cases h'
  · have h := third_mono (third_default hw).1 hpre
    rw [(third_default hw).2, (third_1006 hw').2] at h
    cases h
  · have h := third_mono (third_default hw).1 hpre
    have h' := (third_1015 hw').2
    rw [← h, (third_default hw).2] at h'
    cases h'
  · exact hdefault a w a' w' hw hw' hpre

/-- **The mouse matcher is exact**: with input that is there, it answers that a report may come
exactly when the input is the beginning of one, and that there is a report of `n` bytes, with what
it says, exactly when the first `n` bytes are one. -/
theorem matchMouseRecord_spec (hinput : input ≠ []) :
    (matchMouseRecord input = .more ↔
        ∃ record w, MouseReport record w ∧ input <+: w ∧ input ≠ w) ∧
      ∀ record n,
        (∃ rest, matchMouseRecord input = .yes record rest ∧
          n = input.length - rest.length + 1) ↔
        n ≤ input.length ∧ MouseReport record (input.take n) :=
  (exact_matchMouseRecord hinput).spec prefixFree_mouseReport

/-- The report of a click at column 3 and line 2, but for its last byte. -/
theorem matchMouseRecord_spec_click :
    matchMouseRecord (esc :: bytes "[<0;3;2") = .more ↔
      ∃ record w, MouseReport record w ∧ esc :: bytes "[<0;3;2" <+: w ∧
        esc :: bytes "[<0;3;2" ≠ w :=
  (@matchMouseRecord_spec _ (by simp)).1

end InitialSetups.Winpty
