import Mathlib.Data.List.Basic
import Mathlib.Data.List.Infix

/-!
# Matchers on a stream of bytes

A matcher stands on a byte and walks on through the bytes that have come in.  It answers that there
is no match, that there may be one when more bytes come in, or that there is one, with a value and
the bytes from the last one of the match on.  A matcher is exact for a language when these answers
are right (`Exact`), and an exact matcher of a language without words that go on as other words
does not change its mind when more bytes come in (`Exact.stable`).
-/

namespace InitialSetups.Text

variable {α β : Type} {L : α → List UInt8 → Prop} {w w' pch rest : List UInt8} {a : α} {b : UInt8}

/-- The answer of a matcher, with the bytes from where it stands on. -/
inductive Found (α : Type) where
  | no
  | more
  | yes (a : α) (pch : List UInt8)

def Matcher (α : Type) : Type := List UInt8 → Found α

namespace Matcher

/-- Match, then match on from there. -/
def andThen (f : Matcher α) (g : α → Matcher β) : Matcher β := fun pch =>
  match f pch with
  | .no => .no
  | .more => .more
  | .yes a rest => g a rest

instance : Monad Matcher where
  pure a := fun pch => .yes a pch
  bind := andThen

/-- The byte the matcher stands on. -/
def current : Matcher UInt8 := fun pch => .yes (pch.headD 0) pch

/-- No match unless the byte is a right one. -/
def check (p : UInt8 → Bool) : Matcher Unit := fun pch =>
  if p (pch.headD 0) then .yes () pch else .no

/-- Go on to the next byte, which may not be there yet. -/
def advance : Matcher Unit
  | _ :: b :: pch => .yes () (b :: pch)
  | _ => .more

def isDigit (b : UInt8) : Bool := 48 ≤ b.toNat && b.toNat ≤ 57

/-- The digits of a number, of which `i` are behind. -/
def scanDigits (maxLen : ℕ) : ℕ → ℕ → Matcher ℕ
  | i, out, b :: b' :: pch =>
      if i + 1 < maxLen then
        if isDigit b' then scanDigits maxLen (i + 1) (out * 10 + (b.toNat - 48)) (b' :: pch)
        else .yes (out * 10 + (b.toNat - 48)) (b' :: pch)
      else .no
  | i, _, _ => if i + 1 < maxLen then .more else .no

/-- A number of less than `maxLen` digits. -/
def scanInt (maxLen : ℕ) : Matcher ℕ := do
  check isDigit
  scanDigits maxLen 0 0

/-- A number that may have a minus sign. -/
def scanSignedInt (maxLen : ℕ) : Matcher ℤ := do
  let c ← current
  if c = 45 then
    advance
    let out ← scanInt maxLen
    pure (-out)
  else
    let out ← scanInt maxLen
    pure out

lemma bind_of_no {f : Matcher α} (g : α → Matcher β) (h : f pch = .no) : (f >>= g) pch = .no := by
  show andThen f g pch = .no
  rw [andThen, h]

lemma bind_of_more {f : Matcher α} (g : α → Matcher β) (h : f pch = .more) :
    (f >>= g) pch = .more := by
  show andThen f g pch = .more
  rw [andThen, h]

lemma bind_of_yes {f : Matcher α} (g : α → Matcher β) (h : f pch = .yes a rest) :
    (f >>= g) pch = g a rest := by
  show andThen f g pch = g a rest
  rw [andThen, h]

lemma bind_assoc {γ : Type} (f : Matcher α) (g : α → Matcher β) (h : β → Matcher γ) :
    f >>= g >>= h = f >>= fun a => g a >>= h := by
  funext pch
  show andThen (andThen f g) h pch = andThen f (fun a => andThen (g a) h) pch
  rw [andThen, andThen, andThen]
  cases f pch <;> rfl

lemma check_cons (p : UInt8 → Bool) (g : Unit → Matcher β) :
    (check p >>= g) (b :: pch) = if p b then g () (b :: pch) else .no := by
  show andThen (check p) g (b :: pch) = _
  rw [andThen, check, List.headD_cons]
  split_ifs <;> rfl

lemma advance_cons {b' : UInt8} (g : Unit → Matcher β) :
    (advance >>= g) (b :: b' :: pch) = g () (b' :: pch) := rfl

lemma current_cons (g : UInt8 → Matcher β) : (current >>= g) (b :: pch) = g b (b :: pch) := rfl

end Matcher

/-- The answer on these bytes is right for the words of `L`, each with its value. -/
structure Exact (f : Matcher α) (L : α → List UInt8 → Prop) (pch : List UInt8) : Prop where
  yes : ∀ {a rest}, f pch = .yes a rest →
    ∃ w b r, rest = b :: r ∧ pch = w ++ b :: r ∧ L a (w ++ [b])
  more : f pch = .more → ∃ a w, L a w ∧ pch <+: w ∧ pch ≠ w
  no : f pch = .no → ∀ a w, L a w → ¬ w <+: pch ∧ ¬ pch <+: w

/-- No word goes on as another word. -/
def PrefixFree (L : α → List UInt8 → Prop) : Prop :=
  ∀ a w a' w', L a w → L a' w' → w <+: w' → a = a' ∧ w = w'

/-- There is a word, and not only the empty one. -/
def HasWord (L : α → List UInt8 → Prop) : Prop := ∃ a w, L a w ∧ w ≠ []

/-- The words that begin with a byte of `p` and go on in a language of that byte. -/
def Step (p : UInt8 → Bool) (L : UInt8 → α → List UInt8 → Prop) (a : α) (w : List UInt8) : Prop :=
  ∃ b w', w = b :: w' ∧ p b = true ∧ L b a w'

/-- The words of one byte of `p`. -/
def Last (p : UInt8 → Bool) (v : UInt8 → α) (a : α) (w : List UInt8) : Prop :=
  ∃ b, w = [b] ∧ p b = true ∧ a = v b

/-- A number of less than `maxLen` digits. -/
def IsNumber (maxLen : ℕ) (ds : List UInt8) : Prop :=
  ds ≠ [] ∧ ds.length < maxLen ∧ ∀ b ∈ ds, Matcher.isDigit b = true

def numberFrom (out : ℕ) (ds : List UInt8) : ℕ :=
  ds.foldl (fun out b => out * 10 + (b.toNat - 48)) out

/-- The words that begin with a number and go on in a language of that number. -/
def Number (maxLen : ℕ) (L : ℕ → α → List UInt8 → Prop) (a : α) (w : List UInt8) : Prop :=
  ∃ ds w', w = ds ++ w' ∧ IsNumber maxLen ds ∧ L (numberFrom 0 ds) a w'

/-- The words that begin with a number or a minus sign and a number. -/
def SignedNumber (maxLen : ℕ) (L : ℤ → α → List UInt8 → Prop) (a : α) (w : List UInt8) : Prop :=
  Number maxLen (fun out => L out) a w ∨
    ∃ w', w = 45 :: w' ∧ Number maxLen (fun out => L (-out)) a w'

/-! ### Exact matchers -/

/-- More bytes do not change an answer that is one. -/
theorem Exact.stable {f : Matcher α} (hf : ∀ pch, pch ≠ [] → Exact f L pch) (hL : PrefixFree L)
    (hpch : pch ≠ []) (r : List UInt8) :
    (f pch = .no → f (pch ++ r) = .no) ∧
      ∀ a rest, f pch = .yes a rest → f (pch ++ r) = .yes a (rest ++ r) := by
  have hnext := hf (pch ++ r) (List.append_ne_nil_of_left_ne_nil hpch r)
  constructor
  · intro hno
    have hno := (hf pch hpch).no hno
    cases hnew : f (pch ++ r) with
    | no => rfl
    | more =>
        obtain ⟨a, w, hw, hpre, -⟩ := hnext.more hnew
        exact absurd ((List.prefix_append pch r).trans hpre) (hno a w hw).2
    | yes a rest =>
        obtain ⟨w, b, r', -, heq, hw⟩ := hnext.yes hnew
        have hword : w ++ [b] <+: pch ++ r := ⟨r', by rw [heq, List.append_assoc]; rfl⟩
        rcases List.prefix_or_prefix_of_prefix hword (List.prefix_append pch r) with h | h
        · exact absurd h (hno a _ hw).1
        · exact absurd h (hno a _ hw).2
  · intro a rest hyes
    obtain ⟨w, b, r', hrest, heq, hw⟩ := (hf pch hpch).yes hyes
    have hword : w ++ [b] <+: pch ++ r := ⟨r' ++ r, by rw [heq]; simp⟩
    cases hnew : f (pch ++ r) with
    | no => exact absurd hword (hnext.no hnew a _ hw).1
    | more =>
        obtain ⟨a', w', hw', hpre, hne⟩ := hnext.more hnew
        obtain ⟨-, heq'⟩ := hL a _ a' w' hw hw' (hword.trans hpre)
        rw [← heq'] at hpre hne
        exact absurd (hpre.eq_of_length (le_antisymm hpre.length_le hword.length_le)) hne
    | yes a' rest' =>
        obtain ⟨w', b', r'', hrest', heq', hw'⟩ := hnext.yes hnew
        have hword' : w' ++ [b'] <+: pch ++ r := ⟨r'', by rw [heq', List.append_assoc]; rfl⟩
        obtain ⟨ha, hsame⟩ : a = a' ∧ w ++ [b] = w' ++ [b'] := by
          rcases List.prefix_or_prefix_of_prefix hword hword' with h | h
          · exact hL _ _ _ _ hw hw' h
          · obtain ⟨h1, h2⟩ := hL _ _ _ _ hw' hw h
            exact ⟨h1.symm, h2.symm⟩
        obtain ⟨hw, hb⟩ := List.append_inj' hsame rfl
        rw [heq, hw, List.append_assoc] at heq'
        have htail := List.append_cancel_left heq'
        rw [hrest', ← htail, hrest, ha]

section
variable {f g : Matcher α} {M : α → List UInt8 → Prop}

lemma Exact.of_no (h : f pch = .no) (hno : ∀ a w, L a w → ¬ w <+: pch ∧ ¬ pch <+: w) :
    Exact f L pch := by
  refine ⟨fun {a rest} h' => ?_, fun h' => ?_, fun _ => hno⟩
  · rw [h] at h'
    cases h'
  · rw [h] at h'
    cases h'

lemma Exact.of_more (h : f pch = .more) (hw : L a w) (hpre : pch <+: w) (hne : pch ≠ w) :
    Exact f L pch := by
  refine ⟨fun {a rest} h' => ?_, fun _ => ⟨a, w, hw, hpre, hne⟩, fun h' => ?_⟩
  · rw [h] at h'
    cases h'
  · rw [h] at h'
    cases h'

lemma Exact.congr (hfg : f pch = g pch) (hex : Exact g L pch) : Exact f L pch :=
  ⟨fun h => hex.yes (hfg ▸ h), fun h => hex.more (hfg ▸ h), fun h => hex.no (hfg ▸ h)⟩

/-- Words that the bytes rule out do not matter. -/
lemma Exact.widen (hex : Exact f M pch) (hin : ∀ a w, M a w → L a w)
    (hout : ∀ a w, L a w → w <+: pch ∨ pch <+: w → M a w) : Exact f L pch := by
  refine ⟨fun {a rest} h => ?_, fun h => ?_, fun h a w hw => ?_⟩
  · obtain ⟨w, c, r, hrest, heq, hw⟩ := hex.yes h
    exact ⟨w, c, r, hrest, heq, hin a _ hw⟩
  · obtain ⟨a, w, hw, hpre⟩ := hex.more h
    exact ⟨a, w, hin a w hw, hpre⟩
  · have hno := hex.no h
    exact ⟨fun hpre => (hno a w (hout a w hw (.inl hpre))).1 hpre,
      fun hpre => (hno a w (hout a w hw (.inr hpre))).2 hpre⟩

/-- One byte before: the words are those of `M` after the byte, as far as the bytes after it can
tell. -/
lemma Exact.cons (hfg : f (b :: pch) = g pch) (hex : Exact g M pch)
    (hin : ∀ a w, M a w → L a (b :: w)) (hnil : ∀ a, ¬ L a [])
    (hout : ∀ a w, L a (b :: w) → w <+: pch ∨ pch <+: w → M a w) : Exact f L (b :: pch) := by
  refine ⟨fun {a rest} h => ?_, fun h => ?_, fun h a w hw => ?_⟩
  · obtain ⟨w, c, r, hrest, heq, hw⟩ := hex.yes (hfg ▸ h)
    exact ⟨b :: w, c, r, hrest, by rw [heq, List.cons_append], hin a _ hw⟩
  · obtain ⟨a, w, hw, hpre, hne⟩ := hex.more (hfg ▸ h)
    exact ⟨a, b :: w, hin a w hw, List.cons_prefix_cons.2 ⟨rfl, hpre⟩,
      fun h => hne (List.cons.inj h).2⟩
  · have hno := hex.no (hfg ▸ h)
    cases w with
    | nil => exact absurd hw (hnil a)
    | cons c w =>
        rw [List.cons_prefix_cons, List.cons_prefix_cons]
        constructor
        · rintro ⟨rfl, hpre⟩
          exact (hno a w (hout a w hw (.inl hpre))).1 hpre
        · rintro ⟨rfl, hpre⟩
          exact (hno a w (hout a w hw (.inr hpre))).2 hpre

end

section
variable {f : Matcher α} {p : UInt8 → Bool} {v : UInt8 → α} {k : UInt8 → Matcher α}
  {M : UInt8 → α → List UInt8 → Prop}

/-- Check the last byte. -/
lemma Exact.last (hf : ∀ b r, f (b :: r) = if p b then .yes (v b) (b :: r) else .no)
    (hpch : pch ≠ []) : Exact f (Last p v) pch := by
  obtain ⟨b, r, rfl⟩ := List.exists_cons_of_ne_nil hpch
  by_cases hp : p b = true
  · have hb : f (b :: r) = .yes (v b) (b :: r) := by rw [hf, if_pos hp]
    refine ⟨fun {a rest} h => ?_, fun h => ?_, fun h => ?_⟩
    · rw [hb] at h
      cases h
      exact ⟨[], b, r, rfl, rfl, b, rfl, hp, rfl⟩
    · rw [hb] at h
      cases h
    · rw [hb] at h
      cases h
  · refine .of_no (by rw [hf, if_neg hp]) fun a w hw => ?_
    obtain ⟨c, rfl, hc, -⟩ := hw
    rw [List.cons_prefix_cons, List.cons_prefix_cons]
    exact ⟨fun h => hp (h.1 ▸ hc), fun h => hp (h.1 ▸ hc)⟩

/-- Check a byte and go on. -/
lemma Exact.step (hf : ∀ b r, f (b :: r) =
      if p b then (match r with | [] => .more | b' :: r' => k b (b' :: r')) else .no)
    (hk : ∀ b pch, pch ≠ [] → Exact (k b) (M b) pch) (hword : ∀ b, HasWord (M b))
    (hpch : pch ≠ []) : Exact f (Step p M) pch := by
  obtain ⟨b, r, rfl⟩ := List.exists_cons_of_ne_nil hpch
  by_cases hp : p b = true
  · cases r with
    | nil =>
        obtain ⟨a, w, hw, hne⟩ := hword b
        exact .of_more (by rw [hf, if_pos hp]) ⟨b, w, rfl, hp, hw⟩ ⟨w, rfl⟩
          fun h => hne (List.cons.inj h).2.symm
    | cons b' r =>
        refine .cons (g := k b) (M := M b) (by rw [hf, if_pos hp]) (hk b _ (by simp))
          (fun a w hw => ⟨b, w, rfl, hp, hw⟩) ?_ ?_
        · rintro a ⟨_, _, h, -⟩
          cases h
        · rintro a w ⟨c, w', h, -, hw⟩ -
          obtain ⟨rfl, rfl⟩ := List.cons.inj h
          exact hw
  · refine .of_no (by rw [hf, if_neg hp]) fun a w hw => ?_
    obtain ⟨c, w', rfl, hc, -⟩ := hw
    rw [List.cons_prefix_cons, List.cons_prefix_cons]
    exact ⟨fun h => hp (h.1 ▸ hc), fun h => hp (h.1 ▸ hc)⟩

end

/-- Check a byte and go on to the next. -/
lemma Exact.checkAdvance {p : UInt8 → Bool} {k : Matcher α} (hword : HasWord L)
    (hk : ∀ pch, pch ≠ [] → Exact k L pch) (hpch : pch ≠ []) :
    Exact (Matcher.check p >>= fun _ => Matcher.advance >>= fun _ => k)
      (Step p fun _ => L) pch := by
  refine Exact.step (k := fun _ => k) (fun b r => ?_) (fun _ => hk) (fun _ => hword) hpch
  rw [Matcher.check_cons]
  cases r <;> rfl

/-- Take a byte, whatever it is, and go on to the next. -/
lemma Exact.takeAdvance {k : UInt8 → Matcher α} {M : UInt8 → α → List UInt8 → Prop}
    (hword : ∀ b, HasWord (M b)) (hk : ∀ b pch, pch ≠ [] → Exact (k b) (M b) pch)
    (hpch : pch ≠ []) :
    Exact (Matcher.current >>= fun c => Matcher.advance >>= fun _ => k c)
      (Step (fun _ => true) M) pch := by
  refine Exact.step (fun b r => ?_) hk hword hpch
  rw [Matcher.current_cons, if_pos rfl]
  cases r <;> rfl

section
variable {maxLen i out : ℕ} {k : ℕ → Matcher α} {N : ℕ → α → List UInt8 → Prop}

/-- The words begin with a byte that is no digit. -/
def NoDigitFirst (L : α → List UInt8 → Prop) : Prop :=
  ∀ a w, L a w → ∃ b w', w = b :: w' ∧ Matcher.isDigit b = false

/-- The words after `i` digits. -/
def DigitsFrom (maxLen i out : ℕ) (N : ℕ → α → List UInt8 → Prop) (a : α) (w : List UInt8) : Prop :=
  ∃ ds w', w = ds ++ w' ∧ ds ≠ [] ∧ i + ds.length < maxLen ∧
    (∀ b ∈ ds, Matcher.isDigit b = true) ∧ N (numberFrom out ds) a w'

/-- The first digit and what is left. -/
lemma DigitsFrom.head (h : DigitsFrom maxLen i out N a w) :
    ∃ b w', w = b :: w' ∧ Matcher.isDigit b = true ∧ i + 1 < maxLen ∧
      (N (out * 10 + (b.toNat - 48)) a w' ∨
        DigitsFrom maxLen (i + 1) (out * 10 + (b.toNat - 48)) N a w') := by
  obtain ⟨ds, w', rfl, hne, hlen, hds, hN⟩ := h
  obtain ⟨b, ds, rfl⟩ := List.exists_cons_of_ne_nil hne
  obtain ⟨hb, hds⟩ := List.forall_mem_cons.1 hds
  rw [List.length_cons] at hlen
  refine ⟨b, ds ++ w', rfl, hb, by omega, ?_⟩
  by_cases hnil : ds = []
  · subst hnil
    exact .inl hN
  · exact .inr ⟨ds, w', rfl, hnil, by omega, hds, hN⟩

lemma DigitsFrom.cons (hb : Matcher.isDigit b = true) (hi : i + 1 < maxLen)
    (h : N (out * 10 + (b.toNat - 48)) a w ∨
      DigitsFrom maxLen (i + 1) (out * 10 + (b.toNat - 48)) N a w) :
    DigitsFrom maxLen i out N a (b :: w) := by
  rcases h with hN | ⟨ds, w', rfl, -, hlen, hds, hN⟩
  · exact ⟨[b], w, rfl, by simp, hi, by simpa using hb, hN⟩
  · refine ⟨b :: ds, w', rfl, by simp, ?_, List.forall_mem_cons.2 ⟨hb, hds⟩, hN⟩
    rw [List.length_cons]
    omega

/-- Two words of which one goes on as the other begin with the same byte. -/
lemma head_eq_of_comparable {c : UInt8} (h : c :: w <+: b :: pch ∨ b :: pch <+: c :: w) :
    c = b := by
  rcases h with h | h
  · exact (List.cons_prefix_cons.1 h).1
  · exact (List.cons_prefix_cons.1 h).1.symm

lemma DigitsFrom.ne_nil : ¬ DigitsFrom maxLen i out N a [] := by
  intro h
  obtain ⟨_, _, h, -⟩ := h.head
  cases h

lemma Exact.digits (hk : ∀ v pch, pch ≠ [] → Exact (k v) (N v) pch)
    (hword : ∀ v, HasWord (N v)) (hhead : ∀ v, NoDigitFirst (N v)) (b : UInt8)
    (hb : Matcher.isDigit b = true) (r : List UInt8) :
    Exact (Matcher.scanDigits maxLen i out >>= k) (DigitsFrom maxLen i out N) (b :: r) := by
  induction r generalizing b i out with
  | nil =>
      by_cases hi : i + 1 < maxLen
      · obtain ⟨a, w, hw, -⟩ := hword (out * 10 + (b.toNat - 48))
        obtain ⟨c, w', rfl, -⟩ := hhead _ a w hw
        refine .of_more (Matcher.bind_of_more k ?_) (.cons hb hi (.inl hw)) ⟨c :: w', rfl⟩ (by simp)
        rw [Matcher.scanDigits, if_pos hi]
        simp
      · refine .of_no (Matcher.bind_of_no k ?_) fun a w hw => ?_
        · rw [Matcher.scanDigits, if_neg hi]
          simp
        · obtain ⟨-, -, -, -, hi', -⟩ := hw.head
          exact absurd hi' hi
  | cons b' r ih =>
      by_cases hi : i + 1 < maxLen
      · by_cases hb' : Matcher.isDigit b' = true
        · -- another digit
          have hfg : (Matcher.scanDigits maxLen i out >>= k) (b :: b' :: r) =
              (Matcher.scanDigits maxLen (i + 1) (out * 10 + (b.toNat - 48)) >>= k) (b' :: r) := by
            show Matcher.andThen _ _ _ = Matcher.andThen _ _ _
            rw [Matcher.andThen, Matcher.andThen, Matcher.scanDigits, if_pos hi, if_pos hb']
          refine .cons hfg (ih b' hb') (fun a w hw => .cons hb hi (.inr hw))
            (fun _ => DigitsFrom.ne_nil) fun a w hw hpre => ?_
          obtain ⟨c, w', h, -, -, hw | hw⟩ := hw.head
          · obtain ⟨rfl, rfl⟩ := List.cons.inj h
            obtain ⟨c, w', rfl, hc⟩ := hhead _ a w hw
            rw [head_eq_of_comparable hpre, hb'] at hc
            cases hc
          · obtain ⟨rfl, rfl⟩ := List.cons.inj h
            exact hw
        · -- the number ends here
          have hfg : (Matcher.scanDigits maxLen i out >>= k) (b :: b' :: r) =
              k (out * 10 + (b.toNat - 48)) (b' :: r) :=
            Matcher.bind_of_yes k (by rw [Matcher.scanDigits, if_pos hi, if_neg hb'])
          refine .cons hfg (hk _ _ (by simp)) (fun a w hw => .cons hb hi (.inl hw))
            (fun _ => DigitsFrom.ne_nil) fun a w hw hpre => ?_
          obtain ⟨c, w', h, -, -, hw | hw⟩ := hw.head
          · obtain ⟨rfl, rfl⟩ := List.cons.inj h
            exact hw
          · obtain ⟨rfl, rfl⟩ := List.cons.inj h
            obtain ⟨c, w', rfl, hc, -⟩ := hw.head
            exact absurd (head_eq_of_comparable hpre ▸ hc) hb'
      · refine .of_no (Matcher.bind_of_no k ?_) fun a w hw => ?_
        · rw [Matcher.scanDigits, if_neg hi]
        · obtain ⟨-, -, -, -, hi', -⟩ := hw.head
          exact absurd hi' hi

/-- A number, then go on. -/
lemma Exact.number (hk : ∀ v pch, pch ≠ [] → Exact (k v) (N v) pch)
    (hword : ∀ v, HasWord (N v)) (hhead : ∀ v, NoDigitFirst (N v)) (hpch : pch ≠ []) :
    Exact (Matcher.scanInt maxLen >>= k) (Number maxLen N) pch := by
  obtain ⟨b, r, rfl⟩ := List.exists_cons_of_ne_nil hpch
  by_cases hb : Matcher.isDigit b = true
  · have hdigits : Exact (Matcher.scanDigits maxLen 0 0 >>= k) (Number maxLen N) (b :: r) := by
      refine (Exact.digits hk hword hhead b hb r).widen ?_ ?_
      · rintro a w ⟨ds, w', h1, h2, h3, h4, h5⟩
        exact ⟨ds, w', h1, ⟨h2, by omega, h4⟩, h5⟩
      · rintro a w ⟨ds, w', h1, ⟨h2, h3, h4⟩, h5⟩ -
        exact ⟨ds, w', h1, h2, by omega, h4, h5⟩
    refine .congr ?_ hdigits
    show Matcher.andThen (Matcher.check Matcher.isDigit >>= _) k (b :: r) = Matcher.andThen _ k _
    rw [Matcher.andThen, Matcher.check_cons, if_pos hb]
    rfl
  · refine .of_no (Matcher.bind_of_no k ?_) fun a w hw => ?_
    · rw [Matcher.scanInt, Matcher.check_cons, if_neg hb]
    · obtain ⟨ds, w', rfl, ⟨hne, -, hds⟩, -⟩ := hw
      obtain ⟨c, ds, rfl⟩ := List.exists_cons_of_ne_nil hne
      have hc : c ≠ b := fun h => hb (h ▸ hds c (by simp))
      exact ⟨fun h => hc (head_eq_of_comparable (.inl h)),
        fun h => hc (head_eq_of_comparable (.inr h))⟩

lemma Number.head (h : Number maxLen N a w) : ∃ b w', w = b :: w' ∧ Matcher.isDigit b = true := by
  obtain ⟨ds, w', rfl, ⟨hne, -, hds⟩, -⟩ := h
  obtain ⟨b, ds, rfl⟩ := List.exists_cons_of_ne_nil hne
  exact ⟨b, ds ++ w', rfl, hds b (by simp)⟩

lemma HasWord.number (hlen : 1 < maxLen) (hword : ∀ v, HasWord (N v)) :
    HasWord (Number maxLen N) := by
  obtain ⟨a, w, hw, -⟩ := hword (numberFrom 0 [48])
  exact ⟨a, [48] ++ w, ⟨[48], w, rfl, ⟨by simp, hlen, by simp [Matcher.isDigit]⟩, hw⟩, by simp⟩

end

section
variable {maxLen : ℕ} {k : ℤ → Matcher α} {N : ℤ → α → List UInt8 → Prop}

/-- A number that may have a minus sign, then go on. -/
lemma Exact.signedNumber (hlen : 1 < maxLen) (hk : ∀ v pch, pch ≠ [] → Exact (k v) (N v) pch)
    (hword : ∀ v, HasWord (N v)) (hhead : ∀ v, NoDigitFirst (N v)) (hpch : pch ≠ []) :
    Exact (Matcher.scanSignedInt maxLen >>= k) (SignedNumber maxLen N) pch := by
  obtain ⟨b, r, rfl⟩ := List.exists_cons_of_ne_nil hpch
  by_cases hb : b = 45
  · subst hb
    obtain ⟨a, w, hw, -⟩ := HasWord.number hlen (N := fun out : ℕ => N (-out)) fun v => hword _
    cases r with
    | nil =>
        obtain ⟨c, w', rfl, -⟩ := hw.head
        exact .of_more rfl (.inr ⟨_, rfl, hw⟩) ⟨c :: w', rfl⟩ (by simp)
    | cons b' r =>
        refine .cons (g := Matcher.scanInt maxLen >>= fun out : ℕ => k (-out))
          (M := Number maxLen fun out : ℕ => N (-out)) ?_
          (Exact.number (fun v => hk _) (fun v => hword _) (fun v => hhead _) (by simp)) ?_ ?_ ?_
        · rw [Matcher.scanSignedInt, Matcher.bind_assoc, Matcher.current_cons, if_pos rfl,
            Matcher.bind_assoc, Matcher.advance_cons, Matcher.bind_assoc]
          rfl
        · intro a w hw
          exact .inr ⟨w, rfl, hw⟩
        · rintro a (hw | ⟨w', h, -⟩)
          · obtain ⟨_, _, h, -⟩ := hw.head
            cases h
          · cases h
        · rintro a w (hw | ⟨w', h, hw⟩) -
          · obtain ⟨c, _, h, hc⟩ := hw.head
            obtain ⟨rfl, -⟩ := List.cons.inj h
            cases hc
          · obtain ⟨-, rfl⟩ := List.cons.inj h
            exact hw
  · refine (Exact.congr (g := Matcher.scanInt maxLen >>= fun out : ℕ => k out) ?_
      (Exact.number (fun v => hk _) (fun v => hword _) (fun v => hhead _) (by simp))).widen
      (fun a w hw => .inl hw) ?_
    · rw [Matcher.scanSignedInt, Matcher.bind_assoc, Matcher.current_cons, if_neg hb,
        Matcher.bind_assoc]
      rfl
    · rintro a w (hw | ⟨w', rfl, -⟩) hpre
      · exact hw
      · exact absurd (head_eq_of_comparable hpre).symm hb

lemma HasWord.signedNumber (hlen : 1 < maxLen) (hword : ∀ v, HasWord (N v)) :
    HasWord (SignedNumber maxLen N) := by
  obtain ⟨a, w, hw, hne⟩ := HasWord.number hlen (N := fun out : ℕ => N out) fun v => hword _
  exact ⟨a, w, .inl hw, hne⟩

end

lemma HasWord.step {p : UInt8 → Bool} {M : UInt8 → α → List UInt8 → Prop} (b : UInt8)
    (hb : p b = true) (hM : HasWord (M b)) : HasWord (Step p M) := by
  obtain ⟨a, w, hw, -⟩ := hM
  exact ⟨a, b :: w, ⟨b, w, rfl, hb, hw⟩, by simp⟩

lemma HasWord.last {p : UInt8 → Bool} {v : UInt8 → α} (b : UInt8) (hb : p b = true) :
    HasWord (Last p v) := ⟨v b, [b], ⟨b, rfl, hb, rfl⟩, by simp⟩

lemma NoDigitFirst.step {p : UInt8 → Bool} {M : UInt8 → α → List UInt8 → Prop}
    (hp : ∀ b, p b = true → Matcher.isDigit b = false) : NoDigitFirst (Step p M) := by
  rintro a w ⟨b, w', rfl, hb, -⟩
  exact ⟨b, w', rfl, hp b hb⟩

lemma NoDigitFirst.last {p : UInt8 → Bool} {v : UInt8 → α}
    (hp : ∀ b, p b = true → Matcher.isDigit b = false) : NoDigitFirst (Last p v) := by
  rintro a w ⟨b, rfl, hb, -⟩
  exact ⟨b, [], rfl, hp b hb⟩

/-! ### Languages without words that go on -/

lemma PrefixFree.last {p : UInt8 → Bool} {v : UInt8 → α} : PrefixFree (Last p v) := by
  rintro a w a' w' ⟨b, rfl, -, rfl⟩ ⟨b', rfl, -, rfl⟩ hpre
  obtain rfl := (List.cons_prefix_cons.1 hpre).1
  exact ⟨rfl, rfl⟩

lemma PrefixFree.step {p : UInt8 → Bool} {M : UInt8 → α → List UInt8 → Prop}
    (hM : ∀ b, PrefixFree (M b)) : PrefixFree (Step p M) := by
  rintro a w a' w' ⟨b, w, rfl, -, hw⟩ ⟨b', w', rfl, -, hw'⟩ hpre
  obtain ⟨rfl, htail⟩ := List.cons_prefix_cons.1 hpre
  obtain ⟨rfl, rfl⟩ := hM b a w a' w' hw hw' htail
  exact ⟨rfl, rfl⟩

/-- Where the digits end is seen from the words. -/
lemma digits_cut {ds ds' : List UInt8} (hds : ∀ b ∈ ds, Matcher.isDigit b = true)
    (hds' : ∀ b ∈ ds', Matcher.isDigit b = true) {c c' : UInt8} (hc : Matcher.isDigit c = false)
    (hc' : Matcher.isDigit c' = false) (h : ds ++ c :: w <+: ds' ++ c' :: w') :
    ds = ds' ∧ c :: w <+: c' :: w' := by
  induction ds generalizing ds' with
  | nil =>
      cases ds' with
      | nil => exact ⟨rfl, h⟩
      | cons b' ds' =>
          obtain rfl := (List.cons_prefix_cons.1 h).1
          rw [hds' c (by simp)] at hc
          cases hc
  | cons b ds ih =>
      obtain ⟨hb, hds⟩ := List.forall_mem_cons.1 hds
      cases ds' with
      | nil =>
          obtain rfl := (List.cons_prefix_cons.1 h).1
          rw [hb] at hc'
          cases hc'
      | cons b' ds' =>
          obtain ⟨rfl, htail⟩ := List.cons_prefix_cons.1 h
          obtain ⟨rfl, hrest⟩ := ih hds (List.forall_mem_cons.1 hds').2 htail
          exact ⟨rfl, hrest⟩

lemma PrefixFree.number {maxLen : ℕ} {N : ℕ → α → List UInt8 → Prop} (hN : ∀ v, PrefixFree (N v))
    (hhead : ∀ v, NoDigitFirst (N v)) : PrefixFree (Number maxLen N) := by
  rintro a w a' w' ⟨ds, u, rfl, ⟨-, -, hds⟩, hu⟩ ⟨ds', u', rfl, ⟨-, -, hds'⟩, hu'⟩ hpre
  obtain ⟨c, t, rfl, hc⟩ := hhead _ a u hu
  obtain ⟨c', t', rfl, hc'⟩ := hhead _ a' u' hu'
  obtain ⟨rfl, htail⟩ := digits_cut hds hds' hc hc' hpre
  obtain ⟨rfl, h⟩ := hN _ a _ a' _ hu hu' htail
  exact ⟨rfl, by rw [h]⟩

lemma PrefixFree.signedNumber {maxLen : ℕ} {N : ℤ → α → List UInt8 → Prop}
    (hN : ∀ v, PrefixFree (N v)) (hhead : ∀ v, NoDigitFirst (N v)) :
    PrefixFree (SignedNumber maxLen N) := by
  have hno : ∀ {w w' : List UInt8} {c : UInt8}, Matcher.isDigit c = true →
      ¬ (c :: w <+: 45 :: w') ∧ ¬ (45 :: w' <+: c :: w) := by
    intro w w' c hc
    have hne : c ≠ 45 := fun h => by
      rw [h] at hc
      cases hc
    exact ⟨fun h => hne (List.cons_prefix_cons.1 h).1,
      fun h => hne (List.cons_prefix_cons.1 h).1.symm⟩
  rintro a w a' w' (hw | ⟨w, rfl, hw⟩) (hw' | ⟨w', rfl, hw'⟩) hpre
  · exact PrefixFree.number (fun v => hN _) (fun v => hhead _) a w a' w' hw hw' hpre
  · obtain ⟨c, t, rfl, hc⟩ := hw.head
    exact absurd hpre (hno hc).1
  · obtain ⟨c, t, rfl, hc⟩ := hw'.head
    exact absurd hpre (hno hc).2
  · obtain ⟨rfl, rfl⟩ := PrefixFree.number (fun v => hN _) (fun v => hhead _) a w a' w' hw hw'
      (List.cons_prefix_cons.1 hpre).2
    exact ⟨rfl, rfl⟩

/-- An exact matcher answers that there may be a match, or that there is one of `n` bytes, exactly
when this is so. -/
theorem Exact.spec {f : Matcher α} (hf : Exact f L pch) (hL : PrefixFree L) :
    (f pch = .more ↔ ∃ a w, L a w ∧ pch <+: w ∧ pch ≠ w) ∧
      ∀ a n, (∃ rest, f pch = .yes a rest ∧ n = pch.length - rest.length + 1) ↔
        n ≤ pch.length ∧ L a (pch.take n) := by
  -- a word the bytes begin with, and a word that begins with the bytes
  have hclash : ∀ {a a' : α} {w w' : List UInt8}, L a w → w <+: pch → L a' w' → pch <+: w' →
      pch = w' := by
    intro a a' w w' hw hpre hw' hpre'
    obtain ⟨-, rfl⟩ := hL a w a' w' hw hw' (hpre.trans hpre')
    exact hpre'.eq_of_length (le_antisymm hpre'.length_le hpre.length_le)
  constructor
  · refine ⟨hf.more, fun ⟨a, w, hw, hpre, hne⟩ => ?_⟩
    cases h : f pch with
    | more => rfl
    | no => exact absurd hpre (hf.no h a w hw).2
    | yes a' rest =>
        obtain ⟨w', b, r, -, heq, hw'⟩ := hf.yes h
        have hpre' : w' ++ [b] <+: pch := ⟨r, by rw [heq]; simp⟩
        exact absurd (hclash hw' hpre' hw hpre) hne
  · intro a n
    constructor
    · rintro ⟨rest, h, rfl⟩
      obtain ⟨w, b, r, rfl, rfl, hw⟩ := hf.yes h
      have hn : (w ++ b :: r).length - (b :: r).length + 1 = (w ++ [b]).length := by simp
      have htake : (w ++ b :: r).take (w ++ [b]).length = w ++ [b] := by
        rw [show w ++ b :: r = (w ++ [b]) ++ r by simp, List.take_left]
      rw [hn, htake]
      exact ⟨by simp, hw⟩
    · rintro ⟨hn, hw⟩
      have hpre : pch.take n <+: pch := List.take_prefix n pch
      cases h : f pch with
      | no => exact absurd hpre (hf.no h a _ hw).1
      | more =>
          obtain ⟨a', w', hw', hpre', hne⟩ := hf.more h
          exact absurd (hclash hw hpre hw' hpre') hne
      | yes a' rest =>
          obtain ⟨w, b, r, rfl, heq, hw'⟩ := hf.yes h
          have hpre' : w ++ [b] <+: pch := ⟨r, by rw [heq]; simp⟩
          obtain ⟨rfl, hsame⟩ : a = a' ∧ pch.take n = w ++ [b] := by
            rcases List.prefix_or_prefix_of_prefix hpre hpre' with h | h
            · exact hL _ _ _ _ hw hw' h
            · obtain ⟨h1, h2⟩ := hL _ _ _ _ hw' hw h
              exact ⟨h1.symm, h2.symm⟩
          have hlen := congrArg List.length hsame
          rw [List.length_take_of_le hn, List.length_append, List.length_singleton] at hlen
          refine ⟨b :: r, rfl, ?_⟩
          rw [hlen, heq, List.length_append]
          omega

end InitialSetups.Text
