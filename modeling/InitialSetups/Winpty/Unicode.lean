import Mathlib.Data.Nat.Bitwise
import Mathlib.Data.List.Basic
import InitialSetups.Winpty.InputMap

/-!
# Code points in bytes

The UTF-8 and UTF-16 functions of the agent.  The decoder answers with a code point exactly where
its bytes are what the encoder writes for it (`decodeUtf8_eq_iff`), so it takes no overlong form,
no surrogate and nothing above `0x10FFFF`.
-/

namespace InitialSetups.Winpty

variable {code : ℕ} {b : UInt8} {inp rest : Bytes}

/-- The bytes of a code point, none where there is no encoding. -/
def encodeUtf8 (code : ℕ) : Bytes :=
  if code < 0x80 then [.ofNat code]
  else if code < 0x800 then
    [.ofNat (((code >>> 6) &&& 0x1F) ||| 0xC0), .ofNat ((code &&& 0x3F) ||| 0x80)]
  else if code < 0x10000 then
    if 0xD800 ≤ code ∧ code ≤ 0xDFFF then []
    else
      [.ofNat (((code >>> 12) &&& 0x0F) ||| 0xE0), .ofNat (((code >>> 6) &&& 0x3F) ||| 0x80),
        .ofNat ((code &&& 0x3F) ||| 0x80)]
  else if code < 0x110000 then
    [.ofNat (((code >>> 18) &&& 0x07) ||| 0xF0), .ofNat (((code >>> 12) &&& 0x3F) ||| 0x80),
      .ofNat (((code >>> 6) &&& 0x3F) ||| 0x80), .ofNat ((code &&& 0x3F) ||| 0x80)]
  else []

/-- The code units of a code point, none where there is no encoding. -/
def encodeUtf16 (code : ℕ) : List ℕ :=
  if code < 0x10000 then
    if 0xD800 ≤ code ∧ code ≤ 0xDFFF then [] else [code]
  else if code < 0x110000 then
    [0xD800 ||| ((code - 0x10000) >>> 10), 0xDC00 ||| ((code - 0x10000) &&& 0x3FF)]
  else []

/-- The number of bytes of a character by its first byte, `0` where it is malformed. -/
def utf8CharLength (firstByte : UInt8) : ℕ :=
  if firstByte.toNat &&& 0x80 = 0 then 1
  else if firstByte.toNat &&& 0xE0 = 0xC0 then 2
  else if firstByte.toNat &&& 0xF0 = 0xE0 then 3
  else if firstByte.toNat &&& 0xF8 = 0xF0 then 4
  else 0

def kInvalid : ℕ := 2 ^ 32 - 1

/-- A byte that the decoder reads; no caller lets it read behind the end. -/
def byteAt (inp : Bytes) (i : ℕ) : ℕ := (inp.getD i 0).toNat

def decodeUtf8 (inp : Bytes) : ℕ :=
  match utf8CharLength (inp.getD 0 0) with
  | 1 => byteAt inp 0
  | 2 =>
      if byteAt inp 1 &&& 0xC0 ≠ 0x80 then kInvalid
      else
        let tmp := ((byteAt inp 0 &&& 0x1F) <<< 6) ||| (byteAt inp 1 &&& 0x3F)
        if tmp ≤ 0x7F then kInvalid else tmp
  | 3 =>
      if byteAt inp 1 &&& 0xC0 ≠ 0x80 ∨ byteAt inp 2 &&& 0xC0 ≠ 0x80 then kInvalid
      else
        let tmp := ((byteAt inp 0 &&& 0x0F) <<< 12) ||| ((byteAt inp 1 &&& 0x3F) <<< 6) |||
          (byteAt inp 2 &&& 0x3F)
        if tmp ≤ 0x07FF ∨ 0xD800 ≤ tmp ∧ tmp ≤ 0xDFFF then kInvalid else tmp
  | 4 =>
      if byteAt inp 1 &&& 0xC0 ≠ 0x80 ∨ byteAt inp 2 &&& 0xC0 ≠ 0x80 ∨
          byteAt inp 3 &&& 0xC0 ≠ 0x80 then kInvalid
      else
        let tmp := ((byteAt inp 0 &&& 0x07) <<< 18) ||| ((byteAt inp 1 &&& 0x3F) <<< 12) |||
          ((byteAt inp 2 &&& 0x3F) <<< 6) ||| (byteAt inp 3 &&& 0x3F)
        if tmp ≤ 0xFFFF ∨ tmp > 0x10FFFF then kInvalid else tmp
  | _ => kInvalid

/-- The code point of a leading and a trailing surrogate. -/
def decodeSurrogatePair (ch1 ch2 : ℕ) : ℕ := ((ch1 - 0xD800) <<< 10) + (ch2 - 0xDC00) + 0x10000

/-! ### In arithmetic -/

/-- The first byte in ranges. -/
lemma utf8CharLength_eq (b : UInt8) : utf8CharLength b =
    if b.toNat < 0x80 then 1
    else if b.toNat < 0xC0 then 0
    else if b.toNat < 0xE0 then 2
    else if b.toNat < 0xF0 then 3
    else if b.toNat < 0xF8 then 4
    else 0 := by
  have h : ∀ n < 256, (if n &&& 0x80 = 0 then 1 else if n &&& 0xE0 = 0xC0 then 2
      else if n &&& 0xF0 = 0xE0 then 3 else if n &&& 0xF8 = 0xF0 then 4 else 0) =
      if n < 0x80 then 1 else if n < 0xC0 then 0 else if n < 0xE0 then 2
      else if n < 0xF0 then 3 else if n < 0xF8 then 4 else 0 := by
    decide +kernel
  exact h b.toNat b.toNat_lt

lemma continuation_iff (b : UInt8) :
    b.toNat &&& 0xC0 = 0x80 ↔ 0x80 ≤ b.toNat ∧ b.toNat < 0xC0 := by
  have h : ∀ n < 256, n &&& 0xC0 = 0x80 ↔ 0x80 ≤ n ∧ n < 0xC0 := by decide +kernel
  exact h b.toNat b.toNat_lt

lemma or_eq_add {a c i : ℕ} (hc : c < 2 ^ i) : (2 ^ i * a) ||| c = 2 ^ i * a + c :=
  (Nat.two_pow_add_eq_or_of_lt hc a).symm

lemma or_marker {x c i : ℕ} (hx : x < 2 ^ i) : x ||| (2 ^ i * c) = 2 ^ i * c + x := by
  rw [Nat.or_comm, or_eq_add hx]

/-- What the encoder writes, in arithmetic. -/
lemma encodeUtf8_eq (code : ℕ) : encodeUtf8 code =
    if code < 0x80 then [.ofNat code]
    else if code < 0x800 then [.ofNat (0xC0 + code / 64 % 32), .ofNat (0x80 + code % 64)]
    else if code < 0x10000 then
      if 0xD800 ≤ code ∧ code ≤ 0xDFFF then []
      else [.ofNat (0xE0 + code / 4096 % 16), .ofNat (0x80 + code / 64 % 64),
        .ofNat (0x80 + code % 64)]
    else if code < 0x110000 then
      [.ofNat (0xF0 + code / 262144 % 8), .ofNat (0x80 + code / 4096 % 64),
        .ofNat (0x80 + code / 64 % 64), .ofNat (0x80 + code % 64)]
    else [] := by
  have hmask : ∀ n i : ℕ, n &&& (2 ^ i - 1) = n % 2 ^ i := Nat.and_two_pow_sub_one_eq_mod
  have h6 : ∀ n : ℕ, (n &&& 0x3F) ||| 0x80 = 0x80 + n % 64 := fun n => by
    rw [show n &&& 0x3F = n % 64 from hmask n 6]
    exact or_marker (i := 7) (c := 1) (by omega)
  have h5 : ∀ n : ℕ, (n &&& 0x1F) ||| 0xC0 = 0xC0 + n % 32 := fun n => by
    rw [show n &&& 0x1F = n % 32 from hmask n 5]
    exact or_marker (i := 6) (c := 3) (by omega)
  have h4 : ∀ n : ℕ, (n &&& 0x0F) ||| 0xE0 = 0xE0 + n % 16 := fun n => by
    rw [show n &&& 0x0F = n % 16 from hmask n 4]
    exact or_marker (i := 5) (c := 7) (by omega)
  have h3 : ∀ n : ℕ, (n &&& 0x07) ||| 0xF0 = 0xF0 + n % 8 := fun n => by
    rw [show n &&& 0x07 = n % 8 from hmask n 3]
    exact or_marker (i := 4) (c := 15) (by omega)
  simp only [encodeUtf8, h6, h5, h4, h3, Nat.shiftRight_eq_div_pow, Nat.reducePow]

/-- A byte of a character after its first. -/
def Trailing (b : ℕ) : Prop := 0x80 ≤ b ∧ b < 0xC0

instance (b : ℕ) : Decidable (Trailing b) := inferInstanceAs (Decidable (_ ∧ _))

lemma shift_or {x y i : ℕ} (hy : y < 2 ^ i) : x <<< i ||| y = 2 ^ i * x + y := by
  rw [Nat.shiftLeft_eq, Nat.mul_comm, or_eq_add hy]

lemma join_two (a b : ℕ) : (a &&& 0x1F) <<< 6 ||| (b &&& 0x3F) = a % 32 * 64 + b % 64 := by
  rw [show a &&& 0x1F = a % 32 from Nat.and_two_pow_sub_one_eq_mod a 5,
    show b &&& 0x3F = b % 64 from Nat.and_two_pow_sub_one_eq_mod b 6, shift_or (by omega)]
  omega

lemma join_three (a b c : ℕ) : (a &&& 0x0F) <<< 12 ||| (b &&& 0x3F) <<< 6 ||| (c &&& 0x3F) =
    a % 16 * 4096 + b % 64 * 64 + c % 64 := by
  have hab : (a % 16) <<< 12 ||| (b % 64) <<< 6 = (a % 16 * 64 + b % 64) <<< 6 := by
    rw [shift_or (by rw [Nat.shiftLeft_eq]; omega), Nat.shiftLeft_eq, Nat.shiftLeft_eq]
    omega
  rw [show a &&& 0x0F = a % 16 from Nat.and_two_pow_sub_one_eq_mod a 4,
    show b &&& 0x3F = b % 64 from Nat.and_two_pow_sub_one_eq_mod b 6,
    show c &&& 0x3F = c % 64 from Nat.and_two_pow_sub_one_eq_mod c 6, hab, shift_or (by omega)]
  omega

lemma join_four (a b c d : ℕ) : (a &&& 0x07) <<< 18 ||| (b &&& 0x3F) <<< 12 |||
    (c &&& 0x3F) <<< 6 ||| (d &&& 0x3F) =
    a % 8 * 262144 + b % 64 * 4096 + c % 64 * 64 + d % 64 := by
  have hab : (a % 8) <<< 18 ||| (b % 64) <<< 12 = (a % 8 * 64 + b % 64) <<< 12 := by
    rw [shift_or (by rw [Nat.shiftLeft_eq]; omega), Nat.shiftLeft_eq, Nat.shiftLeft_eq]
    omega
  have habc : (a % 8 * 64 + b % 64) <<< 12 ||| (c % 64) <<< 6 =
      ((a % 8 * 64 + b % 64) * 64 + c % 64) <<< 6 := by
    rw [shift_or (by rw [Nat.shiftLeft_eq]; omega), Nat.shiftLeft_eq, Nat.shiftLeft_eq]
    omega
  rw [show a &&& 0x07 = a % 8 from Nat.and_two_pow_sub_one_eq_mod a 3,
    show b &&& 0x3F = b % 64 from Nat.and_two_pow_sub_one_eq_mod b 6,
    show c &&& 0x3F = c % 64 from Nat.and_two_pow_sub_one_eq_mod c 6,
    show d &&& 0x3F = d % 64 from Nat.and_two_pow_sub_one_eq_mod d 6, hab, habc,
    shift_or (by omega)]
  omega

lemma cons_ofNat {n : ℕ} {bs bs' : Bytes} (hn : n = b.toNat) (hbs : bs = bs') :
    UInt8.ofNat n :: bs = b :: bs' := by
  rw [hn, UInt8.ofNat_toNat, hbs]

/-- The bytes of a code point, shortest form only. -/
inductive Utf8 (code : ℕ) : Bytes → Prop
  | one {a : UInt8} (ha : a.toNat < 0x80) (hcode : code = a.toNat) : Utf8 code [a]
  | two {a b : UInt8} (ha : 0xC0 ≤ a.toNat ∧ a.toNat < 0xE0) (hb : Trailing b.toNat)
      (hcode : code = a.toNat % 32 * 64 + b.toNat % 64) (hlow : 0x7F < code) : Utf8 code [a, b]
  | three {a b c : UInt8} (ha : 0xE0 ≤ a.toNat ∧ a.toNat < 0xF0) (hb : Trailing b.toNat)
      (hc : Trailing c.toNat)
      (hcode : code = a.toNat % 16 * 4096 + b.toNat % 64 * 64 + c.toNat % 64)
      (hlow : 0x7FF < code) (hsurrogate : ¬ (0xD800 ≤ code ∧ code ≤ 0xDFFF)) : Utf8 code [a, b, c]
  | four {a b c d : UInt8} (ha : 0xF0 ≤ a.toNat ∧ a.toNat < 0xF8) (hb : Trailing b.toNat)
      (hc : Trailing c.toNat) (hd : Trailing d.toNat)
      (hcode : code = a.toNat % 8 * 262144 + b.toNat % 64 * 4096 + c.toNat % 64 * 64 + d.toNat % 64)
      (hlow : 0xFFFF < code) (hhigh : code ≤ 0x10FFFF) : Utf8 code [a, b, c, d]

lemma Utf8.encode {bs : Bytes} (h : Utf8 code bs) : encodeUtf8 code = bs := by
  rw [encodeUtf8_eq]
  cases h with
  | one ha hcode =>
      rw [if_pos (by omega)]
      exact cons_ofNat hcode rfl
  | two ha hb hcode hlow =>
      unfold Trailing at hb
      rw [if_neg (by omega), if_pos (by omega)]
      exact cons_ofNat (by omega) (cons_ofNat (by omega) rfl)
  | three ha hb hc hcode hlow hsurrogate =>
      unfold Trailing at hb hc
      rw [if_neg (by omega), if_neg (by omega), if_pos (by omega), if_neg hsurrogate]
      exact cons_ofNat (by omega) (cons_ofNat (by omega) (cons_ofNat (by omega) rfl))
  | four ha hb hc hd hcode hlow hhigh =>
      unfold Trailing at hb hc hd
      rw [if_neg (by omega), if_neg (by omega), if_neg (by omega), if_pos (by omega)]
      exact cons_ofNat (by omega)
        (cons_ofNat (by omega) (cons_ofNat (by omega) (cons_ofNat (by omega) rfl)))

/-- The code points that have an encoding. -/
def IsScalar (code : ℕ) : Prop := code < 0x110000 ∧ ¬ (0xD800 ≤ code ∧ code ≤ 0xDFFF)

lemma encodeUtf8_eq_nil : ¬ IsScalar code ↔ encodeUtf8 code = [] := by
  unfold IsScalar
  rw [encodeUtf8_eq]
  split_ifs <;> simp <;> omega

lemma toNat_ofNat_of_lt {n : ℕ} (hn : n < 256) : (UInt8.ofNat n).toNat = n := by
  rw [UInt8.toNat_ofNat', Nat.mod_eq_of_lt hn]

lemma utf8_encode (h : IsScalar code) : Utf8 code (encodeUtf8 code) := by
  obtain ⟨hhigh, hsurrogate⟩ := h
  rw [encodeUtf8_eq]
  split_ifs with h1 h2 h3
  · exact .one (by rw [toNat_ofNat_of_lt (by omega)]; exact h1)
      (by rw [toNat_ofNat_of_lt (by omega)])
  · refine .two ?_ ?_ ?_ (by omega)
    all_goals simp only [Trailing, toNat_ofNat_of_lt (show 0xC0 + code / 64 % 32 < 256 by omega),
      toNat_ofNat_of_lt (show 0x80 + code % 64 < 256 by omega)]
    all_goals omega
  · refine .three ?_ ?_ ?_ ?_ (by omega) hsurrogate
    all_goals simp only [Trailing, toNat_ofNat_of_lt (show 0xE0 + code / 4096 % 16 < 256 by omega),
      toNat_ofNat_of_lt (show 0x80 + code / 64 % 64 < 256 by omega),
      toNat_ofNat_of_lt (show 0x80 + code % 64 < 256 by omega)]
    all_goals omega
  · refine .four ?_ ?_ ?_ ?_ ?_ (by omega) (by omega)
    all_goals simp only [Trailing, toNat_ofNat_of_lt (show 0xF0 + code / 262144 % 8 < 256 by omega),
      toNat_ofNat_of_lt (show 0x80 + code / 4096 % 64 < 256 by omega),
      toNat_ofNat_of_lt (show 0x80 + code / 64 % 64 < 256 by omega),
      toNat_ofNat_of_lt (show 0x80 + code % 64 < 256 by omega)]
    all_goals omega

lemma charLength_of_one (hb : b.toNat < 0x80) : utf8CharLength b = 1 := by
  rw [utf8CharLength_eq, if_pos hb]

lemma charLength_of_two (hb : 0xC0 ≤ b.toNat ∧ b.toNat < 0xE0) : utf8CharLength b = 2 := by
  rw [utf8CharLength_eq, if_neg (by omega), if_neg (by omega), if_pos hb.2]

lemma charLength_of_three (hb : 0xE0 ≤ b.toNat ∧ b.toNat < 0xF0) : utf8CharLength b = 3 := by
  rw [utf8CharLength_eq, if_neg (by omega), if_neg (by omega), if_neg (by omega), if_pos hb.2]

lemma charLength_of_four (hb : 0xF0 ≤ b.toNat ∧ b.toNat < 0xF8) : utf8CharLength b = 4 := by
  rw [utf8CharLength_eq, if_neg (by omega), if_neg (by omega), if_neg (by omega),
    if_neg (by omega), if_pos hb.2]

/-! ### The decoder, by the number of bytes -/

section
variable {a c d : UInt8}

lemma decodeUtf8_one (ha : a.toNat < 0x80) : decodeUtf8 (a :: rest) = a.toNat := by
  simp only [decodeUtf8, List.getD_cons_zero, charLength_of_one ha]
  rfl

lemma byteAt_zero : byteAt (a :: rest) 0 = a.toNat := rfl

lemma byteAt_one : byteAt (a :: b :: rest) 1 = b.toNat := rfl

lemma byteAt_two : byteAt (a :: b :: c :: rest) 2 = c.toNat := rfl

lemma byteAt_three : byteAt (a :: b :: c :: d :: rest) 3 = d.toNat := rfl

lemma decodeUtf8_two (ha : 0xC0 ≤ a.toNat ∧ a.toNat < 0xE0) {v : ℕ}
    (hv : v = a.toNat % 32 * 64 + b.toNat % 64) :
    decodeUtf8 (a :: b :: rest) = if Trailing b.toNat ∧ 0x7F < v then v else kInvalid := by
  simp only [decodeUtf8, List.getD_cons_zero, charLength_of_two ha, join_two, byteAt_zero,
    byteAt_one, ← hv, ne_eq, continuation_iff]
  unfold Trailing
  split_ifs <;> first | rfl | omega

lemma decodeUtf8_three (ha : 0xE0 ≤ a.toNat ∧ a.toNat < 0xF0) {v : ℕ}
    (hv : v = a.toNat % 16 * 4096 + b.toNat % 64 * 64 + c.toNat % 64) :
    decodeUtf8 (a :: b :: c :: rest) =
      if Trailing b.toNat ∧ Trailing c.toNat ∧ 0x7FF < v ∧ ¬ (0xD800 ≤ v ∧ v ≤ 0xDFFF) then v
      else kInvalid := by
  simp only [decodeUtf8, List.getD_cons_zero, charLength_of_three ha, join_three, byteAt_zero,
    byteAt_one, byteAt_two, ← hv, ne_eq, continuation_iff]
  unfold Trailing
  split_ifs <;> first | rfl | omega

lemma decodeUtf8_four (ha : 0xF0 ≤ a.toNat ∧ a.toNat < 0xF8) {v : ℕ}
    (hv : v = a.toNat % 8 * 262144 + b.toNat % 64 * 4096 + c.toNat % 64 * 64 + d.toNat % 64) :
    decodeUtf8 (a :: b :: c :: d :: rest) =
      if Trailing b.toNat ∧ Trailing c.toNat ∧ Trailing d.toNat ∧ 0xFFFF < v ∧ v ≤ 0x10FFFF then v
      else kInvalid := by
  simp only [decodeUtf8, List.getD_cons_zero, charLength_of_four ha, join_four]
  generalize hw : byteAt (a :: b :: c :: d :: rest) 0 % 8 * 262144 +
    byteAt (a :: b :: c :: d :: rest) 1 % 64 * 4096 +
    byteAt (a :: b :: c :: d :: rest) 2 % 64 * 64 + byteAt (a :: b :: c :: d :: rest) 3 % 64 = w
  rw [byteAt_zero, byteAt_one, byteAt_two, byteAt_three, ← hv] at hw
  subst hw
  simp only [byteAt_one, byteAt_two, byteAt_three, ne_eq, continuation_iff]
  unfold Trailing
  split_ifs <;> first | rfl | omega

end

lemma Utf8.decode {bs : Bytes} (h : Utf8 code bs) (rest : Bytes) :
    decodeUtf8 (bs ++ rest) = code := by
  cases h with
  | one ha hcode => exact (decodeUtf8_one ha).trans hcode.symm
  | two ha hb hcode hlow =>
      refine (decodeUtf8_two ha hcode).trans ?_
      rw [if_pos ⟨hb, hlow⟩]
  | three ha hb hc hcode hlow hsurrogate =>
      refine (decodeUtf8_three ha hcode).trans ?_
      rw [if_pos ⟨hb, hc, hlow, hsurrogate⟩]
  | four ha hb hc hd hcode hlow hhigh =>
      refine (decodeUtf8_four ha hcode).trans ?_
      rw [if_pos ⟨hb, hc, hd, hlow, hhigh⟩]

/-- What the decoder takes for a code point is a code point's bytes. -/
lemma utf8_of_decode {a : UInt8} (hlen : utf8CharLength a ≤ (a :: rest).length)
    (h : decodeUtf8 (a :: rest) ≠ kInvalid) :
    ∃ bs, Utf8 (decodeUtf8 (a :: rest)) bs ∧ bs <+: a :: rest := by
  by_cases h1 : a.toNat < 0x80
  · rw [decodeUtf8_one h1]
    exact ⟨[a], .one h1 rfl, rest, rfl⟩
  by_cases h2 : 0xC0 ≤ a.toNat ∧ a.toNat < 0xE0
  · rw [charLength_of_two h2] at hlen
    match rest, hlen with
    | b :: rest, _ =>
        rw [decodeUtf8_two h2 rfl] at h ⊢
        split_ifs at h ⊢ with hv
        · exact ⟨[a, b], .two h2 hv.1 rfl hv.2, rest, rfl⟩
        · exact absurd rfl h
  by_cases h3 : 0xE0 ≤ a.toNat ∧ a.toNat < 0xF0
  · rw [charLength_of_three h3] at hlen
    match rest, hlen with
    | b :: c :: rest, _ =>
        rw [decodeUtf8_three h3 rfl] at h ⊢
        split_ifs at h ⊢ with hv
        · exact ⟨[a, b, c], .three h3 hv.1 hv.2.1 rfl hv.2.2.1 hv.2.2.2, rest, rfl⟩
        · exact absurd rfl h
  by_cases h4 : 0xF0 ≤ a.toNat ∧ a.toNat < 0xF8
  · rw [charLength_of_four h4] at hlen
    match rest, hlen with
    | b :: c :: d :: rest, _ =>
        rw [decodeUtf8_four h4 rfl] at h ⊢
        split_ifs at h ⊢ with hv
        · exact ⟨[a, b, c, d], .four h4 hv.1 hv.2.1 hv.2.2.1 rfl hv.2.2.2.1 hv.2.2.2.2, rest, rfl⟩
        · exact absurd rfl h
  · -- no character begins with this byte
    have hzero : utf8CharLength a = 0 := by
      rw [utf8CharLength_eq]
      split_ifs <;> omega
    refine absurd ?_ h
    simp only [decodeUtf8, List.getD_cons_zero, hzero]

/-- **The decoder takes exactly what the encoder writes.**  Where the bytes that the first byte
announces are there, the answer is a code point if and only if the input begins with what the
encoder writes for it; so nothing longer than needed, no surrogate and nothing above `0x10FFFF` is
taken. -/
theorem decodeUtf8_eq_iff {a : UInt8} (hlen : utf8CharLength a ≤ (a :: rest).length)
    (hcode : code ≠ kInvalid) :
    decodeUtf8 (a :: rest) = code ↔ IsScalar code ∧ encodeUtf8 code <+: a :: rest := by
  constructor
  · rintro rfl
    obtain ⟨bs, hbs, hpre⟩ := utf8_of_decode hlen hcode
    refine ⟨?_, by rw [hbs.encode]; exact hpre⟩
    by_contra hno
    rw [← hbs.encode, encodeUtf8_eq_nil.1 hno] at hbs
    cases hbs
  · rintro ⟨hscalar, t, ht⟩
    rw [← ht, (utf8_encode hscalar).decode]

theorem decodeUtf8_eq_iff_euro :
    decodeUtf8 [0xE2, 0x82, 0xAC, 0x41] = 0x20AC ↔
      IsScalar 0x20AC ∧ encodeUtf8 0x20AC <+: [0xE2, 0x82, 0xAC, 0x41] :=
  decodeUtf8_eq_iff (by decide) (by decide)

/-- What the encoder writes in UTF-16, in arithmetic. -/
lemma encodeUtf16_eq (code : ℕ) : encodeUtf16 code =
    if code < 0x10000 then
      if 0xD800 ≤ code ∧ code ≤ 0xDFFF then [] else [code]
    else if code < 0x110000 then
      [0xD800 + (code - 0x10000) / 1024, 0xDC00 + (code - 0x10000) % 1024]
    else [] := by
  rw [encodeUtf16]
  split_ifs with h1 h2 h3
  · rfl
  · rfl
  · rw [show (code - 0x10000) &&& 0x3FF = (code - 0x10000) % 1024 from
      Nat.and_two_pow_sub_one_eq_mod _ 10, Nat.shiftRight_eq_div_pow,
      show 0xD800 ||| (code - 0x10000) / 2 ^ 10 = 0xD800 + (code - 0x10000) / 2 ^ 10 from
        or_eq_add (i := 10) (a := 54) (by omega),
      show 0xDC00 ||| (code - 0x10000) % 1024 = 0xDC00 + (code - 0x10000) % 1024 from
        or_eq_add (i := 10) (a := 55) (by omega)]
    rfl
  · rfl

lemma and_high (n m i : ℕ) : n &&& 2 ^ i * m = 2 ^ i * (n / 2 ^ i &&& m) := by
  have hdiv : (n &&& 2 ^ i * m) / 2 ^ i = n / 2 ^ i &&& m := by
    rw [Nat.and_div_two_pow, Nat.mul_div_cancel_left m (Nat.two_pow_pos i)]
  have hmod : (n &&& 2 ^ i * m) % 2 ^ i = 0 := by
    rw [Nat.and_mod_two_pow, Nat.mul_mod_right, Nat.and_zero]
  rw [← hdiv]
  exact (Nat.mul_div_cancel' (Nat.dvd_of_mod_eq_zero hmod)).symm

/-- The top bits of a code unit. -/
lemma and_top {n i j : ℕ} (hn : n < 2 ^ i * 2 ^ j) :
    n &&& 2 ^ i * (2 ^ j - 1) = 2 ^ i * (n / 2 ^ i) := by
  rw [and_high, Nat.and_two_pow_sub_one_eq_mod,
    Nat.mod_eq_of_lt (Nat.div_lt_of_lt_mul hn)]

lemma surrogate_iff {n : ℕ} (hn : n < 0x10000) :
    n &&& 0xF800 = 0xD800 ↔ 0xD800 ≤ n ∧ n ≤ 0xDFFF := by
  rw [show n &&& 0xF800 = 2048 * (n / 2048) from and_top (i := 11) (j := 5) (by omega)]
  omega

lemma leading_iff {n : ℕ} (hn : n < 0x10000) :
    n &&& 0xFC00 = 0xD800 ↔ 0xD800 ≤ n ∧ n < 0xDC00 := by
  rw [show n &&& 0xFC00 = 1024 * (n / 1024) from and_top (i := 10) (j := 6) (by omega)]
  omega

lemma trailing_iff {n : ℕ} (hn : n < 0x10000) :
    n &&& 0xFC00 = 0xDC00 ↔ 0xDC00 ≤ n ∧ n ≤ 0xDFFF := by
  rw [show n &&& 0xFC00 = 1024 * (n / 1024) from and_top (i := 10) (j := 6) (by omega)]
  omega

lemma encodeUtf16_one {ch : ℕ} (hch : encodeUtf16 code = [ch]) :
    ch = code ∧ ch &&& 0xF800 ≠ 0xD800 := by
  rw [encodeUtf16_eq] at hch
  split_ifs at hch with h1 h2 h3
  · simp only [List.cons.injEq, and_true] at hch
    rw [← hch]
    exact ⟨rfl, fun h => h2 ((surrogate_iff h1).1 h)⟩
  · simp at hch

lemma encodeUtf16_two {ch1 ch2 : ℕ} (hch : encodeUtf16 code = [ch1, ch2]) :
    ch1 &&& 0xFC00 = 0xD800 ∧ ch2 &&& 0xFC00 = 0xDC00 ∧ decodeSurrogatePair ch1 ch2 = code := by
  rw [encodeUtf16_eq] at hch
  split_ifs at hch with h1 h2 h3
  · simp at hch
  · simp only [List.cons.injEq, and_true] at hch
    obtain ⟨h1', h2'⟩ := hch
    have hlead : ch1 < 0x10000 ∧ 0xD800 ≤ ch1 ∧ ch1 < 0xDC00 := by omega
    have htrail : ch2 < 0x10000 ∧ 0xDC00 ≤ ch2 ∧ ch2 ≤ 0xDFFF := by omega
    refine ⟨(leading_iff hlead.1).2 hlead.2, (trailing_iff htrail.1).2 htrail.2, ?_⟩
    rw [decodeSurrogatePair, Nat.shiftLeft_eq]
    omega

end InitialSetups.Winpty
