import InitialSetups.Winpty.SendLine

/-!
# Characters in cells

A console has a cell to every code unit of a character, and two for a wide one.  The scanner of
the terminal reads the characters back from such cells (`scan_layout`), so they are what a line is
made of (`proper_layout`).
-/

namespace InitialSetups.Winpty

open InitialSetups.Text

variable {d : Display} {code attributes a u : ℕ} {wide : Bool} {r : List CharInfo}

/-- The cells of a code unit. -/
def unitCells (wide : Bool) (attributes unit : ℕ) : List CharInfo :=
  if wide then
    [⟨unit, attributes ||| WINPTY_COMMON_LVB_LEADING_BYTE⟩,
      ⟨unit, attributes ||| WINPTY_COMMON_LVB_TRAILING_BYTE⟩]
  else [⟨unit, attributes⟩]

/-- The cells of a character. -/
def layout (wide : Bool) (attributes code : ℕ) : List CharInfo :=
  (encodeUtf16 code).flatMap (unitCells wide attributes)

/-- Attributes that do not say which half of a character the cell is. -/
def Plain (attributes : ℕ) : Prop := attributes &&& 0x300 = 0

lemma Plain.and_leading (h : Plain a) : a &&& WINPTY_COMMON_LVB_LEADING_BYTE = 0 := by
  have hmask : 0x300 &&& WINPTY_COMMON_LVB_LEADING_BYTE = WINPTY_COMMON_LVB_LEADING_BYTE := rfl
  rw [← hmask, ← Nat.land_assoc, h, Nat.zero_and]

lemma widthOf_unitCells (h : Plain a) (wide : Bool) (u : ℕ) (r : List CharInfo) :
    widthOf (unitCells wide a u ++ r) = (unitCells wide a u).length := by
  cases wide with
  | false =>
      have hhalf : isFullWidthCharacter (⟨u, a⟩ :: r) = false := by
        cases r with
        | nil => rfl
        | cons c r =>
            rw [isFullWidthCharacter, h.and_leading]
            simp
      show widthOf (⟨u, a⟩ :: r) = 1
      rw [widthOf, hhalf, if_neg Bool.false_ne_true]
  | true =>
      have hfull : isFullWidthCharacter (⟨u, a ||| WINPTY_COMMON_LVB_LEADING_BYTE⟩ ::
          ⟨u, a ||| WINPTY_COMMON_LVB_TRAILING_BYTE⟩ :: r) = true := by
        have hone : ∀ m : ℕ, m ≠ 0 → (a ||| m) &&& m ≠ 0 := fun m hm => by
          rw [Nat.and_or_distrib_right, Nat.and_self, Ne, Nat.or_eq_zero_iff]
          exact fun h => hm h.2
        rw [isFullWidthCharacter, decide_eq_true_eq]
        exact ⟨hone _ (by decide), hone _ (by decide), rfl⟩
      show widthOf (_ :: _ :: r) = 2
      rw [widthOf, hfull, if_pos rfl]

lemma exists_cons_unitCells (wide : Bool) (a u : ℕ) (r : List CharInfo) :
    ∃ c rest, unitCells wide a u ++ r = c :: rest ∧ c.UnicodeChar = u := by
  cases wide <;> exact ⟨_, _, rfl, rfl⟩

/-- A character of one unit. -/
lemma scan_unitCells (h : Plain a) (hu : u &&& 0xF800 ≠ 0xD800) :
    scanUnicodeScalarValue (unitCells wide a u ++ r) = ((unitCells wide a u).length, u) := by
  have hwidth := widthOf_unitCells h wide u r
  obtain ⟨c, rest, hcons, hc⟩ := exists_cons_unitCells wide a u r
  rw [hcons] at hwidth ⊢
  rw [scanUnicodeScalarValue, hc, if_neg hu, hwidth]

/-- A character of two units. -/
lemma scan_surrogates {v : ℕ} (h : Plain a) (hu : u &&& 0xFC00 = 0xD800)
    (hv : v &&& 0xFC00 = 0xDC00) :
    scanUnicodeScalarValue (unitCells wide a u ++ (unitCells wide a v ++ r)) =
      ((unitCells wide a u ++ unitCells wide a v).length, decodeSurrogatePair u v) := by
  have hwidth := widthOf_unitCells h wide u (unitCells wide a v ++ r)
  have hwidth' := widthOf_unitCells h wide v r
  have hdrop : (unitCells wide a u ++ (unitCells wide a v ++ r)).drop (unitCells wide a u).length =
      unitCells wide a v ++ r := List.drop_left
  obtain ⟨c, rest, hcons, hc⟩ :=
    exists_cons_unitCells wide a u (unitCells wide a v ++ r)
  obtain ⟨c', rest', hcons', hc'⟩ := exists_cons_unitCells wide a v r
  have hsurrogate : u &&& 0xF800 = 0xD800 := by
    have hmask : 0xFC00 &&& 0xF800 = 0xF800 := rfl
    rw [← hmask, ← Nat.land_assoc, hu]
    rfl
  rw [hcons] at hwidth hdrop ⊢
  rw [hcons'] at hwidth' hdrop
  rw [scanUnicodeScalarValue, hc, if_pos hsurrogate, hwidth, hdrop]
  simp only [hc', hu, hv, ne_eq, not_true_eq_false, or_self, if_false, hwidth', List.length_append]

/-- Whether a code point has one unit or two. -/
lemma encodeUtf16_cases (h : encodeUtf16 code ≠ []) :
    (∃ u, encodeUtf16 code = [u]) ∨ ∃ u v, encodeUtf16 code = [u, v] := by
  rw [encodeUtf16] at h ⊢
  split_ifs at h ⊢
  · exact absurd rfl h
  · exact .inl ⟨_, rfl⟩
  · exact .inr ⟨_, _, rfl⟩
  · exact absurd rfl h

/-- **The scanner reads back what a console lays out**: a character in one cell to each unit, or
in two, whatever stands behind it. -/
theorem scan_layout (hcode : encodeUtf16 code ≠ []) (hplain : Plain a) (wide : Bool)
    (r : List CharInfo) :
    scanUnicodeScalarValue (layout wide a code ++ r) = ((layout wide a code).length, code) := by
  rw [layout]
  rcases encodeUtf16_cases hcode with ⟨u, hu⟩ | ⟨u, v, huv⟩
  · obtain ⟨rfl, hu'⟩ := encodeUtf16_one hu
    rw [hu, List.flatMap_singleton]
    exact scan_unitCells hplain hu'
  · obtain ⟨hlead, htrail, hdecode⟩ := encodeUtf16_two huv
    rw [huv, List.flatMap_cons, List.flatMap_singleton, List.append_assoc,
      scan_surrogates hplain hlead htrail, hdecode]

theorem scan_layout_ideograph :
    scanUnicodeScalarValue (layout true 7 0x20000 ++ [⟨0x41, 7⟩]) = (4, 0x20000) :=
  scan_layout (by decide) (by rw [Plain]; decide) true [⟨0x41, 7⟩]

lemma layout_ne_nil (hcode : encodeUtf16 code ≠ []) (wide : Bool) (a : ℕ) :
    layout wide a code ≠ [] := by
  obtain ⟨u, us, hu⟩ := List.exists_cons_of_ne_nil hcode
  rw [layout, hu, List.flatMap_cons]
  cases wide <;> exact List.cons_ne_nil _ _

/-- The halves of a character have its colour. -/
lemma and_color_of_mem {c : CharInfo} (hc : c ∈ layout wide a code) :
    c.Attributes &&& COLOR_ATTRIBUTE_MASK = a &&& COLOR_ATTRIBUTE_MASK := by
  have hmask : ∀ m : ℕ, m &&& COLOR_ATTRIBUTE_MASK = 0 →
      (a ||| m) &&& COLOR_ATTRIBUTE_MASK = a &&& COLOR_ATTRIBUTE_MASK := fun m hm => by
    rw [Nat.and_or_distrib_right, hm, Nat.or_zero]
  rw [layout, List.mem_flatMap] at hc
  obtain ⟨u, -, hc⟩ := hc
  cases wide with
  | false =>
      rw [List.mem_singleton.1 hc]
  | true =>
      rcases List.mem_pair.1 hc with rfl | rfl
      · exact hmask _ (by decide)
      · exact hmask _ (by decide)

/-- Such a character is proper where the terminal gives it as many columns. -/
lemma proper_layout (hcode : encodeUtf16 code ≠ []) (hplain : Plain a)
    (hcolumns : d.columns (shownCharacter code) = (layout wide a code).length) :
    Proper d (layout wide a code) := by
  have hscan := scan_layout hcode hplain wide
  have hvalue : (scanUnicodeScalarValue (layout wide a code)).2 = code := by
    have := hscan []
    rw [List.append_nil] at this
    rw [this]
  refine ⟨⟨layout_ne_nil hcode wide a, fun r => by rw [hscan, hvalue]⟩,
    by rw [hvalue, hcolumns], ?_⟩
  intro b c hc
  obtain ⟨c', rest, hcons⟩ := List.exists_cons_of_ne_nil (layout_ne_nil hcode wide a)
  have hc' : c' ∈ layout wide a code := by
    rw [hcons]
    exact List.mem_cons_self
  rw [colorOf, colorOf, hcons, List.headD_cons, List.headD_cons, and_color_of_mem hc,
    and_color_of_mem hc']

/-- A character of one unit in one cell. -/
lemma proper_cell (hunit : encodeUtf16 u = [u]) (hplain : Plain a)
    (hcolumns : d.columns (shownCharacter u) = 1) : Proper d [⟨u, a⟩] := by
  have hlayout : layout false a u = [⟨u, a⟩] := by
    rw [layout, hunit]
    rfl
  have hcode : encodeUtf16 u ≠ [] := by
    rw [hunit]
    exact List.cons_ne_nil u []
  rw [← hlayout]
  exact proper_layout hcode hplain (by rw [hcolumns, hlayout]; rfl)

end InitialSetups.Winpty
