import InitialSetups.Winpty.SendLine

/-!
# The lines that are known

`ConsoleLine` remembers a line of the console as it was sent, and says whether a new one has to be
sent in its place.  Where it says no, the row that shows the one shows the other
(`detectChangeAndSetLine_spec`): a line that only got longer or shorter by blanks looks the same.
-/

namespace InitialSetups.Winpty

open InitialSetups.Text

/-- The cells behind `prevLength` are left from longer lines. -/
structure ConsoleLine where
  prevLength : ℕ := 0
  prevData : List CharInfo := []
deriving DecidableEq, Repr

def isLineBlank (line : List CharInfo) (attributes : ℕ) : Bool :=
  line.all fun c => c.Attributes = attributes ∧ c.UnicodeChar = 0x20

namespace ConsoleLine

def setLine (l : ConsoleLine) (line : List CharInfo) : ConsoleLine :=
  { prevLength := line.length, prevData := line ++ l.prevData.drop line.length }

/-- Whether lines of different lengths are equal but for blanks. -/
def equalLines (l : ConsoleLine) (line : List CharInfo) : Bool :=
  let prevBlank := (l.prevData.getD (l.prevLength - 1) ⟨0, 0⟩).Attributes
  let newBlank := (line.getD (line.length - 1) ⟨0, 0⟩).Attributes
  if line.length < l.prevLength then
    l.prevData.take line.length = line ∧
      isLineBlank ((l.prevData.drop line.length).take (l.prevLength - line.length)) newBlank
  else
    -- what a longer line uncovers has to be blank as well
    l.prevData.take l.prevLength = line.take l.prevLength ∧
      isLineBlank ((l.prevData.drop l.prevLength).take
        (min l.prevData.length line.length - l.prevLength)) prevBlank ∧
      isLineBlank (line.drop l.prevLength) prevBlank

/-- Whether the line has to be sent again. -/
def detectChangeAndSetLine (l : ConsoleLine) (line : List CharInfo) : Option (Bool × ConsoleLine) :=
  if line = [] ∨ l.prevData.length < l.prevLength then none
  else if line.length = l.prevLength then
    let equalLines := decide (l.prevData.take line.length = line)
    some (!equalLines, if equalLines then l else l.setLine line)
  else if l.prevLength = 0 then some (true, l.setLine line)
  else some (!l.equalLines line, l.setLine line)

end ConsoleLine

/-! ### Blanks -/

variable {d : Display} {l l' : ConsoleLine} {line : List CharInfo} {xs ys zs : List (List CharInfo)}
  {row : ℕ → Cell (Option ℕ)} {b : Bool} {a n : ℕ}

lemma isLineBlank_iff : isLineBlank line a = true ↔ ∃ n, line = List.replicate n ⟨0x20, a⟩ := by
  rw [isLineBlank, List.all_eq_true]
  constructor
  · intro h
    refine ⟨line.length, List.eq_replicate_iff.2 ⟨rfl, fun c hc => ?_⟩⟩
    obtain ⟨hattr, hchar⟩ := of_decide_eq_true (h c hc)
    cases c
    exact congrArg₂ CharInfo.mk hchar hattr
  · rintro ⟨n, rfl⟩ c hc
    rw [List.eq_of_mem_replicate hc]
    exact decide_eq_true ⟨rfl, rfl⟩

/-- A blank is a character of its own. -/
lemma eq_replicate_of_blank (hspace : d.columns 32 = 1) (hzs : ∀ z ∈ zs, Proper d z)
    (hblank : zs.flatten = List.replicate n ⟨0x20, a⟩) :
    zs = List.replicate n [⟨0x20, a⟩] := by
  induction zs generalizing n with
  | nil =>
      have hn : n = 0 := by simpa using congrArg List.length hblank.symm
      rw [hn]
      rfl
  | cons z zs ih =>
      rw [List.forall_mem_cons] at hzs
      rw [List.flatten_cons] at hblank
      obtain ⟨hlen, hz, hrest⟩ := List.append_eq_replicate_iff.1 hblank
      have hpos := hzs.1.length_pos
      have hscan : (scanUnicodeScalarValue z).2 = 32 := by
        obtain ⟨m, hm⟩ : ∃ m, z.length = m + 1 := ⟨z.length - 1, by omega⟩
        have hchar : ¬ 0x20 &&& 0xF800 = 0xD800 := by decide
        rw [hz, hm, List.replicate_succ, scanUnicodeScalarValue, if_neg hchar]
      have hone : z.length = 1 := by rw [← hzs.1.columns, hscan, shownCharacter_space, hspace]
      rw [hone] at hz
      rw [ih hzs.2 hrest, hz, ← hlen, hone, Nat.add_comm 1, List.replicate_succ]
      rfl

lemma picture_blank (b : Bool) (a n : ℕ) : picture b (List.replicate n [⟨0x20, a⟩]) =
    List.replicate n (.glyph 32 (colorOf b [⟨0x20, a⟩])) := by
  have hdraw : draw b [⟨0x20, a⟩] = [.glyph 32 (colorOf b [⟨0x20, a⟩])] := by
    have hscan : scanUnicodeScalarValue [⟨0x20, a⟩] = (1, 0x20) := by
      have hchar : ¬ 0x20 &&& 0xF800 = 0xD800 := by decide
      rw [scanUnicodeScalarValue, if_neg hchar]
      rfl
    rw [draw, hscan, shownCharacter_space]
    rfl
  induction n with
  | zero => rfl
  | succ n ih => rw [List.replicate_succ, List.replicate_succ, picture_cons, ih, hdraw]; rfl

lemma lastColor_blank (color : Option ℕ) (hcolor : colorOf b [⟨0x20, a⟩] = color) :
    lastColor b (List.replicate n [⟨0x20, a⟩]) color = color := by
  induction n with
  | zero => rfl
  | succ n ih =>
      rw [List.replicate_succ, lastColor, List.foldl_cons, hcolor]
      exact ih

/-- The colour of a line is that of its last cell. -/
lemma lastColor_eq (hys : ∀ y ∈ ys, Proper d y) {c : CharInfo}
    (hlast : ys.flatten.getLast? = some c) : lastColor b ys none = colorOf b [c] := by
  rcases List.eq_nil_or_concat ys with rfl | ⟨ys, y, rfl⟩
  · cases hlast
  rw [List.concat_eq_append] at hys hlast ⊢
  have hy := hys y (List.mem_append_right _ List.mem_cons_self)
  rw [List.flatten_append, List.flatten_singleton,
    List.getLast?_append_of_ne_nil _ hy.ne_nil] at hlast
  rw [lastColor, List.foldl_append]
  exact (hy.color b c (List.mem_of_getLast? hlast)).symm

/-- A row that shows a line shows it with more blanks of its last colour. -/
lemma shows_append_blank (hspace : d.columns 32 = 1) (hys : ∀ y ∈ ys, Proper d y)
    (hzs : ∀ z ∈ zs, Proper d z) {c : CharInfo} (hlast : ys.flatten.getLast? = some c)
    (hattr : c.Attributes = a) (hblank : zs.flatten = List.replicate n ⟨0x20, a⟩) :
    Shows row b (ys ++ zs) ↔ Shows row b ys := by
  have hcolor : colorOf b [⟨0x20, a⟩] = lastColor b ys none := by
    rw [lastColor_eq hys hlast, ← hattr]
    rfl
  have hlastColor : lastColor b (ys ++ zs) none = lastColor b ys none := by
    rw [eq_replicate_of_blank hspace hzs hblank, lastColor, List.foldl_append]
    exact lastColor_blank _ hcolor
  refine forall_congr' fun i => ?_
  rw [hlastColor, picture_append, eq_replicate_of_blank hspace hzs hblank, picture_blank, hcolor]
  -- behind the line, both want spaces
  rcases Nat.lt_or_ge i (picture b ys).length with hlt | hge
  · rw [List.getD_append _ _ _ _ hlt, List.getD_eq_getElem _ _ hlt]
  · rw [List.getD_append_right _ _ _ _ hge, List.getD_eq_default _ _ hge]
    rcases Nat.lt_or_ge (i - (picture b ys).length) n with hlt | hge'
    · rw [List.getD_replicate _ hlt]
    · rw [List.getD_eq_default _ _ (by simpa using hge')]

/-! ### Lines that are not sent again -/

/-- What is remembered of a row is what it shows. -/
structure ConsoleLine.Known (d : Display) (row : ℕ → Cell (Option ℕ)) (b : Bool)
    (l : ConsoleLine) : Prop where
  length : l.prevLength ≤ l.prevData.length
  shows : l.prevLength ≠ 0 → ShowsLine d row b (l.prevData.take l.prevLength)

namespace ConsoleLine

lemma take_setLine : (l.setLine line).prevData.take (l.setLine line).prevLength = line :=
  List.take_left

lemma length_setLine : (l.setLine line).prevLength ≤ (l.setLine line).prevData.length := by
  rw [setLine, List.length_append]
  exact Nat.le_add_right _ _

/-- A shorter line without the blanks, or a longer one with some. -/
lemma exists_blank_of_equalLines (h : l.equalLines line = true) :
    (∃ n, l.prevData.take l.prevLength = line ++ List.replicate n
        ⟨0x20, (line.getD (line.length - 1) ⟨0, 0⟩).Attributes⟩) ∨
      ∃ n, line = l.prevData.take l.prevLength ++ List.replicate n
        ⟨0x20, (l.prevData.getD (l.prevLength - 1) ⟨0, 0⟩).Attributes⟩ := by
  rw [equalLines] at h
  by_cases hshort : line.length < l.prevLength
  · rw [if_pos hshort, decide_eq_true_eq] at h
    obtain ⟨htake, hblank⟩ := h
    left
    obtain ⟨n, hn⟩ := isLineBlank_iff.1 hblank
    refine ⟨n, ?_⟩
    calc l.prevData.take l.prevLength
        = l.prevData.take (line.length + (l.prevLength - line.length)) := by
          rw [Nat.add_sub_cancel' hshort.le]
      _ = line ++ List.replicate n _ := by rw [List.take_add, htake, hn]
  · rw [if_neg hshort, decide_eq_true_eq] at h
    obtain ⟨htake, -, hblank⟩ := h
    right
    obtain ⟨n, hn⟩ := isLineBlank_iff.1 hblank
    exact ⟨n, by rw [htake, ← hn, List.take_append_drop]⟩

end ConsoleLine

lemma getLast?_take {n : ℕ} (line : List CharInfo) (h : n ≤ line.length) (hn : n ≠ 0) :
    (line.take n).getLast? = some (line.getD (n - 1) ⟨0, 0⟩) := by
  have hlt : n - 1 < line.length := by omega
  rw [List.getLast?_eq_getElem?, List.length_take_of_le h, List.getElem?_take_of_lt (by omega),
    List.getElem?_eq_getElem hlt, List.getD_eq_getElem _ _ hlt]

/-- A line that is not sent again is shown already. -/
lemma ConsoleLine.detectChangeAndSetLine_spec (hspace : d.columns 32 = 1) (h : l.Known d row b)
    (hxs : ∀ x ∈ xs, Proper d x) (hne : xs ≠ []) :
    ∃ changed l', l.detectChangeAndSetLine xs.flatten = some (changed, l') ∧
      l'.prevLength ≤ l'.prevData.length ∧ l'.prevData.take l'.prevLength = xs.flatten ∧
      (changed = false → Shows row b xs) := by
  have hnil : xs.flatten ≠ [] := by
    obtain ⟨x, xs, rfl⟩ := List.exists_cons_of_ne_nil hne
    rw [List.flatten_cons]
    exact List.append_ne_nil_of_left_ne_nil (hxs x List.mem_cons_self).ne_nil _
  have hlength := h.length
  have hwhole : ∀ x ∈ xs, Whole x := fun x hx => (hxs x hx).toWhole
  have hpos := List.length_pos_iff.2 hnil
  rw [detectChangeAndSetLine, if_neg (by
    rintro (hno | hno)
    · exact hnil hno
    · omega)]
  by_cases hsame : xs.flatten.length = l.prevLength
  · rw [if_pos hsame]
    by_cases htake : l.prevData.take xs.flatten.length = xs.flatten
    · refine ⟨false, l, by rw [decide_eq_true htake]; rfl, hlength, by rw [← hsame, htake], ?_⟩
      intro _
      obtain ⟨ys, hys, hdata, hshows⟩ := h.shows (by omega)
      rw [eq_of_flatten_eq (fun y hy => (hys y hy).toWhole) hwhole
        (by rw [← hdata, ← hsame, htake])]
      exact hshows
    · refine ⟨true, l.setLine xs.flatten, by rw [decide_eq_false htake]; rfl, length_setLine,
        take_setLine, ?_⟩
      intro hno
      cases hno
  rw [if_neg hsame]
  by_cases hzero : l.prevLength = 0
  · rw [if_pos hzero]
    refine ⟨true, _, rfl, length_setLine, take_setLine, ?_⟩
    intro hno
    cases hno
  rw [if_neg hzero]
  refine ⟨_, _, rfl, length_setLine, take_setLine, fun hsent => ?_⟩
  obtain ⟨ys, hys, hdata, hshows⟩ := h.shows hzero
  have hwhole' : ∀ y ∈ ys, Whole y := fun y hy => (hys y hy).toWhole
  rw [Bool.not_eq_false'] at hsent
  rcases exists_blank_of_equalLines hsent with ⟨n, hblank⟩ | ⟨n, hblank⟩
  · -- the row shows a longer line
    rw [hdata] at hblank
    obtain ⟨zs, rfl, hzs⟩ := exists_of_flatten_eq hwhole hwhole' hblank
    rw [List.forall_mem_append] at hys
    have hlast := getLast?_take xs.flatten le_rfl hpos.ne'
    rw [List.take_length] at hlast
    exact (shows_append_blank hspace hxs hys.2 hlast rfl hzs).1 hshows
  · rw [hdata] at hblank
    obtain ⟨zs, rfl, hzs⟩ := exists_of_flatten_eq hwhole' hwhole hblank
    rw [List.forall_mem_append] at hxs
    have hlast := getLast?_take l.prevData hlength hzero
    rw [hdata] at hlast
    exact (shows_append_blank hspace hys hxs.2 hlast rfl hzs).2 hshows

end InitialSetups.Winpty
