import InitialSetups.Winpty.Terminal

/-!
# A line on the screen

What `writeLine` writes draws the line on the row: the spaces that are held back are erased cells
of their colour in the end, and look the same.  A line is made of whole characters (`Proper`).
-/

namespace InitialSetups.Winpty

open InitialSetups.Text
open InitialSetups.Text.Screen (Drawn)

variable {d : Display} {t : Terminal} {w : TermLine} {s : Screen (Option ℕ)}
  {x data : List CharInfo} {xs : List (List CharInfo)} {i k fuel width : ℕ}
  {shown : List (Cell (Option ℕ))}

/-- The character that is written for a value. -/
def shownCharacter (ch : ℕ) : ℕ :=
  if encodeUtf8 (fixSpecialCharacters ch) = [] then 0x3F else fixSpecialCharacters ch

/-- The colour that is written for a cell. -/
def colorOf (outputColor : Bool) (data : List CharInfo) : Option ℕ :=
  if outputColor then some ((data.headD ⟨0, 0⟩).Attributes &&& COLOR_ATTRIBUTE_MASK) else none

/-- Cells that are one character, whatever stands behind them. -/
structure Whole (x : List CharInfo) : Prop where
  ne_nil : x ≠ []
  scan : ∀ r, scanUnicodeScalarValue (x ++ r) = (x.length, (scanUnicodeScalarValue x).2)

/-- A character with as many cells as it takes columns on the terminal, in one colour. -/
structure Proper (d : Display) (x : List CharInfo) : Prop extends Whole x where
  columns : d.columns (shownCharacter (scanUnicodeScalarValue x).2) = x.length
  color : ∀ b, ∀ c ∈ x, colorOf b [c] = colorOf b x

/-- The cells of the screen that show a character. -/
def draw (outputColor : Bool) (x : List CharInfo) : List (Cell (Option ℕ)) :=
  glyphCells (shownCharacter (scanUnicodeScalarValue x).2) x.length (colorOf outputColor x)

/-- The cells that show a line. -/
def picture (outputColor : Bool) (xs : List (List CharInfo)) : List (Cell (Option ℕ)) :=
  xs.flatMap (draw outputColor)

lemma shownCharacter_space : shownCharacter 32 = 32 := by decide

lemma Whole.length_pos (h : Whole x) : 0 < x.length := List.length_pos_iff.2 h.ne_nil

lemma length_draw (h : Whole x) (b : Bool) : (draw b x).length = x.length := by
  have hpos := h.length_pos
  rw [draw, glyphCells, List.length_cons, List.length_replicate]
  omega

lemma picture_cons (b : Bool) : picture b (x :: xs) = draw b x ++ picture b xs := rfl

lemma length_picture (h : ∀ x ∈ xs, Whole x) (b : Bool) :
    (picture b xs).length = xs.flatten.length := by
  induction xs with
  | nil => rfl
  | cons x xs ih =>
      rw [List.forall_mem_cons] at h
      rw [picture_cons, List.flatten_cons, List.length_append, List.length_append,
        length_draw h.1, ih h.2]

lemma color_exec_put (ch : ℕ) : (s.exec d (.put ch)).color = s.color := by
  rw [Screen.exec]
  split_ifs <;> rfl

/-- The spaces that have been held back. -/
lemma drawn_spaces (hspace : d.columns 32 = 1) (hfit : s.col + k ≤ d.width) :
    Drawn s (s.run d (List.replicate k (.put 32))) (List.replicate k (.glyph 32 s.color)) ∧
      (s.run d (List.replicate k (.put 32))).color = s.color := by
  induction k generalizing s with
  | zero => exact ⟨Drawn.refl s, rfl⟩
  | succ k ih =>
      have hput : Drawn s (s.exec d (.put 32)) (glyphCells 32 (d.columns 32) s.color) :=
        Drawn.put (by omega) (by omega)
      rw [hspace] at hput
      have hcol : (s.exec d (.put 32)).col = s.col + 1 := hput.col
      obtain ⟨hdrawn, hcolor⟩ := ih (s := s.exec d (.put 32)) (by omega)
      rw [color_exec_put] at hdrawn hcolor
      rw [List.replicate_succ, List.replicate_succ, Screen.run_cons]
      exact ⟨hput.trans hdrawn, hcolor⟩

/-! ### The loop -/

/-- The line up to `i`: `shown` is drawn by `out`, which will be written, and `k` spaces are held
back behind it. -/
structure Sending (d : Display) (s : Screen (Option ℕ)) (width i : ℕ) (w : TermLine)
    (out : List (Command (Option ℕ))) (shown : List (Cell (Option ℕ))) (k : ℕ) : Prop where
  termLine : w.termLine = out ++ List.replicate k (.put 32)
  trimmed : w.trimmedLineLength = out.length
  drawn : Drawn s (s.run d out) shown
  color : (s.run d out).color = w.remoteColor
  count : w.trimmedCellCount = s.col + shown.length
  index : i = w.trimmedCellCount + k
  erased : w.alreadyErasedLine = true → i = width ∧ k = 0 ∧ (s.run d out).Cleared
  isOpen : w.alreadyErasedLine = false → w.trimmedCellCount < width

/-- The cells up to `i` are `done`. -/
def Sent (d : Display) (s : Screen (Option ℕ)) (width i : ℕ) (w : TermLine)
    (done : List (Cell (Option ℕ))) : Prop :=
  ∃ out shown k, Sending d s width i w out shown k ∧
    done = shown ++ List.replicate k (.glyph 32 w.remoteColor)

variable {out : List (Command (Option ℕ))} {done : List (Cell (Option ℕ))}

/-- All that has been put together so far, with the spaces. -/
lemma Sending.all (h : Sending d s width i w out shown k) (hspace : d.columns 32 = 1)
    (hi : i ≤ d.width) :
    Drawn s (s.run d w.termLine) (shown ++ List.replicate k (.glyph 32 w.remoteColor)) ∧
      (s.run d w.termLine).color = w.remoteColor := by
  have hspaces := drawn_spaces (s := s.run d out) (k := k) hspace (by
    rw [h.drawn.col, ← h.count, ← h.index]
    exact hi)
  rw [h.color, ← Screen.run_append, ← h.termLine] at hspaces
  exact ⟨h.drawn.trans hspaces.1, hspaces.2⟩

/-- A change of the colour brings the spaces out. -/
lemma Sent.sendColor (h : Sent d s width i w done) (hspace : d.columns 32 = 1)
    (hwidth : width ≤ d.width) (hi : i < width)
    (hnone : t.outputColor = false → w.remoteColor = none) (data : List CharInfo) :
    Sent d s width i (t.sendColor i data w) done ∧
      (t.sendColor i data w).remoteColor = colorOf t.outputColor data := by
  obtain ⟨out, shown, k, h, rfl⟩ := h
  rw [Terminal.sendColor, colorOf]
  cases hout : t.outputColor with
  | false => exact ⟨⟨out, shown, k, h, rfl⟩, hnone hout⟩
  | true =>
      rw [if_pos rfl, if_pos rfl]
      set color := (data.headD ⟨0, 0⟩).Attributes &&& COLOR_ATTRIBUTE_MASK
      by_cases hcolor : some color = w.remoteColor
      · rw [if_neg (not_not.2 hcolor)]
        exact ⟨⟨out, shown, k, h, rfl⟩, hcolor.symm⟩
      · rw [if_pos hcolor]
        have hdrawn := (h.all hspace (hi.le.trans hwidth)).1
        have hcount := h.count
        have hindex := h.index
        refine ⟨⟨w.termLine ++ [.color (some color)], _, 0, ⟨?_, rfl, ?_, ?_, ?_, rfl, ?_, ?_⟩,
          (List.append_nil _).symm⟩, rfl⟩
        · rw [List.replicate_zero, List.append_nil]
        · rw [Screen.run_append, ← List.append_nil (shown ++ _)]
          exact hdrawn.trans (Drawn.color (d := d) _)
        · rw [Screen.run_append]
          rfl
        · rw [List.length_append, List.length_replicate]
          show i = _
          omega
        · intro herased
          have := (h.erased herased).1
          omega
        · exact fun _ => hi

/-- A space is held back. -/
lemma Sent.space (h : Sent d s width i w done) (hi : i < width) :
    Sent d s width (i + 1) { w with termLine := w.termLine ++ [.put 32] }
      (done ++ [.glyph 32 w.remoteColor]) := by
  obtain ⟨out, shown, k, h, rfl⟩ := h
  have hindex := h.index
  refine ⟨out, shown, k + 1, ⟨?_, h.trimmed, h.drawn, h.color, h.count, ?_, ?_, h.isOpen⟩, ?_⟩
  · rw [h.termLine, List.append_assoc, List.replicate_succ']
  · show i + 1 = w.trimmedCellCount + (k + 1)
    omega
  · intro herased
    have := (h.erased herased).1
    omega
  · rw [List.append_assoc, List.replicate_succ']

/-- Another character brings the spaces out and goes behind them; the row is erased before the
last one. -/
lemma Sent.character {ch n : ℕ} (h : Sent d s width i w done) (hspace : d.columns 32 = 1)
    (hwidth : width ≤ d.width) (hn : d.columns ch = n) (hpos : 0 < n) (hi : i + n ≤ width) :
    Sent d s width (i + n)
      { w with
        termLine := w.termLine ++ (if i + n = width then [Command.eraseRest] else []) ++
          [Command.put ch]
        trimmedLineLength := (w.termLine ++
          (if i + n = width then [Command.eraseRest] else []) ++ [Command.put ch]).length
        trimmedCellCount := i + n
        alreadyErasedLine := w.alreadyErasedLine || decide (i + n = width) }
      (done ++ glyphCells ch n w.remoteColor) := by
  obtain ⟨out, shown, k, h, rfl⟩ := h
  have hcount := h.count
  have hindex := h.index
  obtain ⟨hdrawn, hcolor⟩ := h.all hspace (by omega)
  have hcol : (s.run d w.termLine).col = i := by
    rw [hdrawn.col, List.length_append, List.length_replicate, hindex, hcount]
    omega
  have hlen : (glyphCells ch n w.remoteColor).length = n := by
    rw [glyphCells, List.length_cons, List.length_replicate]
    omega
  have hnotErased : w.alreadyErasedLine = false := by
    rw [Bool.eq_false_iff]
    intro herased
    have := (h.erased herased).1
    omega
  -- the row may be erased first
  set erase : List (Command (Option ℕ)) := if i + n = width then [.eraseRest] else []
  have herase : Drawn s (s.run d (w.termLine ++ erase))
      (shown ++ List.replicate k (.glyph 32 w.remoteColor)) ∧
      (s.run d (w.termLine ++ erase)).color = w.remoteColor ∧
      (s.run d (w.termLine ++ erase)).col = i ∧
      (i + n = width → (s.run d (w.termLine ++ erase)).Cleared) := by
    rw [Screen.run_append]
    by_cases hend : i + n = width
    · have herase : erase = [.eraseRest] := if_pos hend
      rw [herase, Screen.run_singleton]
      refine ⟨?_, hcolor, hcol, fun _ => Screen.cleared_eraseRest⟩
      rw [← List.append_nil (shown ++ _)]
      exact hdrawn.trans (Drawn.eraseRest (by omega))
    · have herase : erase = [] := if_neg hend
      rw [herase, Screen.run_nil]
      exact ⟨hdrawn, hcolor, hcol, fun hend' => absurd hend' hend⟩
  obtain ⟨hdrawn', hcolor', hcol', hcleared⟩ := herase
  have hput := (Drawn.put (by omega) (by omega) :
    Drawn (s.run d (w.termLine ++ erase)) (Screen.exec d _ (.put ch)) _)
  rw [hn, hcolor'] at hput
  refine ⟨w.termLine ++ erase ++ [.put ch], _, 0, ⟨?_, rfl, ?_, ?_, ?_, rfl, ?_, ?_⟩,
    (List.append_nil _).symm⟩
  · rw [List.replicate_zero, List.append_nil]
  · rw [Screen.run_append, Screen.run_singleton]
    exact hdrawn'.trans hput
  · rw [Screen.run_append, Screen.run_singleton, color_exec_put, hcolor']
  · show i + n = s.col + _
    rw [List.length_append, List.length_append, List.length_replicate, hlen]
    omega
  · intro herased
    rw [hnotErased, Bool.false_or, decide_eq_true_eq] at herased
    refine ⟨herased, rfl, ?_⟩
    rw [Screen.run_append, Screen.run_singleton]
    exact (hcleared herased).put (by omega)
  · intro hopen
    rw [hnotErased, Bool.false_or, decide_eq_false_iff_not] at hopen
    show i + n < width
    omega

lemma Sent.sendCharacter (h : Sent d s width i w done) (hplain : t.plainMode = false)
    (hspace : d.columns 32 = 1) (hwidth : width ≤ d.width) (hx : Proper d x)
    (hi : i + x.length ≤ width) (hcolor : w.remoteColor = colorOf t.outputColor x) :
    Sent d s width (i + x.length)
        (t.sendCharacter i x.length (scanUnicodeScalarValue x).2 width w)
        (done ++ draw t.outputColor x) ∧
      (t.sendCharacter i x.length (scanUnicodeScalarValue x).2 width w).remoteColor =
        w.remoteColor := by
  have hpos := hx.length_pos
  rw [Terminal.sendCharacter, draw, ← hcolor]
  by_cases hch : (scanUnicodeScalarValue x).2 = 32
  · have hlen : x.length = 1 := by rw [← hx.columns, hch, shownCharacter_space, hspace]
    rw [if_pos hch, hch, shownCharacter_space, hlen]
    exact ⟨h.space (by omega), rfl⟩
  · rw [if_neg hch, hplain]
    refine ⟨?_, rfl⟩
    simp only [Bool.not_false, Bool.and_true, decide_eq_true_eq]
    exact h.character hspace hwidth hx.columns hpos hi

/-- One round of the loop. -/
lemma Sent.sendCell (h : Sent d s width i w done) (hplain : t.plainMode = false)
    (hspace : d.columns 32 = 1) (hwidth : width ≤ d.width) (hx : Proper d x)
    (hi : i + x.length ≤ width) (hnone : t.outputColor = false → w.remoteColor = none)
    (data : List CharInfo) :
    Sent d s width (i + x.length) (t.sendCell i width (x ++ data) w)
        (done ++ draw t.outputColor x) ∧
      (t.sendCell i width (x ++ data) w).remoteColor = colorOf t.outputColor x := by
  have hpos := hx.length_pos
  obtain ⟨c, x', rfl⟩ := List.exists_cons_of_ne_nil hx.ne_nil
  obtain ⟨hcolored, hcolor⟩ := h.sendColor hspace hwidth (by omega) hnone
    (c :: x' ++ data)
  have hcolor' : (t.sendColor i (c :: x' ++ data) w).remoteColor =
      colorOf t.outputColor (c :: x') :=
    hcolor
  obtain ⟨hsent, hkeep⟩ := hcolored.sendCharacter hplain hspace hwidth hx hi hcolor'
  rw [Terminal.sendCell, hx.scan]
  exact ⟨hsent, hkeep.trans hcolor'⟩

/-- The colour of the last character of a line. -/
def lastColor (outputColor : Bool) (xs : List (List CharInfo)) (color : Option ℕ) : Option ℕ :=
  xs.foldl (fun _ x => colorOf outputColor x) color

/-- The whole loop. -/
lemma Sent.sendCells (h : Sent d s width i w done) (hplain : t.plainMode = false)
    (hspace : d.columns 32 = 1) (hwidth : width ≤ d.width) (hxs : ∀ x ∈ xs, Proper d x)
    (hi : i + xs.flatten.length = width) (hfuel : xs.flatten.length ≤ fuel)
    (hnone : t.outputColor = false → w.remoteColor = none) :
    Sent d s width width (t.sendCells width fuel i xs.flatten w)
        (done ++ picture t.outputColor xs) ∧
      (t.sendCells width fuel i xs.flatten w).remoteColor =
        lastColor t.outputColor xs w.remoteColor := by
  induction xs generalizing i w done fuel with
  | nil =>
      have hend : i = width := hi
      have hstop : t.sendCells width fuel i [] w = w := by
        cases fuel with
        | zero => rfl
        | succ fuel => exact if_pos rfl
      rw [List.flatten_nil, hstop, picture, List.flatMap_nil, List.append_nil, ← hend]
      rw [← hend] at h
      exact ⟨h, rfl⟩
  | cons x xs ih =>
      rw [List.forall_mem_cons] at hxs
      rw [List.flatten_cons, List.length_append] at hi hfuel
      have hpos := hxs.1.length_pos
      obtain ⟨hsent, hcolor⟩ := h.sendCell hplain hspace hwidth hxs.1 (by omega) hnone
        xs.flatten
      cases fuel with
      | zero => omega
      | succ fuel =>
          have hne : x ++ xs.flatten ≠ [] := List.append_ne_nil_of_left_ne_nil hxs.1.ne_nil _
          obtain ⟨hsent', hcolor'⟩ := ih hsent hxs.2 (by omega)
            (by omega : xs.flatten.length ≤ fuel)
            (fun hout => by rw [hcolor, colorOf, hout]; rfl)
          rw [List.flatten_cons, Terminal.sendCells, if_neg hne, hxs.1.scan, picture_cons,
            ← List.append_assoc]
          simp only [List.drop_left]
          exact ⟨hsent', hcolor'.trans (by rw [hcolor]; rfl)⟩

/-! ### The row -/

/-- The row shows the line, and nothing but spaces of its last colour behind it. -/
def Shows (row : ℕ → Cell (Option ℕ)) (outputColor : Bool) (xs : List (List CharInfo)) : Prop :=
  ∀ i, (row i).Looks
    ((picture outputColor xs).getD i (.glyph 32 (lastColor outputColor xs none)))

/-- A line of characters that the terminal has in as many columns. -/
def LineFits (d : Display) (cells : List CharInfo) : Prop :=
  ∃ xs : List (List CharInfo), xs ≠ [] ∧ (∀ x ∈ xs, Proper d x) ∧ cells = xs.flatten

/-- The row shows the cells. -/
def ShowsLine (d : Display) (row : ℕ → Cell (Option ℕ)) (b : Bool) (cells : List CharInfo) : Prop :=
  ∃ xs : List (List CharInfo), (∀ x ∈ xs, Proper d x) ∧ cells = xs.flatten ∧ Shows row b xs

variable {ys zs : List (List CharInfo)} {b : Bool} {color : Option ℕ}

lemma picture_append (b : Bool) (ys zs : List (List CharInfo)) :
    picture b (ys ++ zs) = picture b ys ++ picture b zs := List.flatMap_append

lemma lastColor_append (hzs : zs ≠ []) (color : Option ℕ) :
    lastColor b (ys ++ zs) none = lastColor b zs color := by
  obtain ⟨z, zs, rfl⟩ := List.exists_cons_of_ne_nil hzs
  rw [lastColor, List.foldl_append]
  rfl

lemma lastColor_uncolored (hb : b = false) : lastColor b xs none = none := by
  induction xs with
  | nil => rfl
  | cons x xs ih =>
      rw [lastColor, List.foldl_cons, colorOf, hb]
      rw [lastColor, hb] at ih
      exact ih

/-- Single cells at the end of a line are characters of their own. -/
lemma exists_of_picture_eq (hxs : ∀ x ∈ xs, Whole x)
    (h : picture b xs = shown ++ List.replicate k (.glyph 32 color)) :
    ∃ ys zs, xs = ys ++ zs ∧ picture b ys = shown ∧ zs.flatten.length = k := by
  induction k generalizing xs with
  | zero =>
      rw [List.replicate_zero, List.append_nil] at h
      exact ⟨xs, [], (List.append_nil xs).symm, h, rfl⟩
  | succ k ih =>
      rw [List.replicate_succ', ← List.append_assoc] at h
      rcases List.eq_nil_or_concat xs with rfl | ⟨xs', x, rfl⟩
      · cases shown <;> cases k <;> cases h
      rw [List.concat_eq_append] at h hxs ⊢
      rw [List.forall_mem_append, List.forall_mem_singleton] at hxs
      rw [picture_append, picture, picture, List.flatMap_singleton] at h
      have hlast : (draw b x).getLast? = some (.glyph 32 color) := by
        have := congrArg List.getLast? h
        rwa [List.getLast?_append_of_ne_nil _ (by simp [draw, glyphCells]),
          List.getLast?_append_of_ne_nil _ (by simp)] at this
      have hone : x.length = 1 := by
        have hpos := hxs.2.length_pos
        by_contra hne
        obtain ⟨n, hn⟩ : ∃ n, x.length - 1 = n + 1 := ⟨x.length - 2, by omega⟩
        rw [draw, glyphCells, hn, List.replicate_succ', ← List.cons_append,
          List.getLast?_append_of_ne_nil _ (by simp)] at hlast
        cases hlast
      have hdraw : (draw b x).length = [Cell.glyph 32 color].length := by
        rw [length_draw hxs.2, hone]
        rfl
      obtain ⟨ys, zs, rfl, hys, hzs⟩ := ih hxs.1 (List.append_inj_left' h hdraw)
      refine ⟨ys, zs ++ [x], List.append_assoc _ _ _, hys, ?_⟩
      rw [List.flatten_append, List.length_append, hzs, List.flatten_singleton, hone]

/-- What has been written, as a screen. -/
def Terminal.screen (d : Display) (s : Screen (Option ℕ)) (t : Terminal) : Screen (Option ℕ) :=
  s.run d t.output

/-- The terminal knows the screen. -/
structure Tracks (d : Display) (t : Terminal) (s : Screen (Option ℕ)) : Prop where
  row : s.row = t.remoteLine
  visible : s.row ≤ s.bottom
  col : s.col = t.remoteColumn
  cursor : s.cursor = !t.cursorHidden
  color : s.color = t.remoteColor
  uncolored : t.outputColor = false → t.remoteColor = none
  known : t.lineDataValid = true → ∃ xs, (∀ x ∈ xs, Proper d x) ∧ t.lineData = xs.flatten ∧
    t.lineData.length = t.remoteColumn ∧
    ∀ i cell, (picture t.outputColor xs)[i]? = some cell → (s.cells s.row i).Looks cell

lemma Tracks.remoteLine_le {t : Terminal} {s : Screen (Option ℕ)} (h : Tracks d t s) :
    t.remoteLine ≤ s.bottom := by
  rw [← h.row]
  exact h.visible

/-- A line begins with the characters of another one if it begins with its cells. -/
lemma exists_of_flatten_eq {r : List CharInfo} (hys : ∀ y ∈ ys, Whole y) (hxs : ∀ x ∈ xs, Whole x)
    (h : xs.flatten = ys.flatten ++ r) : ∃ zs, xs = ys ++ zs ∧ zs.flatten = r := by
  induction ys generalizing xs with
  | nil => exact ⟨xs, rfl, h⟩
  | cons y ys ih =>
      rw [List.forall_mem_cons] at hys
      rw [List.flatten_cons, List.append_assoc] at h
      cases xs with
      | nil =>
          have hempty : y = [] := (List.append_eq_nil_iff.1 h.symm).1
          exact absurd hempty hys.1.ne_nil
      | cons x xs =>
          rw [List.forall_mem_cons] at hxs
          rw [List.flatten_cons] at h
          have hx := hxs.1.scan xs.flatten
          rw [h, hys.1.scan] at hx
          obtain ⟨rfl, hrest⟩ := List.append_inj h (congrArg Prod.fst hx).symm
          obtain ⟨zs, rfl, hzs⟩ := ih hys.2 hxs.2 hrest
          exact ⟨zs, rfl, hzs⟩

/-- A line is made of its characters in one way. -/
lemma eq_of_flatten_eq (hys : ∀ y ∈ ys, Whole y) (hxs : ∀ x ∈ xs, Whole x)
    (h : xs.flatten = ys.flatten) : xs = ys := by
  obtain ⟨zs, rfl, hzs⟩ := exists_of_flatten_eq (r := []) hys hxs (by rw [h, List.append_nil])
  cases zs with
  | nil => rw [List.append_nil]
  | cons z zs =>
      have hne := (hxs z (List.mem_append_right _ List.mem_cons_self)).ne_nil
      rw [List.flatten_cons] at hzs
      exact absurd (List.append_eq_nil_iff.1 hzs).1 hne

namespace Terminal

lemma screen_write (cs : List (Command (Option ℕ))) :
    (t.write cs).screen d s = (t.screen d s).run d cs := Screen.run_append _ _

/-- The cursor is hidden, and nothing else happens. -/
lemma hideTerminalCursor_eq (hplain : t.plainMode = false)
    (hcursor : (t.screen d s).cursor = !t.cursorHidden) :
    ∃ out, t.hideTerminalCursor = { t with output := out, cursorHidden := true } ∧
      t.hideTerminalCursor.screen d s = { t.screen d s with cursor := false } := by
  rw [hideTerminalCursor, if_neg (Bool.eq_false_iff.1 hplain)]
  cases hhidden : t.cursorHidden with
  | true =>
      rw [if_pos rfl]
      refine ⟨t.output, by rw [← hhidden], ?_⟩
      rw [hhidden] at hcursor
      rw [← Bool.not_true, ← hcursor]
  | false =>
      rw [if_neg Bool.false_ne_true]
      exact ⟨_, rfl, screen_write _⟩

end Terminal

/-- The loop begins with nothing. -/
lemma sent_nil (hcol : s.col = i) (hi : i < width) (hcolor : s.color = color) :
    Sent d s width i { trimmedCellCount := i, remoteColor := color } [] := by
  refine ⟨[], [], 0, ⟨rfl, rfl, Drawn.refl s, hcolor, ?_, rfl, ?_, fun _ => hi⟩, rfl⟩
  · rw [hcol]
    rfl
  · intro herased
    cases herased

/-- What is erased in the end. -/
lemma Sending.finish (h : Sending d s width i w out shown k) (hwidth : width ≤ d.width)
    {s' : Screen (Option ℕ)} (hs' : s' = (s.run d out).run d
      (if w.alreadyErasedLine then [] else [.eraseRest])) :
    Drawn s s' shown ∧ s'.Cleared ∧ s'.color = w.remoteColor := by
  cases herased : w.alreadyErasedLine with
  | true =>
      rw [herased, if_pos rfl, Screen.run_nil] at hs'
      rw [hs']
      exact ⟨h.drawn, (h.erased herased).2.2, h.color⟩
  | false =>
      rw [herased, if_neg Bool.false_ne_true, Screen.run_singleton] at hs'
      have hcol := h.drawn.col
      have hopen := h.isOpen herased
      have hcount := h.count
      rw [hs', ← List.append_nil shown]
      exact ⟨h.drawn.trans (Drawn.eraseRest (by omega)), Screen.cleared_eraseRest, h.color⟩

/-- The row after the line has been written behind what it showed. -/
lemma shows_of_drawn {s' : Screen (Option ℕ)} (hys : ∀ y ∈ ys, Whole y) (hzs : zs ≠ [])
    (hcol : s.col = ys.flatten.length)
    (hknown : ∀ i cell, (picture b ys)[i]? = some cell → (s.cells s.row i).Looks cell)
    (hdrawn : Drawn s s' shown) (hcleared : s'.Cleared)
    (hpicture : picture b zs = shown ++ List.replicate k (.glyph 32 s'.color))
    (hcolor : s'.color = lastColor b zs color) :
    Shows (s'.cells s.row) b (ys ++ zs) := by
  intro i
  rw [picture_append, lastColor_append hzs color, ← hcolor, hpicture]
  have hlen := length_picture hys b
  have hcol' := hdrawn.col
  rcases Nat.lt_or_ge i s.col with hlt | hge
  · rw [hdrawn.other _ _ (.inr hlt), List.getD_append _ _ _ _ (by omega)]
    refine hknown i _ ?_
    rw [List.getD_eq_getElem?_getD, List.getElem?_eq_getElem (by omega), Option.getD_some]
  rw [List.getD_append_right _ _ _ _ (by omega), hlen, ← hcol]
  rcases Nat.lt_or_ge i s'.col with hlt' | hge'
  · have hlt'' : i - s.col < shown.length := by omega
    have hlooks := hdrawn.looks (i - s.col) _ (List.getElem?_eq_getElem hlt'')
    rw [Nat.add_sub_cancel' hge] at hlooks
    rwa [List.getD_append _ _ _ _ hlt'', List.getD_eq_getElem _ _ hlt'']
  · -- behind what has been drawn everything is erased
    refine .inr ⟨s'.color, ?_, ?_⟩
    · rw [List.getD_append_right _ _ _ _ (by omega)]
      rcases Nat.lt_or_ge (i - s.col - shown.length) k with hk | hk
      · rw [List.getD_eq_getElem _ _ (by simpa using hk), List.getElem_replicate]
      · rw [List.getD_eq_default _ _ (by simpa using hk)]
    · rw [← hdrawn.row]
      exact hcleared i hge'

/-- What the loop leaves for a line that begins with what the row shows. -/
lemma termLine_spec (hplain : t.plainMode = false) (hspace : d.columns 32 = 1)
    (hzs : ∀ z ∈ zs, Proper d z) (hne : zs ≠ [])
    (hwidth : (ys.flatten ++ zs.flatten).length ≤ d.width) (hdata : t.lineData = ys.flatten)
    (hcol : s.col = ys.flatten.length) (hcolor : s.color = t.remoteColor)
    (huncolored : t.outputColor = false → t.remoteColor = none) :
    (t.termLine (ys.flatten ++ zs.flatten)).remoteColor =
        lastColor t.outputColor zs t.remoteColor ∧
      ∃ out shown k, Sending d s (ys.flatten ++ zs.flatten).length
          (ys.flatten ++ zs.flatten).length (t.termLine (ys.flatten ++ zs.flatten)) out shown k ∧
        picture t.outputColor zs = shown ++
          List.replicate k (.glyph 32 (lastColor t.outputColor zs t.remoteColor)) := by
  have hpos : 0 < zs.flatten.length := by
    obtain ⟨z, zs, rfl⟩ := List.exists_cons_of_ne_nil hne
    rw [List.flatten_cons, List.length_append]
    exact Nat.add_pos_left (hzs z List.mem_cons_self).length_pos _
  have hlen : (ys.flatten ++ zs.flatten).length = ys.flatten.length + zs.flatten.length :=
    List.length_append
  have hnil : Sent d s (ys.flatten ++ zs.flatten).length ys.flatten.length
      { trimmedCellCount := ys.flatten.length, remoteColor := t.remoteColor } [] :=
    sent_nil hcol (by omega) hcolor
  obtain ⟨⟨out, shown, k, hsending, hdone⟩, hlast⟩ :=
    hnil.sendCells hplain hspace hwidth hzs hlen.symm
      (by omega : zs.flatten.length ≤ (ys.flatten ++ zs.flatten).length) huncolored
  rw [Terminal.termLine, hdata, List.drop_left]
  rw [hlast, List.nil_append] at hdone
  exact ⟨hlast, out, shown, k, hsending, hdone⟩

/-- The line is drawn on its row, and nowhere else. -/
structure LineSent (d : Display) (s : Screen (Option ℕ)) (t t' : Terminal) (line : ℤ)
    (xs : List (List CharInfo)) : Prop where
  tracks : Tracks d t' (t'.screen d s)
  shows : Shows ((t'.screen d s).cells line) t.outputColor xs
  others : ∀ r, r ≠ line → (t'.screen d s).cells r = (t.screen d s).cells r
  bottom : (t'.screen d s).bottom = max (t.screen d s).bottom line
  remoteLine : t'.remoteLine = line
  plainMode : t'.plainMode = t.plainMode
  outputColor : t'.outputColor = t.outputColor

namespace Terminal

lemma hidePast_eq (hplain : t.plainMode = false)
    (hcursor : (t.screen d s).cursor = !t.cursorHidden) (cellCount : ℕ) (cursorColumn : ℤ) :
    ∃ out hidden, t.hidePast cellCount cursorColumn =
        { t with output := out, cursorHidden := hidden } ∧
      (t.hidePast cellCount cursorColumn).screen d s =
        { t.screen d s with cursor := !hidden } := by
  rw [hidePast]
  split_ifs with hpast
  · obtain ⟨out, ht, hs⟩ := hideTerminalCursor_eq hplain hcursor
    exact ⟨out, true, ht, hs⟩
  · exact ⟨t.output, t.cursorHidden, rfl, by rw [← hcursor]⟩

lemma writeLine_spec (h : Tracks d t (t.screen d s)) (hplain : t.plainMode = false)
    (hspace : d.columns 32 = 1) (hproper : ∀ x ∈ ys ++ zs, Proper d x) (hzs : zs ≠ [])
    (hwidth : (ys ++ zs).flatten.length ≤ d.width) (hdata : t.lineData = ys.flatten)
    (hlength : t.lineData.length = t.remoteColumn)
    (hknown : ∀ i cell, (picture t.outputColor ys)[i]? = some cell →
      ((t.screen d s).cells (t.screen d s).row i).Looks cell) (cursorColumn : ℤ) :
    ∃ t', t.writeLine (ys ++ zs).flatten cursorColumn = some t' ∧
      LineSent d s t t' t.remoteLine (ys ++ zs) := by
  rw [List.forall_mem_append] at hproper
  rw [List.flatten_append] at hwidth ⊢
  have hcol : (t.screen d s).col = ys.flatten.length := by rw [h.col, ← hlength, hdata]
  set line := ys.flatten ++ zs.flatten with hline
  set w := t.termLine line with hw
  obtain ⟨o, hidden, ht₁, hs₁⟩ := hidePast_eq (d := d) (s := s)
    (t := { t with remoteColor := w.remoteColor }) hplain h.cursor w.trimmedCellCount cursorColumn
  -- what is written then
  obtain ⟨hlast, out, shown, k, hsending, hpicture⟩ := termLine_spec
    (s := { t.screen d s with cursor := !hidden }) hplain hspace hproper.2 hzs hwidth hdata hcol
    h.color h.uncolored
  rw [← hline, ← hw] at hlast hsending
  have htake : w.termLine.take w.trimmedLineLength = out := by
    rw [hsending.termLine, hsending.trimmed, List.take_left]
  set erase : List (Command (Option ℕ)) := if w.alreadyErasedLine then [] else [.eraseRest]
    with herase
  have herase' : (if !w.alreadyErasedLine && !t.plainMode then [.eraseRest] else []) = erase := by
    rw [hplain, herase]
    cases w.alreadyErasedLine <;> rfl
  obtain ⟨hdrawn, hcleared, hfinal⟩ := hsending.finish hwidth rfl
  -- what the row is known to show ends where a character ends
  obtain ⟨zs₁, zs₂, hsplit, hzs₁, hk⟩ :=
    exists_of_picture_eq (fun z hz => (hproper.2 z hz).toWhole) hpicture
  have hproper₁ : ∀ z ∈ zs₁, Proper d z := fun z hz =>
    hproper.2 z (by rw [hsplit]; exact List.mem_append_left _ hz)
  have hshown : zs₁.flatten.length = shown.length := by
    rw [← hzs₁, length_picture fun z hz => (hproper₁ z hz).toWhole]
  have hcount : w.trimmedCellCount = ys.flatten.length + zs₁.flatten.length := by
    rw [hsending.count, hshown]
    exact congrArg (· + _) hcol
  have hknownData : t.lineData ++
      (line.drop t.lineData.length).take (w.trimmedCellCount - t.lineData.length) =
        (ys ++ zs₁).flatten := by
    rw [hdata, hline, List.drop_left, hcount, Nat.add_sub_cancel_left, hsplit, List.flatten_append,
      List.take_left, List.flatten_append]
  have hle : w.trimmedCellCount ≤ line.length := by
    rw [hcount, hline, hsplit, List.length_append, List.flatten_append, List.length_append]
    omega
  have hscreen : s.run d (o ++ out ++ erase) =
      (Screen.run d { t.screen d s with cursor := !hidden } out).run d erase := by
    rw [Screen.run_append, Screen.run_append]
    rw [ht₁] at hs₁
    exact congrArg (fun s => (Screen.run d s out).run d erase) hs₁
  set t' : Terminal := { t with
    output := o ++ out ++ erase
    cursorHidden := hidden
    remoteColor := w.remoteColor
    lineData := (ys ++ zs₁).flatten
    remoteColumn := w.trimmedCellCount } with ht'
  have hwritten : t.writeLine line cursorColumn = some t' := by
    rw [writeLine, ← hw, ht₁]
    simp only [write, htake, herase', hknownData, if_pos hle, ht']
  have hscreen' : t'.screen d s =
      (Screen.run d { t.screen d s with cursor := !hidden } out).run d erase := hscreen
  set s₂ := (Screen.run d { t.screen d s with cursor := !hidden } out).run d erase
  have hrow : s₂.row = t.remoteLine := hdrawn.row.trans h.row
  have hbottom : s₂.bottom = (t.screen d s).bottom := hdrawn.bottom
  have hshows : Shows (s₂.cells t.remoteLine) t.outputColor (ys ++ zs) := by
    rw [← hrow, hdrawn.row]
    refine shows_of_drawn (k := k) (fun y hy => (hproper.1 y hy).toWhole) hzs hcol hknown hdrawn
      hcleared ?_
      (hfinal.trans hlast)
    rw [hpicture, hfinal, hlast]
  have hvisible := h.visible
  refine ⟨t', hwritten, ⟨⟨?_, ?_, ?_, ?_, ?_, ?_, ?_⟩, ?_, ?_, ?_, rfl, rfl, rfl⟩⟩
  all_goals try rw [hscreen']
  · exact hrow
  · rw [hrow, hbottom, ← h.row]
    exact hvisible
  · rw [hdrawn.col, ht']
    exact hsending.count.symm
  · exact hdrawn.cursor
  · exact hfinal
  · intro huncolored
    show w.remoteColor = none
    rw [hlast, h.uncolored huncolored]
    exact lastColor_uncolored huncolored
  · intro _
    refine ⟨ys ++ zs₁, ?_, rfl, ?_, ?_⟩
    · rw [List.forall_mem_append]
      exact ⟨hproper.1, hproper₁⟩
    · show (ys ++ zs₁).flatten.length = w.trimmedCellCount
      rw [List.flatten_append, List.length_append, hcount]
    · intro i cell hcell
      have hlooks := hshows i
      obtain ⟨hlt, -⟩ := List.getElem?_eq_some_iff.1 hcell
      rw [hsplit, ← List.append_assoc, picture_append, List.getD_append _ _ _ _ hlt,
        List.getD_eq_getElem?_getD] at hlooks
      rw [hrow]
      have hcell' : (picture t.outputColor (ys ++ zs₁))[i]? = some cell := hcell
      rwa [hcell'] at hlooks
  · exact hshows
  · intro r hr
    funext i
    refine hdrawn.other r i (.inl ?_)
    show r ≠ (t.screen d s).row
    rwa [h.row]
  · rw [hbottom, ← h.row, max_eq_left hvisible]

end Terminal

end InitialSetups.Winpty
