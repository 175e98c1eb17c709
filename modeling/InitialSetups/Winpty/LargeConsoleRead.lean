import InitialSetups.Winpty.SmallRect
import InitialSetups.Winpty.Terminal

/-!
# Reading the console

A rectangle of the console is read at once or, on old systems, a few lines at a time; both leave
the same lines in the buffer (`largeConsoleRead_spec`).
-/

namespace InitialSetups.Winpty

/-- The cells of a console, by line and column. -/
abbrev Grid := ℤ → ℤ → CharInfo

def MAX_CONSOLE_WIDTH : ℤ := 2500

/-- A line of the console. -/
def gridLine (g : Grid) (left : ℤ) (width : ℕ) (line : ℤ) : List CharInfo :=
  (List.range width).map fun j : ℕ => g line (left + j)

def gridLines (g : Grid) (left : ℤ) (width : ℕ) (top : ℤ) (height : ℕ) : List CharInfo :=
  (List.range height).flatMap fun i : ℕ => gridLine g left width (top + i)

/-- `Win32ConsoleBuffer::read`. -/
def readGrid (g : Grid) (r : SmallRect) : List CharInfo :=
  gridLines g r.Left r.width.toNat r.Top r.height.toNat

structure LargeConsoleReadBuffer where
  rect : SmallRect := .ofSize 0 0 0 0
  data : List CharInfo := []

/-- The line of a number that is in the rectangle. -/
def LargeConsoleReadBuffer.lineData (out : LargeConsoleReadBuffer) (line : ℤ) :
    Option (List CharInfo) :=
  if line < out.rect.Top ∨ line > out.rect.Bottom then none
  else
    let rectWidth := out.rect.width.toNat
    some ((out.data.drop ((line - out.rect.Top).toNat * rectWidth)).take rectWidth)

/-- Cells that are copied over others. -/
def overwrite (data : List CharInfo) (start : ℕ) (cells : List CharInfo) : List CharInfo :=
  data.take start ++ cells ++ data.drop (start + cells.length)

/-- The loop over the lines from `curLine` on. -/
def readChunks (g : Grid) (readArea : SmallRect) (maxReadLines : ℤ) :
    ℕ → ℤ → List CharInfo → List CharInfo
  | 0, _, data => data
  | fuel + 1, curLine, data =>
      if curLine ≤ readArea.Bottom then
        let subReadArea := SmallRect.ofSize readArea.Left curLine readArea.width
          (min maxReadLines (readArea.Bottom + 1 - curLine))
        let start := (curLine - readArea.Top).toNat * readArea.width.toNat
        readChunks g readArea maxReadLines fuel (subReadArea.Bottom + 1)
          (overwrite data start (readGrid g subReadArea))
      else data

def largeConsoleRead (out : LargeConsoleReadBuffer) (g : Grid) (readArea : SmallRect)
    (attributesMask : ℕ) (useLargeReads : Bool) : Option LargeConsoleReadBuffer :=
  if 0 ≤ readArea.Left ∧ 0 ≤ readArea.Top ∧ readArea.Left ≤ readArea.Right ∧
      readArea.Top ≤ readArea.Bottom ∧ readArea.width ≤ MAX_CONSOLE_WIDTH then
    let count := (readArea.width * readArea.height).toNat
    let data :=
      if out.data.length < count then
        out.data ++ List.replicate (count - out.data.length) ⟨0, 0⟩
      else out.data
    let data :=
      if useLargeReads then overwrite data 0 (readGrid g readArea)
      else
        let maxReadLines := max 1 (MAX_CONSOLE_WIDTH / readArea.width)
        readChunks g readArea maxReadLines readArea.height.toNat readArea.Top data
    let data :=
      if attributesMask ≠ 0xFFFF then
        (data.take count).map (fun c => { c with Attributes := c.Attributes &&& attributesMask }) ++
          data.drop count
      else data
    some { rect := readArea, data := data }
  else none

/-! ### Lines in the buffer -/

variable {g : Grid} {left top : ℤ} {width height n i start : ℕ} {data cells : List CharInfo}
  {r : SmallRect}

namespace SmallRect

lemma Valid.width_eq (h : r.Valid) : r.width = r.Right - r.Left + 1 := by
  have := h.left
  have := h.right
  exact toShort_of_lt (by omega) (by omega)

lemma Valid.height_eq (h : r.Valid) : r.height = r.Bottom - r.Top + 1 := by
  have := h.top
  have := h.bottom
  exact toShort_of_lt (by omega) (by omega)

lemma Valid.width_pos (h : r.Valid) : 0 < r.width := by
  have := h.right
  rw [h.width_eq]
  omega

lemma Valid.height_pos (h : r.Valid) : 0 < r.height := by
  have := h.bottom
  rw [h.height_eq]
  omega

end SmallRect

@[simp] lemma length_gridLine (line : ℤ) : (gridLine g left width line).length = width := by
  rw [gridLine, List.length_map, List.length_range]

lemma gridLines_succ : gridLines g left width top (height + 1) =
    gridLines g left width top height ++ gridLine g left width (top + height) := by
  rw [gridLines, List.range_succ, List.flatMap_append, List.flatMap_singleton]
  rfl

@[simp] lemma length_gridLines : (gridLines g left width top height).length = height * width := by
  induction height with
  | zero => rw [Nat.zero_mul]; rfl
  | succ height ih => rw [gridLines_succ, List.length_append, ih, length_gridLine, Nat.succ_mul]

lemma gridLines_add (n : ℕ) : gridLines g left width top (n + height) =
    gridLines g left width top n ++ gridLines g left width (top + n) height := by
  induction height with
  | zero => exact (List.append_nil _).symm
  | succ height ih =>
      rw [← Nat.add_assoc, gridLines_succ, gridLines_succ, ih, List.append_assoc]
      congr 3
      push_cast
      omega

/-- A line is where it belongs. -/
lemma slice_gridLines (hi : i < height) :
    ((gridLines g left width top height ++ cells).drop (i * width)).take width =
      gridLine g left width (top + i) := by
  obtain ⟨k, rfl⟩ : ∃ k, height = i + 1 + k := ⟨height - (i + 1), by omega⟩
  rw [gridLines_add, gridLines_succ, List.append_assoc, List.append_assoc,
    List.drop_left' length_gridLines, List.take_left' (length_gridLine _)]

lemma length_overwrite (h : start + cells.length ≤ data.length) :
    (overwrite data start cells).length = data.length := by
  rw [overwrite, List.length_append, List.length_append, List.length_take, List.length_drop]
  omega

lemma take_overwrite (cells : List CharInfo) (h : start ≤ data.length) :
    (overwrite data start cells).take (start + cells.length) = data.take start ++ cells := by
  refine List.take_left' ?_
  rw [List.length_append, List.length_take, Nat.min_eq_left h]

/-- Reading some lines at a time comes to reading them all. -/
lemma take_readChunks {maxReadLines curLine : ℤ} {fuel : ℕ} (h : r.Valid) (hmax : 1 ≤ maxReadLines)
    (hn : (n : ℤ) ≤ r.height) (hcur : curLine = r.Top + n) (hfuel : r.height ≤ n + fuel)
    (hlen : r.height.toNat * r.width.toNat ≤ data.length)
    (hdata : data.take (n * r.width.toNat) = gridLines g r.Left r.width.toNat r.Top n) :
    (readChunks g r maxReadLines fuel curLine data).take (r.height.toNat * r.width.toNat) =
        gridLines g r.Left r.width.toNat r.Top r.height.toNat ∧
      (readChunks g r maxReadLines fuel curLine data).length = data.length := by
  have hheight := h.height_eq
  have hwidth := h.width_eq
  have := h.top
  have := h.left
  have := h.right
  have := h.bottom
  induction fuel generalizing n curLine data with
  | zero =>
      have hend : r.height.toNat = n := by omega
      rw [readChunks, hend]
      exact ⟨hdata, rfl⟩
  | succ fuel ih =>
      rw [readChunks]
      by_cases hle : curLine ≤ r.Bottom
      · rw [if_pos hle]
        set m := min maxReadLines (r.Bottom + 1 - curLine) with hm
        have hsub : SmallRect.ofSize r.Left curLine r.width m =
            ⟨r.Left, curLine, r.Right, curLine + m - 1⟩ := by
          rw [SmallRect.ofSize, toShort_of_lt (by omega) (by omega),
            toShort_of_lt (by omega) (by omega), toShort_of_lt (by omega) (by omega),
            toShort_of_lt (by omega) (by omega), hwidth]
          congr 1
          omega
        have hm' : ((m.toNat : ℕ) : ℤ) = m := Int.toNat_of_nonneg (by omega)
        have hread : readGrid g ⟨r.Left, curLine, r.Right, curLine + m - 1⟩ =
            gridLines g r.Left r.width.toNat curLine m.toNat := by
          have hheight' : (⟨r.Left, curLine, r.Right, curLine + m - 1⟩ : SmallRect).height = m := by
            show toShort (curLine + m - 1 - curLine + 1) = m
            rw [toShort_of_lt (by omega) (by omega)]
            omega
          rw [readGrid, hheight']
          rfl
        have hstart : (curLine - r.Top).toNat = n := by omega
        simp only [hsub, hread, hstart]
        -- the lines up to here, and those of this round
        have hrows : (n + m.toNat) * r.width.toNat ≤ data.length :=
          (Nat.mul_le_mul_right _ (by omega)).trans hlen
        have hroom : n * r.width.toNat +
            (gridLines g r.Left r.width.toNat curLine m.toNat).length ≤ data.length := by
          rw [length_gridLines, ← Nat.add_mul]
          exact hrows
        have hlen' := length_overwrite hroom
        have hdata' := take_overwrite (gridLines g r.Left r.width.toNat curLine m.toNat)
          (Nat.le_of_add_right_le hroom)
        rw [length_gridLines, ← Nat.add_mul, hdata, hcur, ← gridLines_add, ← hcur] at hdata'
        obtain ⟨htake, hlength⟩ := ih (n := n + m.toNat) (by omega)
          (by omega : curLine + m - 1 + 1 = _) (by omega) (by rw [hlen']; exact hlen) hdata'
        exact ⟨htake, hlength.trans hlen'⟩
      · have hend : r.height.toNat = n := by omega
        rw [if_neg hle, hend]
        exact ⟨hdata, rfl⟩

/-- The cells of the console without the attributes that are not supported. -/
def maskGrid (attributesMask : ℕ) (g : Grid) : Grid := fun line column =>
  if attributesMask ≠ 0xFFFF then
    { g line column with Attributes := (g line column).Attributes &&& attributesMask }
  else g line column

lemma map_gridLines (f : CharInfo → CharInfo) : (gridLines g left width top height).map f =
    gridLines (fun line column => f (g line column)) left width top height := by
  rw [gridLines, List.map_flatMap, gridLines]
  refine congrArg (List.flatMap · _) (funext fun i => ?_)
  rw [gridLine, List.map_map]
  rfl

/-- What is read before the attributes are masked. -/
lemma take_read (h : r.Valid) (useLargeReads : Bool)
    (hlen : r.height.toNat * r.width.toNat ≤ data.length) :
    (if useLargeReads then overwrite data 0 (readGrid g r)
      else readChunks g r (max 1 (MAX_CONSOLE_WIDTH / r.width)) r.height.toNat r.Top data).take
        (r.height.toNat * r.width.toNat) =
      gridLines g r.Left r.width.toNat r.Top r.height.toNat := by
  have hpos := h.height_pos
  cases useLargeReads with
  | true =>
      have htake := take_overwrite (readGrid g r) (Nat.zero_le data.length)
      rw [Nat.zero_add, readGrid, length_gridLines, List.take_zero, List.nil_append] at htake
      exact htake
  | false =>
      exact (take_readChunks (n := 0) h (le_max_left _ _) (by omega) (by omega) (by omega) hlen
        (by rw [Nat.zero_mul]; rfl)).1

/-- The console is read as it is, whatever was in the buffer before. -/
lemma largeConsoleRead_spec (h : r.Valid) (hwidth : r.width ≤ MAX_CONSOLE_WIDTH)
    (out : LargeConsoleReadBuffer) (g : Grid) (attributesMask : ℕ) (useLargeReads : Bool) :
    ∃ out', largeConsoleRead out g r attributesMask useLargeReads = some out' ∧
      ∀ line, r.Top ≤ line → line ≤ r.Bottom → out'.lineData line =
        some (gridLine (maskGrid attributesMask g) r.Left r.width.toNat line) := by
  have hcount : (r.width * r.height).toNat = r.height.toNat * r.width.toNat := by
    rw [mul_comm, Int.toNat_mul h.height_pos.le h.width_pos.le]
  rw [largeConsoleRead, if_pos ⟨h.left, h.top, h.right.1, h.bottom.1, hwidth⟩]
  dsimp only
  rw [hcount]
  set count := r.height.toNat * r.width.toNat with hcount'
  set data := if out.data.length < count then
    out.data ++ List.replicate (count - out.data.length) ⟨0, 0⟩ else out.data with hdata
  have hlen : count ≤ data.length := by
    rw [hdata]
    split_ifs with hshort
    · rw [List.length_append, List.length_replicate]
      omega
    · omega
  have hread := take_read (g := g) h useLargeReads hlen
  set data' := if useLargeReads then overwrite data 0 (readGrid g r)
    else readChunks g r (max 1 (MAX_CONSOLE_WIDTH / r.width)) r.height.toNat r.Top data
  refine ⟨_, rfl, fun line htop hbottom => ?_⟩
  have hline : ((line - r.Top).toNat : ℤ) = line - r.Top := Int.toNat_of_nonneg (by omega)
  have hlt : (line - r.Top).toNat < r.height.toNat := by
    have := h.height_eq
    omega
  have hrow : line = r.Top + (line - r.Top).toNat := by omega
  rw [LargeConsoleReadBuffer.lineData, if_neg (by
    show ¬ (line < r.Top ∨ line > r.Bottom)
    omega)]
  refine congrArg some ?_
  conv_rhs => rw [hrow]
  by_cases hmask : attributesMask = 0xFFFF
  · have hgrid : maskGrid attributesMask g = g := by
      funext line column
      exact if_neg (not_not.2 hmask)
    rw [if_neg (not_not.2 hmask), hgrid, ← List.take_append_drop count data', hread]
    exact slice_gridLines hlt
  · have hgrid : maskGrid attributesMask g = fun line column =>
        { g line column with Attributes := (g line column).Attributes &&& attributesMask } := by
      funext line column
      exact if_pos hmask
    rw [if_pos hmask, hread, map_gridLines, hgrid]
    exact slice_gridLines hlt

/-- **Reading some lines at a time is reading all at once**, masked attributes and all: no
assertion fails, and every line of the rectangle is in the buffer, whatever was there before. -/
theorem largeConsoleRead_chunks (h : r.Valid) (hwidth : r.width ≤ MAX_CONSOLE_WIDTH)
    (out out' : LargeConsoleReadBuffer) (g : Grid) (attributesMask : ℕ) {line : ℤ}
    (htop : r.Top ≤ line) (hbottom : line ≤ r.Bottom) :
    ∃ cells, cells.length = r.width.toNat ∧
      (largeConsoleRead out g r attributesMask false).bind (·.lineData line) = some cells ∧
      (largeConsoleRead out' g r attributesMask true).bind (·.lineData line) = some cells := by
  obtain ⟨_, hread, hdata⟩ := largeConsoleRead_spec h hwidth out g attributesMask false
  obtain ⟨_, hread', hdata'⟩ := largeConsoleRead_spec h hwidth out' g attributesMask true
  refine ⟨gridLine (maskGrid attributesMask g) r.Left r.width.toNat line, length_gridLine line,
    ?_, ?_⟩
  · rw [hread, Option.bind_some, hdata line htop hbottom]
  · rw [hread', Option.bind_some, hdata' line htop hbottom]

theorem largeConsoleRead_chunks_wide : ∃ cells, cells.length = 2000 ∧
    (largeConsoleRead {} (fun _ _ => ⟨0x41, 7⟩) ⟨0, 0, 1999, 9⟩ 0xFF false).bind (·.lineData 4) =
      some cells ∧
    (largeConsoleRead {} (fun _ _ => ⟨0x41, 7⟩) ⟨0, 0, 1999, 9⟩ 0xFF true).bind (·.lineData 4) =
      some cells :=
  largeConsoleRead_chunks (r := ⟨0, 0, 1999, 9⟩) ⟨by decide, by decide, by decide, by decide⟩
    (by decide) {} {} (fun _ _ => ⟨0x41, 7⟩) 0xFF (by decide) (by decide)

end InitialSetups.Winpty
