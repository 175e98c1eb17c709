import Mathlib.Data.List.Basic
import Mathlib.Order.MinMax

/-!
# A terminal's screen

The part of a terminal that a program can draw with: printing with a pending wrap at the right
margin, carriage return and line feed, moving up and along a row, erasing to the end of the row.
`Drawn` says what a stretch of commands has put on the current row, and composes.
-/

namespace InitialSetups.Text

/-- A cell of the screen: a character, a further column of a wide one, or erased. -/
inductive Cell (κ : Type*)
  | glyph (ch : ℕ) (color : κ)
  | rest
  | blank (color : κ)
deriving DecidableEq, Repr

/-- What a terminal can be told. -/
inductive Command (κ : Type*)
  | put (ch : ℕ)
  | cr
  | lf
  | up (n : ℕ)
  | column (n : ℕ)
  | home
  | clear
  | eraseRest
  | color (c : κ)
  | mode (n : ℕ) (on : Bool)
deriving DecidableEq, Repr

/-- The size of a terminal, and how many columns a character takes on it. -/
structure Display where
  width : ℕ
  height : ℕ
  columns : ℕ → ℕ

/-- The screen.  Rows are counted from anywhere; `bottom` is the lowest one that is visible.
The column is `width` when a character has been put into the last one. -/
structure Screen (κ : Type*) where
  cells : ℤ → ℕ → Cell κ
  row : ℤ
  col : ℕ
  bottom : ℤ
  color : κ
  cursor : Bool

variable {κ : Type*} {d : Display} {s s' s'' : Screen κ} {ch n k : ℕ} {c : κ}

/-- An erased cell looks like a space of its colour. -/
def Cell.Looks (cell want : Cell κ) : Prop :=
  cell = want ∨ ∃ c, want = .glyph 32 c ∧ cell = .blank c

/-- The cells of a character. -/
def glyphCells (ch n : ℕ) (c : κ) : List (Cell κ) := .glyph ch c :: List.replicate (n - 1) .rest

namespace Screen

/-- The topmost row that is visible. -/
def top (d : Display) (s : Screen κ) : ℤ := s.bottom - d.height + 1

/-- One row down, which scrolls the screen at its bottom. -/
def lineFeed (s : Screen κ) : Screen κ :=
  { s with row := s.row + 1, bottom := max s.bottom (s.row + 1) }

/-- A character at the cursor. -/
def place (s : Screen κ) (ch n : ℕ) : Screen κ :=
  { s with
    cells := fun r i =>
      if r = s.row ∧ s.col ≤ i ∧ i < s.col + n then
        if i = s.col then .glyph ch s.color else .rest
      else s.cells r i
    col := s.col + n }

def exec (d : Display) (s : Screen κ) : Command κ → Screen κ
  | .put ch =>
      -- what does not fit goes to the next row
      if s.col + d.columns ch ≤ d.width then s.place ch (d.columns ch)
      else place { s.lineFeed with col := 0 } ch (d.columns ch)
  | .cr => { s with col := 0 }
  | .lf => s.lineFeed
  | .up n => { s with row := max (s.row - max n 1) (s.top d) }
  | .column n => { s with col := min (n - 1) (d.width - 1) }
  | .home => { s with row := s.top d, col := 0 }
  | .clear =>
      { s with
        cells := fun r i => if s.top d ≤ r ∧ r ≤ s.bottom then .blank s.color else s.cells r i }
  | .eraseRest =>
      -- behind the last column, the last one is erased
      { s with
        cells := fun r i =>
          if r = s.row ∧ min s.col (d.width - 1) ≤ i then .blank s.color else s.cells r i }
  | .color c => { s with color := c }
  | .mode n on => { s with cursor := if n = 25 then on else s.cursor }

def run (d : Display) (s : Screen κ) (commands : List (Command κ)) : Screen κ :=
  commands.foldl (exec d) s

@[simp] lemma run_nil : s.run d [] = s := rfl

lemma run_append (xs ys : List (Command κ)) : s.run d (xs ++ ys) = (s.run d xs).run d ys := by
  rw [run, List.foldl_append]
  rfl

lemma run_cons (x : Command κ) (xs : List (Command κ)) :
    s.run d (x :: xs) = (s.exec d x).run d xs := rfl

lemma run_singleton (x : Command κ) : s.run d [x] = s.exec d x := rfl

lemma exec_put (h : s.col + d.columns ch ≤ d.width) :
    s.exec d (.put ch) = s.place ch (d.columns ch) := if_pos h

/-- The cells from the cursor on are erased. -/
def Cleared (s : Screen κ) : Prop := ∀ i, s.col ≤ i → s.cells s.row i = .blank s.color

/-- The cells `want` have been drawn on the row, from the cursor of `s` to that of `s'`. -/
structure Drawn (s s' : Screen κ) (want : List (Cell κ)) : Prop where
  row : s'.row = s.row
  col : s'.col = s.col + want.length
  bottom : s'.bottom = s.bottom
  cursor : s'.cursor = s.cursor
  other : ∀ r i, r ≠ s.row ∨ i < s.col → s'.cells r i = s.cells r i
  looks : ∀ j cell, want[j]? = some cell → (s'.cells s.row (s.col + j)).Looks cell

namespace Drawn

variable {want xs ys : List (Cell κ)}

lemma refl (s : Screen κ) : Drawn s s [] :=
  ⟨rfl, rfl, rfl, rfl, fun _ _ _ => rfl, fun j cell h => by cases h⟩

lemma trans (h : Drawn s s' xs) (h' : Drawn s' s'' ys) : Drawn s s'' (xs ++ ys) where
  row := h'.row.trans h.row
  col := by rw [h'.col, h.col, List.length_append, Nat.add_assoc]
  bottom := h'.bottom.trans h.bottom
  cursor := h'.cursor.trans h.cursor
  other := by
    intro r i hri
    rw [h'.other r i, h.other r i hri]
    rw [h.row, h.col]
    exact hri.imp_right fun hi => by omega
  looks := by
    intro j cell hj
    rcases Nat.lt_or_ge j xs.length with hlt | hge
    · -- the second stretch leaves the first one alone
      rw [List.getElem?_append_left hlt] at hj
      rw [h'.other]
      · exact h.looks j cell hj
      · rw [h.col]
        exact .inr (by omega)
    · rw [List.getElem?_append_right hge] at hj
      have hlooks := h'.looks _ cell hj
      rwa [h.row, h.col, Nat.add_assoc, Nat.add_sub_cancel' hge] at hlooks

lemma color (c : κ) : Drawn s (s.exec d (.color c)) [] :=
  ⟨rfl, rfl, rfl, rfl, fun _ _ _ => rfl, fun j cell h => by cases h⟩

lemma put (hn : 0 < d.columns ch) (h : s.col + d.columns ch ≤ d.width) :
    Drawn s (s.exec d (.put ch)) (glyphCells ch (d.columns ch) s.color) := by
  rw [exec_put h]
  have hlen : (glyphCells ch (d.columns ch) s.color).length = d.columns ch := by
    rw [glyphCells, List.length_cons, List.length_replicate]
    omega
  refine ⟨rfl, by rw [hlen]; rfl, rfl, rfl, ?_, ?_⟩
  · intro r i hri
    refine if_neg fun hin => ?_
    rcases hri with hr | hi
    · exact hr hin.1
    · omega
  · intro j cell hj
    obtain ⟨hlt, -⟩ := List.getElem?_eq_some_iff.1 hj
    rw [hlen] at hlt
    left
    show (if _ then _ else _) = cell
    rw [if_pos ⟨rfl, by omega, by omega⟩]
    cases j with
    | zero =>
        rw [if_pos (Nat.add_zero _)]
        exact Option.some.inj hj
    | succ j =>
        rw [if_neg (by omega)]
        rw [glyphCells, List.getElem?_cons_succ, List.getElem?_replicate_of_lt (by omega)] at hj
        exact Option.some.inj hj

lemma eraseRest (h : s.col < d.width) : Drawn s (s.exec d .eraseRest) [] := by
  refine ⟨rfl, rfl, rfl, rfl, ?_, fun j cell hj => by cases hj⟩
  intro r i hri
  refine if_neg fun hin => ?_
  rcases hri with hr | hi
  · exact hr hin.1
  · omega

end Drawn

lemma cleared_eraseRest : (s.exec d .eraseRest).Cleared := by
  intro i hi
  exact if_pos ⟨rfl, (min_le_left _ _).trans hi⟩

lemma Cleared.put (hclear : s.Cleared) (h : s.col + d.columns ch ≤ d.width) :
    (s.exec d (.put ch)).Cleared := by
  rw [exec_put h]
  intro i hi
  have hcol : (s.place ch (d.columns ch)).col = s.col + d.columns ch := rfl
  rw [hcol] at hi
  show (if _ then _ else _) = _
  rw [if_neg (by omega)]
  exact hclear i (by omega)

end Screen

end InitialSetups.Text
