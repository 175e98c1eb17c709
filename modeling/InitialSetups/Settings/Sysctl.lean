import InitialSetups.Text.Latest
import InitialSetups.Text.Words

/-!
# The format of `sysctl.conf`

A line `<blanks>key<blanks>=<blanks>value` sets a key, and a line whose first character other
than a blank is `#` or `;` is a comment.  Of several lines that set a key the last counts.
-/

namespace InitialSetups.Settings

open InitialSetups.Text

/-! ### Text files -/

/-- A text file: its lines, and what follows the last newline. -/
structure TextFile where
  lines : List Chars
  rest : Chars
  deriving DecidableEq, Repr

/-- The lines of the file as programs read them; the last one may lack its newline. -/
def TextFile.all (f : TextFile) : List Chars := if f.rest = [] then f.lines else f.lines ++ [f.rest]

lemma TextFile.forall_mem_all {f : TextFile} {P : Chars → Prop} (hnil : P []) :
    (∀ line ∈ f.all, P line) ↔ (∀ line ∈ f.lines, P line) ∧ P f.rest := by
  rw [TextFile.all]
  split_ifs with h
  · rw [h]
    exact ⟨fun hall => ⟨hall, hnil⟩, fun hall => hall.1⟩
  · rw [List.forall_mem_append, List.forall_mem_singleton]

/-! ### Lines -/

/-- The line is a comment. -/
def isComment (line : Chars) : Bool :=
  (line.dropWhile isBlank).head?.any fun c => c = '#' || c = ';'

/-- The text before the first `=`, without blanks around it: the key that the line would set. -/
def keyText (line : Chars) : Chars := strip (line.takeWhile (· ≠ '='))

/-- The text after the first `=`. -/
def afterEq (line : Chars) : Chars := (line.dropWhile (· ≠ '=')).drop 1

/-- The key that the line sets, and its value. -/
def assignment (line : Chars) : Option (Chars × Chars) :=
  if isComment line = true ∨ '=' ∉ line ∨ keyText line = [] then none
  else some (keyText line, strip (afterEq line))

/-- The value that an assignment gives to a key. -/
def valueFor (key : Chars) : Option (Chars × Chars) → Option Chars
  | some (k, v) => if k = key then some v else none
  | none => none

/-- The effective value of a key: the last line that sets it counts. -/
def effective (lines : List Chars) (key : Chars) : Option Chars :=
  latest (fun line => valueFor key (assignment line)) lines

variable {key key' value line pre : Chars} {c : Char}

lemma valueFor_eq_some {a : Option (Chars × Chars)} :
    valueFor key a = some value ↔ a = some (key, value) := by
  rcases a with - | ⟨k, v⟩
  · simp [valueFor]
  · rw [valueFor]
    split_ifs with hk
    · simp [hk]
    · simp [hk]

lemma valueFor_of_ne (h : key' ≠ key) : valueFor key (some (key', value)) = none := if_neg h

@[simp] lemma valueFor_self : valueFor key (some (key, value)) = some value := if_pos rfl

lemma takeWhile_append_of_mem (h : '=' ∈ pre) (xs : Chars) :
    (pre ++ xs).takeWhile (· ≠ '=') = pre.takeWhile (· ≠ '=') := by
  induction pre with
  | nil => cases h
  | cons c pre ih =>
      by_cases hc : c = '='
      · simp [hc]
      · have hmem : '=' ∈ pre := (List.mem_cons.1 h).resolve_left fun he => hc he.symm
        have htail := ih hmem
        simpa [hc] using htail

lemma keyText_append_of_mem (h : '=' ∈ pre) (xs : Chars) : keyText (pre ++ xs) = keyText pre := by
  rw [keyText, takeWhile_append_of_mem h, keyText]

lemma afterEq_append_of_mem (h : '=' ∈ pre) (xs : Chars) :
    afterEq (pre ++ xs) = afterEq pre ++ xs := by
  rw [afterEq, afterEq]
  induction pre with
  | nil => cases h
  | cons c pre ih =>
      by_cases hc : c = '='
      · simp [hc]
      · have hmem : '=' ∈ pre := (List.mem_cons.1 h).resolve_left fun he => hc he.symm
        have htail := ih hmem
        simpa [hc] using htail

lemma ne_of_notMem (h : '=' ∉ pre) : ∀ c ∈ pre, decide (c ≠ '=') = true := by
  intro c hc
  rw [decide_eq_true_eq]
  rintro rfl
  exact h hc

lemma keyText_append_of_notMem (h : '=' ∉ pre) (xs : Chars) :
    keyText (pre ++ xs) = strip (pre ++ xs.takeWhile (· ≠ '=')) := by
  rw [keyText, List.takeWhile_append_of_pos (ne_of_notMem h)]

lemma afterEq_append_of_notMem (h : '=' ∉ pre) (xs : Chars) : afterEq (pre ++ xs) = afterEq xs := by
  rw [afterEq, List.dropWhile_append_of_pos (ne_of_notMem h), afterEq]

/-- Whether a line is a comment is decided before its first other character. -/
lemma isComment_append_cons (hblank : isBlank c = false) (hc : c ≠ '#' ∧ c ≠ ';') (xs : Chars) :
    isComment (pre ++ c :: xs) = isComment pre := by
  rw [isComment, isComment, dropWhile_append_cons hblank]
  cases hpre : pre.dropWhile isBlank with
  | nil => simp [hc]
  | cons d ds => rfl

lemma isComment_of_blank (h : Blank line) : isComment line = false := by
  rw [isComment, blank_iff.1 h]
  rfl

lemma assignment_of_no_eq (h : '=' ∉ line) : assignment line = none := if_pos (.inr (.inl h))

end InitialSetups.Settings
