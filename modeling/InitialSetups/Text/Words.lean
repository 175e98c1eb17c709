import InitialSetups.Text.Ere
import Mathlib.Data.List.Basic
import Mathlib.Data.List.DropRight
import Mathlib.Data.List.TakeWhile

/-!
# Words and blanks

`words p xs` are the longest pieces of `xs` without a separator, as the fields of `awk`, of the
shell and of `str.split` of Python are; which elements separate is a parameter.
-/

namespace InitialSetups.Text

/-! ### Words -/

section Words

variable {α : Type*} {p : α → Bool} {xs ys w : List α} {ws : List (List α)} {c : α}

/-- The pieces between separators that are not empty. -/
def words (p : α → Bool) (xs : List α) : List (List α) := (xs.splitOnP p).filter fun w => !w.isEmpty

/-- The list is a word: it is not empty, and no separator is in it. -/
structure IsWord (p : α → Bool) (w : List α) : Prop where
  ne_nil : w ≠ []
  solid : ∀ c ∈ w, p c = false

/-- Facts about all elements of a list, by evaluation. -/
lemma forall_mem_of_all {P : α → Prop} [DecidablePred P]
    (h : (xs.all fun x => decide (P x)) = true) :
    ∀ x ∈ xs, P x := fun x hx => of_decide_eq_true (List.all_eq_true.1 h x hx)

@[simp] lemma words_nil : words p [] = [] := rfl

lemma words_append_cons (hc : p c = true) : words p (xs ++ c :: ys) = words p xs ++ words p ys := by
  rw [words, List.splitOnP_append_cons xs ys hc, List.filter_append]
  rfl

lemma words_cons (hc : p c = true) : words p (c :: xs) = words p xs :=
  @words_append_cons α p [] xs c hc

lemma words_of_isWord (h : IsWord p w) : words p w = [w] := by
  rw [words, List.splitOnP_eq_singleton h.solid]
  simp [h.ne_nil]

lemma intercalate_cons_cons {v : List α} :
    [c].intercalate (w :: v :: ws) = w ++ c :: [c].intercalate (v :: ws) := by
  rw [List.intercalate_cons_cons, List.append_assoc, List.singleton_append]

/-- A separator between lists keeps their words apart. -/
lemma words_intercalate (hc : p c = true) :
    words p ([c].intercalate ws) = ws.flatMap (words p) := by
  induction ws with
  | nil => rfl
  | cons w ws ih =>
      cases ws with
      | nil => simp
      | cons v vs =>
          rw [intercalate_cons_cons, words_append_cons hc, ih]
          exact List.flatMap_cons.symm

/-- Words that stand apart are found again. -/
lemma words_intercalate_of_isWord (hc : p c = true) (hws : ∀ w ∈ ws, IsWord p w) :
    words p ([c].intercalate ws) = ws := by
  rw [words_intercalate hc, List.flatMap_congr fun w hw => words_of_isWord (hws w hw)]
  simp

/-- What is found are words. -/
lemma isWord_of_mem_words (h : w ∈ words p xs) : IsWord p w := by
  rw [words, List.mem_filter] at h
  obtain ⟨hmem, hne⟩ := h
  refine ⟨by simpa using hne, ?_⟩
  clear hne
  induction xs generalizing w with
  | nil =>
      rw [List.splitOnP_nil, List.mem_singleton] at hmem
      simp [hmem]
  | cons c xs ih =>
      rw [List.splitOnP_cons_eq_if_modifyHead] at hmem
      split_ifs at hmem with hc
      · rcases List.mem_cons.1 hmem with rfl | hmem
        · simp
        · exact ih hmem
      · cases hsplit : xs.splitOnP p with
        | nil => exact absurd hsplit (List.splitOnP_ne_nil p xs)
        | cons v vs =>
            rw [hsplit] at hmem ih
            rcases List.mem_cons.1 hmem with rfl | hmem
            · exact List.forall_mem_cons.2 ⟨by simpa using hc, ih List.mem_cons_self⟩
            · exact ih (List.mem_cons_of_mem v hmem)

/-- The words hold everything but the separators. -/
lemma flatten_words : (words p xs).flatten = xs.filter fun c => !p c := by
  induction xs with
  | nil => rfl
  | cons c xs ih =>
      by_cases hc : p c = true
      · rw [words_cons hc, ih]
        simp [hc]
      · rw [words, List.splitOnP_cons_eq_if_modifyHead, if_neg hc]
        cases hsplit : xs.splitOnP p with
        | nil => exact absurd hsplit (List.splitOnP_ne_nil p xs)
        | cons v vs =>
            rw [words, hsplit] at ih
            by_cases hv : v = []
            · simp_all [List.modifyHead]
            · simp_all [List.modifyHead]

lemma mem_of_mem_words (hw : w ∈ words p xs) (hc : c ∈ w) : c ∈ xs := by
  have hflat : c ∈ (words p xs).flatten := List.mem_flatten.2 ⟨w, hw, hc⟩
  rw [flatten_words] at hflat
  exact (List.mem_filter.1 hflat).1

/-- The list without the separators at its ends. -/
def stripBy (p : α → Bool) (xs : List α) : List α := (xs.dropWhile p).rdropWhile p

/-- The separators at the ends belong to no word. -/
lemma words_stripBy : words p (stripBy p xs) = words p xs := by
  have hfront : ∀ ys : List α, words p (ys.dropWhile p) = words p ys := by
    intro ys
    induction ys with
    | nil => rfl
    | cons c ys ih =>
        by_cases hc : p c = true
        · rw [List.dropWhile_cons_of_pos hc, ih, words_cons hc]
        · rw [List.dropWhile_cons_of_neg hc]
  have hback : ∀ ys : List α, words p (ys.rdropWhile p) = words p ys := by
    intro ys
    induction ys using List.reverseRecOn with
    | nil => rfl
    | append_singleton ys c ih =>
        by_cases hc : p c = true
        · rw [List.rdropWhile_concat_pos _ _ _ hc, ih, words_append_cons hc, words_nil,
            List.append_nil]
        · rw [List.rdropWhile_concat_neg _ _ _ hc]
  rw [stripBy, hback, hfront]

lemma takeWhile_eq_nil_of_head (h : ∀ c ∈ xs.head?, p c = false) : xs.takeWhile p = [] := by
  cases xs with
  | nil => rfl
  | cons c xs => rw [List.takeWhile_cons_of_neg (by simp [h c rfl])]

/-- Where the first element that is not in `p` stands. -/
lemma append_inj_of_boundary {as bs : List α} (has : ∀ c ∈ as, p c = true)
    (hbs : ∀ c ∈ bs, p c = true) (hxs : ∀ c ∈ xs.head?, p c = false)
    (hys : ∀ c ∈ ys.head?, p c = false) (h : as ++ xs = bs ++ ys) : as = bs ∧ xs = ys := by
  have htake := congrArg (List.takeWhile p) h
  rw [List.takeWhile_append_of_pos has, List.takeWhile_append_of_pos hbs,
    takeWhile_eq_nil_of_head hxs, takeWhile_eq_nil_of_head hys, List.append_nil,
    List.append_nil] at htake
  rw [htake] at h
  exact ⟨htake, List.append_cancel_left h⟩

end Words

/-! ### Blanks -/

/-- A blank. -/
def isBlank (c : Char) : Bool := c = ' ' || c = '\t'

/-- The text has blanks only. -/
def Blank (text : Chars) : Prop := ∀ c ∈ text, isBlank c = true

instance (text : Chars) : Decidable (Blank text) := inferInstanceAs (Decidable (∀ c ∈ text, _))

/-- The text without the blanks at its ends. -/
def strip (text : Chars) : Chars := (text.dropWhile isBlank).rdropWhile isBlank

variable {text xs ys zs bs : Chars} {c : Char}

lemma blank_iff : Blank text ↔ text.dropWhile isBlank = [] := List.dropWhile_eq_nil_iff.symm

lemma dropWhile_append_cons (hc : isBlank c = false) :
    (xs ++ c :: ys).dropWhile isBlank = xs.dropWhile isBlank ++ c :: ys := by
  induction xs with
  | nil => simp [hc]
  | cons d xs ih =>
      by_cases hd : isBlank d = true
      · simpa [hd] using ih
      · simp [hd]

lemma rdropWhile_append_blank (hbs : Blank bs) :
    (xs ++ bs).rdropWhile isBlank = xs.rdropWhile isBlank := by
  induction bs using List.reverseRecOn with
  | nil => rw [List.append_nil]
  | append_singleton bs b ih =>
      rw [← List.append_assoc, List.rdropWhile_concat_pos _ _ _ (hbs b (by simp))]
      exact ih fun c hc => hbs c (List.mem_append_left _ hc)

/-- Stripping keeps a text in the middle that starts and ends with other characters than
blanks. -/
lemma strip_append {d : Char} (hc : isBlank c = false) (hd : isBlank d = false)
    (hys : c :: ys = zs ++ [d]) (hbs : Blank bs) :
    strip (xs ++ (c :: ys ++ bs)) = xs.dropWhile isBlank ++ c :: ys := by
  rw [strip, List.cons_append, dropWhile_append_cons hc, ← List.cons_append, ← List.append_assoc,
    rdropWhile_append_blank hbs, hys, ← List.append_assoc, List.rdropWhile_concat_neg]
  simp [hd]

/-- What is stripped from the end of a text are blanks. -/
lemma exists_rdropWhile_append (text : Chars) :
    ∃ bs, Blank bs ∧ text = text.rdropWhile isBlank ++ bs := by
  induction text using List.reverseRecOn with
  | nil => exact ⟨[], by simp [Blank], rfl⟩
  | append_singleton text c ih =>
      rw [List.rdropWhile_concat]
      split_ifs with hc
      · obtain ⟨bs, hbs, htext⟩ := ih
        refine ⟨bs ++ [c], fun e he => ?_, by rw [← List.append_assoc, ← htext]⟩
        rcases List.mem_append.1 he with he | he
        · exact hbs e he
        · rwa [List.mem_singleton.1 he]
      · exact ⟨[], by simp [Blank], by simp⟩

/-- Only blanks after a text that starts and ends with other characters are stripped. -/
lemma strip_eq_iff {d : Char} (hc : isBlank c = false) (hd : isBlank d = false)
    (hys : c :: ys = zs ++ [d]) : strip (c :: ys ++ bs) = c :: ys ↔ Blank bs := by
  constructor
  · intro h
    obtain ⟨bs', hbs', htext⟩ := exists_rdropWhile_append (c :: ys ++ bs)
    have hstrip : strip (c :: ys ++ bs) = (c :: ys ++ bs).rdropWhile isBlank := by
      rw [strip, List.cons_append, List.dropWhile_cons_of_neg (by simp [hc])]
    rw [← hstrip, h] at htext
    rwa [List.append_cancel_left htext]
  · exact fun hbs => @strip_append [] ys zs bs c d hc hd hys hbs

end InitialSetups.Text
