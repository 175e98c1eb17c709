import InitialSetups.Text.Ere

/-!
# Editing lines with regular expressions

`sed 's/r/text/'`, `sed 's/r/text/g'` with awk's `gsub`, and `grep -o`.  Of all matches in a line
the leftmost is taken, and of those that start there the longest.
-/

namespace InitialSetups.Text

namespace Ere

/-- The first of the shortest texts of a list: what the longest match leaves. -/
def shortest : List Chars → Option Chars
  | [] => none
  | ys :: rest => some (rest.foldl (fun b xs => if xs.length < b.length then xs else b) ys)

/-- The longest match at the beginning of `xs`, given by what it leaves. -/
def longest (n : ℕ) (r : Ere) (xs : Chars) : Option Chars := shortest (r.ends n xs)

/-- What stands before and after the match that is taken in `xs`. -/
def firstMatch (n : ℕ) (r : Ere) : Chars → Option (Chars × Chars)
  | [] => (longest n r []).map fun ys => ([], ys)
  | c :: xs =>
    match longest n r (c :: xs) with
    | some ys => some ([], ys)
    | none => (firstMatch n r xs).map fun p => (c :: p.1, p.2)

/-- `sed 's/r/text/'`. -/
def subst (r : Ere) (text line : Chars) : Chars :=
  match firstMatch line.length r line with
  | some (pre, post) => pre ++ text ++ post
  | none => line

/-- Replace the matches in `xs`, at most `k` times; an empty match directly after another match
is not replaced. -/
def gsubFrom (n : ℕ) (r : Ere) (text : Chars) : ℕ → Bool → Chars → Chars
  | 0, _, xs => xs
  | k + 1, fresh, xs =>
    let rest := match xs with
      | [] => []
      | c :: cs => c :: gsubFrom n r text k true cs
    match longest n r xs with
    | none => rest
    | some ys =>
      if ys.length < xs.length then text ++ gsubFrom n r text k false ys
      else if fresh then text ++ rest
      else rest

/-- `sed 's/r/text/g'`, and `gsub` of awk. -/
def gsub (r : Ere) (text line : Chars) : Chars :=
  gsubFrom line.length r text (line.length + 1) true line

/-- The matches in `xs` that are not empty, at most `k` of them. -/
def matchesFrom (n : ℕ) (r : Ere) : ℕ → Chars → List Chars
  | 0, _ => []
  | k + 1, xs =>
    let rest := match xs with
      | [] => []
      | _ :: cs => matchesFrom n r k cs
    match longest n r xs with
    | none => rest
    | some ys =>
      if ys.length < xs.length then xs.take (xs.length - ys.length) :: matchesFrom n r k ys
      else rest

/-- `grep -o`. -/
def grepO (r : Ere) (line : Chars) : List Chars :=
  matchesFrom line.length r (line.length + 1) line

/-- The text itself. -/
def lits (text : Chars) : Ere := seq (text.map lit)

section Longest

variable {n : ℕ} {r : Ere} {xs ys zs pre post : Chars} {c : Char}

lemma mem_ends_lits {text : Chars} : ys ∈ (lits text).ends n xs ↔ xs = text ++ ys := by
  induction text generalizing xs with
  | nil => exact mem_ends_empty.trans eq_comm
  | cons c text ih =>
      rw [lits, List.map_cons, seq, mem_ends_cat]
      constructor
      · rintro ⟨zs, hzs, hys⟩
        rw [mem_ends_lit.1 hzs, ih.1 hys]
        rfl
      · rintro rfl
        exact ⟨text ++ ys, mem_ends_lit.2 rfl, ih.2 rfl⟩

lemma shortest_eq_none {es : List Chars} : shortest es = none ↔ es = [] := by
  cases es <;> simp [shortest]

lemma shortest_spec {es : List Chars} (h : shortest es = some ys) :
    ys ∈ es ∧ ∀ xs ∈ es, ys.length ≤ xs.length := by
  cases es with
  | nil => cases h
  | cons b es =>
      obtain rfl := Option.some.inj h
      clear h
      induction es generalizing b with
      | nil => simp
      | cons e es ih =>
          rw [List.foldl_cons]
          split_ifs with hlt
          · obtain ⟨hmem, hle⟩ := ih e
            refine ⟨List.mem_cons_of_mem b hmem, fun xs hxs => ?_⟩
            rcases List.mem_cons.1 hxs with rfl | hxs
            · exact (hle e List.mem_cons_self).trans hlt.le
            · exact hle xs hxs
          · obtain ⟨hmem, hle⟩ := ih b
            refine ⟨?_, fun xs hxs => ?_⟩
            · rcases List.mem_cons.1 hmem with h | h
              · rw [h]
                exact List.mem_cons_self
              · exact List.mem_cons_of_mem b (List.mem_cons_of_mem e h)
            · rcases List.mem_cons.1 hxs with rfl | hxs
              · exact hle xs List.mem_cons_self
              · rcases List.mem_cons.1 hxs with rfl | hxs
                · exact (hle b List.mem_cons_self).trans (not_lt.1 hlt)
                · exact hle xs (List.mem_cons_of_mem b hxs)

/-- What the longest match leaves is the only shortest rest. -/
lemma longest_eq_some : longest n r xs = some ys ↔
    ys ∈ r.ends n xs ∧ ∀ zs ∈ r.ends n xs, ys.length ≤ zs.length := by
  refine ⟨shortest_spec, fun ⟨hmem, hle⟩ => ?_⟩
  cases h : longest n r xs with
  | none =>
      rw [longest, shortest_eq_none] at h
      rw [h] at hmem
      cases hmem
  | some zs =>
      obtain ⟨hmem', hle'⟩ := shortest_spec h
      have hlen : zs.length = ys.length := le_antisymm (hle' ys hmem) (hle zs hmem')
      obtain ⟨as, has⟩ := suffix_of_mem_ends hmem
      obtain ⟨bs, hbs⟩ := suffix_of_mem_ends hmem'
      rw [← has] at hbs
      rw [(List.append_inj' hbs hlen).2]

lemma longest_eq_none : longest n r xs = none ↔ r.ends n xs = [] := shortest_eq_none

/-- The match that is taken is the longest of the leftmost. -/
lemma firstMatch_eq_some : firstMatch n r xs = some (pre, post) ↔
    ∃ zs, xs = pre ++ zs ∧ longest n r zs = some post ∧
      ∀ as bs, pre = as ++ bs → bs ≠ [] → r.ends n (bs ++ zs) = [] := by
  induction xs generalizing pre with
  | nil =>
      rw [firstMatch, Option.map_eq_some_iff]
      constructor
      · rintro ⟨ys, hys, he⟩
        obtain ⟨rfl, rfl⟩ := Prod.mk.inj he
        exact ⟨[], rfl, hys, fun as bs h hbs => absurd (List.append_eq_nil_iff.1 h.symm).2 hbs⟩
      · rintro ⟨zs, hzs, hlong, -⟩
        obtain ⟨rfl, rfl⟩ := List.append_eq_nil_iff.1 hzs.symm
        exact ⟨post, hlong, rfl⟩
  | cons c xs ih =>
      rw [firstMatch]
      cases hlong : longest n r (c :: xs) with
      | some ys =>
          simp only [Option.some.injEq, Prod.mk.injEq]
          constructor
          · rintro ⟨rfl, rfl⟩
            exact ⟨c :: xs, rfl, hlong, fun as bs h hbs =>
              absurd (List.append_eq_nil_iff.1 h.symm).2 hbs⟩
          · rintro ⟨zs, hzs, hlong', hno⟩
            cases pre with
            | nil =>
                rw [List.nil_append] at hzs
                rw [← hzs, hlong] at hlong'
                exact ⟨rfl, Option.some.inj hlong'⟩
            | cons d pre =>
                have hempty := hno [] (d :: pre) rfl (by simp)
                rw [← hzs, ← longest_eq_none, hlong] at hempty
                cases hempty
      | none =>
          simp only [Option.map_eq_some_iff, Prod.mk.injEq]
          constructor
          · rintro ⟨⟨p, q⟩, hp, rfl, rfl⟩
            obtain ⟨zs, rfl, hlong', hno⟩ := ih.1 hp
            refine ⟨zs, rfl, hlong', fun as bs h hbs => ?_⟩
            cases as with
            | nil =>
                rw [List.nil_append] at h
                rw [← h]
                exact longest_eq_none.1 hlong
            | cons a as => exact hno as bs (List.cons.inj h).2 hbs
          · rintro ⟨zs, hzs, hlong', hno⟩
            cases pre with
            | nil =>
                rw [List.nil_append] at hzs
                rw [← hzs, hlong] at hlong'
                cases hlong'
            | cons d pre =>
                obtain ⟨rfl, rfl⟩ := List.cons.inj hzs
                exact ⟨(pre, post), ih.2 ⟨zs, rfl, hlong', fun as bs h hbs =>
                  hno (c :: as) bs (by rw [h]; rfl) hbs⟩, rfl, rfl⟩

/-- No match is taken when there is none. -/
lemma firstMatch_eq_none : firstMatch n r xs = none ↔ ∀ zs, zs <:+ xs → r.ends n zs = [] := by
  induction xs with
  | nil => simp [firstMatch, longest_eq_none]
  | cons c xs ih =>
      rw [firstMatch]
      cases hlong : longest n r (c :: xs) with
      | some ys =>
          simp only [reduceCtorEq, false_iff, not_forall]
          refine ⟨c :: xs, List.suffix_refl _, fun h => ?_⟩
          rw [longest_eq_none.2 h] at hlong
          cases hlong
      | none =>
          simp only [Option.map_eq_none_iff, ih, List.suffix_cons_iff]
          constructor
          · rintro h zs (rfl | hzs)
            · exact longest_eq_none.1 hlong
            · exact h zs hzs
          · exact fun h zs hzs => h zs (.inr hzs)

/-- A search and the choice of a match agree. -/
lemma search_eq_false_iff {line : Chars} :
    r.search line = false ↔ firstMatch line.length r line = none := by
  rw [firstMatch_eq_none, ← Bool.not_eq_true, search_iff]
  simp only [not_exists, not_and, List.eq_nil_iff_forall_not_mem]

/-- A match at the beginning of the line is the one that is replaced. -/
lemma subst_of_longest {text line : Chars} (h : longest line.length r line = some ys) :
    subst r text line = text ++ ys := by
  have hfirst : firstMatch line.length r line = some ([], ys) :=
    firstMatch_eq_some.2 ⟨line, rfl, h, fun as bs hnil hbs =>
      absurd (List.append_eq_nil_iff.1 hnil.symm).2 hbs⟩
  rw [subst, hfirst]
  rfl

end Longest

/-! ### Editing all matches -/

section All

variable {n k : ℕ} {r : Ere} {text xs ys : Chars} {fresh : Bool}

lemma longest_lits : longest n (lits text) (text ++ xs) = some xs := by
  refine longest_eq_some.2 ⟨mem_ends_lits.2 rfl, fun zs hzs => ?_⟩
  rw [List.append_cancel_left (mem_ends_lits.1 hzs)]

/-- Where nothing matches nothing is replaced. -/
lemma gsubFrom_of_no_match (h : ∀ zs, zs <:+ xs → r.ends n zs = []) :
    gsubFrom n r text k fresh xs = xs := by
  induction xs generalizing k fresh with
  | nil =>
      cases k with
      | zero => rfl
      | succ k => rw [gsubFrom, longest_eq_none.2 (h [] (List.suffix_refl _))]
  | cons c xs ih =>
      cases k with
      | zero => rfl
      | succ k =>
          rw [gsubFrom, longest_eq_none.2 (h (c :: xs) (List.suffix_refl _))]
          show c :: gsubFrom n r text k true xs = c :: xs
          rw [ih fun zs hzs => h zs (hzs.trans (List.suffix_cons c xs))]

lemma gsubFrom_of_longest (h : longest n r (xs ++ ys) = some ys) (hxs : xs ≠ []) :
    gsubFrom n r text (k + 1) fresh (xs ++ ys) = text ++ gsubFrom n r text k false ys := by
  obtain ⟨c, xs, rfl⟩ := List.exists_cons_of_ne_nil hxs
  rw [List.cons_append] at h ⊢
  rw [gsubFrom, h]
  exact if_pos (by rw [List.length_cons, List.length_append]; omega)

/-- Empty matches everywhere: the text is put before, between and after the characters. -/
lemma gsubFrom_of_empty_matches (h : ∀ zs, zs <:+ xs → longest n r zs = some zs)
    (hk : xs.length < k) :
    gsubFrom n r text k true xs = text ++ xs.flatMap fun c => c :: text := by
  induction xs generalizing k with
  | nil =>
      obtain ⟨k, rfl⟩ : ∃ k', k = k' + 1 := ⟨k - 1, by simp at hk; omega⟩
      rw [gsubFrom, h [] (List.suffix_refl _)]
      rfl
  | cons c xs ih =>
      obtain ⟨k, rfl⟩ : ∃ k', k = k' + 1 := ⟨k - 1, by simp at hk; omega⟩
      rw [List.length_cons] at hk
      rw [gsubFrom, h (c :: xs) (List.suffix_refl _)]
      show (if (c :: xs).length < (c :: xs).length then _ else
        text ++ (c :: gsubFrom n r text k true xs)) = _
      rw [if_neg (lt_irrefl _), ih (fun zs hzs => h zs (hzs.trans (List.suffix_cons c xs)))
        (by omega), List.flatMap_cons, List.cons_append]

lemma matchesFrom_of_no_match (h : ∀ zs, zs <:+ xs → r.ends n zs = []) :
    matchesFrom n r k xs = [] := by
  induction xs generalizing k with
  | nil =>
      cases k with
      | zero => rfl
      | succ k => rw [matchesFrom, longest_eq_none.2 (h [] (List.suffix_refl _))]
  | cons c xs ih =>
      cases k with
      | zero => rfl
      | succ k =>
          rw [matchesFrom, longest_eq_none.2 (h (c :: xs) (List.suffix_refl _))]
          exact ih fun zs hzs => h zs (hzs.trans (List.suffix_cons c xs))

lemma matchesFrom_of_longest (h : longest n r (xs ++ ys) = some ys) (hxs : xs ≠ []) :
    matchesFrom n r (k + 1) (xs ++ ys) = xs :: matchesFrom n r k ys := by
  have htake : (xs ++ ys).take ((xs ++ ys).length - ys.length) = xs := by
    rw [List.length_append, Nat.add_sub_cancel, List.take_left]
  obtain ⟨c, xs, rfl⟩ := List.exists_cons_of_ne_nil hxs
  rw [List.cons_append] at h htake ⊢
  rw [matchesFrom, h]
  show (if ys.length < (c :: (xs ++ ys)).length then _ else _) = _
  rw [if_pos (by rw [List.length_cons, List.length_append]; omega), htake]

end All

end Ere

end InitialSetups.Text
