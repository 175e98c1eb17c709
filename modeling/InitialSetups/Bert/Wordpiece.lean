import InitialSetups.Bert.Vocab

/-!
# Wordpieces

A word is cut from its beginning, each time into the longest piece that the vocabulary has;
after the first piece it is looked up with `##` before it.  `Greedy` is this cut, independent of
the loops; `wordpieces_greedy` says that the loops find it, and write the unknown token when
there is none.
-/

namespace InitialSetups.Bert

open InitialSetups.Text

variable {u : Unicode} {vocab : Dict Chars ℕ} {chars rest done : Chars} {segs : List Chars}
  {later : Bool} {start stop n k : ℕ}

/-- The piece as it is looked up. -/
def marked (later : Bool) (piece : Chars) : Chars := if later then "##".toList ++ piece else piece

/-- The pieces of a word as they are written. -/
def markFrom (later : Bool) : List Chars → List Chars
  | [] => []
  | piece :: segs => marked later piece :: markFrom true segs

/-- The cut of the rest of a word into the longest pieces. -/
inductive Greedy (vocab : Dict Chars ℕ) : Bool → Chars → List Chars → Prop
  | nil (later : Bool) : Greedy vocab later [] []
  | cons {later : Bool} {rest : Chars} {k : ℕ} {segs : List Chars} (hpos : 0 < k)
    (hle : k ≤ rest.length) (hknown : Known vocab (marked later (rest.take k)))
    (hlongest : ∀ j, k < j → j ≤ rest.length → ¬ Known vocab (marked later (rest.take j)))
    (hrest : Greedy vocab true (rest.drop k) segs) : Greedy vocab later rest (rest.take k :: segs)

/-! ### The cut -/

/-- The pieces make up the word. -/
lemma Greedy.flatten (h : Greedy vocab later rest segs) : segs.flatten = rest := by
  induction h with
  | nil => rfl
  | cons _ _ _ _ _ ih => rw [List.flatten_cons, ih, List.take_append_drop]

/-- Everything that is written is in the vocabulary. -/
lemma Greedy.known (h : Greedy vocab later rest segs) :
    ∀ p ∈ markFrom later segs, Known vocab p := by
  induction h with
  | nil => exact List.forall_mem_nil _
  | cons _ _ hknown _ _ ih => exact List.forall_mem_cons.2 ⟨hknown, ih⟩

/-- There is at most one cut. -/
lemma Greedy.unique {segs' : List Chars} (h : Greedy vocab later rest segs)
    (h' : Greedy vocab later rest segs') : segs = segs' := by
  induction h generalizing segs' with
  | nil =>
      cases h' with
      | nil => rfl
      | cons hpos hle => exact absurd hle (by simp; omega)
  | @cons later rest k segs hpos hle hknown hlongest hrest ih =>
      cases h' with
      | nil => exact absurd hle (by simp; omega)
      | @cons _ _ k' segs' hpos' hle' hknown' hlongest' hrest' =>
          have hk : k = k' := by
            rcases lt_trichotomy k k' with hlt | heq | hlt
            · exact absurd hknown' (hlongest k' hlt hle')
            · exact heq
            · exact absurd hknown (hlongest' k hlt hle)
          subst hk
          rw [ih hrest']

/-! ### The loops -/

lemma substr_append : substr (done ++ rest) done.length stop =
    marked (decide (0 < done.length)) (rest.take (stop - done.length)) := by
  rw [substr, marked, List.drop_left]
  simp only [decide_eq_true_eq]

/-- The inner loop finds the last end of a known piece. -/
lemma findEnd_spec : match findEnd vocab chars start n with
    | some stop => start < stop ∧ stop ≤ n ∧ Known vocab (substr chars start stop) ∧
        ∀ e, stop < e → e ≤ n → ¬ Known vocab (substr chars start e)
    | none => ∀ e, start < e → e ≤ n → ¬ Known vocab (substr chars start e) := by
  induction n with
  | zero =>
      intro e he hle
      omega
  | succ n ih =>
      rw [findEnd]
      by_cases hstart : start < n + 1
      · rw [if_pos hstart]
        by_cases hknown : Known vocab (substr chars start (n + 1))
        · rw [if_pos hknown]
          exact ⟨hstart, le_rfl, hknown, fun e he hle => by omega⟩
        · rw [if_neg hknown]
          have hlast : ∀ e, n < e → e ≤ n + 1 → ¬ Known vocab (substr chars start e) := by
            intro e he hle
            obtain rfl : e = n + 1 := by omega
            exact hknown
          cases hfind : findEnd vocab chars start n with
          | some stop =>
              rw [hfind] at ih
              obtain ⟨hlt, hle, hpiece, hno⟩ := ih
              refine ⟨hlt, hle.trans (Nat.le_succ n), hpiece, fun e he hle' => ?_⟩
              rcases Nat.lt_or_ge n e with h | h
              · exact hlast e h hle'
              · exact hno e he h
          | none =>
              rw [hfind] at ih
              intro e he hle'
              rcases Nat.lt_or_ge n e with h | h
              · exact hlast e h hle'
              · exact ih e he h
      · rw [if_neg hstart]
        intro e he hle
        omega

/-- The outer loop cuts what remains of the word; the fuel is enough as every piece takes at least
one character. -/
lemma subTokens_eq_some {fuel : ℕ} {output : List Chars} (hfuel : rest.length ≤ fuel) :
    subTokens vocab (done ++ rest) fuel done.length = some output ↔
      ∃ segs, Greedy vocab (decide (0 < done.length)) rest segs ∧
        output = markFrom (decide (0 < done.length)) segs := by
  induction fuel generalizing rest done output with
  | zero =>
      obtain rfl : rest = [] := List.length_eq_zero_iff.1 (by omega)
      rw [subTokens, if_neg (by simp), Option.some.injEq]
      constructor
      · rintro rfl
        exact ⟨[], .nil _, rfl⟩
      · rintro ⟨segs, hsegs, rfl⟩
        rw [hsegs.unique (.nil _)]
        rfl
  | succ fuel ih =>
      rw [subTokens]
      by_cases hrest : rest = []
      · subst hrest
        rw [if_neg (by simp), Option.some.injEq]
        constructor
        · rintro rfl
          exact ⟨[], .nil _, rfl⟩
        · rintro ⟨segs, hsegs, rfl⟩
          rw [hsegs.unique (.nil _)]
          rfl
      have hpos : 0 < rest.length := List.length_pos_iff.2 hrest
      have hlen : (done ++ rest).length = done.length + rest.length := List.length_append
      rw [if_pos (by omega)]
      have hfind := @findEnd_spec vocab (done ++ rest) done.length (done ++ rest).length
      have hpiece : ∀ j, substr (done ++ rest) done.length (done.length + j) =
          marked (decide (0 < done.length)) (rest.take j) := by
        intro j
        rw [substr_append, Nat.add_sub_cancel_left]
      cases hcase : findEnd vocab (done ++ rest) done.length (done ++ rest).length with
      | none =>
          -- no piece of the vocabulary starts here
          rw [hcase] at hfind
          refine ⟨fun h => (by cases h), ?_⟩
          rintro ⟨segs, hsegs, -⟩
          cases hsegs with
          | nil => exact absurd rfl hrest
          | @cons _ _ k _ hk hle hknown =>
              have hno := hfind (done.length + k) (by omega) (by omega)
              rw [hpiece] at hno
              exact absurd hknown hno
      | some stop =>
          rw [hcase] at hfind
          obtain ⟨hlt, hle, hknown, hlongest⟩ := hfind
          obtain ⟨k, rfl⟩ : ∃ k, stop = done.length + k := ⟨stop - done.length, by omega⟩
          rw [hpiece] at hknown
          have hno : ∀ j, k < j → j ≤ rest.length →
              ¬ Known vocab (marked (decide (0 < done.length)) (rest.take j)) := by
            intro j hj hjle
            rw [← hpiece]
            exact hlongest _ (by omega) (by omega)
          -- the loop goes on behind the piece
          have hsplit : done ++ rest = (done ++ rest.take k) ++ rest.drop k := by
            rw [List.append_assoc, List.take_append_drop]
          have hdone : (done ++ rest.take k).length = done.length + k := by
            rw [List.length_append, List.length_take]
            omega
          have hlater : decide (0 < (done ++ rest.take k).length) = true := by
            rw [hdone, decide_eq_true_eq]
            omega
          have hnext : ∀ ps, subTokens vocab (done ++ rest) fuel (done.length + k) = some ps ↔
              ∃ segs, Greedy vocab true (rest.drop k) segs ∧ ps = markFrom true segs := by
            intro ps
            have hih := @ih (rest.drop k) (done ++ rest.take k) ps
              (by rw [List.length_drop]; omega)
            rwa [← hsplit, hlater, hdone] at hih
          simp only [Option.map_eq_some_iff, hnext, hpiece]
          constructor
          · rintro ⟨ps, ⟨segs, hsegs, rfl⟩, rfl⟩
            exact ⟨_, .cons (by omega) (by omega) hknown hno hsegs, rfl⟩
          · rintro ⟨segs, hsegs, rfl⟩
            cases hsegs with
            | nil => exact absurd rfl hrest
            | @cons _ _ k' segs hk hle' hknown' hno' hsegs =>
                have hkk : k = k' := by
                  rcases lt_trichotomy k k' with h | h | h
                  · exact absurd hknown' (hno k' h hle')
                  · exact h
                  · exact absurd hknown (hno' k h (by omega))
                subst hkk
                exact ⟨_, ⟨segs, hsegs, rfl⟩, rfl⟩

/-- The word is not cut. -/
def Uncut (vocab : Dict Chars ℕ) (maxInputChars : ℕ) (token : Chars) : Prop :=
  maxInputChars < token.length ∨ ∀ segs, ¬ Greedy vocab false token segs

/-- A word of which the loops make pieces is cut. -/
lemma not_uncut_of_subTokens {token : Chars} {maxInputChars : ℕ}
    (hlen : token.length ≤ maxInputChars) (h : subTokens vocab token token.length 0 ≠ none) :
    ¬ Uncut vocab maxInputChars token := by
  rintro (hlong | hno)
  · omega
  · obtain ⟨output, houtput⟩ := Option.ne_none_iff_exists'.1 h
    obtain ⟨segs, hsegs, -⟩ :=
      (@subTokens_eq_some vocab token [] token.length output le_rfl).1 houtput
    exact hno segs hsegs

lemma wordpieces_of_greedy {unkToken token : Chars} {maxInputChars : ℕ}
    (h : Greedy vocab false token segs) (hlen : token.length ≤ maxInputChars) :
    wordpieces vocab unkToken maxInputChars token = markFrom false segs := by
  have hsome := (@subTokens_eq_some vocab token [] token.length (markFrom false segs) le_rfl).2
    ⟨segs, h, rfl⟩
  rw [List.nil_append] at hsome
  rw [wordpieces, if_neg (by omega)]
  exact congrArg (Option.getD · [unkToken]) hsome

lemma wordpieces_of_uncut {unkToken token : Chars} {maxInputChars : ℕ}
    (h : Uncut vocab maxInputChars token) :
    wordpieces vocab unkToken maxInputChars token = [unkToken] := by
  rw [wordpieces]
  by_cases hlen : maxInputChars < token.length
  · rw [if_pos hlen]
  · rw [if_neg hlen]
    have hnone : subTokens vocab token token.length 0 = none := by
      by_contra hne
      exact not_uncut_of_subTokens (not_lt.1 hlen) hne h
    rw [hnone]
    rfl

lemma cut_or_uncut (vocab : Dict Chars ℕ) (maxInputChars : ℕ) (token : Chars) :
    (∃ segs, Greedy vocab false token segs ∧ token.length ≤ maxInputChars) ∨
      Uncut vocab maxInputChars token := by
  by_cases hlen : token.length ≤ maxInputChars
  · by_cases h : ∃ segs, Greedy vocab false token segs
    · obtain ⟨segs, hsegs⟩ := h
      exact .inl ⟨segs, hsegs, hlen⟩
    · exact .inr (.inr (not_exists.1 h))
  · exact .inr (.inl (by omega))

/-- **The loops cut a word greedily.**  For every vocabulary and every text, what is written for a
text is, word by word, the one greedy cut of the word, or the unknown token when the word is too
long or has no such cut. -/
theorem wordpieces_greedy (u : Unicode) (vocab : Dict Chars ℕ) (unkToken : Chars)
    (maxInputChars : ℕ) (text : Chars) :
    ∃ output : List (List Chars),
      wordpieceTokenize u vocab unkToken maxInputChars text = output.flatten ∧
      List.Forall₂ (fun token written =>
        (∃ segs, Greedy vocab false token segs ∧ token.length ≤ maxInputChars ∧
          written = markFrom false segs ∧ segs.flatten = token ∧
          ∀ segs', Greedy vocab false token segs' → segs' = segs) ∨
        (Uncut vocab maxInputChars token ∧ written = [unkToken]))
        (whitespaceTokenize u text) output := by
  refine ⟨(whitespaceTokenize u text).map (wordpieces vocab unkToken maxInputChars),
    List.flatMap_def, ?_⟩
  rw [List.forall₂_map_right_iff]
  refine List.forall₂_same.2 fun token _ => ?_
  rcases cut_or_uncut vocab maxInputChars token with ⟨segs, hsegs, hlen⟩ | h
  · exact .inl ⟨segs, hsegs, hlen, wordpieces_of_greedy hsegs hlen, hsegs.flatten,
      fun segs' h' => h'.unique hsegs⟩
  · exact .inr ⟨h, wordpieces_of_uncut h⟩

end InitialSetups.Bert
