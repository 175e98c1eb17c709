import InitialSetups.Text.Ere

/-!
# Plain text read as a regular expression

In a text without the special characters of regular expressions other than `.`, every character
stands for itself, and `.` for any character.
-/

namespace InitialSetups.Text

open Ere

/-- The characters with a meaning in regular expressions. -/
def specials : Chars := "\\[]|*+?^$.(){}".toList

/-- A character that stands for itself. -/
def Ordinary (c : Char) : Prop := c ∉ specials

instance (c : Char) : Decidable (Ordinary c) := inferInstanceAs (Decidable (_ ∉ _))

/-- The character in the regular expression stands for the other one. -/
def Fits (c d : Char) : Prop := c = '.' ∨ c = d

instance (c d : Char) : Decidable (Fits c d) := inferInstanceAs (Decidable (_ ∨ _))

/-- What a character that is ordinary or a dot is read as. -/
def dotPiece (c : Char) : Ere := if c = '.' then any else lit c

variable {n : ℕ} {c d : Char} {w xs ys : Chars} {bs ps : List Ere}

lemma Ordinary.ne (hc : Ordinary c) (hd : d ∈ specials) : c ≠ d := by
  rintro rfl
  exact hc hd

lemma step_dotPiece (hc : Ordinary c ∨ c = '.') :
    Reader.step ⟨bs, ps, .plain⟩ c = some ⟨bs, dotPiece c :: ps, .plain⟩ := by
  rcases hc with hc | rfl
  · have hne : ∀ d ∈ specials, c ≠ d := fun d hd => hc.ne hd
    simp only [Reader.step]
    rw [dotPiece, if_neg (hne '.' (by decide)), if_neg (hne '\\' (by decide)),
      if_neg (hne '[' (by decide)), if_neg (hne '|' (by decide)), if_neg (hne '*' (by decide)),
      if_neg (hne '+' (by decide)), if_neg (hne '?' (by decide)), if_neg (hne '^' (by decide)),
      if_neg (hne '$' (by decide)), if_neg (hne '.' (by decide)), if_neg]
    · rfl
    · rintro (h | h | h | h) <;> exact hne _ (by decide) h
  · rfl

/-- Such a text is read piece by piece. -/
lemma foldlM_step_dotted (hw : ∀ c ∈ w, Ordinary c ∨ c = '.') :
    w.foldlM Reader.step ⟨bs, ps, .plain⟩ =
      some ⟨bs, (w.map dotPiece).reverse ++ ps, .plain⟩ := by
  induction w generalizing ps with
  | nil => rfl
  | cons c w ih =>
      obtain ⟨hc, hw⟩ := List.forall_mem_cons.1 hw
      rw [List.foldlM_cons, step_dotPiece hc, List.map_cons, List.reverse_cons,
        List.append_assoc]
      exact ih hw

lemma mem_ends_dotPiece : ys ∈ (dotPiece c).ends n xs ↔ ∃ d, Fits c d ∧ xs = d :: ys := by
  rw [dotPiece]
  split_ifs with hc
  · simp [mem_ends_any, Fits, hc]
  · simp [mem_ends_lit, Fits, hc]

/-- It matches the texts that fit character by character. -/
lemma mem_ends_dotted : ys ∈ (seq (w.map dotPiece)).ends n xs ↔
    ∃ zs, List.Forall₂ Fits w zs ∧ xs = zs ++ ys := by
  induction w generalizing xs with
  | nil => simp [seq, eq_comm]
  | cons c w ih =>
      rw [List.map_cons, seq, mem_ends_cat]
      constructor
      · rintro ⟨as, has, hys⟩
        obtain ⟨d, hd, rfl⟩ := mem_ends_dotPiece.1 has
        obtain ⟨zs, hzs, rfl⟩ := ih.1 hys
        exact ⟨d :: zs, .cons hd hzs, rfl⟩
      · rintro ⟨zs, hzs, rfl⟩
        cases hzs with
        | cons hd hzs =>
            exact ⟨_, mem_ends_dotPiece.2 ⟨_, hd, rfl⟩, ih.2 ⟨_, hzs, rfl⟩⟩

end InitialSetups.Text
