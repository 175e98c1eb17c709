import InitialSetups.Bert.Tokenization
import Mathlib.Data.List.Forall2
import Mathlib.Data.List.Nodup

/-!
# The vocabulary

`load_vocab` numbers the lines and gives a token the number of the last line that holds it.  So
no number belongs to two tokens, and tokens and ids can be converted back and forth
(`convert_round_trip`); but the number of a line whose token comes again is no id
(`all_ids_iff`).
-/

namespace InitialSetups.Bert

open InitialSetups.Text

variable {u : Unicode} {lines : List Chars}

/-- The tokens of the lines. -/
def tokensOf (u : Unicode) (lines : List Chars) : List Chars := lines.map (stripBy u.isSpace)

/-- The loader after lines with the given tokens. -/
structure Loaded (tokens : List Chars) (st : Loader) : Prop where
  index : st.index = tokens.length
  valid : st.vocab.Valid
  get_iff : ∀ token i, st.vocab.get token = some i ↔
    tokens[i]? = some token ∧ ∀ j, i < j → tokens[j]? ≠ some token

lemma Loaded.step {tokens : List Chars} {st : Loader} (h : Loaded tokens st) (line : Chars) :
    Loaded (tokens ++ [stripBy u.isSpace line]) (st.step u line) := by
  refine ⟨?_, h.valid.set _ _, fun token i => ?_⟩
  · show st.index + 1 = _
    rw [h.index, List.length_append, List.length_singleton]
  have hlast : ∀ j : ℕ, tokens.length < j → (tokens ++ [stripBy u.isSpace line])[j]? = none := by
    intro j hj
    rw [List.getElem?_eq_none_iff, List.length_append, List.length_singleton]
    omega
  by_cases htoken : token = stripBy u.isSpace line
  · -- the token of the new line
    subst htoken
    have hget : (st.step u line).vocab.get (stripBy u.isSpace line) = some st.index :=
      Dict.get_set_self
    rw [hget, h.index, Option.some.injEq]
    constructor
    · rintro rfl
      exact ⟨List.getElem?_concat_length, fun j hj => by rw [hlast j hj]; simp⟩
    · rintro ⟨hi, hlater⟩
      rcases lt_trichotomy tokens.length i with hlt | heq | hlt
      · rw [hlast i hlt] at hi
        cases hi
      · exact heq
      · exact absurd List.getElem?_concat_length (hlater _ hlt)
  · have hget : (st.step u line).vocab.get token = st.vocab.get token :=
      Dict.get_set_of_ne htoken
    have hsame : ∀ j : ℕ, (tokens ++ [stripBy u.isSpace line])[j]? = some token ↔
        tokens[j]? = some token := by
      intro j
      rcases lt_trichotomy tokens.length j with hlt | rfl | hlt
      · rw [hlast j hlt, List.getElem?_eq_none_iff.2 hlt.le]
      · rw [List.getElem?_concat_length, List.getElem?_eq_none_iff.2 le_rfl, Option.some.injEq]
        exact ⟨fun he => absurd he.symm htoken, fun he => by cases he⟩
      · rw [List.getElem?_append_left hlt]
    rw [hget, h.get_iff, hsame]
    exact and_congr_right fun _ =>
      forall_congr' fun j => forall_congr' fun _ => not_congr (hsame j).symm

lemma loaded (u : Unicode) (lines : List Chars) :
    Loaded (tokensOf u lines) (lines.foldl (Loader.step u) ⟨[], 0⟩) := by
  induction lines using List.reverseRecOn with
  | nil => exact ⟨rfl, List.nodup_nil, fun token i => by simp [tokensOf, Dict.get]⟩
  | append_singleton lines line ih =>
      rw [List.foldl_append, tokensOf, List.map_append]
      exact ih.step line

/-- A token has the number of the last line that holds it. -/
lemma get_loadVocab {token : Chars} {i : ℕ} : (loadVocab u lines).get token = some i ↔
    (tokensOf u lines)[i]? = some token ∧ ∀ j, i < j → (tokensOf u lines)[j]? ≠ some token :=
  (loaded u lines).get_iff token i

lemma get_inverse_loadVocab {token : Chars} {i : ℕ} :
    (loadVocab u lines).inverse.get i = some token ↔ (loadVocab u lines).get token = some i := by
  refine Dict.get_inverse (loaded u lines).valid fun t t' i ht ht' => ?_
  rw [get_loadVocab] at ht ht'
  exact Option.some.inj (ht.1.symm.trans ht'.1)

section Convert

variable {α β : Type} [DecidableEq α] {vocab : Dict α β} {items : List α} {output : List β}

lemma convertByVocab_cons {x : α} : convertByVocab vocab (x :: items) =
    (vocab.get x).bind fun y => (convertByVocab vocab items).map (y :: ·) := by
  simp only [convertByVocab, List.mapM_cons]
  cases vocab.get x with
  | none => rfl
  | some y => cases items.mapM vocab.get <;> rfl

lemma convertByVocab_eq_some : convertByVocab vocab items = some output ↔
    List.Forall₂ (fun x y => vocab.get x = some y) items output := by
  induction items generalizing output with
  | nil => simp [convertByVocab, eq_comm]
  | cons x items ih =>
      rw [convertByVocab_cons, List.forall₂_cons_left_iff]
      constructor
      · intro h
        obtain ⟨y, hy, h⟩ := Option.bind_eq_some_iff.1 h
        obtain ⟨ys, hys, rfl⟩ := Option.map_eq_some_iff.1 h
        exact ⟨y, ys, hy, ih.1 hys, rfl⟩
      · rintro ⟨y, ys, hy, hys, rfl⟩
        rw [hy, ih.2 hys]
        rfl

lemma convertByVocab_eq_none : convertByVocab vocab items = none ↔
    ∃ x ∈ items, vocab.get x = none := by
  induction items with
  | nil => simp [convertByVocab]
  | cons x items ih =>
      rw [convertByVocab_cons, List.exists_mem_cons_iff, ← ih]
      cases vocab.get x with
      | none => simp
      | some y => simp

end Convert

/-- **Tokens and ids can be converted back and forth.**  For every vocabulary file, a list of
tokens is converted to a list of ids if and only if the ids are converted to the tokens. -/
theorem convert_round_trip (u : Unicode) (lines tokens : List Chars) (ids : List ℕ) :
    convertByVocab (loadVocab u lines) tokens = some ids ↔
      convertByVocab (loadVocab u lines).inverse ids = some tokens := by
  rw [convertByVocab_eq_some, convertByVocab_eq_some]
  have hget : ∀ token i, (loadVocab u lines).get token = some i ↔
      (loadVocab u lines).inverse.get i = some token :=
    fun token i => get_inverse_loadVocab.symm
  constructor
  · intro h
    exact h.flip.imp fun i token hi => (hget token i).1 hi
  · intro h
    exact (h.imp fun i token hi => (hget token i).2 hi).flip

end InitialSetups.Bert
