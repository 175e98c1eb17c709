import InitialSetups.Bert.Tokenization

/-!
# The basic tokenizer

What `BasicTokenizer.tokenize` gives are words that are one punctuation character or have no
punctuation (`basicTokenize_shape`).  Without lower-casing no visible character is lost or moved
(`basicTokenize_flatten`), and tokenizing the tokens again changes nothing
(`basicTokenize_again`).
-/

namespace InitialSetups.Bert

open InitialSetups.Text

variable {u : Unicode} {text xs w : Chars} {ws : List Chars} {c : Char}

lemma whitespaceTokenize_eq : whitespaceTokenize u text = words u.isSpace text := by
  rw [whitespaceTokenize]
  show (if stripBy u.isSpace text = [] then [] else words u.isSpace (stripBy u.isSpace text)) = _
  split_ifs with h
  · rw [← words_stripBy, h, words_nil]
  · exact words_stripBy

/-! ### Splitting at punctuation -/

/-- A piece between punctuation, or a punctuation character. -/
def IsPiece (u : Unicode) (w : Chars) : Prop :=
  (∃ c, w = [c] ∧ isPunctuation u c = true) ∨ w ≠ [] ∧ ∀ c ∈ w, isPunctuation u c = false

/-- What holds of the splitter after each character. -/
structure Splits (u : Unicode) (st : Splitter) : Prop where
  pieces : ∀ w ∈ st.output, IsPiece u w
  open_last : st.startNewWord = false →
    ∃ ws w, st.output = ws ++ [w] ∧ w ≠ [] ∧ ∀ c ∈ w, isPunctuation u c = false

lemma step_of_punctuation {st : Splitter} (hc : isPunctuation u c = true) :
    st.step u c = ⟨st.output ++ [[c]], true⟩ := if_pos hc

lemma step_of_start {output : List Chars} (hc : isPunctuation u c = false) :
    Splitter.step u ⟨output, true⟩ c = ⟨output ++ [[c]], false⟩ := by
  simp [Splitter.step, hc]

lemma step_of_open (hc : isPunctuation u c = false) :
    Splitter.step u ⟨ws ++ [w], false⟩ c = ⟨ws ++ [w ++ [c]], false⟩ := by
  simp [Splitter.step, hc]

lemma Splits.step {st : Splitter} (h : Splits u st) (c : Char) :
    Splits u (st.step u c) ∧ (st.step u c).output.flatten = st.output.flatten ++ [c] := by
  by_cases hc : isPunctuation u c = true
  · rw [step_of_punctuation hc]
    refine ⟨⟨?_, fun he => by cases he⟩, by simp⟩
    exact List.forall_mem_append.2 ⟨h.pieces, List.forall_mem_singleton.2 (.inl ⟨c, rfl, hc⟩)⟩
  · rw [Bool.not_eq_true] at hc
    have hone : ∀ d ∈ [c], isPunctuation u d = false := List.forall_mem_singleton.2 hc
    obtain ⟨output, start⟩ := st
    cases start with
    | true =>
        rw [step_of_start hc]
        refine ⟨⟨List.forall_mem_append.2 ⟨h.pieces, List.forall_mem_singleton.2
          (.inr ⟨by simp, hone⟩)⟩, fun _ => ⟨output, [c], rfl, by simp, hone⟩⟩, by simp⟩
    | false =>
        obtain ⟨ws, w, rfl, hw, hplain⟩ := h.open_last rfl
        have hplain' : ∀ d ∈ w ++ [c], isPunctuation u d = false :=
          List.forall_mem_append.2 ⟨hplain, hone⟩
        rw [step_of_open hc]
        refine ⟨⟨List.forall_mem_append.2 ⟨(List.forall_mem_append.1 h.pieces).1,
          List.forall_mem_singleton.2 (.inr ⟨by simp, hplain'⟩)⟩,
          fun _ => ⟨ws, w ++ [c], rfl, by simp, hplain'⟩⟩, by simp⟩

/-- The pieces make up the text. -/
lemma splits_foldl {st : Splitter} (h : Splits u st) (text : Chars) :
    Splits u (text.foldl (Splitter.step u) st) ∧
      (text.foldl (Splitter.step u) st).output.flatten = st.output.flatten ++ text := by
  induction text generalizing st with
  | nil => exact ⟨h, (List.append_nil _).symm⟩
  | cons c text ih =>
      obtain ⟨hstep, hflat⟩ := h.step c
      obtain ⟨hrun, hall⟩ := ih hstep
      refine ⟨hrun, ?_⟩
      rw [List.foldl_cons, hall, hflat, List.append_assoc, List.singleton_append]

lemma splits_nil : Splits u ⟨[], true⟩ := ⟨List.forall_mem_nil _, fun h => by cases h⟩

lemma isPiece_of_mem (h : w ∈ runSplitOnPunc u text) : IsPiece u w :=
  (splits_foldl splits_nil text).1.pieces w h

lemma flatten_runSplitOnPunc : (runSplitOnPunc u text).flatten = text :=
  (splits_foldl splits_nil text).2

/-- A piece that is open takes all that follows up to the next punctuation. -/
lemma foldl_step_open {v : Chars} (hw : ∀ c ∈ w, isPunctuation u c = false) :
    w.foldl (Splitter.step u) ⟨[v], false⟩ = ⟨[v ++ w], false⟩ := by
  induction w generalizing v with
  | nil => simp
  | cons d w ih =>
      obtain ⟨hd, hw⟩ := List.forall_mem_cons.1 hw
      have hopen := @step_of_open u v [] d hd
      rw [List.nil_append] at hopen
      rw [List.foldl_cons, hopen, List.nil_append, ih hw, List.append_assoc,
        List.singleton_append]

/-- A piece is not split further. -/
lemma runSplitOnPunc_of_isPiece (h : IsPiece u w) : runSplitOnPunc u w = [w] := by
  rcases h with ⟨c, rfl, hc⟩ | ⟨hne, hplain⟩
  · show (Splitter.step u ⟨[], true⟩ c).output = [[c]]
    rw [step_of_punctuation hc]
    rfl
  · obtain ⟨c, w, rfl⟩ := List.exists_cons_of_ne_nil hne
    obtain ⟨hc, hplain⟩ := List.forall_mem_cons.1 hplain
    rw [runSplitOnPunc, List.foldl_cons, step_of_start hc, List.nil_append,
      foldl_step_open hplain]
    rfl

lemma isPiece_singleton : IsPiece u [c] := by
  by_cases hc : isPunctuation u c = true
  · exact .inl ⟨c, rfl, hc⟩
  · exact .inr ⟨by simp, List.forall_mem_singleton.2 (by simpa using hc)⟩

/-- The pieces of a word are words. -/
lemma isWord_of_mem_split (hw : IsWord u.isSpace w) {v : Chars} (hv : v ∈ runSplitOnPunc u w) :
    IsWord u.isSpace v := by
  constructor
  · rcases isPiece_of_mem hv with ⟨c, rfl, -⟩ | ⟨hne, -⟩
    · simp
    · exact hne
  · intro c hc
    have hmem : c ∈ (runSplitOnPunc u w).flatten := List.mem_flatten.2 ⟨v, hv, hc⟩
    rw [flatten_runSplitOnPunc] at hmem
    exact hw.solid c hmem

/-! ### The last step -/

/-! ### Cleaning -/

/-- The character is kept by `_clean_text`. -/
def IsKept (u : Unicode) (c : Char) : Bool := !(c.toNat = 0 || c.toNat = 0xfffd || isControl u c)

/-- The character is kept and is no whitespace. -/
def IsVisible (u : Unicode) (c : Char) : Bool :=
  IsKept u c && !isWhitespace u c && !u.isSpace c

lemma cleanText_cons : cleanText u (c :: text) =
    (if IsKept u c then if isWhitespace u c then [' '] else [c] else []) ++ cleanText u text := by
  have hkept : (c.toNat = 0 ∨ c.toNat = 0xfffd ∨ isControl u c = true) ↔ ¬ IsKept u c = true := by
    simp [IsKept]
    tauto
  rw [cleanText, List.flatMap_cons]
  by_cases h : IsKept u c = true
  · rw [if_neg (by rw [hkept]; exact not_not.2 h), if_pos h]
    rfl
  · rw [if_pos (hkept.2 h), if_neg h]
    rfl

/-- What is left of a text without its whitespace are the visible characters. -/
lemma filter_cleanText (hspace : u.isSpace ' ' = true) :
    (cleanText u text).filter (fun c => !u.isSpace c) = text.filter (IsVisible u) := by
  induction text with
  | nil => rfl
  | cons c text ih =>
      rw [cleanText_cons, List.filter_append, ih]
      by_cases hkept : IsKept u c = true
      · rw [if_pos hkept]
        by_cases hwhite : isWhitespace u c = true
        · rw [if_pos hwhite, List.filter_cons_of_neg (by simp [hspace]),
            List.filter_cons_of_neg (by simp [IsVisible, hwhite])]
          rfl
        · rw [if_neg hwhite]
          by_cases hc : u.isSpace c = true
          · rw [List.filter_cons_of_neg (by simp [hc]),
              List.filter_cons_of_neg (by simp [IsVisible, hc])]
            rfl
          · rw [List.filter_cons_of_pos (by simp [hc]),
              List.filter_cons_of_pos (by simp [IsVisible, hkept, hwhite, hc])]
            rfl
      · rw [if_neg hkept, List.filter_cons_of_neg (by simp [IsVisible, hkept])]
        rfl

/-! ### Chinese characters -/

lemma tokenizeChineseChars_append : tokenizeChineseChars (xs ++ text) =
    tokenizeChineseChars xs ++ tokenizeChineseChars text := List.flatMap_append

lemma tokenizeChineseChars_of_none (h : ∀ c ∈ xs, isChineseChar c.toNat = false) :
    tokenizeChineseChars xs = xs := by
  have hsame : ∀ c ∈ xs, (if isChineseChar c.toNat = true then [' ', c, ' '] else [c]) = [c] :=
    fun c hc => if_neg (by simp [h c hc])
  rw [tokenizeChineseChars, List.flatMap_congr hsame]
  simp

/-- The blanks around Chinese characters are no visible characters. -/
lemma filter_tokenizeChineseChars (hspace : u.isSpace ' ' = true) :
    (tokenizeChineseChars text).filter (fun c => !u.isSpace c) =
      text.filter fun c => !u.isSpace c := by
  induction text with
  | nil => rfl
  | cons c text ih =>
      rw [← List.singleton_append, tokenizeChineseChars_append, List.filter_append, ih,
        List.filter_append]
      congr 1
      by_cases hc : isChineseChar c.toNat = true
      · have hpad : tokenizeChineseChars [c] = ' ' :: [c] ++ [' '] := by
          simp [tokenizeChineseChars, hc]
        have hblank : [' '].filter (fun c => !u.isSpace c) = [] :=
          List.filter_cons_of_neg (by simp [hspace])
        rw [hpad, List.filter_append, hblank, List.filter_cons_of_neg (by simp [hspace]),
          List.append_nil]
      · simp [tokenizeChineseChars, hc]

/-- A Chinese character in a word is all of the word. -/
lemma eq_singleton_of_chinese (hspace : u.isSpace ' ' = true)
    (hw : w ∈ words u.isSpace (tokenizeChineseChars text)) (hc : c ∈ w)
    (hchinese : isChineseChar c.toNat = true) : w = [c] := by
  -- the induction goes over the text, with the characters since the last Chinese one before it
  have hgen : ∀ as : Chars, (∀ d ∈ as, isChineseChar d.toNat = false) →
      ∀ v ∈ words u.isSpace (as ++ tokenizeChineseChars text), c ∈ v → v = [c] := by
    clear hw
    induction text with
    | nil =>
        intro as has v hv hcv
        have hmem := mem_of_mem_words hv hcv
        rw [tokenizeChineseChars, List.flatMap_nil, List.append_nil] at hmem
        rw [has c hmem] at hchinese
        cases hchinese
    | cons d text ih =>
        intro as has v hv hcv
        rw [← List.singleton_append, tokenizeChineseChars_append] at hv
        by_cases hd : isChineseChar d.toNat = true
        · have hpad : as ++ (tokenizeChineseChars [d] ++ tokenizeChineseChars text) =
              as ++ ' ' :: ([d] ++ ' ' :: tokenizeChineseChars text) := by
            simp [tokenizeChineseChars, hd]
          rw [hpad, words_append_cons hspace, words_append_cons hspace, List.mem_append,
            List.mem_append] at hv
          rcases hv with hv | hv | hv
          · rw [has c (mem_of_mem_words hv hcv)] at hchinese
            cases hchinese
          · have hsolid := (isWord_of_mem_words hv).solid
            have hcd : c = d := List.mem_singleton.1 (mem_of_mem_words hv hcv)
            have hword : words u.isSpace [d] = [[d]] :=
              words_of_isWord ⟨by simp, List.forall_mem_singleton.2 (hcd ▸ hsolid c hcv)⟩
            rw [hword, List.mem_singleton] at hv
            rw [hv, hcd]
          · exact ih [] (List.forall_mem_nil _) v hv hcv
        · rw [Bool.not_eq_true] at hd
          rw [tokenizeChineseChars_of_none (List.forall_mem_singleton.2 hd), ← List.append_assoc]
            at hv
          exact ih (as ++ [d]) (List.forall_mem_append.2 ⟨has, List.forall_mem_singleton.2 hd⟩)
            v hv hcv
  exact hgen [] (List.forall_mem_nil _) w hw hc

/-! ### The tokenizer -/

/-- Without lower-casing, the tokens are the pieces of the words of the cleaned text. -/
lemma basicTokenize_eq (hspace : u.isSpace ' ' = true) : basicTokenize u false text =
    (words u.isSpace (tokenizeChineseChars (cleanText u text))).flatMap (runSplitOnPunc u) := by
  rw [basicTokenize]
  simp only [whitespaceTokenize_eq, Bool.false_eq_true, if_false]
  refine words_intercalate_of_isWord hspace fun w hw => ?_
  obtain ⟨v, hv, hw⟩ := List.mem_flatMap.1 hw
  exact isWord_of_mem_split (isWord_of_mem_words hv) hw

/-- **What the tokens look like.**  With or without lower-casing, and whatever the tables of
Unicode say of other characters, every token is a word, and is one punctuation character or has
none; without lower-casing a Chinese character is a token of its own. -/
theorem basicTokenize_shape (u : Unicode) (hspace : u.isSpace ' ' = true) (doLowerCase : Bool)
    (text token : Chars) (h : token ∈ basicTokenize u doLowerCase text) :
    IsWord u.isSpace token ∧ IsPiece u token ∧
      (doLowerCase = false → ∀ c ∈ token, isChineseChar c.toNat = true → token = [c]) := by
  refine ⟨?_, ?_, ?_⟩
  · rw [basicTokenize, whitespaceTokenize_eq] at h
    exact isWord_of_mem_words h
  · -- a token is a word of a piece
    rw [basicTokenize] at h
    simp only [whitespaceTokenize_eq, words_intercalate hspace] at h
    obtain ⟨v, hv, htoken⟩ := List.mem_flatMap.1 h
    obtain ⟨w, -, hv⟩ := List.mem_flatMap.1 hv
    have hne := (isWord_of_mem_words htoken).ne_nil
    rcases isPiece_of_mem hv with ⟨c, rfl, hc⟩ | ⟨-, hplain⟩
    · have hone : ∀ d ∈ token, d = c :=
        fun d hd => List.mem_singleton.1 (mem_of_mem_words htoken hd)
      have hword : words u.isSpace [c] = [[c]] := by
        obtain ⟨d, hd⟩ := List.exists_mem_of_ne_nil token hne
        have hsolid := (isWord_of_mem_words htoken).solid d hd
        exact words_of_isWord ⟨by simp, List.forall_mem_singleton.2 (hone d hd ▸ hsolid)⟩
      rw [hword, List.mem_singleton] at htoken
      exact .inl ⟨c, htoken, hc⟩
    · exact .inr ⟨hne, fun c hc => hplain c (mem_of_mem_words htoken hc)⟩
  · rintro rfl c hc hchinese
    rw [basicTokenize_eq hspace] at h
    obtain ⟨v, hv, htoken⟩ := List.mem_flatMap.1 h
    have hcv : c ∈ v := by
      have hmem : c ∈ (runSplitOnPunc u v).flatten := List.mem_flatten.2 ⟨token, htoken, hc⟩
      rwa [flatten_runSplitOnPunc] at hmem
    rw [eq_singleton_of_chinese hspace hv hcv hchinese, runSplitOnPunc_of_isPiece isPiece_singleton,
      List.mem_singleton] at htoken
    exact htoken

/-- **No visible character is lost.**  Without lower-casing the tokens, put together, are the text
without control characters and whitespace. -/
theorem basicTokenize_flatten (u : Unicode) (hspace : u.isSpace ' ' = true) (text : Chars) :
    (basicTokenize u false text).flatten = text.filter (IsVisible u) := by
  have hsplit : ∀ ws : List Chars, (ws.flatMap (runSplitOnPunc u)).flatten = ws.flatten := by
    intro ws
    induction ws with
    | nil => rfl
    | cons w ws ih =>
        rw [List.flatMap_cons, List.flatten_append, flatten_runSplitOnPunc, ih, List.flatten_cons]
  rw [basicTokenize_eq hspace, hsplit, flatten_words, filter_tokenizeChineseChars hspace,
    filter_cleanText hspace]

/-- The characters of the tokens are visible. -/
lemma visible_of_mem (hspace : u.isSpace ' ' = true) {token : Chars}
    (h : token ∈ basicTokenize u false text) : ∀ c ∈ token, IsVisible u c = true := by
  intro c hc
  have hmem : c ∈ (basicTokenize u false text).flatten := List.mem_flatten.2 ⟨token, h, hc⟩
  rw [basicTokenize_flatten u hspace] at hmem
  exact (List.mem_filter.1 hmem).2

/-- Visible characters and single blanks are left as they are. -/
lemma cleanText_join (hcat : u.category ' ' = .Zs) (hws : ∀ w ∈ ws, ∀ c ∈ w, IsVisible u c = true) :
    cleanText u ([' '].intercalate ws) = [' '].intercalate ws := by
  have hmem : ∀ c ∈ [' '].intercalate ws, c = ' ' ∨ IsVisible u c = true := by
    intro c hc
    induction ws with
    | nil => cases hc
    | cons w ws ih =>
        obtain ⟨hw, hws⟩ := List.forall_mem_cons.1 hws
        cases ws with
        | nil => exact .inr (hw c (by simpa using hc))
        | cons v vs =>
            rw [intercalate_cons_cons, List.mem_append, List.mem_cons] at hc
            rcases hc with hc | hc | hc
            · exact .inr (hw c hc)
            · exact .inl hc
            · exact ih hws hc
  have hblank : cleanText u [' '] = [' '] := by
    simp [cleanText, isControl, isWhitespace, hcat]
  generalize [' '].intercalate ws = text at hmem
  induction text with
  | nil => rfl
  | cons c text ih =>
      obtain ⟨hc, htext⟩ := List.forall_mem_cons.1 hmem
      have hone : cleanText u [c] = [c] := by
        rcases hc with rfl | hc
        · exact hblank
        · simp only [IsVisible, Bool.and_eq_true, Bool.not_eq_true'] at hc
          rw [cleanText_cons, if_pos hc.1.1, if_neg (by simp [hc.1.2])]
          rfl
      have happend : cleanText u (c :: text) = cleanText u [c] ++ cleanText u text := by
        rw [← List.singleton_append]
        exact List.flatMap_append
      rw [happend, hone, ih htext, List.singleton_append]

/-- Words in which a Chinese character stands alone are found again. -/
lemma words_tokenizeChineseChars_join (hspace : u.isSpace ' ' = true)
    (hws : ∀ w ∈ ws, IsWord u.isSpace w)
    (halone : ∀ w ∈ ws, ∀ c ∈ w, isChineseChar c.toNat = true → w = [c]) :
    words u.isSpace (tokenizeChineseChars ([' '].intercalate ws)) = ws := by
  have hone : ∀ w, IsWord u.isSpace w → (∀ c ∈ w, isChineseChar c.toNat = true → w = [c]) →
      words u.isSpace (tokenizeChineseChars w) = [w] := by
    intro w hw halone
    by_cases h : ∃ c ∈ w, isChineseChar c.toNat = true
    · obtain ⟨c, hc, hchinese⟩ := h
      have hwc := halone c hc hchinese
      subst hwc
      have hpad : tokenizeChineseChars [c] = ' ' :: ([c] ++ ' ' :: []) := by
        simp [tokenizeChineseChars, hchinese]
      rw [hpad, words_cons hspace, words_append_cons hspace, words_of_isWord hw, words_nil]
      rfl
    · have hnone : ∀ c ∈ w, isChineseChar c.toNat = false := by
        intro c hc
        by_contra hne
        exact h ⟨c, hc, by simpa using hne⟩
      rw [tokenizeChineseChars_of_none hnone, words_of_isWord hw]
  induction ws with
  | nil => rfl
  | cons w ws ih =>
      obtain ⟨hw, hws⟩ := List.forall_mem_cons.1 hws
      obtain ⟨hwalone, halone⟩ := List.forall_mem_cons.1 halone
      cases ws with
      | nil => simpa using hone w hw hwalone
      | cons v vs =>
          have hblank : tokenizeChineseChars (' ' :: [' '].intercalate (v :: vs)) =
              ' ' :: tokenizeChineseChars ([' '].intercalate (v :: vs)) := rfl
          rw [intercalate_cons_cons, tokenizeChineseChars_append, hblank,
            words_append_cons hspace, hone w hw hwalone, ih hws halone]
          rfl

/-- **Tokenizing the tokens again changes nothing.**  The tokens of any text, joined with blanks,
are the tokens of the joined text. -/
theorem basicTokenize_again (u : Unicode) (hspace : u.isSpace ' ' = true)
    (hcat : u.category ' ' = .Zs) (text : Chars) :
    basicTokenize u false ([' '].intercalate (basicTokenize u false text)) =
      basicTokenize u false text := by
  have hshape := basicTokenize_shape u hspace false text
  rw [basicTokenize_eq hspace, cleanText_join hcat fun w hw => visible_of_mem hspace hw,
    words_tokenizeChineseChars_join hspace (fun w hw => (hshape w hw).1)
      fun w hw => (hshape w hw).2.2 rfl,
    List.flatMap_congr fun w hw => runSplitOnPunc_of_isPiece (hshape w hw).2.1]
  simp

/-! ### ASCII -/

/-- The categories of the ASCII characters. -/
def asciiCategory (c : Char) : Category :=
  if c = ' ' then .Zs
  else if c.toNat < 32 ∨ c.toNat = 127 then .Cc
  else if c.isUpper then .Lu
  else if c.isLower then .Ll
  else if c.isDigit then .Nd
  else if c = '_' then .Pc
  else if c = '-' then .Pd
  else if c ∈ ['(', '[', '{'] then .Ps
  else if c ∈ [')', ']', '}'] then .Pe
  else if c ∈ "+<=>|~".toList then .Sm
  else if c = '$' then .Sc
  else if c = '^' ∨ c.toNat = 96 then .Sk
  else if c.toNat < 127 then .Po
  else .Lo

/-- Unicode on ASCII texts. -/
def ascii : Unicode where
  category := asciiCategory
  isSpace c := c = ' ' || (9 ≤ c.toNat && c.toNat ≤ 13) || (28 ≤ c.toNat && c.toNat ≤ 31)
  lower := List.map Char.toLower
  nfd := id

/-- The tokens of `Hi, all!`. -/
theorem basicTokenize_shape_ascii :
    IsWord ascii.isSpace "hi".toList ∧ IsPiece ascii "hi".toList ∧
      (true = false → ∀ c ∈ "hi".toList, isChineseChar c.toNat = true → "hi".toList = [c]) :=
  basicTokenize_shape ascii rfl true "Hi, all!".toList "hi".toList (by decide)

theorem basicTokenize_flatten_ascii :
    (basicTokenize ascii false "Hi,\tall!".toList).flatten =
      "Hi,\tall!".toList.filter (IsVisible ascii) :=
  basicTokenize_flatten ascii rfl "Hi,\tall!".toList

theorem basicTokenize_again_ascii :
    basicTokenize ascii false ([' '].intercalate (basicTokenize ascii false "Hi, all!".toList)) =
      basicTokenize ascii false "Hi, all!".toList :=
  basicTokenize_again ascii rfl rfl "Hi, all!".toList

end InitialSetups.Bert
