import InitialSetups.Text.Dict
import InitialSetups.Text.Words

/-!
# `berttokenizatin.py`

The tokenizer in `lib`: `load_vocab` and the conversions between tokens and ids, the
`BasicTokenizer`, the `JumanPPTokenizer` derived from it, the `WordpieceTokenizer` and the
`FullTokenizer`.

The tables of Unicode are a parameter, and so is the analysis by JUMAN++.
-/

namespace InitialSetups.Bert

open InitialSetups.Text

/-! ### Unicode -/

/-- The general categories of `unicodedata.category`. -/
inductive Category where
  | Lu | Ll | Lt | Lm | Lo
  | Mn | Mc | Me
  | Nd | Nl | No
  | Pc | Pd | Ps | Pe | Pi | Pf | Po
  | Sm | Sc | Sk | So
  | Zs | Zl | Zp
  | Cc | Cf | Cs | Co | Cn
  deriving DecidableEq, Repr

/-- What the tokenizer uses of Unicode. -/
structure Unicode where
  /-- `unicodedata.category` -/
  category : Char → Category
  /-- the characters at which `str.split()` splits, and that `str.strip()` removes -/
  isSpace : Char → Bool
  /-- `str.lower` -/
  lower : Chars → Chars
  /-- `unicodedata.normalize("NFD", ·)` -/
  nfd : Chars → Chars

variable (u : Unicode)

/-- `_is_whitespace`. -/
def isWhitespace (char : Char) : Bool :=
  if char = ' ' ∨ char = '\t' ∨ char = '\n' ∨ char = '\r' then true
  else u.category char = .Zs

/-- `_is_control`. -/
def isControl (char : Char) : Bool :=
  if char = '\t' ∨ char = '\n' ∨ char = '\r' then false
  else u.category char = .Cc ∨ u.category char = .Cf

/-- The category starts with `P`. -/
def Category.isP : Category → Bool
  | .Pc | .Pd | .Ps | .Pe | .Pi | .Pf | .Po => true
  | _ => false

/-- `_is_punctuation`. -/
def isPunctuation (char : Char) : Bool :=
  let cp := char.toNat
  if (33 ≤ cp ∧ cp ≤ 47) ∨ (58 ≤ cp ∧ cp ≤ 64) ∨ (91 ≤ cp ∧ cp ≤ 96) ∨ (123 ≤ cp ∧ cp ≤ 126)
  then true
  else (u.category char).isP

/-- `_is_chinese_char`. -/
def isChineseChar (cp : ℕ) : Bool :=
  (0x4E00 ≤ cp && cp ≤ 0x9FFF) || (0x3400 ≤ cp && cp ≤ 0x4DBF) ||
  (0x20000 ≤ cp && cp ≤ 0x2A6DF) || (0x2A700 ≤ cp && cp ≤ 0x2B73F) ||
  (0x2B740 ≤ cp && cp ≤ 0x2B81F) || (0x2B820 ≤ cp && cp ≤ 0x2CEAF) ||
  (0xF900 ≤ cp && cp ≤ 0xFAFF) || (0x2F800 ≤ cp && cp ≤ 0x2FA1F)

/-! ### Vocabularies -/

/-- `convert_by_vocab`: `none` for a `KeyError`. -/
def convertByVocab {α β : Type} [DecidableEq α] (vocab : Dict α β) (items : List α) :
    Option (List β) := items.mapM vocab.get

/-- What `load_vocab` keeps between the lines. -/
structure Loader where
  vocab : Dict Chars ℕ
  index : ℕ

/-- `load_vocab` on a line. -/
def Loader.step (st : Loader) (token : Chars) : Loader :=
  ⟨st.vocab.set (stripBy u.isSpace token) st.index, st.index + 1⟩

/-- `load_vocab` on the lines of the file. -/
def loadVocab (lines : List Chars) : Dict Chars ℕ := (lines.foldl (Loader.step u) ⟨[], 0⟩).vocab

/-! ### Basic tokenization -/

/-- `whitespace_tokenize`. -/
def whitespaceTokenize (text : Chars) : List Chars :=
  let text := stripBy u.isSpace text
  if text = [] then [] else words u.isSpace text

/-- `_clean_text`. -/
def cleanText (text : Chars) : Chars :=
  text.flatMap fun char =>
    if char.toNat = 0 ∨ char.toNat = 0xfffd ∨ isControl u char then []
    else if isWhitespace u char then [' ']
    else [char]

/-- `_tokenize_chinese_chars`. -/
def tokenizeChineseChars (text : Chars) : Chars :=
  text.flatMap fun char => if isChineseChar char.toNat then [' ', char, ' '] else [char]

/-- `_run_strip_accents`. -/
def runStripAccents (text : Chars) : Chars :=
  (u.nfd text).filter fun char => u.category char ≠ .Mn

/-- What `_run_split_on_punc` keeps: the pieces so far, and whether the next character starts a
new one. -/
structure Splitter where
  output : List Chars
  startNewWord : Bool

/-- `_run_split_on_punc` on a character. -/
def Splitter.step (st : Splitter) (char : Char) : Splitter :=
  if isPunctuation u char then ⟨st.output ++ [[char]], true⟩
  else
    let output := if st.startNewWord then st.output ++ [[]] else st.output
    ⟨output.dropLast ++ [(output.getLast?.getD []) ++ [char]], false⟩

/-- `_run_split_on_punc`. -/
def runSplitOnPunc (text : Chars) : List Chars := (text.foldl (Splitter.step u) ⟨[], true⟩).output

/-- `BasicTokenizer.tokenize`. -/
def basicTokenize (doLowerCase : Bool) (text : Chars) : List Chars :=
  let origTokens := whitespaceTokenize u (tokenizeChineseChars (cleanText u text))
  let splitTokens := origTokens.flatMap fun token =>
    runSplitOnPunc u (if doLowerCase then runStripAccents u (u.lower token) else token)
  whitespaceTokenize u ([' '].intercalate splitTokens)

/-- `JumanPPTokenizer.tokenize`; `analysis` gives the surface forms of the morphemes. -/
def jumanppTokenize (analysis : Chars → List Chars) (text : Chars) : List Chars :=
  let splitTokens := (analysis (cleanText u (text.filter (· ≠ ' ')))).flatMap (runSplitOnPunc u)
  whitespaceTokenize u ([' '].intercalate splitTokens)

/-! ### Wordpieces -/

section Wordpiece

/-- `piece in vocab`. -/
def Known (vocab : Dict Chars ℕ) (piece : Chars) : Prop := vocab.get piece ≠ none

instance (vocab : Dict Chars ℕ) (piece : Chars) : Decidable (Known vocab piece) :=
  inferInstanceAs (Decidable (_ ≠ _))

variable (vocab : Dict Chars ℕ)

/-- The piece from `start` to `stop`, as it stands in the vocabulary. -/
def substr (chars : Chars) (start stop : ℕ) : Chars :=
  let piece := (chars.drop start).take (stop - start)
  if 0 < start then "##".toList ++ piece else piece

/-- The inner loop: the last end of a piece that starts at `start` and is in the vocabulary. -/
def findEnd (chars : Chars) (start : ℕ) : ℕ → Option ℕ
  | 0 => none
  | stop + 1 =>
    if start < stop + 1 then
      if Known vocab (substr chars start (stop + 1)) then some (stop + 1)
      else findEnd chars start stop
    else none

/-- The outer loop: the pieces from `start` on, `none` for a word that cannot be cut. -/
def subTokens (chars : Chars) : ℕ → ℕ → Option (List Chars)
  | 0, start => if start < chars.length then none else some []
  | fuel + 1, start =>
    if start < chars.length then
      match findEnd vocab chars start chars.length with
      | some stop => (subTokens chars fuel stop).map (substr chars start stop :: ·)
      | none => none
    else some []

/-- `WordpieceTokenizer.tokenize` on one word. -/
def wordpieces (unkToken : Chars) (maxInputChars : ℕ) (token : Chars) : List Chars :=
  if maxInputChars < token.length then [unkToken]
  else (subTokens vocab token token.length 0).getD [unkToken]

/-- `WordpieceTokenizer.tokenize`. -/
def wordpieceTokenize (unkToken : Chars) (maxInputChars : ℕ) (text : Chars) : List Chars :=
  (whitespaceTokenize u text).flatMap (wordpieces vocab unkToken maxInputChars)

end Wordpiece

/-- `[UNK]`, the default. -/
def unk : Chars := "[UNK]".toList

/-- `FullTokenizer.tokenize`. -/
def fullTokenize (vocab : Dict Chars ℕ) (analysis : Chars → List Chars) (text : Chars) :
    List Chars :=
  (jumanppTokenize u analysis text).flatMap (wordpieceTokenize u vocab unk 200)

end InitialSetups.Bert
