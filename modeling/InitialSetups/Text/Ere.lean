import Mathlib.Data.List.Infix
import Mathlib.Data.List.Forall2
import Mathlib.Logic.Relation
import Mathlib.Tactic.Basic
import Mathlib.Data.Nat.Notation

/-!
# Extended regular expressions

The regular expressions of `grep -E`, `awk` and the shell's `=~`: their syntax trees, the
reading of a text as a regular expression, and the search in a line.

A match is described by where it ends: `r.ends n xs` lists what can remain of the text `xs`
after a match of `r` at its beginning, `n` being the length of the whole line, so that `^`
can tell whether it stands at the beginning of the line.

Of POSIX there are ordinary characters, `.`, `\c`, bracket expressions with ranges, `^`, `$`,
`*`, `+`, `?` and `|`; groups, intervals and character classes are left out, and a text with
`(`, `)`, `{` or `}` is not read.
-/

namespace InitialSetups.Text

/-- A text, as the list of its characters. -/
abbrev Chars := List Char

/-- A bracket expression: ranges of characters, or all others. -/
structure CharSet where
  negated : Bool
  ranges : List (Char × Char)
  deriving DecidableEq, Repr

/-- The character is in the set. -/
def CharSet.has (s : CharSet) (c : Char) : Bool :=
  xor s.negated (s.ranges.any fun r => decide (r.1 ≤ c) && decide (c ≤ r.2))

/-- Syntax trees of extended regular expressions. -/
inductive Ere where
  | empty
  /-- `^` -/
  | bol
  /-- `$` -/
  | eol
  | one (s : CharSet)
  | cat (r s : Ere)
  | alt (r s : Ere)
  | star (r : Ere)
  deriving DecidableEq, Repr

namespace Ere

/-- `.`. -/
def any : Ere := one ⟨true, []⟩

/-- The character itself. -/
def lit (c : Char) : Ere := one ⟨false, [(c, c)]⟩

/-- `r+`. -/
def plus (r : Ere) : Ere := cat r (star r)

/-- `r?`. -/
def opt (r : Ere) : Ere := alt r empty

/-- One after the other. -/
def seq : List Ere → Ere
  | [] => empty
  | r :: rs => cat r (seq rs)

/-- One or another. -/
def alts : List Ere → Ere
  | [] => empty
  | [r] => r
  | r :: rs => alt r (alts rs)

/-! ### Matching -/

/-- What is reached by repeating `f`, each time making progress, at most `k` times. -/
def closure (f : Chars → List Chars) : ℕ → Chars → List Chars
  | 0, xs => [xs]
  | k + 1, xs => xs :: (f xs).flatMap fun ys => if ys.length < xs.length then closure f k ys else []

/-- What can remain of `xs` after a match at its beginning, in a line of length `n`. -/
def ends (n : ℕ) : Ere → Chars → List Chars
  | empty, xs => [xs]
  | bol, xs => if xs.length = n then [xs] else []
  | eol, xs => if xs = [] then [xs] else []
  | one _, [] => []
  | one s, c :: xs => if s.has c then [xs] else []
  | cat r s, xs => (r.ends n xs).flatMap (s.ends n)
  | alt r s, xs => r.ends n xs ++ s.ends n xs
  | star r, xs => closure (r.ends n) xs.length xs

/-- A match somewhere in the line. -/
def search (r : Ere) (line : Chars) : Bool :=
  line.tails.any fun xs => !(r.ends line.length xs).isEmpty

/-! ### Reading a text as a regular expression -/

/-- What the reader is in the middle of. -/
inductive Mode where
  | plain
  /-- after `\` -/
  | escaped
  /-- inside `[…]`, with the characters read there, the last first -/
  | bracket (items : Chars)
  deriving DecidableEq, Repr

/-- What has been read: the branches before the last `|`, and the pieces of the branch that is
being read, the last first. -/
structure Reader where
  branches : List Ere
  pieces : List Ere
  mode : Mode
  deriving DecidableEq, Repr

/-- The ranges of a bracket expression. -/
def rangesOf : Chars → List (Char × Char)
  | a :: '-' :: b :: rest => (a, b) :: rangesOf rest
  | a :: rest => (a, a) :: rangesOf rest
  | [] => []

/-- The bracket expression with the given characters between its brackets. -/
def setOf : Chars → CharSet
  | '^' :: items => ⟨true, rangesOf items⟩
  | items => ⟨false, rangesOf items⟩

/-- A further piece of the branch. -/
def Reader.push (st : Reader) (r : Ere) : Reader := ⟨st.branches, r :: st.pieces, .plain⟩

/-- Repeat the last piece. -/
def Reader.repeated (st : Reader) (f : Ere → Ere) : Option Reader :=
  match st.pieces with
  | [] => none
  | r :: rs => some ⟨st.branches, f r :: rs, .plain⟩

/-- Read a character. -/
def Reader.step (st : Reader) (c : Char) : Option Reader :=
  match st.mode with
  | .escaped => some (st.push (lit c))
  | .bracket items =>
    if c = ']' ∧ items ≠ [] ∧ items ≠ ['^'] then some (st.push (one (setOf items.reverse)))
    else some { st with mode := .bracket (c :: items) }
  | .plain =>
    if c = '\\' then some { st with mode := .escaped }
    else if c = '[' then some { st with mode := .bracket [] }
    else if c = '|' then some ⟨st.branches ++ [seq st.pieces.reverse], [], .plain⟩
    else if c = '*' then st.repeated star
    else if c = '+' then st.repeated plus
    else if c = '?' then st.repeated opt
    else if c = '^' then some (st.push bol)
    else if c = '$' then some (st.push eol)
    else if c = '.' then some (st.push any)
    else if c = '(' ∨ c = ')' ∨ c = '{' ∨ c = '}' then none
    else some (st.push (lit c))

/-- The regular expression that has been read. -/
def Reader.finish (st : Reader) : Option Ere :=
  if st.mode = .plain then some (alts (st.branches ++ [seq st.pieces.reverse])) else none

/-- Read a text as a regular expression. -/
def parse (cs : Chars) : Option Ere :=
  (cs.foldlM Reader.step ⟨[], [], .plain⟩).bind Reader.finish

/-! ### What a match leaves -/

section Ends

variable {n : ℕ} {r s : Ere} {xs ys zs : Chars} {c : Char}

@[simp] lemma mem_ends_empty : ys ∈ empty.ends n xs ↔ ys = xs := List.mem_singleton

@[simp] lemma mem_ends_bol : ys ∈ bol.ends n xs ↔ ys = xs ∧ xs.length = n := by
  rw [ends]
  split_ifs with h <;> simp [h]

@[simp] lemma mem_ends_eol : ys ∈ eol.ends n xs ↔ ys = xs ∧ xs = [] := by
  rw [ends]
  split_ifs with h <;> simp [h]

@[simp] lemma mem_ends_one {t : CharSet} :
    ys ∈ (one t).ends n xs ↔ ∃ c, t.has c = true ∧ xs = c :: ys := by
  cases xs with
  | nil => simp [ends]
  | cons c xs =>
      rw [ends]
      constructor
      · intro h
        split_ifs at h with hc
        · exact ⟨c, hc, by rw [List.mem_singleton.1 h]⟩
        · cases h
      · rintro ⟨c', hc', he⟩
        obtain ⟨rfl, rfl⟩ := List.cons.inj he
        rw [if_pos hc']
        exact List.mem_singleton_self _

@[simp] lemma mem_ends_cat :
    ys ∈ (cat r s).ends n xs ↔ ∃ zs ∈ r.ends n xs, ys ∈ s.ends n zs := List.mem_flatMap

@[simp] lemma mem_ends_alt :
    ys ∈ (alt r s).ends n xs ↔ ys ∈ r.ends n xs ∨ ys ∈ s.ends n xs := List.mem_append

@[simp] lemma has_any (c : Char) : (⟨true, []⟩ : CharSet).has c = true := rfl

lemma between_self {d : Char} : (decide (d ≤ c) && decide (c ≤ d)) = decide (c = d) := by
  rw [← Bool.decide_and, decide_eq_decide]
  constructor
  · rintro ⟨h₁, h₂⟩
    exact Char.le_antisymm h₂ h₁
  · rintro rfl
    exact ⟨Char.le_refl c, Char.le_refl c⟩

/-- A bracket expression that lists its characters. -/
lemma has_listed {cs : Chars} :
    (⟨false, cs.map fun d => (d, d)⟩ : CharSet).has c = true ↔ c ∈ cs := by
  simp [CharSet.has, between_self, List.any_map]

@[simp] lemma has_lit {d : Char} : (⟨false, [(d, d)]⟩ : CharSet).has c = true ↔ c = d := by
  exact has_listed.trans List.mem_singleton

lemma mem_ends_any : ys ∈ any.ends n xs ↔ ∃ c, xs = c :: ys := by
  simp [any]

lemma mem_ends_lit : ys ∈ (lit c).ends n xs ↔ xs = c :: ys := by
  simp [lit]

/-- Everything in a closure is reached by steps. -/
lemma reflTransGen_of_mem_closure {f : Chars → List Chars} {k : ℕ} (h : ys ∈ closure f k xs) :
    Relation.ReflTransGen (fun as bs => bs ∈ f as) xs ys := by
  induction k generalizing xs with
  | zero =>
      obtain rfl := List.mem_singleton.1 h
      exact .refl
  | succ k ih =>
      rw [closure, List.mem_cons] at h
      rcases h with rfl | h
      · exact .refl
      · obtain ⟨zs, hzs, h⟩ := List.mem_flatMap.1 h
        split_ifs at h
        · exact .head hzs (ih h)
        · cases h

/-- What remains after a match is an end of the text. -/
lemma suffix_of_mem_ends (h : ys ∈ r.ends n xs) : ys <:+ xs := by
  induction r generalizing xs ys with
  | empty => rw [mem_ends_empty.1 h]
  | bol => rw [(mem_ends_bol.1 h).1]
  | eol => rw [(mem_ends_eol.1 h).1]
  | one t =>
      obtain ⟨c, -, rfl⟩ := mem_ends_one.1 h
      exact List.suffix_cons c ys
  | cat r s ihr ihs =>
      obtain ⟨zs, hzs, hys⟩ := mem_ends_cat.1 h
      exact (ihs hys).trans (ihr hzs)
  | alt r s ihr ihs => exact (mem_ends_alt.1 h).elim ihr ihs
  | star r ih =>
      have hsteps := reflTransGen_of_mem_closure h
      clear h
      induction hsteps with
      | refl => exact List.suffix_refl xs
      | tail _ hstep ih' => exact (ih hstep).trans ih'

/-- Steps that leave an end of the text are all found in the closure: those that make no
progress can be left out. -/
lemma mem_closure_of_reflTransGen {f : Chars → List Chars} (hf : ∀ as, ∀ bs ∈ f as, bs <:+ as)
    (h : Relation.ReflTransGen (fun as bs => bs ∈ f as) xs ys) :
    ∀ k, xs.length ≤ k → ys ∈ closure f k xs := by
  induction h using Relation.ReflTransGen.head_induction_on with
  | refl =>
      intro k _
      cases k <;> simp [closure]
  | @head as bs hstep _ ih =>
      intro k hk
      have hsuf := hf as bs hstep
      by_cases hlen : bs.length < as.length
      · cases k with
        | zero => omega
        | succ k =>
            rw [closure]
            refine List.mem_cons_of_mem _ (List.mem_flatMap.2 ⟨bs, hstep, ?_⟩)
            rw [if_pos hlen]
            exact ih k (by omega)
      · obtain rfl := hsuf.eq_of_length_le (by omega)
        exact ih k hk

lemma mem_ends_star :
    ys ∈ (star r).ends n xs ↔ Relation.ReflTransGen (fun as bs => bs ∈ r.ends n as) xs ys :=
  ⟨reflTransGen_of_mem_closure, fun h =>
    mem_closure_of_reflTransGen (fun _ _ => suffix_of_mem_ends) h _ le_rfl⟩

/-- Any number of characters of a set. -/
lemma mem_ends_star_one {t : CharSet} :
    ys ∈ (star (one t)).ends n xs ↔ ∃ zs, xs = zs ++ ys ∧ ∀ c ∈ zs, t.has c = true := by
  rw [mem_ends_star]
  constructor
  · intro h
    induction h using Relation.ReflTransGen.head_induction_on with
    | refl => exact ⟨[], rfl, by simp⟩
    | head hstep _ ih =>
        obtain ⟨c, hc, rfl⟩ := mem_ends_one.1 hstep
        obtain ⟨zs, rfl, hzs⟩ := ih
        exact ⟨c :: zs, rfl, List.forall_mem_cons.2 ⟨hc, hzs⟩⟩
  · rintro ⟨zs, rfl, hzs⟩
    induction zs with
    | nil => exact .refl
    | cons c zs ih =>
        obtain ⟨hc, hzs⟩ := List.forall_mem_cons.1 hzs
        exact .head (mem_ends_one.2 ⟨c, hc, rfl⟩) (ih hzs)

/-- Characters of a set, at least one. -/
lemma mem_ends_plus_one {t : CharSet} :
    ys ∈ (plus (one t)).ends n xs ↔
      ∃ zs c, xs = zs ++ c :: ys ∧ t.has c = true ∧ ∀ d ∈ zs, t.has d = true := by
  rw [plus, mem_ends_cat]
  constructor
  · rintro ⟨as, has, hys⟩
    obtain ⟨c, hc, rfl⟩ := mem_ends_one.1 has
    obtain ⟨zs, rfl, hzs⟩ := mem_ends_star_one.1 hys
    rcases List.eq_nil_or_concat zs with rfl | ⟨zs, d, rfl⟩
    · exact ⟨[], c, rfl, hc, by simp⟩
    · rw [List.concat_eq_append] at hzs ⊢
      refine ⟨c :: zs, d, by simp, hzs d (by simp), fun e he => ?_⟩
      rcases List.mem_cons.1 he with rfl | he
      · exact hc
      · exact hzs e (List.mem_append_left _ he)
  · rintro ⟨zs, c, rfl, hc, hzs⟩
    cases zs with
    | nil => exact ⟨ys, mem_ends_one.2 ⟨c, hc, rfl⟩, mem_ends_star_one.2 ⟨[], rfl, by simp⟩⟩
    | cons d zs =>
        obtain ⟨hd, hzs⟩ := List.forall_mem_cons.1 hzs
        refine ⟨zs ++ c :: ys, mem_ends_one.2 ⟨d, hd, rfl⟩,
          mem_ends_star_one.2 ⟨zs ++ [c], by simp, fun e he => ?_⟩⟩
        rcases List.mem_append.1 he with he | he
        · exact hzs e he
        · rwa [List.mem_singleton.1 he]

/-- `.*` matches any text. -/
lemma mem_ends_star_any : ys ∈ (star any).ends n xs ↔ ys <:+ xs := by
  rw [any, mem_ends_star_one]
  constructor
  · rintro ⟨zs, rfl, -⟩
    exact List.suffix_append zs ys
  · rintro ⟨zs, rfl⟩
    exact ⟨zs, rfl, fun c _ => has_any c⟩

lemma mem_ends_seq_append {rs ss : List Ere} :
    ys ∈ (seq (rs ++ ss)).ends n xs ↔ ∃ zs ∈ (seq rs).ends n xs, ys ∈ (seq ss).ends n zs := by
  induction rs generalizing xs with
  | nil => simp [seq]
  | cons r rs ih =>
      simp only [List.cons_append, seq, mem_ends_cat, ih]
      constructor
      · rintro ⟨as, has, zs, hzs, hys⟩
        exact ⟨zs, ⟨as, has, hzs⟩, hys⟩
      · rintro ⟨zs, ⟨as, has, hzs⟩, hys⟩
        exact ⟨as, has, zs, hzs, hys⟩

/-- A search finds a match that starts somewhere in the line. -/
lemma search_iff {line : Chars} :
    r.search line = true ↔ ∃ xs, xs <:+ line ∧ ∃ ys, ys ∈ r.ends line.length xs := by
  simp only [search, List.any_eq_true, List.mem_tails, Bool.not_eq_true',
    List.isEmpty_eq_false_iff_exists_mem]

end Ends

end Ere

end InitialSetups.Text
