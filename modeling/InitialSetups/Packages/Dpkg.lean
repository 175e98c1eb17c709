import InitialSetups.Text.Ere

/-!
# The test for an installed package

`dpkg -l "$package" | grep -E "^i.+[ \t]+$package"`: the listing line of a package is searched
for the word of the argument read as a regular expression.  Inside the brackets `\t` is a
backslash and the letter `t`.
-/

namespace InitialSetups.Packages

open InitialSetups.Text

/-! ### The database of packages -/

/-- A character of a package name. -/
def IsNameChar (c : Char) : Bool := c.isLower || c.isDigit || c = '+' || c = '-' || c = '.'

/-- A name of a package: it starts with a letter or a digit. -/
def IsPackageName (name : Chars) : Bool :=
  name.head?.any (fun c => c.isLower || c.isDigit) && name.all IsNameChar

/-- What `dpkg` knows of a package. -/
structure Entry where
  /-- the letter of the desired action: `i` for install, `h` for hold, … -/
  desired : Char
  /-- the letter of the status: `i` for installed, `F` for half configured, … -/
  status : Char
  version : Chars
  arch : Chars
  description : Chars
  deriving DecidableEq, Repr

/-- The database of `dpkg`.  Only names of packages are known to it. -/
structure Db where
  entry : Chars → Option Entry
  named : ∀ name e, entry name = some e → IsPackageName name = true

/-- The text in a column of a width. -/
def column (width : ℕ) (text : Chars) : Chars :=
  text ++ List.replicate (width - text.length) ' ' ++ [' ']

/-- The widths of the columns of the listing. -/
structure Widths where
  name : ℕ
  version : ℕ
  arch : ℕ

/-- The line of the listing for a package. -/
def Entry.line (widths : Widths) (name : Chars) (e : Entry) : Chars :=
  e.desired :: e.status :: ' ' :: ' ' :: (column widths.name name ++
    (column widths.version e.version ++ (column widths.arch e.arch ++ e.description)))

/-- The output of `dpkg -l "$package"`. -/
def dpkgList (widths : Widths) (db : Db) (package : Chars) : List Chars :=
  ((db.entry package).map (Entry.line widths package)).toList

/-- The text `^i.+[ \t]+`. -/
def grepHead : Chars := "^i.+[ \\t]+".toList

/-- `dpkg -l "$package" | grep -E "^i.+[ \t]+$package"`. -/
def found (widths : Widths) (db : Db) (package : Chars) : Bool :=
  match Ere.parse (grepHead ++ package) with
  | some r => (dpkgList widths db package).any r.search
  | none => false

/-! ### The name read as a regular expression -/

open Ere

/-- A character of a name after the pieces read so far, the last first. -/
def addPiece (pieces : List Ere) (c : Char) : List Ere :=
  if c = '+' then
    match pieces with
    | r :: rs => plus r :: rs
    | [] => []
  else if c = '.' then any :: pieces
  else lit c :: pieces

/-- The pieces of a name, as a regular expression. -/
def namePieces (name : Chars) : List Ere := (name.foldl addPiece []).reverse

/-- The pieces of `^i.+[ \t]+`. -/
def headPieces : List Ere :=
  [bol, lit 'i', plus any, plus (one ⟨false, [(' ', ' '), ('\\', '\\'), ('t', 't')]⟩)]

/-- A character of the brackets `[ \t]`. -/
def IsGap (c : Char) : Prop := c = ' ' ∨ c = '\\' ∨ c = 't'

instance (c : Char) : Decidable (IsGap c) := inferInstanceAs (Decidable (_ ∨ _))

/-- The name is found in the line, read as a regular expression, after a blank, a backslash or
the letter `t`. -/
def Named (name line : Chars) : Prop :=
  ∃ pre c rest, line = pre ++ c :: rest ∧ 2 ≤ pre.length ∧ IsGap c ∧
    ∃ ys, ys ∈ (seq (namePieces name)).ends line.length rest

variable {name : Chars} {ps qs : List Ere} {c : Char}

lemma step_nameChar (hc : IsNameChar c = true) (hps : ps ≠ []) :
    Reader.step ⟨[], ps, .plain⟩ c = some ⟨[], addPiece ps c, .plain⟩ := by
  obtain ⟨r, rs, rfl⟩ := List.exists_cons_of_ne_nil hps
  -- no character of a name but `+` and `.` has a meaning in a regular expression
  have hne : ∀ d, IsNameChar d = false → c ≠ d := by
    rintro d hd rfl
    rw [hd] at hc
    cases hc
  simp only [Reader.step, addPiece, Reader.repeated, Reader.push]
  rw [if_neg (hne '\\' (by decide)), if_neg (hne '[' (by decide)), if_neg (hne '|' (by decide)),
    if_neg (hne '*' (by decide)), if_neg (hne '?' (by decide)), if_neg (hne '^' (by decide)),
    if_neg (hne '$' (by decide))]
  by_cases hplus : c = '+'
  · rw [if_pos hplus, if_pos hplus]
  by_cases hdot : c = '.'
  · rw [if_neg hplus, if_neg hplus, if_pos hdot, if_pos hdot]
  · rw [if_neg hplus, if_neg hplus, if_neg hdot, if_neg hdot, if_neg]
    rintro (h | h | h | h) <;> exact hne _ (by decide) h

lemma addPiece_append (hps : ps ≠ []) : addPiece (ps ++ qs) c = addPiece ps c ++ qs := by
  obtain ⟨r, rs, rfl⟩ := List.exists_cons_of_ne_nil hps
  unfold addPiece
  split_ifs <;> rfl

lemma addPiece_ne_nil (hps : ps ≠ []) : addPiece ps c ≠ [] := by
  obtain ⟨r, rs, rfl⟩ := List.exists_cons_of_ne_nil hps
  unfold addPiece
  split_ifs <;> simp

/-- Reading the characters of a name adds its pieces. -/
lemma foldlM_step_name (hname : ∀ c ∈ name, IsNameChar c = true) (hps : ps ≠ []) :
    name.foldlM Reader.step ⟨[], ps, .plain⟩ = some ⟨[], name.foldl addPiece ps, .plain⟩ := by
  induction name generalizing ps with
  | nil => rfl
  | cons c name ih =>
      rw [List.foldlM_cons, step_nameChar (hname c List.mem_cons_self) hps]
      exact ih (fun d hd => hname d (List.mem_cons_of_mem c hd)) (addPiece_ne_nil hps)

lemma foldl_addPiece_append (hps : ps ≠ []) :
    name.foldl addPiece (ps ++ qs) = name.foldl addPiece ps ++ qs := by
  induction name generalizing ps with
  | nil => rfl
  | cons c name ih =>
      rw [List.foldl_cons, List.foldl_cons, addPiece_append hps, ih (addPiece_ne_nil hps)]

/-- The whole text is read as the pieces of its head followed by those of the name. -/
lemma parse_grep (h : IsPackageName name = true) :
    parse (grepHead ++ name) = some (seq (headPieces ++ namePieces name)) := by
  rw [IsPackageName, Bool.and_eq_true, List.all_eq_true] at h
  have hhead : grepHead.foldlM Reader.step ⟨[], [], .plain⟩ =
      some ⟨[], headPieces.reverse, .plain⟩ := by decide
  have hne : headPieces.reverse ≠ [] := by decide
  have hpieces : name.foldl addPiece headPieces.reverse =
      name.foldl addPiece [] ++ headPieces.reverse := by
    -- the first character of the name is no `+`, so the head is left alone
    cases name with
    | nil => rfl
    | cons c name =>
        have hc : c ≠ '+' := by
          rintro rfl
          cases h.1
        have hfirst : ∀ qs, addPiece qs c = addPiece [] c ++ qs := by
          intro qs
          unfold addPiece
          rw [if_neg hc, if_neg hc]
          split_ifs <;> rfl
        have hsome : addPiece [] c ≠ [] := by
          unfold addPiece
          rw [if_neg hc]
          split_ifs <;> simp
        rw [List.foldl_cons, List.foldl_cons, hfirst, foldl_addPiece_append hsome]
  rw [parse, List.foldlM_append, hhead]
  show (name.foldlM Reader.step _).bind Reader.finish = _
  rw [foldlM_step_name h.2 hne, hpieces]
  show some (seq _) = _
  rw [namePieces, List.reverse_append, List.reverse_reverse]

/-- What `^i.+[ \t]+` leaves of a line. -/
lemma mem_ends_headPieces {line rest : Chars} :
    (∃ xs, xs <:+ line ∧ rest ∈ (seq headPieces).ends line.length xs) ↔
      ∃ pre c, line = pre ++ c :: rest ∧ 2 ≤ pre.length ∧ pre.head? = some 'i' ∧ IsGap c := by
  have hgap : ∀ c, (⟨false, [(' ', ' '), ('\\', '\\'), ('t', 't')]⟩ : CharSet).has c = true ↔
      IsGap c := by
    intro c
    exact (@has_listed c [' ', '\\', 't']).trans (by simp [IsGap])
  simp only [headPieces, seq, mem_ends_cat, mem_ends_bol, mem_ends_lit, any, mem_ends_plus_one,
    mem_ends_empty, hgap]
  constructor
  · rintro ⟨xs, hxs, zs, ⟨rfl, hlen⟩, as, rfl, bs, ⟨p, c, rfl, -, -⟩, cs, ⟨q, d, rfl, hd, -⟩, rfl⟩
    obtain rfl := hxs.eq_of_length hlen
    exact ⟨'i' :: (p ++ c :: q), d, by simp, by simp; omega, rfl, hd⟩
  · rintro ⟨pre, d, rfl, hlen, hhead, hd⟩
    obtain ⟨p, rfl⟩ : ∃ p, pre = 'i' :: p := List.head?_eq_some_iff.1 hhead
    rcases List.eq_nil_or_concat p with rfl | ⟨p, c, rfl⟩
    · simp at hlen
    · rw [List.concat_eq_append]
      exact ⟨_, List.suffix_refl _, _, ⟨rfl, rfl⟩, p ++ c :: d :: rest, by simp, d :: rest,
        ⟨p, c, rfl, has_any c, fun e _ => has_any e⟩, rest, ⟨[], d, rfl, hd, by simp⟩, rfl⟩

/-- The line of a package passes the test when its first letter is `i` and the name is found in
it. -/
lemma search_grep {line : Chars} :
    (seq (headPieces ++ namePieces name)).search line = true ↔
      line.head? = some 'i' ∧ Named name line := by
  rw [search_iff]
  constructor
  · rintro ⟨xs, hxs, ys, hys⟩
    obtain ⟨rest, hrest, hys⟩ := mem_ends_seq_append.1 hys
    obtain ⟨pre, c, rfl, hlen, hhead, hc⟩ := mem_ends_headPieces.1 ⟨xs, hxs, hrest⟩
    refine ⟨?_, pre, c, rest, rfl, hlen, hc, ys, hys⟩
    rw [List.head?_append, hhead]
    rfl
  · rintro ⟨hhead, pre, c, rest, rfl, hlen, hc, ys, hys⟩
    have hhead' : pre.head? = some 'i' := by
      cases pre with
      | nil => simp at hlen
      | cons d pre => exact hhead
    obtain ⟨xs, hxs, hrest⟩ := mem_ends_headPieces.2 ⟨pre, c, rfl, hlen, hhead', hc⟩
    exact ⟨xs, hxs, ys, mem_ends_seq_append.2 ⟨rest, hrest, hys⟩⟩

/-- The test succeeds for the packages known to `dpkg` whose desired action is to install them
and whose name is found in their line. -/
lemma found_iff {widths : Widths} {db : Db} {package : Chars} :
    found widths db package = true ↔ ∃ e, db.entry package = some e ∧ e.desired = 'i' ∧
      Named package (e.line widths package) := by
  cases he : db.entry package with
  | none =>
      have hnil : dpkgList widths db package = [] := by simp [dpkgList, he]
      rw [found, hnil]
      split <;> simp
  | some e =>
      have hline : dpkgList widths db package = [e.line widths package] := by simp [dpkgList, he]
      rw [found, parse_grep (db.named package e he), hline]
      simp only [List.any_cons, List.any_nil, Bool.or_false, search_grep, Option.some.injEq,
        exists_eq_left']
      exact and_congr_left' Option.some_inj

/-! ### Names without `+` -/

/-- The piece for a character other than `+`. -/
def namePiece (c : Char) : Ere := if c = '.' then any else lit c

lemma foldl_addPiece_plain (hplus : '+' ∉ name) (qs : List Ere) :
    name.foldl addPiece qs = (name.map namePiece).reverse ++ qs := by
  induction name generalizing qs with
  | nil => rfl
  | cons c name ih =>
      obtain ⟨hc, hplus⟩ := not_or.1 (mt List.mem_cons.2 hplus)
      have hpiece : addPiece qs c = namePiece c :: qs := by
        simp only [addPiece, namePiece, if_neg (Ne.symm hc)]
        split_ifs <;> rfl
      rw [List.foldl_cons, hpiece, ih hplus, List.map_cons, List.reverse_cons, List.append_assoc]
      rfl

/-- A name without `+`, read as a regular expression, matches itself. -/
lemma mem_ends_namePieces (hplus : '+' ∉ name) (n : ℕ) (rest : Chars) :
    rest ∈ (seq (namePieces name)).ends n (name ++ rest) := by
  rw [namePieces, foldl_addPiece_plain hplus, List.append_nil, List.reverse_reverse]
  clear hplus
  induction name with
  | nil => exact mem_ends_empty.2 rfl
  | cons c name ih =>
      refine mem_ends_cat.2 ⟨name ++ rest, ?_, ih⟩
      rw [namePiece]
      split_ifs
      · exact mem_ends_any.2 ⟨c, rfl⟩
      · exact mem_ends_lit.2 rfl

/-- A name without `+` is found in the line of its own package. -/
lemma named_of_plain (hplus : '+' ∉ name) (widths : Widths) (e : Entry) :
    Named name (e.line widths name) := by
  obtain ⟨rest, hrest⟩ : ∃ rest, e.line widths name = [e.desired, e.status, ' '] ++ ' ' ::
      (name ++ rest) := by
    rw [Entry.line, column, List.append_assoc, List.append_assoc]
    exact ⟨_, rfl⟩
  exact ⟨[e.desired, e.status, ' '], ' ', name ++ rest, hrest, by simp, .inl rfl, rest,
    mem_ends_namePieces hplus _ rest⟩

end InitialSetups.Packages
