import InitialSetups.Text.Dotted
import InitialSetups.Tmux.CommandLine
import Mathlib.Data.List.Find

/-!
# The user in the configuration of `ssh`

`awk` writes `.*` at both ends of a host pattern and between any two of its characters, and the
loop searches the host for that expression or for the user name after the `|`.  So a `Host` block
is taken as soon as the characters of its pattern stand in the host in this order, or the user
name stands in it (`lineMatches_iff`).  `label_right_iff` compares this with the block that `ssh`
itself would take.
-/

namespace InitialSetups.Tmux

open InitialSetups.Text Ere

/-- A `Host` block: one pattern of ordinary characters, dots and `*`, and maybe a user. -/
structure Block where
  pattern : Chars
  user : Option Chars
  pattern_chars : ∀ c ∈ pattern, (Ordinary c ∨ c = '.') ∨ c = '*'
  user_word : ∀ name ∈ user, IsWord isBlank name
  user_chars : ∀ name ∈ user, ∀ c ∈ name, Ordinary c ∨ c = '.'

/-- The fields of the lines of the block. -/
def Block.fields (b : Block) : List (List Chars) :=
  ["Host".toList, b.pattern] :: match b.user with
    | some name => [["User".toList, name]]
    | none => []

/-- The patterns with a user, and their users. -/
def entries (blocks : List Block) : List (Chars × Chars) :=
  blocks.filterMap fun b => b.user.map fun name => (b.pattern, name)

/-- The pattern matches the whole host: `*` stands for any text, every other character for
itself. -/
def glob : Chars → Chars → Bool
  | [], host => host.isEmpty
  | c :: pattern, host =>
    if c = '*' then host.tails.any (glob pattern)
    else match host with
      | [] => false
      | d :: host => decide (c = d) && glob pattern host

/-- The user of the first block that matches the host, as `ssh` finds it. -/
def wantedUser (blocks : List Block) (host me : Chars) : Chars :=
  match (entries blocks).find? fun e => glob e.1 host with
  | some e => e.2
  | none => me

/-- The characters stand in the host in this order. -/
def inOrder : Chars → Chars → Bool
  | [], _ => true
  | _ :: _, [] => false
  | c :: pattern, d :: host =>
    decide (Fits c d) && inOrder pattern host || inOrder (c :: pattern) host

/-- The name stands in the host. -/
def occurs (name host : Chars) : Bool :=
  host.tails.any fun xs => decide (List.Forall₂ Fits name (xs.take name.length))

/-- What the script takes for a match. -/
def matchesLoosely (host : Chars) (e : Chars × Chars) : Bool :=
  inOrder (e.1.filter (· ≠ '*')) host || occurs e.2 host

/-- The user that the script finds. -/
def looseUser (blocks : List Block) (host me : Chars) : Chars :=
  if entries blocks = [] then []
  else match (entries blocks).find? (matchesLoosely host) with
    | some e => e.2
    | none => me

variable {n : ℕ} {xs ys zs ws host pattern name : Chars} {r : Ere} {ps : List Ere}

/-! ### Characters in order -/

lemma inOrder_iff : inOrder pattern host = true ↔ List.SublistForall₂ Fits pattern host := by
  induction host generalizing pattern with
  | nil =>
      cases pattern with
      | nil => exact ⟨fun _ => .nil, fun _ => rfl⟩
      | cons c pattern => exact ⟨fun h => (by cases h), fun h => (by cases h)⟩
  | cons d host ih =>
      cases pattern with
      | nil => exact ⟨fun _ => .nil, fun _ => rfl⟩
      | cons c pattern =>
          rw [inOrder, Bool.or_eq_true, Bool.and_eq_true, decide_eq_true_eq, ih, ih]
          constructor
          · rintro (⟨hfit, h⟩ | h)
            · exact .cons hfit h
            · exact .cons_right h
          · intro h
            cases h with
            | cons hfit h => exact .inl ⟨hfit, h⟩
            | cons_right h => exact .inr h

lemma sublistForall₂_append_left (h : List.SublistForall₂ Fits pattern ws) :
    List.SublistForall₂ Fits pattern (zs ++ ws) := by
  induction zs with
  | nil => exact h
  | cons z zs ih => exact .cons_right ih

lemma sublistForall₂_append_right (h : List.SublistForall₂ Fits pattern ws) :
    List.SublistForall₂ Fits pattern (ws ++ zs) := by
  induction h with
  | nil => exact .nil
  | cons hfit _ ih => exact .cons hfit ih
  | cons_right _ ih => exact .cons_right ih

lemma sublistForall₂_cons_iff {c : Char} : List.SublistForall₂ Fits (c :: pattern) zs ↔
    ∃ us d ws, zs = us ++ d :: ws ∧ Fits c d ∧ List.SublistForall₂ Fits pattern ws := by
  constructor
  · intro h
    induction zs with
    | nil => cases h
    | cons z zs ih =>
        cases h with
        | cons hfit h => exact ⟨[], z, zs, rfl, hfit, h⟩
        | cons_right h =>
            obtain ⟨us, d, ws, rfl, hfit, h⟩ := ih h
            exact ⟨z :: us, d, ws, rfl, hfit, h⟩
  · rintro ⟨us, d, ws, rfl, hfit, h⟩
    exact sublistForall₂_append_left (.cons hfit h)

lemma occurs_iff : occurs name host = true ↔
    ∃ zs, zs <:+: host ∧ List.Forall₂ Fits name zs := by
  simp only [occurs, List.any_eq_true, List.mem_tails, decide_eq_true_eq]
  constructor
  · rintro ⟨xs, hxs, h⟩
    exact ⟨_, (List.take_prefix _ xs).isInfix.trans hxs.isInfix, h⟩
  · rintro ⟨zs, ⟨as, bs, rfl⟩, h⟩
    refine ⟨zs ++ bs, ⟨as, by simp⟩, ?_⟩
    rwa [h.length_eq, List.take_left]

/-! ### The expression that `awk` makes of a pattern -/

/-- The expression matches any text. -/
def MatchesAll (r : Ere) : Prop := ∀ n xs ys, ys ∈ r.ends n xs ↔ ys <:+ xs

lemma matchesAll_star_any : MatchesAll (star any) := fun _ _ _ => mem_ends_star_any

lemma MatchesAll.star (h : MatchesAll r) : MatchesAll (star r) := by
  intro n xs ys
  rw [mem_ends_star]
  constructor
  · intro hsteps
    induction hsteps with
    | refl => exact List.suffix_refl _
    | tail _ hstep ih => exact ((h n _ _).1 hstep).trans ih
  · exact fun hys => .single ((h n xs ys).2 hys)

lemma longest_star_backslash (hxs : '\\' ∉ xs) : longest n (star (lit '\\')) xs = some xs := by
  refine longest_eq_some.2 ⟨mem_ends_star.2 .refl, fun zs hzs => ?_⟩
  rw [lit, mem_ends_star_one] at hzs
  obtain ⟨as, rfl, has⟩ := hzs
  cases as with
  | nil => exact le_rfl
  | cons a as =>
      have ha := has_lit.1 (has a List.mem_cons_self)
      rw [ha] at hxs
      simp at hxs

/-- Without backslashes the first rewriting does nothing, and the second writes `.*`
everywhere. -/
lemma rewriteHost_eq (h : '\\' ∉ pattern) :
    rewriteHost pattern = ".*".toList ++ pattern.flatMap fun c => c :: ".*".toList := by
  have hfirst : gsub (cat (lit '\\') any) "\\.".toList pattern = pattern := by
    refine gsubFrom_of_no_match fun zs hzs => List.eq_nil_iff_forall_not_mem.2 fun ys hys => h ?_
    obtain ⟨as, has, -⟩ := mem_ends_cat.1 hys
    rw [mem_ends_lit.1 has] at hzs
    exact hzs.subset List.mem_cons_self
  rw [rewriteHost, hfirst]
  exact gsubFrom_of_empty_matches
    (fun zs hzs => longest_star_backslash fun hmem => h (hzs.subset hmem)) (Nat.lt_succ_self _)

/-- Pieces after which a piece matches any text. -/
lemma mem_ends_concat_all (h : MatchesAll r) :
    ys ∈ (seq (r :: ps).reverse).ends n xs ↔ ∃ zs ∈ (seq ps.reverse).ends n xs, ys <:+ zs := by
  simp only [List.reverse_cons, mem_ends_seq_append, seq, mem_ends_cat, mem_ends_empty, h n _ _]
  constructor
  · rintro ⟨zs, hzs, _, hys, rfl⟩
    exact ⟨zs, hzs, hys⟩
  · rintro ⟨zs, hzs, hys⟩
    exact ⟨zs, hzs, _, hys, rfl⟩

lemma mem_ends_concat_dotPiece {c : Char} : ys ∈ (seq (dotPiece c :: ps).reverse).ends n xs ↔
    ∃ d, Fits c d ∧ d :: ys ∈ (seq ps.reverse).ends n xs := by
  simp only [List.reverse_cons, mem_ends_seq_append, seq, mem_ends_cat, mem_ends_empty,
    mem_ends_dotPiece]
  constructor
  · rintro ⟨_, hzs, _, ⟨d, hd, rfl⟩, rfl⟩
    exact ⟨d, hd, hzs⟩
  · rintro ⟨d, hd, h⟩
    exact ⟨_, h, _, ⟨d, hd, rfl⟩, rfl⟩

/-- Reading a rewritten pattern.  The induction is on the pattern, with the pieces read before it;
the last of them always matches any text. -/
lemma foldlM_step_rewritten (hpattern : ∀ c ∈ pattern, (Ordinary c ∨ c = '.') ∨ c = '*')
    (hr : MatchesAll r) :
    ∃ r' ps', MatchesAll r' ∧
      (pattern.flatMap fun c => c :: ".*".toList).foldlM Reader.step ⟨[], r :: ps, .plain⟩ =
        some ⟨[], r' :: ps', .plain⟩ ∧
      ∀ n xs ys, ys ∈ (seq (r' :: ps').reverse).ends n xs ↔
        ∃ ws, ws ++ ys ∈ (seq ps.reverse).ends n xs ∧
          List.SublistForall₂ Fits (pattern.filter (· ≠ '*')) ws := by
  induction pattern generalizing r ps with
  | nil =>
      refine ⟨r, ps, hr, rfl, fun n xs ys => ?_⟩
      rw [mem_ends_concat_all hr]
      constructor
      · rintro ⟨_, hzs, ws, rfl⟩
        exact ⟨ws, hzs, .nil⟩
      · rintro ⟨ws, hws, -⟩
        exact ⟨_, hws, List.suffix_append ws ys⟩
  | cons c pattern ih =>
      obtain ⟨hc, htail⟩ := List.forall_mem_cons.1 hpattern
      rcases hc with hc | hc
      · -- an ordinary character, or a dot
        obtain ⟨r', ps', hr', hread, hends⟩ :=
          @ih (star any) (dotPiece c :: r :: ps) htail matchesAll_star_any
        refine ⟨r', ps', hr', ?_, fun n xs ys => ?_⟩
        · rw [List.flatMap_cons, List.cons_append, List.foldlM_cons, step_dotPiece hc]
          exact hread
        have hne : c ≠ '*' := by
          rcases hc with hc | rfl
          · exact hc.ne (by decide)
          · decide
        rw [hends, List.filter_cons_of_pos (by simp [hne])]
        simp only [mem_ends_concat_dotPiece, mem_ends_concat_all hr]
        constructor
        · rintro ⟨ws, ⟨d, hd, _, hzs, us, rfl⟩, hws⟩
          exact ⟨us ++ d :: ws, by simpa using hzs,
            sublistForall₂_cons_iff.2 ⟨us, d, ws, rfl, hd, hws⟩⟩
        · rintro ⟨_, hzs, hws⟩
          obtain ⟨us, d, ws, rfl, hd, hws⟩ := sublistForall₂_cons_iff.1 hws
          exact ⟨ws, ⟨d, hd, _, hzs, us, by simp⟩, hws⟩
      · -- a star repeats the piece before it
        subst hc
        obtain ⟨r', ps', hr', hread, hends⟩ :=
          @ih (star any) (star r :: ps) htail matchesAll_star_any
        refine ⟨r', ps', hr', hread, fun n xs ys => ?_⟩
        rw [hends, List.filter_cons_of_neg (by simp)]
        simp only [mem_ends_concat_all hr.star]
        constructor
        · rintro ⟨ws, ⟨_, hzs, us, rfl⟩, hws⟩
          exact ⟨us ++ ws, by simpa using hzs, sublistForall₂_append_left hws⟩
        · rintro ⟨ws, hzs, hws⟩
          exact ⟨ws, ⟨_, hzs, List.suffix_refl _⟩, hws⟩

/-! ### The line of a block -/

/-- The line that `awk` prints for a pattern and its user. -/
def printedLine (e : Chars × Chars) : Chars := rewriteHost e.1 ++ '|' :: e.2

variable {b : Block} {blocks : List Block} {e : Chars × Chars}

lemma mem_entries : e ∈ entries blocks ↔ ∃ b ∈ blocks, b.pattern = e.1 ∧ b.user = some e.2 := by
  simp only [entries, List.mem_filterMap, Option.map_eq_some_iff]
  constructor
  · rintro ⟨b, hb, name, hname, rfl⟩
    exact ⟨b, hb, rfl, hname⟩
  · rintro ⟨b, hb, hpattern, hname⟩
    exact ⟨b, hb, e.2, hname, by rw [hpattern]⟩

/-- What the constructor of blocks says of a pattern and its user. -/
structure PlainEntry (e : Chars × Chars) : Prop where
  pattern_chars : ∀ c ∈ e.1, (Ordinary c ∨ c = '.') ∨ c = '*'
  user_word : IsWord isBlank e.2
  user_chars : ∀ c ∈ e.2, Ordinary c ∨ c = '.'

lemma plainEntry_of_mem (h : e ∈ entries blocks) : PlainEntry e := by
  obtain ⟨b, -, hpattern, huser⟩ := mem_entries.1 h
  exact ⟨hpattern ▸ b.pattern_chars, b.user_word e.2 huser, b.user_chars e.2 huser⟩

lemma PlainEntry.no_backslash (h : PlainEntry e) : '\\' ∉ e.1 := by
  intro hmem
  rcases h.pattern_chars _ hmem with (hc | hc) | hc
  · exact hc (by decide)
  · cases hc
  · cases hc

/-- The line of a block as a regular expression: the pattern, loosely, or the user name. -/
lemma lineMatches_iff (h : PlainEntry e) :
    lineMatches host (printedLine e) = matchesLoosely host e := by
  obtain ⟨r', ps', -, hread, hends⟩ :=
    @foldlM_step_rewritten e.1 (star any) [] h.pattern_chars matchesAll_star_any
  have hparse : parse (printedLine e) =
      some (alt (seq (r' :: ps').reverse) (seq (e.2.map dotPiece))) := by
    rw [parse, printedLine, rewriteHost_eq h.no_backslash, List.append_assoc, List.foldlM_append]
    show ((List.foldlM Reader.step ⟨[], [star any], .plain⟩ _).bind _) = _
    rw [List.foldlM_append, hread]
    show ((List.foldlM Reader.step ⟨[seq (r' :: ps').reverse], [], .plain⟩ e.2).bind _) = _
    rw [foldlM_step_dotted h.user_chars, List.append_nil]
    show some (alts [_, seq (e.2.map dotPiece).reverse.reverse]) = _
    rw [List.reverse_reverse]
    rfl
  rw [lineMatches, hparse, Bool.eq_iff_iff, matchesLoosely, Bool.or_eq_true, inOrder_iff,
    occurs_iff]
  simp only [search_iff, mem_ends_alt, hends, mem_ends_dotted, List.reverse_nil, seq,
    mem_ends_empty]
  constructor
  · rintro ⟨xs, ⟨us, rfl⟩, ys, ⟨ws, rfl, hws⟩ | ⟨zs, hzs, rfl⟩⟩
    · exact .inl (sublistForall₂_append_left (sublistForall₂_append_right hws))
    · exact .inr ⟨zs, ⟨us, ys, by simp⟩, hzs⟩
  · rintro (h | ⟨zs, ⟨us, ys, rfl⟩, hzs⟩)
    · exact ⟨host, List.suffix_refl _, [], .inl ⟨host, List.append_nil _, h⟩⟩
    · exact ⟨zs ++ ys, ⟨us, by simp⟩, ys, .inr ⟨zs, hzs, rfl⟩⟩

/-! ### The lines of the configuration -/

/-- Blocks leave one printed line for each pattern with a user. -/
lemma foldl_step_blocks (host : Chars) (printed : List Chars) :
    ((blocks.flatMap Block.fields).foldl Awk.step ⟨host, printed⟩).printed =
      printed ++ (entries blocks).map printedLine := by
  induction blocks generalizing host printed with
  | nil => simp [entries]
  | cons b blocks ih =>
      rw [List.flatMap_cons, List.foldl_append, Block.fields]
      cases huser : b.user with
      | none =>
          have hentries : entries (b :: blocks) = entries blocks := by
            rw [entries, List.filterMap_cons, huser]
            rfl
          rw [hentries]
          exact ih (rewriteHost b.pattern) printed
      | some name =>
          have hentries : entries (b :: blocks) = (b.pattern, name) :: entries blocks := by
            rw [entries, List.filterMap_cons, huser]
            rfl
          have hline : [' '].intercalate [name] = name := by simp [List.intercalate]
          have hsteps : ["Host".toList, b.pattern] :: [["User".toList, name]] =
              [["Host".toList, b.pattern], ["User".toList, name]] := rfl
          rw [hentries, List.map_cons]
          show (List.foldl Awk.step ⟨rewriteHost b.pattern,
            printed ++ [rewriteHost b.pattern ++ '|' :: [' '].intercalate [name]]⟩ _).printed = _
          rw [ih, hline, List.append_assoc]
          rfl

lemma printedLine_eq (h : PlainEntry e) : printedLine e =
    '.' :: ('*' :: (e.1.flatMap fun c => c :: ".*".toList) ++ '|' :: e.2) := by
  rw [printedLine, rewriteHost_eq h.no_backslash]
  rfl

/-- `read` takes nothing away from the line. -/
lemma strip_printedLine (h : PlainEntry e) : strip (printedLine e) = printedLine e := by
  obtain ⟨zs, d, hd⟩ := (List.eq_nil_or_concat e.2).resolve_left h.user_word.ne_nil
  rw [List.concat_eq_append] at hd
  have hblank : isBlank d = false := h.user_word.solid d (by rw [hd]; simp)
  have hend : printedLine e = (rewriteHost e.1 ++ '|' :: zs) ++ [d] := by
    rw [printedLine, hd]
    simp
  have hstart := printedLine_eq h
  rw [hstart] at hend ⊢
  have hstrip := (@strip_eq_iff _ _ [] '.' d rfl hblank hend).2 (by simp [Blank])
  rwa [List.append_nil] at hstrip

/-- No bar stands before the one that separates the user. -/
lemma afterBar_printedLine (h : PlainEntry e) : afterBar (printedLine e) = e.2 := by
  have hbar : ∀ c ∈ rewriteHost e.1, decide (c ≠ '|') = true := by
    intro c hc
    rw [rewriteHost_eq h.no_backslash, List.mem_append, List.mem_flatMap] at hc
    rw [decide_eq_true_eq]
    rcases hc with hc | ⟨d, hd, hc⟩
    · exact ne_of_mem_of_not_mem hc (by decide)
    · rcases List.mem_cons.1 hc with rfl | hc
      · rcases h.pattern_chars c hd with (hd | rfl) | rfl
        · exact hd.ne (by decide)
        · decide
        · decide
      · exact ne_of_mem_of_not_mem hc (by decide)
  have hmem : '|' ∈ printedLine e := by simp [printedLine]
  rw [afterBar, if_pos hmem, printedLine, List.dropWhile_append_of_pos hbar]
  rfl

lemma hostUsers_eq {config : List Chars}
    (hconfig : config.map (words isBlank) = blocks.flatMap Block.fields) :
    hostUsers config = (entries blocks).map printedLine := by
  rw [hostUsers, hconfig, foldl_step_blocks, List.nil_append]

/-- The loop takes the user of the first block that matches loosely. -/
lemma lookup_eq {config : List Chars} (me : Chars)
    (hconfig : config.map (words isBlank) = blocks.flatMap Block.fields) :
    lookup host (hostUsers config) me = looseUser blocks host me := by
  rw [lookup, hostUsers_eq hconfig, readLines, looseUser]
  by_cases hnil : entries blocks = []
  · -- the empty line is an expression that matches every host
    have hmatch : lineMatches host [] = true :=
      search_iff.2 ⟨host, List.suffix_refl _, host, mem_ends_empty.2 rfl⟩
    rw [if_pos hnil, if_pos (by rw [hnil]; rfl), List.find?_cons_of_pos hmatch]
    rfl
  · have hstrip : (entries blocks).map (strip ∘ printedLine) = (entries blocks).map printedLine :=
      List.map_congr_left fun e he => strip_printedLine (plainEntry_of_mem he)
    have hmatch : ∀ e ∈ entries blocks,
        (lineMatches host ∘ printedLine) e = matchesLoosely host e :=
      fun e he => lineMatches_iff (plainEntry_of_mem he)
    rw [if_neg hnil, if_neg (by simpa using hnil), List.map_map, hstrip, List.find?_map,
      List.find?_congr hmatch]
    cases hfind : (entries blocks).find? (matchesLoosely host) with
    | none => rfl
    | some e => exact afterBar_printedLine (plainEntry_of_mem (List.mem_of_find?_eq_some hfind))

/-! ### The label -/

lemma label_inj {user user' : Chars} : label user host = label user' host ↔ user = user' := by
  constructor
  · intro h
    have hhost := List.append_cancel_right h
    have huser := List.append_cancel_right hhost
    exact List.append_cancel_left huser
  · rintro rfl
    rfl

/-- A block that matches the whole host also matches loosely: the script never passes by the
block that `ssh` takes. -/
theorem matchesLoosely_of_glob (h : glob e.1 host = true) : matchesLoosely host e = true := by
  refine Bool.or_eq_true _ _ ▸ .inl (inOrder_iff.2 ?_)
  generalize e.1 = pattern at h
  induction pattern generalizing host with
  | nil => exact .nil
  | cons c pattern ih =>
      rw [glob.eq_def] at h
      simp only at h
      split_ifs at h with hc
      · obtain ⟨xs, hxs, hglob⟩ := List.any_eq_true.1 h
        obtain ⟨us, rfl⟩ := (List.mem_tails _ _).1 hxs
        rw [List.filter_cons_of_neg (by simp [hc])]
        exact sublistForall₂_append_left (ih hglob)
      · cases host with
        | nil => cases h
        | cons d host =>
            rw [Bool.and_eq_true, decide_eq_true_eq] at h
            rw [List.filter_cons_of_pos (by simp [hc])]
            exact .cons (.inr h.1) (ih h.2)

/-- `Host db*` with the user `bob`. -/
def dbBlock : Block where
  pattern := "db*".toList
  user := some "bob".toList
  pattern_chars := forall_mem_of_all rfl
  user_word := by
    rintro name ⟨⟩
    exact ⟨List.cons_ne_nil _ _, forall_mem_of_all rfl⟩
  user_chars := by
    rintro name ⟨⟩
    exact forall_mem_of_all rfl

/-- `Host web*` with the user `amy`. -/
def webBlock : Block where
  pattern := "web*".toList
  user := some "amy".toList
  pattern_chars := forall_mem_of_all rfl
  user_word := by
    rintro name ⟨⟩
    exact ⟨List.cons_ne_nil _ _, forall_mem_of_all rfl⟩
  user_chars := by
    rintro name ⟨⟩
    exact forall_mem_of_all rfl

/-- `ssh -p 2222 web1`. -/
def webCommand : Command where
  pid := "17".toList
  blanks := " ".toList
  port := some "2222".toList
  user := none
  host := "web1".toList
  pid_digits := forall_mem_of_all rfl
  blanks_blank := forall_mem_of_all rfl
  port_number := by
    rintro number ⟨⟩
    exact ⟨List.cons_ne_nil _ _, forall_mem_of_all rfl⟩
  user_name := by rintro name ⟨⟩
  host_name := ⟨⟨List.cons_ne_nil _ _, forall_mem_of_all rfl⟩, by decide⟩

/-- A pattern without `*` is taken for any host that contains its characters in order. -/
example : paneBorder ["17 ssh awebb1".toList] ["Host web".toList, "  User amy".toList] "me".toList =
    some " ssh:amy@awebb1 ".toList := by decide

end InitialSetups.Tmux
