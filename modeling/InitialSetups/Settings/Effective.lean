import InitialSetups.Settings.Swappiness

/-!
# When the swappiness block does what it is for

`reads` says what a line sets in which `vm.swappiness = 10` stands after `pre`, worked out from
`pre` and what follows.  With it the effective values after the block are compared with those
before it, and `swappinessSet_iff` gives the files on which the block is right.
-/

namespace InitialSetups.Settings

open InitialSetups.Text Ere

/-- The key `vm.swappiness`. -/
def swappiness : Chars := "vm.swappiness".toList

/-- What a line sets that reads `pre`, then `vm.swappiness = 10`, then `post`. -/
def reads (pre post : Chars) : Option (Chars × Chars) :=
  if isComment pre = true then none
  else if '=' ∈ pre then
    if keyText pre = [] then none
    else some (keyText pre, strip (afterEq pre ++ (setting ++ post)))
  else some (pre.dropWhile isBlank ++ swappiness, strip (ten ++ post))

/-- What a line sets once its match is `vm.swappiness = 10`. -/
def turned (line : Chars) : Option (Chars × Chars) :=
  match firstMatch line.length swappinessEre line with
  | some (pre, post) => reads pre post
  | none => assignment line

/-- The block has done what it is for. -/
structure SwappinessSet (f f' : TextFile) : Prop where
  value : effective f'.all swappiness = some ten
  others : ∀ key, key ≠ swappiness → effective f'.all key = effective f.all key
  comments : ∀ (i : ℕ) line, f.all[i]? = some line → isComment line = true →
    f'.all[i]? = some line
  again : setSwappiness f' = f'

/-- The edit does not disturb the key: at the last line that sets it, or turns into one that sets
it, both ways of reading the line come to the same. -/
def Undisturbed (lines : List Chars) (key : Chars) : Prop :=
  ∀ before line after, lines = before ++ line :: after →
    (∀ m ∈ after, valueFor key (assignment m) = none ∧ valueFor key (turned m) = none) →
    (valueFor key (assignment line) ≠ none ∨ valueFor key (turned line) ≠ none) →
    MeetAt (fun m => valueFor key (assignment m)) (fun m => valueFor key (turned m)) before line

/-- The lines can be edited: a comment that matches reads `vm.swappiness = 10` already, the last
line that turns into an assignment of `vm.swappiness` then sets it to 10, and no other key is
disturbed. -/
structure EditSafe (lines : List Chars) : Prop where
  comments : ∀ line ∈ lines, isComment line = true →
    ∀ pre c ds post, HitAt line pre c ds post → c = '.' ∧ ds = ten
  value : ∃ before line after, lines = before ++ line :: after ∧
    turned line = some (swappiness, ten) ∧ ∀ m ∈ after, ∀ v, turned m ≠ some (swappiness, v)
  others : ∀ key, key ≠ swappiness → Undisturbed lines key

/-- The line can be appended: no text stands after the last newline, or that text is no comment,
swappiness is 10 all the same, and the text makes no other key of the new line. -/
def AppendSafe (f : TextFile) : Prop :=
  Blank f.rest ∨ isComment f.rest = false ∧ effective f.all swappiness = some ten ∧
    ('=' ∈ f.rest ∧ keyText f.rest = [] ∨
      '=' ∉ f.rest ∧ effective f.all (f.rest.dropWhile isBlank ++ swappiness) = some ten)

variable {line pre post key value : Chars} {f : TextFile}

/-! ### What the new lines set -/

lemma assignment_setting : assignment (pre ++ (setting ++ post)) = reads pre post := by
  have hcomment : isComment (pre ++ (setting ++ post)) = isComment pre :=
    isComment_append_cons rfl (by decide) _
  have heq : '=' ∈ pre ++ (setting ++ post) := by
    rw [List.mem_append, List.mem_append]
    exact .inr (.inl (by decide))
  rw [assignment, reads, hcomment]
  by_cases hpre : isComment pre = true
  · rw [if_pos (.inl hpre), if_pos hpre]
  · rw [if_neg hpre]
    by_cases hmem : '=' ∈ pre
    · rw [if_pos hmem, keyText_append_of_mem hmem, afterEq_append_of_mem hmem]
      simp only [hpre, heq, not_true, false_or, Bool.false_eq_true]
    · -- the key ends with `vm.swappiness`, which stands before the only `=` that counts
      have hkey : keyText (pre ++ (setting ++ post)) = pre.dropWhile isBlank ++ swappiness := by
        rw [keyText_append_of_notMem hmem]
        exact @strip_append pre _ "vm.swappines".toList [' '] 'v' 's' rfl rfl rfl
          (by simp [Blank, isBlank])
      have hvalue : afterEq (pre ++ (setting ++ post)) = ' ' :: (ten ++ post) := by
        rw [afterEq_append_of_notMem hmem]
        rfl
      rw [if_neg hmem, hkey, hvalue, if_neg]
      · rfl
      · simp only [hpre, heq, not_true, false_or, Bool.false_eq_true]
        exact List.append_ne_nil_of_right_ne_nil _ (List.cons_ne_nil _ _)

lemma turned_eq : turned line = assignment (editLine line) := by
  rw [turned, editLine, Ere.subst]
  cases firstMatch line.length swappinessEre line with
  | none => rfl
  | some p =>
      show reads p.1 p.2 = assignment (p.1 ++ setting ++ p.2)
      rw [List.append_assoc, assignment_setting]

lemma effective_append_singleton {lines : List Chars} :
    effective (lines ++ [line]) key = (valueFor key (assignment line)).or (effective lines key) :=
  latest_concat

lemma effective_all : effective f.all key =
    (valueFor key (assignment f.rest)).or (effective f.lines key) := by
  rw [TextFile.all]
  split_ifs with hrest
  · rw [hrest]
    rfl
  · exact effective_append_singleton

/-! ### The edited lines -/

lemma effective_edited : effective (f.all.map editLine) key =
    latest (fun m => valueFor key (turned m)) f.all := by
  rw [effective, latest_map]
  congr 1
  funext m
  rw [Function.comp_apply, turned_eq]

lemma comments_iff : (∀ (i : ℕ) line, f.all[i]? = some line → isComment line = true →
      (f.all.map editLine)[i]? = some line) ↔
    ∀ line ∈ f.all, isComment line = true →
      ∀ pre c ds post, HitAt line pre c ds post → c = '.' ∧ ds = ten := by
  constructor
  · intro h line hline hcomment pre c ds post hit
    obtain ⟨i, hi⟩ := List.mem_iff_getElem?.1 hline
    have hsame := h i line hi hcomment
    rw [List.getElem?_map, hi, Option.map_some, Option.some.injEq] at hsame
    exact hit.editLine_eq_self.1 hsame
  · intro h i line hi hcomment
    rw [List.getElem?_map, hi, Option.map_some, Option.some.injEq]
    by_cases hits : Hits line
    · obtain ⟨pre, c, ds, post, hit⟩ := exists_hitAt hits
      exact hit.editLine_eq_self.2
        (h line (List.mem_of_getElem? hi) hcomment pre c ds post hit)
    · exact editLine_of_not_hits hits

lemma swappinessSet_of_hits_iff (h : ∃ line ∈ f.all, Hits line) :
    SwappinessSet f (setSwappiness f) ↔ EditSafe f.all := by
  have hall := all_setSwappiness_of_hits h
  have hvalue : effective (setSwappiness f).all swappiness = some ten ↔
      ∃ before line after, f.all = before ++ line :: after ∧
        turned line = some (swappiness, ten) ∧
          ∀ m ∈ after, ∀ v, turned m ≠ some (swappiness, v) := by
    rw [hall, effective_edited, latest_eq_some]
    simp only [valueFor_eq_some, Option.eq_none_iff_forall_ne_some, ne_eq]
  have hothers : ∀ key, effective (setSwappiness f).all key = effective f.all key ↔
      Undisturbed f.all key := by
    intro key
    rw [hall, effective_edited, eq_comm]
    exact latest_eq_latest_iff
  constructor
  · intro hset
    refine ⟨?_, hvalue.1 hset.value, fun key hkey => (hothers key).1 (hset.others key hkey)⟩
    have hcomments := hset.comments
    rw [hall] at hcomments
    exact comments_iff.1 hcomments
  · intro hsafe
    refine ⟨hvalue.2 hsafe.value, fun key hkey => (hothers key).2 (hsafe.others key hkey), ?_,
      setSwappiness_setSwappiness f⟩
    rw [hall]
    exact comments_iff.2 hsafe.comments

/-! ### The appended line -/

lemma assignment_appended : assignment (f.rest ++ setting) = reads f.rest [] := by
  rw [← assignment_setting, List.append_nil]

lemma effective_appended (h : ¬ ∃ line ∈ f.all, Hits line) :
    effective (setSwappiness f).all key =
      (valueFor key (reads f.rest [])).or (effective f.lines key) := by
  rw [all_setSwappiness_of_not_hits h, effective_append_singleton, assignment_appended]

lemma reads_of_blank (h : Blank pre) : reads pre [] = some (swappiness, ten) := by
  have heq : '=' ∉ pre := fun hmem => absurd (h '=' hmem) (by decide)
  rw [reads, isComment_of_blank h, if_neg heq, blank_iff.1 h]
  rfl

/-- The comments of a file stay when text that is no comment gets longer. -/
lemma comments_appended (h : ¬ ∃ line ∈ f.all, Hits line) (hrest : isComment f.rest = false)
    (i : ℕ) (hi : f.all[i]? = some line) (hcomment : isComment line = true) :
    (setSwappiness f).all[i]? = some line := by
  rw [all_setSwappiness_of_not_hits h]
  rw [TextFile.all] at hi
  split_ifs at hi with hnil
  · rw [List.getElem?_append_left (List.getElem?_eq_some_iff.1 hi).1]
    exact hi
  · by_cases hlt : i < f.lines.length
    · rw [List.getElem?_append_left hlt] at hi ⊢
      exact hi
    · rw [List.getElem?_append_right (not_lt.1 hlt), List.getElem?_singleton] at hi
      split_ifs at hi
      rw [← Option.some.inj hi, hrest] at hcomment
      cases hcomment

/-- A value with the new line at its end is longer than 10, and than before. -/
lemma strip_setting_ne (xs : Chars) :
    strip (xs ++ (setting ++ [])) ≠ ten ∧ strip (xs ++ (setting ++ [])) ≠ strip xs := by
  have hstrip : strip (xs ++ (setting ++ [])) = xs.dropWhile isBlank ++ setting :=
    @strip_append xs _ "vm.swappiness = 1".toList [] 'v' '0' rfl rfl rfl (by simp [Blank])
  have hlen : (strip (xs ++ (setting ++ []))).length = (xs.dropWhile isBlank).length + 18 := by
    rw [hstrip, List.length_append]
    rfl
  constructor
  · intro he
    rw [he] at hlen
    have hten : ten.length = 2 := rfl
    omega
  · intro he
    have hle : (strip xs).length ≤ (xs.dropWhile isBlank).length :=
      (List.rdropWhile_prefix _ _).length_le
    rw [he] at hlen
    omega

/-- A comment without a newline at its end gets longer. -/
lemma isComment_rest_of_set (h : ¬ ∃ line ∈ f.all, Hits line)
    (hset : SwappinessSet f (setSwappiness f)) : isComment f.rest = false := by
  by_contra hcomment
  rw [Bool.not_eq_false] at hcomment
  have hne : f.rest ≠ [] := by
    intro he
    rw [he] at hcomment
    cases hcomment
  have hlast : f.all[f.lines.length]? = some f.rest := by
    rw [TextFile.all, if_neg hne, List.getElem?_concat_length]
  have hnew := hset.comments f.lines.length f.rest hlast hcomment
  rw [all_setSwappiness_of_not_hits h, List.getElem?_concat_length, Option.some.injEq] at hnew
  have hlen := congrArg List.length hnew
  rw [List.length_append] at hlen
  have hsetting : setting.length = 18 := rfl
  omega

/-- The new line stands alone. -/
lemma set_of_blank (h : ¬ ∃ line ∈ f.all, Hits line) (hblank : Blank f.rest) :
    SwappinessSet f (setSwappiness f) := by
  refine ⟨?_, fun key hkey => ?_, fun i line => comments_appended h (isComment_of_blank hblank) i,
    setSwappiness_setSwappiness f⟩
  · rw [effective_appended h, reads_of_blank hblank, valueFor_self, Option.some_or]
  · have heq : '=' ∉ f.rest := fun hmem => absurd (hblank '=' hmem) (by decide)
    rw [effective_appended h, reads_of_blank hblank, valueFor_of_ne hkey.symm, effective_all,
      assignment_of_no_eq heq]
    rfl

/-- The new line becomes part of the value of another line. -/
lemma set_glued_value_iff (h : ¬ ∃ line ∈ f.all, Hits line) (hcomment : isComment f.rest = false)
    (heq : '=' ∈ f.rest) : SwappinessSet f (setSwappiness f) ↔
      effective f.all swappiness = some ten ∧ keyText f.rest = [] := by
  by_cases hkey : keyText f.rest = []
  · -- a line that starts with `=` sets nothing, before and after
    have hold : assignment f.rest = none := if_pos (.inr (.inr hkey))
    have hnew : reads f.rest [] = none := by
      rw [reads, hcomment, if_neg (by simp), if_pos heq, if_pos hkey]
    have hsame : ∀ key, effective (setSwappiness f).all key = effective f.all key := by
      intro key
      rw [effective_appended h, effective_all, hold, hnew]
    exact ⟨fun hset => ⟨by rw [← hsame, hset.value], hkey⟩,
      fun hsafe => ⟨by rw [hsame, hsafe.1], fun key _ => hsame key,
        fun i line => comments_appended h hcomment i, setSwappiness_setSwappiness f⟩⟩
  · -- the value of the last line gets longer
    refine ⟨fun hset => ?_, fun hsafe => absurd hsafe.2 hkey⟩
    exfalso
    have hold : assignment f.rest = some (keyText f.rest, strip (afterEq f.rest)) := by
      rw [assignment, if_neg (by simp [hcomment, heq, hkey])]
    have hnew : reads f.rest [] =
        some (keyText f.rest, strip (afterEq f.rest ++ (setting ++ []))) := by
      rw [reads, hcomment, if_neg (by simp), if_pos heq, if_neg hkey]
    obtain ⟨hten, hlonger⟩ := strip_setting_ne (afterEq f.rest)
    have hafter : effective (setSwappiness f).all (keyText f.rest) =
        some (strip (afterEq f.rest ++ (setting ++ []))) := by
      rw [effective_appended h, hnew, valueFor_self, Option.some_or]
    by_cases hsw : keyText f.rest = swappiness
    · have hvalue := hset.value
      rw [← hsw, hafter] at hvalue
      exact hten (Option.some.inj hvalue)
    · have hother := hset.others _ hsw
      rw [hafter, effective_all, hold, valueFor_self, Option.some_or] at hother
      exact hlonger (Option.some.inj hother)

/-- The text makes another key of the new line. -/
lemma set_glued_key_iff (h : ¬ ∃ line ∈ f.all, Hits line) (hcomment : isComment f.rest = false)
    (heq : '=' ∉ f.rest) (hblank : ¬ Blank f.rest) : SwappinessSet f (setSwappiness f) ↔
      effective f.all swappiness = some ten ∧
        effective f.all (f.rest.dropWhile isBlank ++ swappiness) = some ten := by
  have hdrop : f.rest.dropWhile isBlank ≠ [] := fun he => hblank (blank_iff.2 he)
  have hother : f.rest.dropWhile isBlank ++ swappiness ≠ swappiness := by
    rw [ne_eq, List.append_left_eq_self]
    exact hdrop
  have hnew : reads f.rest [] = some (f.rest.dropWhile isBlank ++ swappiness, ten) := by
    rw [reads, hcomment, if_neg (by simp), if_neg heq]
    rfl
  have hafter : effective (setSwappiness f).all (f.rest.dropWhile isBlank ++ swappiness) =
      some ten := by
    rw [effective_appended h, hnew, valueFor_self, Option.some_or]
  have hrest : ∀ key, key ≠ f.rest.dropWhile isBlank ++ swappiness →
      effective (setSwappiness f).all key = effective f.all key := by
    intro key hkey
    rw [effective_appended h, hnew, valueFor_of_ne hkey.symm, effective_all,
      assignment_of_no_eq heq]
    rfl
  constructor
  · intro hset
    constructor
    · rw [← hrest swappiness hother.symm, hset.value]
    · rw [← hset.others _ hother, hafter]
  · rintro ⟨hvalue, hglued⟩
    refine ⟨by rw [hrest swappiness hother.symm, hvalue], fun key _ => ?_,
      fun i line => comments_appended h hcomment i, setSwappiness_setSwappiness f⟩
    by_cases hkey : key = f.rest.dropWhile isBlank ++ swappiness
    · rw [hkey, hafter, hglued]
    · exact hrest key hkey

lemma swappinessSet_of_not_hits_iff (h : ¬ ∃ line ∈ f.all, Hits line) :
    SwappinessSet f (setSwappiness f) ↔ AppendSafe f := by
  by_cases hblank : Blank f.rest
  · exact ⟨fun _ => .inl hblank, fun _ => set_of_blank h hblank⟩
  rw [AppendSafe, or_iff_right hblank]
  by_cases hcomment : isComment f.rest = false
  · by_cases heq : '=' ∈ f.rest
    · rw [set_glued_value_iff h hcomment heq]
      simp only [hcomment, heq, true_and, not_true, false_and, or_false]
    · rw [set_glued_key_iff h hcomment heq hblank]
      simp only [hcomment, heq, true_and, not_false_iff, false_and, false_or]
  · exact ⟨fun hset => absurd (isComment_rest_of_set h hset) hcomment,
      fun hsafe => absurd hsafe.1 hcomment⟩

/-- **Exactly on which files the block is right.** -/
theorem swappinessSet_iff (f : TextFile) : SwappinessSet f (setSwappiness f) ↔
    ((∃ line ∈ f.all, Hits line) → EditSafe f.all) ∧
      ((¬ ∃ line ∈ f.all, Hits line) → AppendSafe f) := by
  by_cases h : ∃ line ∈ f.all, Hits line
  · rw [swappinessSet_of_hits_iff h]
    exact ⟨fun hsafe => ⟨fun _ => hsafe, fun hno => absurd h hno⟩, fun hsafe => hsafe.1 h⟩
  · rw [swappinessSet_of_not_hits_iff h]
    exact ⟨fun hsafe => ⟨fun hyes => absurd hyes h, fun _ => hsafe⟩, fun hsafe => hsafe.2 h⟩

/-- A comment is rewritten, and swappiness is not set. -/
example : ¬ SwappinessSet ⟨["#vm.swappiness = 60".toList], []⟩
    (setSwappiness ⟨["#vm.swappiness = 60".toList], []⟩) :=
  fun h => absurd h.value (by decide)

end InitialSetups.Settings
