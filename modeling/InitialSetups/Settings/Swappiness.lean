import InitialSetups.Settings.Sysctl
import InitialSetups.Text.Edit
import Mathlib.Tactic.IntervalCases

/-!
# The swappiness block of `change_ubuntu_settings.sh`

The block looks for `vm.swappiness = [0-9]*` in `/etc/sysctl.conf`.  If a line matches, `sed`
writes `vm.swappiness = 10` over the first match in every line; otherwise the line is appended
with `tee -a`.

The pattern is not anchored, its `.` matches any character, and it knows one spacing only, so the
block also rewrites comments and other keys, overlooks assignments with another spacing, and
appends to a last line without a newline.
-/

namespace InitialSetups.Settings

open InitialSetups.Text Ere

/-- The text `vm.swappiness = [0-9]*`. -/
def swappinessText : Chars := "vm.swappiness = [0-9]*".toList

/-- What `[0-9]` stands for. -/
def digitSet : CharSet := ⟨false, [('0', '9')]⟩

/-- The pattern as a regular expression. -/
def swappinessEre : Ere :=
  seq (lit 'v' :: lit 'm' :: any :: "swappiness = ".toList.map lit ++ [star (one digitSet)])

example : parse swappinessText = some swappinessEre := by decide

/-- The value that is set. -/
def ten : Chars := "10".toList

/-- The line that is written. -/
def setting : Chars := "vm.swappiness = 10".toList

/-- `sed "s/vm.swappiness = [0-9]*/vm.swappiness = 10/"` on a line. -/
def editLine (line : Chars) : Chars := subst swappinessEre setting line

/-- The swappiness block of `change_ubuntu_settings.sh` on `/etc/sysctl.conf`. -/
def setSwappiness (f : TextFile) : TextFile :=
  if f.all.any swappinessEre.search then ⟨f.lines.map editLine, editLine f.rest⟩
  else ⟨f.lines ++ [f.rest ++ setting], []⟩

/-! ### Where the pattern matches -/

/-- What the pattern matches before the digits. -/
def hitText (c : Char) : Chars := 'v' :: 'm' :: c :: "swappiness = ".toList

/-- The pattern matches somewhere in the text. -/
def Hits (text : Chars) : Prop := ∃ c, hitText c <:+: text

/-- The match that `sed` replaces: what stands before it, its third character, its digits, and
what stands after it. -/
structure HitAt (line pre : Chars) (c : Char) (ds post : Chars) : Prop where
  eq : line = pre ++ (hitText c ++ (ds ++ post))
  before : ¬ Hits pre
  digits : ∀ d ∈ ds, d.isDigit = true
  after : ∀ d, post.head? = some d → d.isDigit = false

variable {line pre post ds xs ys bs : Chars} {c c' : Char} {n : ℕ}

lemma has_digitSet : digitSet.has c = true ↔ c.isDigit = true := by
  simp only [CharSet.has, digitSet, List.any_cons, List.any_nil, Bool.or_false, Bool.false_xor,
    Char.isDigit, Bool.and_eq_true, decide_eq_true_eq]
  exact Iff.rfl

lemma mem_ends_swappiness : ys ∈ swappinessEre.ends n xs ↔
    ∃ c ds, xs = hitText c ++ (ds ++ ys) ∧ ∀ d ∈ ds, d.isDigit = true := by
  have hlits : ∀ zs as : Chars, zs ∈ (seq ("swappiness = ".toList.map lit)).ends n as ↔
      as = "swappiness = ".toList ++ zs := fun _ _ => mem_ends_lits
  rw [swappinessEre, List.cons_append, List.cons_append, List.cons_append]
  simp only [seq, mem_ends_cat, mem_ends_lit, mem_ends_any, mem_ends_seq_append, hlits,
    mem_ends_star_one, mem_ends_empty, has_digitSet]
  constructor
  · rintro ⟨_, rfl, _, rfl, _, ⟨c, rfl⟩, _, rfl, _, ⟨ds, rfl, hds⟩, rfl⟩
    exact ⟨c, ds, rfl, hds⟩
  · rintro ⟨c, ds, rfl, hds⟩
    exact ⟨_, rfl, _, rfl, _, ⟨c, rfl⟩, _, rfl, _, ⟨ds, rfl, hds⟩, rfl⟩

/-- No two matches overlap: one that starts in a text before another lies in that text. -/
lemma hitText_apart (hbs : bs ≠ []) (h : bs ++ (hitText c ++ xs) = hitText c' ++ ys) :
    hitText c' <+: bs := by
  rcases List.append_eq_append_iff.1 h with ⟨as, hhit, has⟩ | ⟨as, hbs', -⟩
  · by_cases hnil : as = []
    · rw [hnil, List.append_nil] at hhit
      rw [hhit]
    -- a match that starts inside another one would have to start with its `v`
    exfalso
    have hlen : bs.length + as.length = 16 := by rw [← List.length_append, ← hhit]; rfl
    have hdrop : as = (hitText c').drop bs.length := by rw [hhit, List.drop_left]
    have hpos : 0 < bs.length := List.length_pos_iff.2 hbs
    have hlt : bs.length < 16 := by
      have := List.length_pos_iff.2 hnil
      omega
    clear hlen hbs hnil
    generalize bs.length = k at *
    interval_cases k <;> subst hdrop <;> exact absurd has (by simp [hitText])
  · exact ⟨as, hbs'.symm⟩

/-- The match that is taken stands where no match starts earlier. -/
lemma HitAt.subst (h : HitAt line pre c ds post) : editLine line = pre ++ (setting ++ post) := by
  have hlong : longest line.length swappinessEre (hitText c ++ (ds ++ post)) = some post := by
    refine longest_eq_some.2 ⟨mem_ends_swappiness.2 ⟨c, ds, rfl, h.digits⟩, fun zs hzs => ?_⟩
    obtain ⟨c', ds', he, hds'⟩ := mem_ends_swappiness.1 hzs
    have hrest := (List.append_inj he rfl).2
    -- a match cannot end later, as no digit follows
    rcases List.append_eq_append_iff.1 hrest with ⟨as, rfl, has⟩ | ⟨as, -, rfl⟩
    · cases as with
      | nil => rw [has, List.nil_append]
      | cons d as =>
          have hd := h.after d (by rw [has]; rfl)
          rw [hds' d (by simp)] at hd
          cases hd
    · simp
  have hfirst : firstMatch line.length swappinessEre line = some (pre, post) := by
    refine firstMatch_eq_some.2 ⟨hitText c ++ (ds ++ post), h.eq, hlong, fun as bs hpre hbs => ?_⟩
    refine List.eq_nil_iff_forall_not_mem.2 fun zs hzs => h.before ?_
    obtain ⟨c', ds', he, -⟩ := mem_ends_swappiness.1 hzs
    exact ⟨c', (hitText_apart hbs he).isInfix.trans (hpre ▸ (List.suffix_append as bs).isInfix)⟩
  rw [editLine, Ere.subst, hfirst]
  exact List.append_assoc _ _ _

/-- Where the pattern does not match nothing is replaced. -/
lemma editLine_of_not_hits (h : ¬ Hits line) : editLine line = line := by
  have hnone : firstMatch line.length swappinessEre line = none := by
    refine firstMatch_eq_none.2 fun zs hzs => List.eq_nil_iff_forall_not_mem.2 fun ys hys => h ?_
    obtain ⟨c, ds, rfl, -⟩ := mem_ends_swappiness.1 hys
    exact ⟨c, (List.prefix_append _ _).isInfix.trans hzs.isInfix⟩
  rw [editLine, Ere.subst, hnone]

/-- The gate of the block. -/
lemma search_swappiness : swappinessEre.search line = true ↔ Hits line := by
  rw [search_iff]
  constructor
  · rintro ⟨xs, hxs, ys, hys⟩
    obtain ⟨c, ds, rfl, -⟩ := mem_ends_swappiness.1 hys
    exact ⟨c, (List.prefix_append _ _).isInfix.trans hxs.isInfix⟩
  · rintro ⟨c, as, bs, rfl⟩
    exact ⟨hitText c ++ bs, ⟨as, by simp⟩, bs, mem_ends_swappiness.2 ⟨c, [], rfl, by simp⟩⟩

/-- In a text in which the pattern matches there is a match that is replaced. -/
lemma exists_hitAt (h : Hits line) : ∃ pre c ds post, HitAt line pre c ds post := by
  have hsome : firstMatch line.length swappinessEre line ≠ none := by
    rw [ne_eq, ← search_eq_false_iff, search_swappiness.2 h]
    simp
  obtain ⟨⟨pre, post⟩, hmatch⟩ := Option.ne_none_iff_exists'.1 hsome
  obtain ⟨zs, hline, hlong, hfirst⟩ := firstMatch_eq_some.1 hmatch
  obtain ⟨hmem, hleast⟩ := longest_eq_some.1 hlong
  obtain ⟨c, ds, rfl, hds⟩ := mem_ends_swappiness.1 hmem
  refine ⟨pre, c, ds, post, hline, ?_, hds, fun d hd => ?_⟩
  · rintro ⟨c', as, bs, rfl⟩
    -- a match inside `pre` would be further to the left
    have hno := hfirst as (hitText c' ++ bs) (by simp) (by simp [hitText])
    refine List.eq_nil_iff_forall_not_mem.1 hno (bs ++ (hitText c ++ (ds ++ post))) ?_
    exact mem_ends_swappiness.2 ⟨c', [], by simp, by simp⟩
  · obtain ⟨rest, rfl⟩ := List.head?_eq_some_iff.1 hd
    by_contra hdigit
    -- a digit after the match would belong to it
    have hlonger : rest ∈ swappinessEre.ends line.length (hitText c ++ (ds ++ d :: rest)) := by
      refine mem_ends_swappiness.2 ⟨c, ds ++ [d], by simp, fun e he => ?_⟩
      rcases List.mem_append.1 he with he | he
      · exact hds e he
      · rw [List.mem_singleton.1 he]
        simpa using hdigit
    have hle := hleast rest hlonger
    rw [List.length_cons] at hle
    omega

/-- In the edited line the match is taken again. -/
lemma hitAt_setting (hpre : ¬ Hits pre) (hpost : ∀ d, post.head? = some d → d.isDigit = false) :
    HitAt (pre ++ (setting ++ post)) pre '.' ten post :=
  ⟨rfl, hpre, List.forall_mem_cons.2 ⟨rfl, List.forall_mem_singleton.2 rfl⟩, hpost⟩

lemma HitAt.hits (h : HitAt line pre c ds post) : Hits line :=
  ⟨c, by rw [h.eq, ← List.append_assoc]; exact List.infix_append pre (hitText c) (ds ++ post)⟩

/-- A line is edited to itself if and only if its match reads `vm.swappiness = 10`. -/
lemma HitAt.editLine_eq_self (h : HitAt line pre c ds post) :
    editLine line = line ↔ c = '.' ∧ ds = ten := by
  have hsetting : setting = hitText '.' ++ ten := rfl
  rw [h.subst, h.eq, List.append_cancel_left_eq, ← List.append_assoc, List.append_cancel_right_eq,
    hsetting]
  constructor
  · intro he
    obtain ⟨htext, hds⟩ := List.append_inj he rfl
    refine ⟨?_, hds.symm⟩
    have hthird := congrArg (fun xs : Chars => xs[2]?) htext
    exact (Option.some.inj hthird).symm
  · rintro ⟨rfl, rfl⟩
    rfl

lemma editLine_editLine : editLine (editLine line) = editLine line := by
  by_cases hits : Hits line
  · obtain ⟨pre, c, ds, post, h⟩ := exists_hitAt hits
    rw [h.subst, (hitAt_setting h.before h.after).subst]
  · rw [editLine_of_not_hits hits, editLine_of_not_hits hits]

lemma hits_editLine (h : Hits line) : Hits (editLine line) := by
  obtain ⟨pre, c, ds, post, h⟩ := exists_hitAt h
  rw [h.subst]
  exact (hitAt_setting h.before h.after).hits

lemma not_hits_nil : ¬ Hits [] := by
  rintro ⟨c, h⟩
  exact absurd (List.infix_nil.1 h) (by simp [hitText])

lemma editLine_eq_nil : editLine line = [] ↔ line = [] := by
  by_cases hits : Hits line
  · obtain ⟨pre, c, ds, post, h⟩ := exists_hitAt hits
    have hsetting : setting ≠ [] := List.cons_ne_nil _ _
    have htext : hitText c ≠ [] := List.cons_ne_nil _ _
    rw [h.subst, h.eq, List.append_eq_nil_iff, List.append_eq_nil_iff, List.append_eq_nil_iff,
      List.append_eq_nil_iff]
    simp only [hsetting, htext, false_and, and_false]
  · rw [editLine_of_not_hits hits]

/-! ### The two branches of the block -/

variable {f : TextFile}

lemma gate_iff : f.all.any swappinessEre.search = true ↔ ∃ line ∈ f.all, Hits line := by
  simp only [List.any_eq_true, search_swappiness]

lemma setSwappiness_of_hits (h : ∃ line ∈ f.all, Hits line) :
    setSwappiness f = ⟨f.lines.map editLine, editLine f.rest⟩ := if_pos (gate_iff.2 h)

lemma setSwappiness_of_not_hits (h : ¬ ∃ line ∈ f.all, Hits line) :
    setSwappiness f = ⟨f.lines ++ [f.rest ++ setting], []⟩ := if_neg fun hg => h (gate_iff.1 hg)

lemma all_setSwappiness_of_hits (h : ∃ line ∈ f.all, Hits line) :
    (setSwappiness f).all = f.all.map editLine := by
  rw [setSwappiness_of_hits h, TextFile.all, TextFile.all]
  simp only [editLine_eq_nil]
  split_ifs with hrest
  · rfl
  · rw [List.map_append, List.map_singleton]

lemma all_setSwappiness_of_not_hits (h : ¬ ∃ line ∈ f.all, Hits line) :
    (setSwappiness f).all = f.lines ++ [f.rest ++ setting] := by
  rw [setSwappiness_of_not_hits h]
  exact if_pos rfl

/-- Where nothing matches, nothing matches in the last line either. -/
lemma not_hits_of_gate (h : ¬ ∃ line ∈ f.all, Hits line) :
    (∀ line ∈ f.lines, ¬ Hits line) ∧ ¬ Hits f.rest := by
  rw [← TextFile.forall_mem_all not_hits_nil]
  exact fun line hline hits => h ⟨line, hline, hits⟩

/-- A second run leaves the file as it is. -/
lemma setSwappiness_setSwappiness (f : TextFile) :
    setSwappiness (setSwappiness f) = setSwappiness f := by
  by_cases hgate : ∃ line ∈ f.all, Hits line
  · obtain ⟨line, hline, hits⟩ := hgate
    have hagain : ∃ line ∈ (setSwappiness f).all, Hits line := by
      refine ⟨editLine line, ?_, hits_editLine hits⟩
      rw [all_setSwappiness_of_hits ⟨line, hline, hits⟩]
      exact List.mem_map_of_mem hline
    rw [setSwappiness_of_hits hagain, setSwappiness_of_hits ⟨line, hline, hits⟩]
    simp only [List.map_map, editLine_editLine, TextFile.mk.injEq, and_true]
    exact List.map_congr_left fun line _ => editLine_editLine
  · obtain ⟨hlines, hrest⟩ := not_hits_of_gate hgate
    have hnew := @hitAt_setting f.rest [] hrest (by simp)
    rw [List.append_nil] at hnew
    have hagain : ∃ line ∈ (setSwappiness f).all, Hits line := by
      rw [all_setSwappiness_of_not_hits hgate]
      exact ⟨f.rest ++ setting, by simp, hnew.hits⟩
    rw [setSwappiness_of_hits hagain, setSwappiness_of_not_hits hgate]
    have hsame : f.lines.map editLine = f.lines := by
      rw [List.map_congr_left fun line hline => editLine_of_not_hits (hlines line hline)]
      exact List.map_id _
    rw [List.map_append, hsame, List.map_singleton, hnew.subst, editLine_of_not_hits not_hits_nil,
      List.append_nil]

end InitialSetups.Settings
