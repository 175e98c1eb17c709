import InitialSetups.Scripts.Dotfiles

/-!
# The dotfile scripts on a disk

The machine whose world is a disk.  What the scripts do not decide themselves is given
beforehand as a `Fate`: the status of the commands that touch no file of the home directory,
which commands fail for a reason of their own, and what `git` brings.

The world also keeps the file commands executed so far, each with the disk it found, so that a
condition on the steps of a run can be stated.
-/

namespace InitialSetups.Dotfiles

open InitialSetups.Shell InitialSetups.Files InitialSetups.Files.Disk InitialSetups.Scripts

/-- A file command with its arguments. -/
inductive Call where
  | cpR (p q : Path)
  | rmRf (p : Path)
  | rm (p : Path)
  | lnS (t : Target) (p : Path)
  | mv (p q : Path)
  | mkdir (p : Path)
  | gitClone (p : Path)
  | gitPull (p : Path)

/-- The commands that may fail for a reason of their own. -/
def Call.mayFail : Call → Bool
  | .cpR _ _ | .lnS _ _ | .mkdir _ | .gitClone _ => true
  | _ => false

/-- A disk and the calls made so far, each with the disk it found. -/
structure World where
  disk : Disk
  past : List (Call × Disk)

/-- What a run does not decide itself. -/
structure Fate where
  /-- the status of a command that touches no file of the home directory -/
  status : Occ → ℕ
  /-- a file command that fails for a reason of its own -/
  fails : Occ → Bool
  /-- what a failing `cp -r` or `git clone` leaves behind where nothing stood -/
  debris : Occ → Option (Path → Option Entry)
  cloned : Path → Option Entry
  pulled : Path → Option Entry

/-- Every command succeeds that can, and `git` brings the tree `t`. -/
def Fate.smooth (t : Path → Option Entry) : Fate :=
  ⟨fun _ => 0, fun _ => false, fun _ => none, t, t⟩

section Machine

variable (home : Path) (fate : Fate)

/-- What a command makes of the disk; `none` when the disk makes it fail.  A `git pull` outside
an existing `~/.dotfiles` runs in the directory of the script and is of no concern here. -/
def Fate.effect (w : Disk) : Call → Option Disk
  | .cpR p q => cpR home p q w
  | .rmRf p => some (rmRf home p w)
  | .rm p => rm home p w
  | .lnS t p => lnS home t p w
  | .mv p q => mv home p q w
  | .mkdir p => mkdir home p w
  | .gitClone p => create home fate.cloned p w
  | .gitPull p => refresh home fate.pulled p w

/-- The disk that a command leaves behind when it fails for a reason of its own. -/
def Fate.wreck (o : Occ) (w : Disk) : Call → Disk
  | .cpR p q =>
    match fate.debris o, destination home w (base p) q with
    | some t, some r => if look home w r = none then plant r t w else w
    | _, _ => w
  | .gitClone p =>
    match fate.debris o with
    | some t => (create home t p w).getD w
    | none => w
  | _ => w

/-- Execute a command on a disk. -/
def Fate.step (o : Occ) (c : Call) (w : Disk) : ℕ × Disk :=
  if c.mayFail ∧ fate.fails o then (1, fate.wreck home o w c)
  else match fate.effect home w c with
    | some w' => (0, w')
    | none => (1, w)

/-- The world after a command. -/
def World.after (o : Occ) (c : Call) (s : World) : World :=
  ⟨(fate.step home o c s.disk).2, s.past ++ [(c, s.disk)]⟩

/-- Execute a command. -/
def Fate.perform (o : Occ) (c : Call) : Sh World :=
  Sh.simple fun s => ((fate.step home o c s.disk).1, s.after home fate o c)

/-- `$HOME/p` is a symbolic link. -/
def isLink (p : Path) (w : Disk) : Bool :=
  match lstat home w p with
  | some (.link _) => true
  | _ => false

/-- The machine whose world is a disk. -/
def diskMachine : Machine World where
  run o := Sh.simple fun s => (fate.status o, s)
  isE p s := (stat home s.disk p).isSome
  isL p s := isLink home p s.disk
  isD p s := stat home s.disk p = some .dir
  isF p s := match stat home s.disk p with
    | some (.file _) => true
    | _ => false
  cpR o p q := fate.perform home o (.cpR p q)
  rmRf o p := fate.perform home o (.rmRf p)
  rm o p := fate.perform home o (.rm p)
  lnS o t p := fate.perform home o (.lnS t p)
  mv o p q := fate.perform home o (.mv p q)
  mkdir o p := fate.perform home o (.mkdir p)
  gitClone o p := fate.perform home o (.gitClone p)
  gitPull o p := fate.perform home o (.gitPull p)
  finished _ := Sh.ret 0
  returned _ _ _ := Sh.ret 0

end Machine

section Step

variable {home : Path} {fate : Fate} {o : Occ} {c : Call} {w w' : Disk}

lemma step_of_some (ho : fate.fails o = false) (h : fate.effect home w c = some w') :
    fate.step home o c w = (0, w') := by
  simp [Fate.step, ho, h]

lemma step_of_none (ho : fate.fails o = false) (h : fate.effect home w c = none) :
    fate.step home o c w = (1, w) := by
  simp [Fate.step, ho, h]

@[simp] lemma step_rmRf (p : Path) : fate.step home o (.rmRf p) w = (0, rmRf home p w) := by
  simp [Fate.step, Call.mayFail, Fate.effect]

lemma step_rm (p : Path) : (fate.step home o (.rm p) w).2 = (rm home p w).getD w := by
  cases h : rm home p w <;> simp [Fate.step, Call.mayFail, Fate.effect, h]

/-- A command that does not fail for a reason of its own either has its effect or none. -/
lemma step_disk (ho : fate.fails o = false) :
    (fate.step home o c w).2 = (fate.effect home w c).getD w := by
  cases h : fate.effect home w c with
  | none => rw [step_of_none ho h, Option.getD_none]
  | some w' => rw [step_of_some ho h, Option.getD_some]

@[simp] lemma after_disk {s : World} :
    (s.after home fate o c).disk = (fate.step home o c s.disk).2 := rfl

end Step

/-! ### The tests of the scripts -/

variable {home : Path} {fate : Fate} {s : World} {n : Name}

/-- Anything stands at `$HOME/n`, be it a dangling link. -/
def Stands (home : Path) (n : Name) (s : World) : Prop := s.disk (home ++ [n]) ≠ none

instance : Decidable (Stands home n s) := inferInstanceAs (Decidable (_ ≠ _))

/-- `$HOME/p` leads to something, symbolic links followed. -/
def LeadsOn (home : Path) (p : Path) (s : World) : Prop := stat home s.disk p ≠ none

instance (p : Path) : Decidable (LeadsOn home p s) := inferInstanceAs (Decidable (_ ≠ _))

/-- `t` is a test for the condition `P`. -/
def TestsFor (t : Sh World) (P : World → Prop) [DecidablePred P] : Prop :=
  ∀ s, t s = (.status (if P s then 0 else 1), s)

namespace TestsFor

variable {t u : Sh World} {P Q : World → Prop} [DecidablePred P] [DecidablePred Q]

lemma of_test {p : World → Bool} (h : ∀ s, p s = true ↔ P s) : TestsFor (Sh.test p) P := by
  intro s
  simp only [Sh.test_apply, h]

lemma and (ht : TestsFor t P) (hu : TestsFor u Q) :
    TestsFor (t.and u) (fun s => P s ∧ Q s) := by
  intro s
  have hs := ht s
  by_cases hp : P s
  · rw [if_pos hp] at hs
    rw [Sh.and_apply_zero hs, hu s]
    simp only [hp, true_and]
  · rw [if_neg hp] at hs
    rw [Sh.and_apply_ne_zero hs Nat.one_ne_zero, if_neg fun h => hp h.1]

lemma or (ht : TestsFor t P) (hu : TestsFor u Q) :
    TestsFor (t.or u) (fun s => P s ∨ Q s) := by
  intro s
  have hs := ht s
  by_cases hp : P s
  · rw [if_pos hp] at hs
    rw [Sh.or_apply_zero hs, if_pos (.inl hp)]
  · rw [if_neg hp] at hs
    rw [Sh.or_apply_ne_zero hs Nat.one_ne_zero, hu s]
    simp only [hp, false_or]

lemma congr (ht : TestsFor t P) (h : ∀ s, P s ↔ Q s) : TestsFor t Q := by
  intro s
  rw [ht s]
  simp only [h]

lemma and_echo (ht : TestsFor t P) : TestsFor (t.and echo) P := by
  have htrue : TestsFor (echo : Sh World) (fun _ => True) := fun s => rfl
  exact (ht.and htrue).congr fun s => iff_of_eq (and_true _)

end TestsFor

lemma testsFor_testEq (a b : String) : TestsFor (testEq a b) (fun _ => a = b) :=
  TestsFor.of_test fun _ => decide_eq_true_iff

lemma testsFor_testE (home : Path) (fate : Fate) (p : Path) :
    TestsFor (testE (diskMachine home fate) p) (LeadsOn home p) :=
  TestsFor.of_test fun _ => Option.isSome_iff_ne_none

/-- `$HOME/p` leads somewhere or is a link that leads nowhere. -/
def IsThere (home : Path) (p : Path) (s : World) : Prop :=
  LeadsOn home p s ∨ isLink home p s.disk = true

instance (p : Path) : Decidable (IsThere home p s) := inferInstanceAs (Decidable (_ ∨ _))

lemma testsFor_isThere (home : Path) (fate : Fate) (p : Path) :
    TestsFor ((testE (diskMachine home fate) p).or (testL (diskMachine home fate) p))
      (IsThere home p) :=
  (testsFor_testE home fate p).or (TestsFor.of_test fun _ => Iff.rfl)

/-- `[ -e p ] || [ -L p ]` on an entry of the home directory asks whether anything is there. -/
lemma testsFor_existence (home : Path) (fate : Fate) (hn : Proper n) :
    TestsFor ((testE (diskMachine home fate) [n]).or (testL (diskMachine home fate) [n]))
      (Stands home n) := by
  refine (testsFor_isThere home fate [n]).congr fun s => ?_
  simp only [IsThere, isLink, lstat_singleton, LeadsOn, Stands]
  constructor
  · rintro (h | h) hnone
    · exact h (stat_singleton_of_none hn hnone)
    · rw [hnone] at h
      cases h
  · intro h
    obtain ⟨e, he⟩ := Option.ne_none_iff_exists'.1 h
    cases e with
    | file c => exact .inl (by rw [stat_singleton_of_not_link hn he (by simp)]; simp)
    | dir => exact .inl (by rw [stat_singleton_of_not_link hn he (by simp)]; simp)
    | link t => exact .inr (by rw [he])

/-! ### One pass of the loops -/

/-- The world after the command, if the condition holds. -/
def World.afterIf (home : Path) (fate : Fate) (P : World → Prop) [DecidablePred P] (o : Occ)
    (c : Call) (s : World) : World :=
  if P s then s.after home fate o c else s

section AfterIf

variable {P : World → Prop} [DecidablePred P] {o : Occ} {c : Call}

lemma afterIf_pos (h : P s) : s.afterIf home fate P o c = s.after home fate o c := if_pos h

lemma afterIf_neg (h : ¬ P s) : s.afterIf home fate P o c = s := if_neg h

/-- A command with or without a condition keeps what the command keeps. -/
lemma afterIf_keeps {I : World → Prop} (h : ∀ s, I s → I (s.after home fate o c)) (hs : I s) :
    I (s.afterIf home fate P o c) := by
  by_cases hp : P s
  · rw [afterIf_pos hp]
    exact h s hs
  · rwa [afterIf_neg hp]

/-- `test && command`, followed by other commands. -/
lemma blockFrom_guarded {t : Sh World} {cs : List (Sh World)} {m : ℕ} (ht : TestsFor t P) :
    ∃ n, Sh.blockFrom m (t.and (fate.perform home o c) :: cs) s =
      Sh.blockFrom n cs (s.afterIf home fate P o c) := by
  have hs := ht s
  by_cases hp : P s
  · rw [if_pos hp] at hs
    rw [afterIf_pos hp]
    exact ⟨_, Sh.blockFrom_cons_of_status (Sh.and_apply_zero hs)⟩
  · rw [if_neg hp] at hs
    rw [afterIf_neg hp]
    exact ⟨1, Sh.blockFrom_cons_of_status (Sh.and_apply_ne_zero hs Nat.one_ne_zero)⟩

/-- `if test; then command; fi`, followed by other commands. -/
lemma blockFrom_ifThen {t : Sh World} {cs : List (Sh World)} {m : ℕ} (ht : TestsFor t P) :
    ∃ n, Sh.blockFrom m (Sh.ifThen t (fate.perform home o c) (Sh.ret 0) :: cs) s =
      Sh.blockFrom n cs (s.afterIf home fate P o c) := by
  have hs := ht s
  by_cases hp : P s
  · rw [if_pos hp] at hs
    rw [afterIf_pos hp]
    exact ⟨_, Sh.blockFrom_cons_of_status (Sh.bind_of_status hs)⟩
  · rw [if_neg hp] at hs
    rw [afterIf_neg hp]
    exact ⟨0, Sh.blockFrom_cons_of_status (Sh.bind_of_status hs)⟩

/-- `command || exit 1`. -/
lemma orExit_perform_apply :
    orExit (fate.perform home o c) s =
      (if (fate.step home o c s.disk).1 = 0 then .status 0 else .exit 1,
        s.after home fate o c) := by
  have hc : fate.perform home o c s =
      (.status (fate.step home o c s.disk).1, s.after home fate o c) := rfl
  by_cases h : (fate.step home o c s.disk).1 = 0
  · rw [h] at hc
    rw [orExit, Sh.or_apply_zero hc, if_pos h]
  · rw [orExit, Sh.or_apply_ne_zero hc h, if_neg h, Sh.exit_apply]

end AfterIf

section Pass

variable (home fate) (env : Env)

/-- The world before the `ln -s` of a pass in `install_mydotfiles.sh`: `$HOME/.file` is copied
in mode `backup` and removed. -/
def installCleared (mode : String) (line : ℕ) (file : String) (s : World) : World :=
  (s.afterIf home fate (fun s => Stands home (dot file) s ∧ mode = "backup")
    ⟨.installMydotfiles, line, file, false⟩
    (.cpR [dot file] [stamped (dot file) env.datetime])).afterIf home fate
    (Stands home (dot file)) ⟨.installMydotfiles, line + 1, file, false⟩ (.rmRf [dot file])

/-- The world before the removal in a pass of `create_symbolic_link.sh`: `$HOME/.file` is
copied in the modes `backup` and `no`. -/
def createCopied (mode file : String) (s : World) : World :=
  (s.afterIf home fate (fun s => mode = "backup" ∧ LeadsOn home [dot file] s)
    ⟨.createSymbolicLink, 40, file, false⟩
    (.cpR [dot file] [stamped (dot file) env.datetime])).afterIf home fate
    (fun s => mode = "no" ∧ LeadsOn home [dot file] s) ⟨.createSymbolicLink, 41, file, false⟩
    (.cpR [dot file] [stamped (dot file) env.datetime])

/-- The world before the `ln -s` of a pass in `create_symbolic_link.sh`. -/
def createCleared (mode file : String) (s : World) : World :=
  (createCopied home fate env mode file s).afterIf home fate (LeadsOn home [dot file])
    ⟨.createSymbolicLink, 42, file, false⟩ (.rmRf [dot file])

/-- The world before the `ln -s` of a pass in `cygwin_setup.sh`. -/
def cygwinCleared (file : String) (s : World) : World :=
  s.afterIf home fate (Stands home (dot file)) ⟨.cygwinSetup, 48, file, false⟩ (.rm [dot file])

variable {home fate env} {mode file : String} {line : ℕ}

/-- A pass of `create_symbolic_link.sh` makes one copy, or none. -/
lemma createCopied_cases :
    (∃ o, createCopied home fate env mode file s =
        s.after home fate o (.cpR [dot file] [stamped (dot file) env.datetime]) ∧
      (mode = "backup" ∨ mode = "no") ∧ LeadsOn home [dot file] s) ∨
    (createCopied home fate env mode file s = s ∧
      ¬ ((mode = "backup" ∨ mode = "no") ∧ LeadsOn home [dot file] s)) := by
  unfold createCopied
  by_cases hl : LeadsOn home [dot file] s
  · by_cases hb : mode = "backup"
    · have hn : mode ≠ "no" := by rw [hb]; decide
      rw [afterIf_neg fun h => hn h.1, afterIf_pos ⟨hb, hl⟩]
      exact .inl ⟨_, rfl, .inl hb, hl⟩
    · rw [afterIf_neg (s := s) fun h => hb h.1]
      by_cases hn : mode = "no"
      · rw [afterIf_pos ⟨hn, hl⟩]
        exact .inl ⟨_, rfl, .inr hn, hl⟩
      · rw [afterIf_neg fun h => hn h.1]
        exact .inr ⟨rfl, by simp [hb, hn]⟩
  · rw [afterIf_neg (s := s) fun h => hl h.2, afterIf_neg fun h => hl h.2]
    exact .inr ⟨rfl, fun h => hl h.2⟩

section Keeps

variable {I : World → Prop} (hs : I s)
  (hcp : ∀ o s, I s → I (s.after home fate o (.cpR [dot file] [stamped (dot file) env.datetime])))
  (hrm : ∀ o s, I s → I (s.after home fate o (.rmRf [dot file])))

include hs hcp

lemma createCopied_keeps : I (createCopied home fate env mode file s) :=
  afterIf_keeps (hcp _) (afterIf_keeps (hcp _) hs)

include hrm

lemma installCleared_keeps : I (installCleared home fate env mode line file s) :=
  afterIf_keeps (hrm _) (afterIf_keeps (hcp _) hs)

lemma createCleared_keeps : I (createCleared home fate env mode file s) :=
  afterIf_keeps (hrm _) (createCopied_keeps hs hcp)

end Keeps

lemma installDotfile_apply (hf : IsDotfile file) (henv : env.home = home) :
    installDotfile (diskMachine home fate) env mode line file s =
      orExit (fate.perform home ⟨.installMydotfiles, line + 2, file, true⟩
        (.lnS (dotfilesTarget home file) [dot file]))
      (installCleared home fate env mode line file s) := by
  subst henv
  have hex := testsFor_existence env.home fate (proper_dot hf)
  rw [installDotfile, Sh.block_cons, echo, Sh.ret_bind]
  obtain ⟨n₁, h₁⟩ := blockFrom_guarded (hex.and (testsFor_testEq mode "backup"))
  obtain ⟨n₂, h₂⟩ := blockFrom_guarded hex.and_echo
  refine h₁.trans (h₂.trans ?_)
  rw [Sh.blockFrom_singleton]
  rfl

lemma createDotfile_apply (henv : env.home = home) :
    createDotfile (diskMachine home fate) env mode file s =
      fate.perform home ⟨.createSymbolicLink, 43, file, false⟩
        (.lnS (dotfilesTarget home file) [dot file]) (createCleared home fate env mode file s) := by
  subst henv
  have hex := testsFor_testE env.home fate [dot file]
  rw [createDotfile, Sh.block]
  obtain ⟨n₁, h₁⟩ := blockFrom_guarded ((testsFor_testEq mode "backup").and hex)
  obtain ⟨n₂, h₂⟩ := blockFrom_guarded ((testsFor_testEq mode "no").and hex)
  obtain ⟨n₃, h₃⟩ := blockFrom_guarded hex
  refine h₁.trans (h₂.trans (h₃.trans ?_))
  rw [Sh.blockFrom_singleton]
  rfl

lemma cygwinDotfile_apply (hf : IsDotfile file) :
    cygwinDotfile (diskMachine home fate) home file s =
      fate.perform home ⟨.cygwinSetup, 51, file, false⟩
        (.lnS (dotfilesTarget home file) [dot file]) (cygwinCleared home fate file s) := by
  have hex := testsFor_existence home fate (proper_dot hf)
  obtain ⟨n, h⟩ := blockFrom_ifThen (m := 0) hex
  refine h.trans ?_
  rw [Sh.blockFrom_singleton]
  rfl

end Pass

end InitialSetups.Dotfiles
