import InitialSetups.Dotfiles.Machine

/-!
# One pass of each linking loop

What one pass for `f` of the loops of `install_mydotfiles.sh`, `create_symbolic_link.sh` and
`cygwin_setup.sh` makes of the disk: when it ends with the link, and what else it changes.
-/

namespace InitialSetups.Dotfiles

open InitialSetups.Shell InitialSetups.Files InitialSetups.Files.Disk InitialSetups.Scripts

section Linked

variable {home : Path} {fate : Fate} {env : Env} {mode f g n' : String} {line : ℕ} {o : Occ}
  {w w' : Disk} {s : World}

/-- `$HOME/.f` is a symbolic link with the text `t`. -/
def HasLink (home : Path) (f : String) (t : Target) (s : World) : Prop :=
  s.disk (home ++ [dot f]) = some (.link t)

/-- `$HOME/.f` is a link to exactly `$HOME/.dotfiles/f`. -/
def Linked (home : Path) (f : String) (s : World) : Prop :=
  HasLink home f (dotfilesTarget home f) s

/-- A copy of `$HOME/.f` to the name `n'` changes nothing outside that name. -/
def BackupStays (home : Path) (f : String) (n' : Name) (w : Disk) : Prop :=
  ∀ w', cpR home [dot f] [n'] w = some w' → AgreeOff (home ++ [n'] <+: ·) w w'

/-- A backup to a name that is free stays there. -/
lemma backupStays_of_free (hn : Proper n') (hne : dot f ≠ n') (h : w (home ++ [n']) = none) :
    BackupStays home f n' w := by
  intro w' hw'
  by_cases hf : w (home ++ [dot f]) = none
  · simp [cpR, copyTo, hf] at hw'
  · rw [cpR_of_none hn hne hf h, Option.some.injEq] at hw'
    rw [← hw']
    exact agreeOff_plant _ _ _

/-! ### What one command does -/

variable (hok : ∀ o, fate.fails o = false)

include hok in
/-- A backup leaves every other link alone. -/
lemma after_cpR_keeps_link {t : Target} (hne : n' ≠ dot g) (hf : HasLink home g t s) :
    HasLink home g t (s.after home fate o (.cpR [dot f] [n'])) := by
  rw [HasLink, after_disk, step_disk (hok o)]
  cases h : fate.effect home s.disk (.cpR [dot f] [n']) with
  | none => rwa [Option.getD_none]
  | some w' => exact cpR_keeps_link h hf hne.symm

include hok in
lemma agreeOff_after_cpR (h : BackupStays home f n' s.disk) :
    AgreeOff (home ++ [n'] <+: ·) s.disk (s.after home fate o (.cpR [dot f] [n'])).disk := by
  rw [after_disk, step_disk (hok o)]
  cases hc : fate.effect home s.disk (.cpR [dot f] [n']) with
  | none => exact AgreeOff.refl _ _
  | some w' => exact h w' hc

lemma agreeOff_after_rmRf :
    AgreeOff (home ++ [dot f] <+: ·) s.disk (s.after home fate o (.rmRf [dot f])).disk := by
  rw [after_disk, step_rmRf, rmRf_singleton]
  exact agreeOff_erase _ _

lemma agreeOff_after_rm :
    AgreeOff (home ++ [dot f] <+: ·) s.disk (s.after home fate o (.rm [dot f])).disk := by
  rw [after_disk, step_rm]
  cases h : rm home [dot f] s.disk with
  | none => exact AgreeOff.refl _ _
  | some w' =>
      obtain rfl := rm_singleton_eq_some h
      exact agreeOff_erase _ _

include hok in
/-- Where nothing stands `ln -s` makes the link. -/
lemma step_lnS_of_none (hf : IsDotfile f) (h : w (home ++ [dot f]) = none) :
    fate.step home o (.lnS (dotfilesTarget home f) [dot f]) w =
      (0, put (home ++ [dot f]) (.link (dotfilesTarget home f)) w) :=
  step_of_some (hok o) (lnS_of_none (proper_dot hf) h _)

include hok in
lemma after_lnS_of_none (hf : IsDotfile f) (h : s.disk (home ++ [dot f]) = none) :
    Linked home f (s.after home fate o (.lnS (dotfilesTarget home f) [dot f])) ∧
      AgreeOff (home ++ [dot f] <+: ·) s.disk
        (s.after home fate o (.lnS (dotfilesTarget home f) [dot f])).disk := by
  rw [Linked, HasLink, after_disk, step_lnS_of_none hok hf h]
  exact ⟨put_self _ _ _, agreeOff_put _ _ _⟩

include hok in
/-- `ln -s` changes no entry that is there. -/
lemma after_lnS_keeps {t : Target} {p q : Path} {e : Entry} (h : s.disk q = some e) :
    (s.after home fate o (.lnS t p)).disk q = some e := by
  rw [after_disk, step_disk (hok o)]
  cases hc : fate.effect home s.disk (.lnS t p) with
  | none => rwa [Option.getD_none]
  | some w' =>
      obtain ⟨r, -, hr, rfl⟩ := lnS_eq_some hc
      rw [Option.getD_some, put_of_ne _ _ _, h]
      rintro rfl
      rw [look] at hr
      split_ifs at hr
      rw [h] at hr
      cases hr

/-- A change below `$HOME/.f` leaves every other entry alone. -/
lemma entry_eq_of_agreeOff {w w' : Disk} (h : AgreeOff (home ++ [dot f] <+: ·) w w')
    (hne : g ≠ f) : w' (home ++ [dot g]) = w (home ++ [dot g]) :=
  h _ fun hpre => hne (dot_injective (home_append_prefix_iff.1 hpre)).symm

lemma after_rmRf_keeps_link {t : Target} (hne : g ≠ f) (hg : HasLink home g t s) :
    HasLink home g t (s.after home fate o (.rmRf [dot f])) :=
  (entry_eq_of_agreeOff agreeOff_after_rmRf hne).trans hg

lemma after_rm_keeps_link {t : Target} (hne : g ≠ f) (hg : HasLink home g t s) :
    HasLink home g t (s.after home fate o (.rm [dot f])) :=
  (entry_eq_of_agreeOff agreeOff_after_rm hne).trans hg

/-! ### One pass of each loop -/

/-- The paths that a pass for `f` may change: `$HOME/.f` and the stamped name. -/
def PassPaths (home : Path) (f : String) (n' : Name) (q : Path) : Prop :=
  home ++ [dot f] <+: q ∨ home ++ [n'] <+: q

lemma installCleared_none (home : Path) (fate : Fate) (env : Env) (mode : String) (line : ℕ)
    (f : String) (s : World) :
    (installCleared home fate env mode line f s).disk (home ++ [dot f]) = none := by
  unfold installCleared
  by_cases h : Stands home (dot f) (s.afterIf home fate
      (fun s => Stands home (dot f) s ∧ mode = "backup") ⟨.installMydotfiles, line, f, false⟩
      (.cpR [dot f] [stamped (dot f) env.datetime]))
  · rw [afterIf_pos h, after_disk, step_rmRf, rmRf_singleton]
    exact erase_self _ _
  · rw [afterIf_neg h]
    exact not_not.1 h

include hok in
lemma installCleared_frame (line : ℕ)
    (hstay : mode = "backup" → BackupStays home f (stamped (dot f) env.datetime) s.disk) :
    AgreeOff (PassPaths home f (stamped (dot f) env.datetime)) s.disk
      (installCleared home fate env mode line f s).disk := by
  have hcopied : AgreeOff (PassPaths home f (stamped (dot f) env.datetime)) s.disk
      (s.afterIf home fate (fun s => Stands home (dot f) s ∧ mode = "backup")
        ⟨.installMydotfiles, line, f, false⟩
        (.cpR [dot f] [stamped (dot f) env.datetime])).disk := by
    by_cases h : Stands home (dot f) s ∧ mode = "backup"
    · rw [afterIf_pos h]
      exact (agreeOff_after_cpR hok (hstay h.2)).mono fun q => .inr
    · rw [afterIf_neg h]
      exact AgreeOff.refl _ _
  exact afterIf_keeps (I := fun s' => AgreeOff _ s.disk s'.disk)
    (fun s' h => h.trans (agreeOff_after_rmRf.mono fun q => .inl)) hcopied

include hok in
/-- A pass of `install_mydotfiles.sh` makes the link, whatever stood at its place. -/
lemma installDotfile_pass (hf : IsDotfile f) (henv : env.home = home) :
    ∃ s', installDotfile (diskMachine home fate) env mode line f s = (.status 0, s') ∧
      Linked home f s' ∧
      (∀ g t, g ≠ f → stamped (dot f) env.datetime ≠ dot g → HasLink home g t s →
        HasLink home g t s') ∧
      ((mode = "backup" → BackupStays home f (stamped (dot f) env.datetime) s.disk) →
        AgreeOff (PassPaths home f (stamped (dot f) env.datetime)) s.disk s'.disk) := by
  have hnone := installCleared_none home fate env mode line f s
  obtain ⟨hlinked, hframe⟩ := after_lnS_of_none (o := ⟨.installMydotfiles, line + 2, f, true⟩)
    hok hf hnone
  rw [installDotfile_apply hf henv, orExit_perform_apply, step_lnS_of_none hok hf hnone]
  refine ⟨_, rfl, hlinked, fun g t hne hS ht => ?_, fun hstay => ?_⟩
  · exact after_lnS_keeps hok (installCleared_keeps (I := HasLink home g t) ht
      (fun o s => after_cpR_keeps_link hok hS) fun o s => after_rmRf_keeps_link hne)
  · exact (installCleared_frame hok line hstay).trans (hframe.mono fun q => .inl)

/-- When `create_symbolic_link.sh` comes to remove `$HOME/.f`, nothing is there, or it leads
somewhere, or it is the link to be made. -/
def Removable (home : Path) (fate : Fate) (env : Env) (mode f : String) (s : World) : Prop :=
  LeadsOn home [dot f] (createCopied home fate env mode f s) ∨
    ¬ Stands home (dot f) (createCopied home fate env mode f s) ∨
    Linked home f (createCopied home fate env mode f s)

/-- What leads nowhere although something is there is a symbolic link. -/
lemma hasLink_of_not_leadsOn (hf : IsDotfile f) (hl : ¬ LeadsOn home [dot f] s)
    (hs : Stands home (dot f) s) : ∃ t, HasLink home f t s := by
  obtain ⟨e, he⟩ := Option.ne_none_iff_exists'.1 hs
  cases e with
  | file c =>
      exact absurd (stat_singleton_of_not_link (proper_dot hf) he (by simp))
        (by simp_all [LeadsOn])
  | dir =>
      exact absurd (stat_singleton_of_not_link (proper_dot hf) he (by simp))
        (by simp_all [LeadsOn])
  | link t => exact ⟨t, he⟩

include hok in
/-- `ln -s` leaves a link that leads nowhere in place. -/
lemma after_lnS_of_dangling {t l : Target} (hl : ¬ LeadsOn home [dot f] s)
    (ht : HasLink home f l s) : (s.after home fate o (.lnS t [dot f])).disk = s.disk := by
  have h : fate.effect home s.disk (.lnS t [dot f]) = none :=
    lnS_of_dangling ht (not_not.1 hl)
  rw [after_disk, step_of_none (hok o) h]

lemma createCleared_none
    (h : LeadsOn home [dot f] (createCopied home fate env mode f s) ∨
      ¬ Stands home (dot f) (createCopied home fate env mode f s)) :
    (createCleared home fate env mode f s).disk (home ++ [dot f]) = none := by
  by_cases hl : LeadsOn home [dot f] (createCopied home fate env mode f s)
  · rw [createCleared, afterIf_pos hl, after_disk, step_rmRf, rmRf_singleton]
    exact erase_self _ _
  · rw [createCleared, afterIf_neg hl]
    exact not_not.1 (h.resolve_left hl)

include hok in
lemma createCleared_frame
    (hstay : mode = "backup" ∨ mode = "no" → LeadsOn home [dot f] s →
      BackupStays home f (stamped (dot f) env.datetime) s.disk) :
    AgreeOff (PassPaths home f (stamped (dot f) env.datetime)) s.disk
      (createCleared home fate env mode f s).disk := by
  have hcopied : AgreeOff (PassPaths home f (stamped (dot f) env.datetime)) s.disk
      (createCopied home fate env mode f s).disk := by
    rcases createCopied_cases with ⟨o, hcopy, hmode, hl⟩ | ⟨hcopy, -⟩
    · rw [hcopy]
      exact (agreeOff_after_cpR hok (hstay hmode hl)).mono fun q => .inr
    · rw [hcopy]
      exact AgreeOff.refl _ _
  exact afterIf_keeps (I := fun s' => AgreeOff _ s.disk s'.disk)
    (fun s' h => h.trans (agreeOff_after_rmRf.mono fun q => .inl)) hcopied

include hok in
/-- A pass of `create_symbolic_link.sh` makes the link unless a dangling link is in its way. -/
lemma createDotfile_pass (hf : IsDotfile f) (henv : env.home = home) :
    ∃ n s', createDotfile (diskMachine home fate) env mode f s = (.status n, s') ∧
      (Removable home fate env mode f s → Linked home f s') ∧
      (¬ Removable home fate env mode f s →
        ∃ t, t ≠ dotfilesTarget home f ∧ HasLink home f t s') ∧
      (∀ g t, g ≠ f → stamped (dot f) env.datetime ≠ dot g → HasLink home g t s →
        HasLink home g t s') ∧
      (Removable home fate env mode f s →
        (mode = "backup" ∨ mode = "no" → LeadsOn home [dot f] s →
          BackupStays home f (stamped (dot f) env.datetime) s.disk) →
        AgreeOff (PassPaths home f (stamped (dot f) env.datetime)) s.disk s'.disk) := by
  rw [createDotfile_apply henv]
  refine ⟨_, _, rfl, fun h => ?_, fun h => ?_, fun g t hne hS ht => ?_, fun h hstay => ?_⟩
  · rcases or_assoc.2 h with h | h
    · exact (after_lnS_of_none hok hf (createCleared_none h)).1
    · by_cases hl : LeadsOn home [dot f] (createCopied home fate env mode f s)
      · exact (after_lnS_of_none hok hf (createCleared_none (.inl hl))).1
      · -- the link is there already and leads nowhere
        rw [createCleared, afterIf_neg hl, Linked, HasLink, after_lnS_of_dangling hok hl h]
        exact h
  · obtain ⟨hl, hs, ht⟩ : ¬ LeadsOn home [dot f] (createCopied home fate env mode f s) ∧
        Stands home (dot f) (createCopied home fate env mode f s) ∧
        ¬ Linked home f (createCopied home fate env mode f s) := by
      simpa [Removable] using h
    obtain ⟨t, htl⟩ := hasLink_of_not_leadsOn hf hl hs
    refine ⟨t, fun he => ht (by rw [Linked, ← he]; exact htl), ?_⟩
    rw [createCleared, afterIf_neg hl, HasLink, after_lnS_of_dangling hok hl htl]
    exact htl
  · exact after_lnS_keeps hok (createCleared_keeps (I := HasLink home g t) ht
      (fun o s => after_cpR_keeps_link hok hS) fun o s => after_rmRf_keeps_link hne)
  · refine (createCleared_frame hok hstay).trans ?_
    rcases or_assoc.2 h with h | h
    · exact (after_lnS_of_none hok hf (createCleared_none h)).2.mono fun q => .inl
    · by_cases hl : LeadsOn home [dot f] (createCopied home fate env mode f s)
      · exact (after_lnS_of_none hok hf (createCleared_none (.inl hl))).2.mono fun q => .inl
      · rw [createCleared, afterIf_neg hl, after_lnS_of_dangling hok hl h]
        exact AgreeOff.refl _ _

/-- A directory stands at `$HOME/.f`. -/
def HasDir (home : Path) (f : String) (s : World) : Prop :=
  s.disk (home ++ [dot f]) = some .dir

lemma cygwinCleared_none (h : ¬ HasDir home f s) :
    (cygwinCleared home fate f s).disk (home ++ [dot f]) = none := by
  rw [cygwinCleared]
  by_cases hs : Stands home (dot f) s
  · obtain ⟨e, he⟩ := Option.ne_none_iff_exists'.1 hs
    have hrm : rm home [dot f] s.disk = some (erase (home ++ [dot f]) s.disk) := by
      rw [rm, locate_singleton, Option.bind_some, look_in_home, he]
      cases e with
      | dir => exact absurd he h
      | file c => rfl
      | link t => rfl
    rw [afterIf_pos hs, after_disk, step_rm, hrm]
    exact erase_self _ _
  · rw [afterIf_neg hs]
    exact not_not.1 hs

lemma after_rm_keeps_dir (hg : HasDir home g s) :
    HasDir home g (s.after home fate o (.rm [dot f])) := by
  by_cases hne : g = f
  · subst hne
    have hrm : rm home [dot g] s.disk = none := by
      rw [rm, locate_singleton, Option.bind_some, look_in_home, hg]
    rw [HasDir, after_disk, step_rm, hrm]
    exact hg
  · exact (entry_eq_of_agreeOff agreeOff_after_rm hne).trans hg

include hok in
/-- A pass of `cygwin_setup.sh` makes the link unless a directory is in its way. -/
lemma cygwinDotfile_pass (hf : IsDotfile f) :
    ∃ n s', cygwinDotfile (diskMachine home fate) home f s = (.status n, s') ∧
      (¬ HasDir home f s → Linked home f s') ∧
      (∀ g, HasDir home g s → HasDir home g s') ∧
      (∀ g t, g ≠ f → HasLink home g t s → HasLink home g t s') ∧
      (¬ HasDir home f s → AgreeOff (home ++ [dot f] <+: ·) s.disk s'.disk) := by
  rw [cygwinDotfile_apply hf]
  refine ⟨_, _, rfl, fun h => ?_, fun g hg => ?_, fun g t hne ht => ?_, fun h => ?_⟩
  · exact (after_lnS_of_none hok hf (cygwinCleared_none h)).1
  · exact after_lnS_keeps hok (afterIf_keeps (I := HasDir home g)
      (fun s => after_rm_keeps_dir) hg)
  · exact after_lnS_keeps hok (afterIf_keeps (I := HasLink home g t)
      (fun s => after_rm_keeps_link hne) ht)
  · have hcleared : AgreeOff (home ++ [dot f] <+: ·) s.disk (cygwinCleared home fate f s).disk :=
      afterIf_keeps (I := fun s' => AgreeOff _ s.disk s'.disk)
        (fun s' h => h.trans agreeOff_after_rm) (AgreeOff.refl _ _)
    exact hcleared.trans (after_lnS_of_none hok hf (cygwinCleared_none h)).2

end Linked

end InitialSetups.Dotfiles
