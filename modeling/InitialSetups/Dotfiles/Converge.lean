import InitialSetups.Dotfiles.Passes

/-!
# The three linking loops agree and converge

The loops of `install_mydotfiles.sh`, `create_symbolic_link.sh` and `cygwin_setup.sh` over the
same names.  Each is to end with every `$HOME/.f` a link to `$HOME/.dotfiles/f`.

The first loop does.  The second tests with `[ -e … ]` alone and leaves a dangling link in
place; the third removes with `rm` and leaves a directory in place.  Nothing else goes wrong,
as long as the backups stay where they belong.
-/

namespace InitialSetups.Dotfiles

open InitialSetups.Shell InitialSetups.Files InitialSetups.Files.Disk InitialSetups.Scripts

section Loops

variable {home : Path} {fate : Fate} {s : World} {files : List String} {X : Path → Prop}

/-- The pass `c` for `f` makes its link, leaves the links of the other words alone and changes
only `X`. -/
def MakesLink (home : Path) (files : List String) (X : Path → Prop) (c : Sh World) (f : String)
    (s : World) : Prop :=
  ∃ n s', c s = (.status n, s') ∧ Linked home f s' ∧
    (∀ g ∈ files, g ≠ f → Linked home g s → Linked home g s') ∧ AgreeOff X s.disk s'.disk

/-- A loop all of whose passes make their links ends with all links made. -/
lemma forEach_linked {body : String → Sh World}
    (hpass : Sh.AtEachPass body (fun f s => MakesLink home files X (body f) f s) files s) :
    (∀ f ∈ files, Linked home f (Sh.forEach files body s).2) ∧
      AgreeOff X s.disk (Sh.forEach files body s).2.disk := by
  have hP := hpass.and (Sh.AtEachPass.of_forall (P := fun f _ => f ∈ files) (fun f hf _ => hf) s)
  have hrun := Sh.forEach_induct [] s
    (I := fun done s' => (∀ g ∈ done, g ∈ files ∧ Linked home g s') ∧ AgreeOff X s.disk s'.disk)
    (fun done f s' hI hf => ?_) ⟨by simp, AgreeOff.refl _ _⟩ hP
  · exact ⟨fun f hf => (hrun.1 f (by simpa using hf)).2, hrun.2⟩
  · obtain ⟨⟨n, s'', hbody, hlinked, hkeeps, hframe⟩, hmem⟩ := hf
    refine ⟨n, s'', hbody, fun g hg => ?_, hI.2.trans hframe⟩
    by_cases hgf : g = f
    · exact hgf ▸ ⟨hmem, hlinked⟩
    · obtain ⟨hg', hlink⟩ := hI.1 g ((List.mem_cons.1 hg).resolve_left hgf)
      exact ⟨hg', hkeeps g hg' hgf hlink⟩

/-- Passes that keep all links find all links. -/
lemma atEachPass_of_linked {again : String → Sh World} {s : World}
    (h : ∀ f ∈ files, ∀ s, Linked home f s →
      MakesLink home files (fun _ => True) (again f) f s)
    (hs : ∀ f ∈ files, Linked home f s) :
    Sh.AtEachPass again (fun f s => MakesLink home files (fun _ => True) (again f) f s) files
      s := by
  refine Sh.AtEachPass.of_invariant (I := fun s => ∀ f ∈ files, Linked home f s)
    (fun f hf s hI => ?_) hs
  have hmakes := h f hf s (hI f hf)
  refine ⟨hmakes, fun g hg => ?_⟩
  obtain ⟨n, s', hrun, hl, hk, -⟩ := hmakes
  rw [hrun]
  by_cases hgf : g = f
  · exact hgf ▸ hl
  · exact hk g hg hgf (hI g hg)

end Loops

/-! ### Convergence -/

/-- The stamped names of the words of a loop. -/
def Backups (home : Path) (files : List String) (stamp : String) (q : Path) : Prop :=
  ∃ f ∈ files, home ++ [stamped (dot f) stamp] <+: q

/-- The paths that a loop may change: its names and the backups. -/
def LoopPaths (home : Path) (files : List String) (backups : Path → Prop) (q : Path) : Prop :=
  (∃ f ∈ files, home ++ [dot f] <+: q) ∨ backups q

/-- The loop with this body, started on `w`, makes every `$HOME/.f` the link to
`$HOME/.dotfiles/f` and changes nothing else but `backups`; the loop with the body `again`
then changes no link. -/
structure Converges (home : Path) (body again : String → Sh World) (files : List String)
    (backups : Path → Prop) (w : Disk) : Prop where
  linked : ∀ f ∈ files, Linked home f ((Sh.forEach files body).world ⟨w, []⟩)
  frame : AgreeOff (LoopPaths home files backups) w
    ((Sh.forEach files body).world ⟨w, []⟩).disk
  stable : ∀ f ∈ files, Linked home f
    ((Sh.forEach files again).world ((Sh.forEach files body).world ⟨w, []⟩))

section Convergence

variable (fate : Fate) (env : Env) (later mode mode' : String) (line : ℕ) (files : List String)
  (w : Disk)

/-- The machine of a run in `env`. -/
abbrev machine : Machine World := diskMachine env.home fate

/-- The three loops, each run twice, the second time when the clock shows `later`. -/
structure LoopsConverge : Prop where
  install : Converges env.home (installDotfile (machine fate env) env mode line)
    (installDotfile (machine fate env) (env.withDatetime later) mode line) files
    (Backups env.home files env.datetime) w
  create : Converges env.home (createDotfile (machine fate env) env mode')
    (createDotfile (machine fate env) (env.withDatetime later) mode') files
    (Backups env.home files env.datetime) w
  cygwin : Converges env.home (cygwinDotfile (machine fate env) env.home)
    (cygwinDotfile (machine fate env) env.home) files (fun _ => False) w

/-- `create_symbolic_link.sh` meets no dangling link, `cygwin_setup.sh` no directory. -/
structure NothingInTheWay : Prop where
  create : Sh.AtEachPass (createDotfile (machine fate env) env mode')
    (Removable env.home fate env mode') files ⟨w, []⟩
  cygwin : ∀ f ∈ files, ¬ HasDir env.home f ⟨w, []⟩

/-- Each backup changes nothing but its stamped name. -/
structure BackupsStay : Prop where
  install : Sh.AtEachPass (installDotfile (machine fate env) env mode line)
    (fun f s => mode = "backup" →
      BackupStays env.home f (stamped (dot f) env.datetime) s.disk) files ⟨w, []⟩
  create : Sh.AtEachPass (createDotfile (machine fate env) env mode')
    (fun f s => mode' = "backup" ∨ mode' = "no" → LeadsOn env.home [dot f] s →
      BackupStays env.home f (stamped (dot f) env.datetime) s.disk) files ⟨w, []⟩

/-- No word of the loop is the stamped name of another. -/
def Unlisted (stamp : String) : Prop := ∀ f ∈ files, ∀ g ∈ files, stamped (dot f) stamp ≠ dot g

variable {fate env later mode mode' line files w}

/-- A loop converges when each pass of the first run makes its link and each pass of a later
run that finds its link makes it again. -/
lemma Converges.of_passes {home : Path} {body again : String → Sh World} {backups : Path → Prop}
    (hfirst : Sh.AtEachPass body
      (fun f s => MakesLink home files (LoopPaths home files backups) (body f) f s) files ⟨w, []⟩)
    (hagain : ∀ f ∈ files, ∀ s, Linked home f s →
      MakesLink home files (fun _ => True) (again f) f s) :
    Converges home body again files backups w := by
  obtain ⟨hlinked, hframe⟩ := forEach_linked hfirst
  exact ⟨hlinked, hframe, (forEach_linked (atEachPass_of_linked hagain hlinked)).1⟩

lemma loopPaths_of_passPaths {stamp f : String} (hf : f ∈ files) (q : Path)
    (h : PassPaths env.home f (stamped (dot f) stamp) q) :
    LoopPaths env.home files (Backups env.home files stamp) q :=
  h.imp (fun h => ⟨f, hf, h⟩) fun h => ⟨f, hf, h⟩

variable (hok : ∀ o, fate.fails o = false) (hfiles : ∀ f ∈ files, IsDotfile f)

include hok hfiles

/-- A pass of `install_mydotfiles.sh` in the loop; `X` need not hold what a backup that goes
astray may change when it holds everything. -/
lemma install_makesLink {stamp : String} {X : Path → Prop} {f : String} {s : World}
    (hS : Unlisted files stamp) (hf : f ∈ files)
    (hX : (∀ q, X q) ∨ (∀ q, PassPaths env.home f (stamped (dot f) stamp) q → X q) ∧
      (mode = "backup" → BackupStays env.home f (stamped (dot f) stamp) s.disk)) :
    MakesLink env.home files X
      (installDotfile (machine fate env) (env.withDatetime stamp) mode line f) f s := by
  obtain ⟨s', hrun, hl, hk, hfr⟩ := @installDotfile_pass env.home fate (env.withDatetime stamp)
    mode f line s hok (hfiles f hf) rfl
  refine ⟨0, s', hrun, hl, fun g hg hne => hk g _ hne (hS f hf g hg), ?_⟩
  rcases hX with hX | ⟨hX, hstay⟩
  · exact fun q hq => absurd (hX q) hq
  · exact (hfr hstay).mono hX

lemma create_makesLink {stamp : String} {X : Path → Prop} {f : String} {s : World}
    (hS : Unlisted files stamp) (hf : f ∈ files)
    (hr : Removable env.home fate (env.withDatetime stamp) mode' f s)
    (hX : (∀ q, X q) ∨ (∀ q, PassPaths env.home f (stamped (dot f) stamp) q → X q) ∧
      (mode' = "backup" ∨ mode' = "no" → LeadsOn env.home [dot f] s →
        BackupStays env.home f (stamped (dot f) stamp) s.disk)) :
    MakesLink env.home files X
      (createDotfile (machine fate env) (env.withDatetime stamp) mode' f) f s := by
  obtain ⟨n, s', hrun, hl, -, hk, hfr⟩ := @createDotfile_pass env.home fate
    (env.withDatetime stamp) mode' f s hok (hfiles f hf) rfl
  refine ⟨n, s', hrun, hl hr, fun g hg hne => hk g _ hne (hS f hf g hg), ?_⟩
  rcases hX with hX | ⟨hX, hstay⟩
  · exact fun q hq => absurd (hX q) hq
  · exact (hfr hr hstay).mono hX

lemma cygwin_makesLink {X : Path → Prop} {f : String} {s : World} (hf : f ∈ files)
    (hd : ¬ HasDir env.home f s) (hX : ∀ q, env.home ++ [dot f] <+: q → X q) :
    MakesLink env.home files X (cygwinDotfile (machine fate env) env.home f) f s := by
  obtain ⟨n, s', hrun, hl, -, hk, hfr⟩ := @cygwinDotfile_pass env.home fate f s hok (hfiles f hf)
  exact ⟨n, s', hrun, hl hd, fun g _ hne => hk g _ hne, (hfr hd).mono hX⟩

lemma install_converges (hS : Unlisted files env.datetime) (hS' : Unlisted files later)
    (hstay : BackupsStay fate env mode mode' line files w) :
    Converges env.home (installDotfile (machine fate env) env mode line)
      (installDotfile (machine fate env) (env.withDatetime later) mode line) files
      (Backups env.home files env.datetime) w := by
  refine Converges.of_passes (hstay.install.mono fun f hf s hstays => ?_) fun f hf s _ => ?_
  · exact install_makesLink hok hfiles hS hf (.inr ⟨loopPaths_of_passPaths hf, hstays⟩)
  · exact install_makesLink hok hfiles hS' hf (.inl fun _ => trivial)

omit hfiles in
/-- A link that is there is removable: it leads somewhere, or it is the one to be made. -/
lemma removable_of_linked {stamp f : String} {s : World} (hS : Unlisted files stamp)
    (hf : f ∈ files) (h : Linked env.home f s) :
    Removable env.home fate (env.withDatetime stamp) mode' f s :=
  .inr (.inr (createCopied_keeps (I := Linked env.home f) h fun _ _ =>
    after_cpR_keeps_link hok (hS f hf f hf)))

lemma create_converges (hS : Unlisted files env.datetime) (hS' : Unlisted files later)
    (hway : NothingInTheWay fate env mode' files w)
    (hstay : BackupsStay fate env mode mode' line files w) :
    Converges env.home (createDotfile (machine fate env) env mode')
      (createDotfile (machine fate env) (env.withDatetime later) mode') files
      (Backups env.home files env.datetime) w := by
  refine Converges.of_passes ((hway.create.and hstay.create).mono fun f hf s h => ?_)
    fun f hf s h => ?_
  · exact create_makesLink hok hfiles hS hf h.1 (.inr ⟨loopPaths_of_passPaths hf, h.2⟩)
  · exact create_makesLink hok hfiles hS' hf (removable_of_linked hok hS' hf h)
      (.inl fun _ => trivial)

/-- A directory that `cygwin_setup.sh` does not meet at first it never meets. -/
lemma cygwin_atEachPass (hway : ∀ f ∈ files, ¬ HasDir env.home f ⟨w, []⟩) :
    Sh.AtEachPass (cygwinDotfile (machine fate env) env.home)
      (fun f s => ¬ HasDir env.home f s) files ⟨w, []⟩ := by
  refine Sh.AtEachPass.of_invariant (I := fun s => ∀ f ∈ files, ¬ HasDir env.home f s)
    (fun f hf s hI => ⟨hI f hf, fun g hg hdir => ?_⟩) hway
  obtain ⟨n, s', hrun, hl, -, -, hfr⟩ := @cygwinDotfile_pass env.home fate f s hok (hfiles f hf)
  rw [hrun] at hdir
  by_cases hgf : g = f
  · -- what stands there now is the link
    have hlink := hl (hI f hf)
    rw [hgf, HasDir, hlink] at hdir
    cases hdir
  · rw [HasDir, entry_eq_of_agreeOff (hfr (hI f hf)) hgf] at hdir
    exact hI g hg hdir

lemma cygwin_converges (hway : NothingInTheWay fate env mode' files w) :
    Converges env.home (cygwinDotfile (machine fate env) env.home)
      (cygwinDotfile (machine fate env) env.home) files (fun _ => False) w := by
  refine Converges.of_passes ((cygwin_atEachPass hok hfiles hway.cygwin).mono
    fun f hf s hdir => ?_) fun f hf s h => ?_
  · exact cygwin_makesLink hok hfiles hf hdir fun q hq => .inl ⟨f, hf, hq⟩
  · refine cygwin_makesLink hok hfiles hf (fun hdir => ?_) fun _ _ => trivial
    rw [HasDir, h] at hdir
    cases hdir

/-! ### What is in the way stays in the way -/

/-- A link that a loop of `create_symbolic_link.sh` cannot remove is still there at its end. -/
lemma create_keeps_link {f : String} {t : Target} {gs : List String} {s : World}
    (hgs : ∀ g ∈ gs, g ∈ files ∧ g ≠ f) (hS : ∀ g ∈ files, stamped (dot g) env.datetime ≠ dot f)
    (h : HasLink env.home f t s) :
    HasLink env.home f t (Sh.forEach gs (createDotfile (machine fate env) env mode') s).2 := by
  refine Preserves.forEach (I := HasLink env.home f t) (fun g hg s hs => ?_) s h
  obtain ⟨n, s', hrun, -, -, hk, -⟩ := @createDotfile_pass env.home fate env mode' g s hok
    (hfiles g (hgs g hg).1) rfl
  rw [hrun]
  exact hk f t (Ne.symm (hgs g hg).2) (hS g (hgs g hg).1) hs

lemma create_nothingInTheWay {gs : List String} {s : World} (hgs : ∀ g ∈ gs, g ∈ files)
    (hnd : gs.Nodup) (hS : Unlisted files env.datetime)
    (h : ∀ g ∈ gs, Linked env.home g
      (Sh.forEach gs (createDotfile (machine fate env) env mode') s).2) :
    Sh.AtEachPass (createDotfile (machine fate env) env mode')
      (Removable env.home fate env mode') gs s := by
  induction gs generalizing s with
  | nil => trivial
  | cons f gs ih =>
      obtain ⟨hf, hnd⟩ := List.nodup_cons.1 hnd
      have hmem : ∀ g ∈ gs, g ∈ files := fun g hg => hgs g (List.mem_cons_of_mem f hg)
      obtain ⟨n, s', hrun, -, hstuck, -, -⟩ := @createDotfile_pass env.home fate env mode' f s
        hok (hfiles f (hgs f List.mem_cons_self)) rfl
      rw [Sh.forEach_cons_world hrun] at h
      refine ⟨?_, ?_⟩
      · by_contra hr
        obtain ⟨t, ht, hlink⟩ := hstuck hr
        have hend : HasLink env.home f t
            (Sh.forEach gs (createDotfile (machine fate env) env mode') s').2 :=
          create_keeps_link hok hfiles (fun g hg => ⟨hmem g hg, fun he => hf (by rwa [← he])⟩)
          (fun g hg => hS g hg f (hgs f List.mem_cons_self)) hlink
        have hlinked := h f List.mem_cons_self
        rw [Linked, HasLink, hend] at hlinked
        exact ht (by simpa using hlinked)
      · rw [hrun]
        exact ih hmem hnd fun g hg => h g (List.mem_cons_of_mem f hg)

lemma cygwin_nothingInTheWay
    (h : ∀ f ∈ files, Linked env.home f
      (Sh.forEach files (cygwinDotfile (machine fate env) env.home) ⟨w, []⟩).2) :
    ∀ f ∈ files, ¬ HasDir env.home f ⟨w, []⟩ := by
  intro f hf hdir
  have hend : HasDir env.home f
      (Sh.forEach files (cygwinDotfile (machine fate env) env.home) ⟨w, []⟩).2 := by
    refine Preserves.forEach (I := HasDir env.home f) (fun g hg s hs => ?_) _ hdir
    obtain ⟨n, s', hrun, -, hk, -, -⟩ := @cygwinDotfile_pass env.home fate g s hok (hfiles g hg)
    rw [hrun]
    exact hk f hs
  have hlinked := h f hf
  rw [Linked, HasLink, hend] at hlinked
  cases hlinked

omit hok hfiles in
/-- When they converge the three loops make the same links. -/
lemma LoopsConverge.same_links (h : LoopsConverge fate env later mode mode' line files w) :
    ∀ f ∈ files,
      ((Sh.forEach files (installDotfile (machine fate env) env mode line)).world ⟨w, []⟩).disk
          (env.home ++ [dot f]) =
        ((Sh.forEach files (createDotfile (machine fate env) env mode')).world ⟨w, []⟩).disk
          (env.home ++ [dot f]) ∧
      ((Sh.forEach files (createDotfile (machine fate env) env mode')).world ⟨w, []⟩).disk
          (env.home ++ [dot f]) =
        ((Sh.forEach files (cygwinDotfile (machine fate env) env.home)).world ⟨w, []⟩).disk
          (env.home ++ [dot f]) :=
  fun f hf => ⟨(h.install.linked f hf).trans (h.create.linked f hf).symm,
    (h.create.linked f hf).trans (h.cygwin.linked f hf).symm⟩

end Convergence

/-! ### A home with a dangling link -/

/-- Surroundings of a run in the home directory `/home/u`. -/
def sampleEnv : Env := ⟨["home", "u"], ["src", "lib"], "Linux", "202401020304"⟩

/-- `~/.vimrc` is a link to a file that is gone; `~/.dotfiles` holds `vimrc` and `vim`. -/
def danglingHome : Disk := fun p =>
  if p = ["home", "u", ".dotfiles"] then some .dir
  else if p = ["home", "u", ".dotfiles", "vimrc"] then some (.file "syntax on")
  else if p = ["home", "u", ".dotfiles", "vim"] then some .dir
  else if p = ["home", "u", ".vimrc"] then some (.link ⟨true, ["gone"]⟩)
  else none

end InitialSetups.Dotfiles
