import InitialSetups.Dotfiles.Failures
import InitialSetups.Dotfiles.Saved

/-!
# Which failures lose a file

`install_mydotfiles.sh` and `download_dotfiles.sh` under every assignment of failures.  The run
of `install_mydotfiles.sh` is cut into the lines before the loops, which may create
`~/.dotfiles` and nothing else, and the passes of the four loops, to which the general results
about slots apply.
-/

namespace InitialSetups.Dotfiles

open InitialSetups.Shell InitialSetups.Files InitialSetups.Files.Disk InitialSetups.Scripts

/-! ### The loops as a list of passes -/

/-- Lists of commands one after the other are one list of commands. -/
lemma blockFrom_flatten {σ : Type} {css : List (List (Sh σ))} (h : ∀ cs ∈ css, cs ≠ []) (n : ℕ) :
    Sh.blockFrom n (css.map Sh.block) = Sh.blockFrom n css.flatten := by
  induction css generalizing n with
  | nil => rfl
  | cons cs css ih =>
      obtain ⟨c, cs, rfl⟩ := List.exists_cons_of_ne_nil (h cs List.mem_cons_self)
      rw [List.map_cons, Sh.blockFrom_cons, List.flatten_cons, Sh.blockFrom_append]
      have ih' : (fun m => Sh.blockFrom m (css.map Sh.block)) =
          fun m => Sh.blockFrom m css.flatten :=
        funext (ih fun cs hcs => h cs (List.mem_cons_of_mem _ hcs))
      rw [ih']
      rfl

/-- The directory that `~/bin` is, or will be. -/
def binDir (home : Path) (w : Disk) : Path := (resolve home w ["bin"]).getD (home ++ ["bin"])

/-- The paths that the loops handle, in the order of the loops; `d` is the directory `~/bin`. -/
def slots (env : Env) (d : Path) (platform : Platform) : List Slot :=
  installDotfiles.map (dotSlot env 75) ++
    ((if platform ≠ .cygwin then ["minttyrc"].map (dotSlot env 86) else []) ++
      (installBinfiles.map (binSlot env d 103) ++
        (if platform ≠ .cygwin then ["st"].map (binSlot env d 115) else [])))

/-- A handled path is that of a dotfile or of a bin-file. -/
lemma mem_slots {env : Env} {d : Path} {platform : Platform} {k : Slot}
    (h : k ∈ slots env d platform) :
    (∃ line, ∃ file ∈ dotfileNames, k = dotSlot env line file) ∨
      ∃ line, ∃ file ∈ installBinfiles ++ ["st"], k = binSlot env d line file := by
  simp only [slots, List.mem_append, List.mem_map] at h
  rcases h with ⟨file, hf, rfl⟩ | h | ⟨file, hf, rfl⟩ | h
  · exact .inl ⟨75, file, List.mem_append_left _ hf, rfl⟩
  · split_ifs at h
    · obtain ⟨file, hf, rfl⟩ := List.mem_map.1 h
      exact .inl ⟨86, file, List.mem_append_right _ hf, rfl⟩
    · cases h
  · exact .inr ⟨103, file, List.mem_append_left _ hf, rfl⟩
  · split_ifs at h
    · obtain ⟨file, hf, rfl⟩ := List.mem_map.1 h
      exact .inr ⟨115, file, List.mem_append_right _ hf, rfl⟩
    · cases h

section Steps

variable {home : Path} {fate : Fate} {mode : String} {ks ls : List Slot} {cs ds : List (Sh World)}

lemma Steps.append (h : Steps home fate mode ks cs) (h' : Steps home fate mode ls ds) :
    Steps home fate mode (ks ++ ls) (cs ++ ds) := by
  induction h with
  | nil => exact h'
  | pass hpass _ ih => exact .pass hpass ih
  | idle hidle _ ih => exact .idle hidle ih

lemma Steps.map {α : Type} {slot : α → Slot} {body : α → Sh World}
    (h : ∀ x, IsPass home fate mode (slot x) (body x)) (xs : List α) :
    Steps home fate mode (xs.map slot) (xs.map body) := by
  induction xs with
  | nil => exact .nil
  | cons x xs ih => exact .pass (h x) ih

lemma idle_ret (n : ℕ) : Idle home (Sh.ret n) := fun s => ⟨n, s, rfl, fun _ => .inl rfl⟩

/-- `[ ! -e $HOME/bin ] && mkdir $HOME/bin/`. -/
lemma idle_mkdir (o : Occ) :
    Idle home ((Sh.test fun s => !(diskMachine home fate).isE ["bin"] s).and
      ((diskMachine home fate).mkdir o ["bin"])) := by
  intro s
  have htest : (Sh.test fun s => !(diskMachine home fate).isE ["bin"] s) s =
      (.status (if !(diskMachine home fate).isE ["bin"] s then 0 else 1), s) := rfl
  by_cases hex : (diskMachine home fate).isE ["bin"] s = true
  · have hstatus : (if !(diskMachine home fate).isE ["bin"] s then 0 else 1) ≠ 0 := by simp [hex]
    exact ⟨_, s, Sh.and_apply_ne_zero htest hstatus, fun _ => .inl rfl⟩
  · rw [if_pos (by simpa using hex)] at htest
    refine ⟨_, s.after home fate o (.mkdir ["bin"]), Sh.and_apply_zero htest, fun q => ?_⟩
    have heffect : fate.effect home s.disk (.mkdir ["bin"]) =
        if s.disk (home ++ ["bin"]) = none then some (put (home ++ ["bin"]) .dir s.disk)
        else none := by
      simp [Fate.effect, mkdir]
    rw [after_disk, Fate.step, heffect]
    split_ifs with hfails hnone
    · exact .inl rfl
    · by_cases hq : q = home ++ ["bin"]
      · subst hq
        exact .inr ⟨rfl, hnone, put_self _ _ _⟩
      · exact .inl (put_of_ne hq _ _)
    · exact .inl rfl

/-- The commands of the loops, those of each line of `installLinks` apart. -/
def linkCommands (fate : Fate) (env : Env) (mode : String) (platform : Platform) :
    List (List (Sh World)) :=
  [installDotfiles.map (installDotfile (diskMachine env.home fate) env mode 75),
   if platform ≠ .cygwin then
     ["minttyrc"].map (installDotfile (diskMachine env.home fate) env mode 86) else [Sh.ret 0],
   [(Sh.test fun s => !(diskMachine env.home fate).isE ["bin"] s).and
      ((diskMachine env.home fate).mkdir ⟨.installMydotfiles, 93, "", false⟩ ["bin"])],
   installBinfiles.map (installBinfile (diskMachine env.home fate) env mode 103),
   if platform ≠ .cygwin then
     ["st"].map (installBinfile (diskMachine env.home fate) env mode 115) else [Sh.ret 0]]

lemma installLinks_eq (env : Env) (platform : Platform) :
    installLinks (diskMachine env.home fate) env mode platform =
      Sh.blockFrom 0 (linkCommands fate env mode platform).flatten := by
  have hne : ∀ cs ∈ linkCommands fate env mode platform, cs ≠ [] := by
    simp only [linkCommands, List.forall_mem_cons]
    split_ifs <;> simp [installDotfiles, installBinfiles]
  rw [← blockFrom_flatten hne, installLinks, Sh.block, linkCommands]
  simp only [List.map_cons, List.map_nil, Sh.forEach, Sh.block]
  split_ifs <;> simp only [Sh.blockFrom_singleton]

/-- The loops make the passes for the slots one after the other. -/
lemma steps_linkCommands (env : Env) (d : Path) (platform : Platform) :
    Steps env.home fate mode (slots env d platform)
      (linkCommands fate env mode platform).flatten := by
  have hdots : ∀ line (xs : List String), Steps env.home fate mode (xs.map (dotSlot env line))
      (xs.map (installDotfile (diskMachine env.home fate) env mode line)) :=
    fun line => Steps.map fun _ => installDotfile_isPass
  have hbins : ∀ line (xs : List String), Steps env.home fate mode (xs.map (binSlot env d line))
      (xs.map (installBinfile (diskMachine env.home fate) env mode line)) :=
    fun line => Steps.map fun _ => installBinfile_isPass d
  simp only [slots, linkCommands, List.flatten_cons, List.flatten_nil, List.append_nil]
  refine (hdots 75 installDotfiles).append (Steps.append ?_
    (.idle (idle_mkdir _) ((hbins 103 installBinfiles).append ?_)))
  · split_ifs
    · exact hdots 86 ["minttyrc"]
    · exact .idle (idle_ret 0) .nil
  · split_ifs
    · exact hbins 115 ["st"]
    · exact .idle (idle_ret 0) .nil

end Steps

/-! ### The lines before the loops -/

section Front

variable (fate : Fate)

/-- `git` is there or gets installed. -/
def GitInstalled : Platform → Prop
  | .linux => fate.status ⟨.installMydotfiles, 37, "apt update", true⟩ = 0 ∧
      (fate.status ⟨.installMydotfiles, 39, "git", false⟩ = 0 ∨
        fate.status ⟨.installMydotfiles, 43, "git", true⟩ = 0) ∧
      fate.status ⟨.installMydotfiles, 49, "apt upgrade", true⟩ = 0
  | .cygwin => fate.status ⟨.installMydotfiles, 52, "git", true⟩ = 0
  | .mac => True

/-- The run comes to the line that clones `~/.dotfiles`. -/
def ReachesClone (platform : Platform) : Prop :=
  fate.status ⟨.installMydotfiles, 8, "cd", true⟩ = 0 ∧ GitInstalled fate platform

/-- The disk after the line that clones `~/.dotfiles`. -/
def clonedDisk (home : Path) (w : Disk) : Disk :=
  if stat home w [".dotfiles"] = none then
    (fate.step home ⟨.installMydotfiles, 60, "", false⟩ (.gitClone [".dotfiles"]) w).2
  else w

variable {fate} {home : Path} {o : Occ} {s : World} {w : Disk}

lemma orExit_run_of_zero (h : fate.status o = 0) :
    orExit ((diskMachine home fate).run o) s = (.status 0, s) :=
  Sh.or_apply_zero (congrArg (fun n => (Flow.status n, s)) h)

lemma orExit_run_of_ne_zero (h : fate.status o ≠ 0) :
    orExit ((diskMachine home fate).run o) s = (.exit 1, s) :=
  Sh.or_apply_ne_zero (show (diskMachine home fate).run o s = (.status (fate.status o), s) from rfl)
    h

/-- The loop over `PACKAGES` for one package. -/
lemma packagesLoop_singleton_apply (home : Path) (fate : Fate) (s : World) (script : Script)
    (line : ℕ) (package : String) :
    packagesLoop (diskMachine home fate) script line [package] s =
      (if fate.status ⟨script, line, package, false⟩ = 0 ∨
          fate.status ⟨script, line + 4, package, true⟩ = 0 then .status 0 else .exit 1, s) := by
  simp only [packagesLoop, Sh.forEach, List.map_cons, List.map_nil, Sh.block,
    Sh.blockFrom_singleton]
  have hquery : (diskMachine home fate).run ⟨script, line, package, false⟩ s =
      (.status (fate.status ⟨script, line, package, false⟩), s) := rfl
  rw [Sh.bind_of_status hquery]
  by_cases hfound : fate.status ⟨script, line, package, false⟩ = 0
  · rw [if_neg (not_not_intro hfound), if_pos (.inl hfound)]
    rfl
  · rw [if_pos hfound]
    by_cases hinstall : fate.status ⟨script, line + 4, package, true⟩ = 0
    · rw [orExit_run_of_zero hinstall, if_pos (.inr hinstall)]
    · rw [orExit_run_of_ne_zero hinstall, if_neg (by simp [hfound, hinstall])]

/-- The lines that install `git` change no file of the home directory. -/
lemma installGit_apply (home : Path) (fate : Fate) (s : World) (platform : Platform) :
    (GitInstalled fate platform →
      installGit (diskMachine home fate) platform s = (.status 0, s)) ∧
    (¬ GitInstalled fate platform →
      installGit (diskMachine home fate) platform s = (.exit 1, s)) := by
  cases platform with
  | linux =>
      have hgit := packagesLoop_singleton_apply home fate s .installMydotfiles 39 "git"
      simp only [installGit, GitInstalled, Sh.block_cons]
      by_cases hupdate : fate.status ⟨.installMydotfiles, 37, "apt update", true⟩ = 0
      · rw [Sh.bind_of_status (orExit_run_of_zero hupdate), Sh.blockFrom_cons]
        split_ifs at hgit with hinstalled
        · rw [Sh.bind_of_status hgit, Sh.blockFrom_singleton]
          exact ⟨fun h => orExit_run_of_zero h.2.2,
            fun h => orExit_run_of_ne_zero fun h' => h ⟨hupdate, hinstalled, h'⟩⟩
        · rw [Sh.bind_of_exit hgit]
          exact ⟨fun h => absurd h.2.1 hinstalled, fun _ => rfl⟩
      · rw [Sh.bind_of_exit (orExit_run_of_ne_zero hupdate)]
        exact ⟨fun h => absurd h.1 hupdate, fun _ => rfl⟩
  | cygwin =>
      simp only [installGit, Sh.forEach, List.map_cons, List.map_nil, Sh.block,
        Sh.blockFrom_singleton]
      exact ⟨orExit_run_of_zero, orExit_run_of_ne_zero⟩
  | mac => exact ⟨fun _ => rfl, fun h => absurd trivial h⟩

/-- What a `git clone` leaves behind. -/
def Fate.left (fate : Fate) (o : Occ) : Option (Path → Option Entry) :=
  if fate.fails o then fate.debris o else some fate.cloned

/-- `git clone` leaves something behind where nothing stands, and changes nothing else. -/
lemma step_gitClone_disk (o : Occ) (f : Name) (w : Disk) :
    (fate.step home o (.gitClone [f]) w).2 =
      if w (home ++ [f]) = none then
        match fate.left o with
        | some t => plant (home ++ [f]) t w
        | none => w
      else w := by
  by_cases hnone : w (home ++ [f]) = none
  · by_cases ho : fate.fails o = true
    · cases hd : fate.debris o <;>
        simp [Fate.step, Call.mayFail, ho, Fate.wreck, Fate.left, hnone, hd,
          create_singleton_of_none hnone]
    · simp [Fate.step, Fate.effect, ho, Fate.left, hnone, create_singleton_of_none hnone]
  · by_cases ho : fate.fails o = true
    · cases hd : fate.debris o <;>
        simp [Fate.step, Call.mayFail, ho, Fate.wreck, hnone, hd,
          create_singleton_of_some hnone]
    · simp [Fate.step, Fate.effect, ho, hnone, create_singleton_of_some hnone]

/-- `git clone` creates `~/.dotfiles` or changes nothing. -/
lemma clonedDisk_cases (fate : Fate) (home : Path) (w : Disk) :
    clonedDisk fate home w = w ∨ (w (home ++ [".dotfiles"]) = none ∧
      ∃ t, clonedDisk fate home w = plant (home ++ [".dotfiles"]) t w) := by
  rw [clonedDisk, step_gitClone_disk]
  split_ifs with hstat hnone
  · cases hl : fate.left ⟨.installMydotfiles, 60, "", false⟩ with
    | none => exact .inl rfl
    | some t => exact .inr ⟨hnone, t, rfl⟩
  · exact .inl rfl
  · exact .inl rfl

lemma cloneDotfiles_apply (home : Path) (fate : Fate) (s : World) :
    ∃ n s', cloneDotfiles (diskMachine home fate) s = (.status n, s') ∧
      s'.disk = clonedDisk fate home s.disk := by
  have htest := testsFor_testE home fate [".dotfiles"] s
  by_cases hex : LeadsOn home [".dotfiles"] s
  · rw [if_pos hex] at htest
    refine ⟨0, s, ?_, (if_neg hex).symm⟩
    rw [cloneDotfiles, Sh.ifThen, Sh.bind_of_status htest]
    rfl
  · rw [if_neg hex] at htest
    refine ⟨(fate.step home ⟨.installMydotfiles, 60, "", false⟩ (.gitClone [".dotfiles"])
      s.disk).1, s.after home fate ⟨.installMydotfiles, 60, "", false⟩ (.gitClone [".dotfiles"]),
      ?_, ?_⟩
    · rw [cloneDotfiles, Sh.ifThen, Sh.bind_of_status htest]
      rfl
    · rw [after_disk, clonedDisk, if_pos (not_not.1 hex)]

/-- The loops are run on the disk that the clone leaves, if they are reached, and what comes
after them changes nothing. -/
lemma installMydotfiles_disk (env : Env) (mode mode' : String) {platform : Platform}
    (hplatform : unameCase env.uname = some platform) (w : Disk) :
    (ReachesClone fate platform → ∃ s, s.disk = clonedDisk fate env.home w ∧
      ((installMydotfiles (diskMachine env.home fate) env [mode, mode']).world ⟨w, []⟩).disk =
        ((installLinks (diskMachine env.home fate) env mode platform).world s).disk) ∧
    (¬ ReachesClone fate platform →
      ((installMydotfiles (diskMachine env.home fate) env [mode, mode']).world ⟨w, []⟩).disk =
        w) := by
  -- the shell of `SCRIPT_DIR=$(…)` leaves a status, whichever way it ends
  have hdir : Sh.subshell (Sh.block [orExit ((diskMachine env.home fate).run
      ⟨.installMydotfiles, 7, "SCRIPT_DIR", true⟩), echo]) ⟨w, []⟩ =
      (.status (if fate.status ⟨.installMydotfiles, 7, "SCRIPT_DIR", true⟩ = 0 then 0 else 1),
        ⟨w, []⟩) := by
    rw [Sh.subshell_apply, Sh.block_cons]
    by_cases h : fate.status ⟨.installMydotfiles, 7, "SCRIPT_DIR", true⟩ = 0
    · rw [Sh.bind_of_status (orExit_run_of_zero h), if_pos h]
      rfl
    · rw [Sh.bind_of_exit (orExit_run_of_ne_zero h), if_neg h, Flow.code_exit]
  simp only [Sh.world, installMydotfiles, prologue, hplatform, List.cons_append, List.nil_append]
  rw [Sh.block, Sh.blockFrom_cons_of_status hdir, Sh.blockFrom_cons, ReachesClone]
  by_cases hcd : fate.status ⟨.installMydotfiles, 8, "cd", true⟩ = 0
  · rw [Sh.bind_of_status (orExit_run_of_zero hcd), Sh.blockFrom_singleton, Sh.block_cons]
    obtain ⟨hok, hfail⟩ := installGit_apply env.home fate ⟨w, []⟩ platform
    by_cases hgit : GitInstalled fate platform
    · rw [Sh.bind_of_status (hok hgit)]
      obtain ⟨n', s', hclone, hdisk⟩ := cloneDotfiles_apply env.home fate ⟨w, []⟩
      rw [Sh.blockFrom_cons_of_status hclone, Sh.blockFrom_cons]
      refine ⟨fun _ => ⟨s', hdisk, ?_⟩, fun h => absurd ⟨hcd, hgit⟩ h⟩
      have hrest : ∀ (W : Disk) m, Preserves (fun s : World => s.disk = W)
          (Sh.blockFrom m (epilogue (diskMachine env.home fate) .installMydotfiles 124)) :=
        fun W => Preserves.blockFrom
          (preserves_epilogue (fun _ _ h => h) (fun _ h => h) 124)
      exact Preserves.bind_from (I := fun s : World => s.disk = _) rfl (hrest _)
    · rw [Sh.bind_of_exit (hfail hgit)]
      exact ⟨fun h => absurd h.2 hgit, fun _ => rfl⟩
  · rw [Sh.bind_of_exit (orExit_run_of_ne_zero hcd)]
    exact ⟨fun h => absurd h.1 hcd, fun _ => rfl⟩

end Front

/-! ### What was usable before the run stands before the loops -/

section Same

variable {home : Path} {w b : Disk} {j : Slot}

/-- Cloning changes nothing below a path that was usable. -/
lemma sameAt_of_cloned (hclear : j.Clear home) (hseat : Seat home b j.path j.place)
    (husable : stat home w j.path ≠ none)
    (hb : b = w ∨ (w (home ++ [".dotfiles"]) = none ∧
      ∃ t, b = plant (home ++ [".dotfiles"]) t w)) : SameAt home j w b := by
  rcases hb with rfl | ⟨hnone, t, rfl⟩
  · exact ⟨hseat, rfl⟩
  have habsent : look home w (home ++ [".dotfiles"]) = none := by rw [look_in_home, hnone]
  have hag := agreeOff_plant (home ++ [".dotfiles"]) t w
  obtain ⟨dp, d, x, hpath, hplace, hx, hd, hdir⟩ := hseat
  -- the path leads to the same directory without the clone
  have hseat' : Seat home w j.path j.place ∧ ¬ home ++ [".dotfiles"] <+: d := by
    rw [stat] at husable
    obtain ⟨q, hq⟩ : ∃ q, resolve home w j.path = some q := by
      refine Option.ne_none_iff_exists'.1 fun h => husable ?_
      rw [h, Option.bind_none]
    rw [hpath] at hq
    obtain ⟨d', hd', -⟩ := resolveUpTo_snoc hx _ _ _ _ hq
    obtain ⟨hres, hpre⟩ := resolve_of_absent habsent hag hd'
    rw [hd, Option.some.injEq] at hres
    subst hres
    refine ⟨⟨dp, d, x, hpath, hplace, hx, hd', ?_⟩, hpre⟩
    rwa [look, hag d hpre] at hdir
  obtain ⟨hseat', hd'⟩ := hseat'
  have hstands := hseat'.look_of_stat husable
  refine ⟨hseat', (hag.node_eq fun r hpre => ?_).symm⟩
  have hne : home ++ [".dotfiles"] ≠ j.place := fun he => hstands (he ▸ habsent)
  rcases List.prefix_or_prefix_of_prefix hpre (List.prefix_append j.place r) with h | h
  · rw [hplace] at h hne
    rcases List.prefix_concat_iff.1 h with h | h
    · exact hne h
    · exact hd' h
  · rcases List.prefix_concat_iff.1 h with h | h
    · exact hne h.symm
    · exact hclear.place_home h

/-- A path that was usable keeps its place, and something stands there when the loops start. -/
lemma usable_stands {fate : Fate} {mode : String} {ks : List Slot}
    (ht : Tame home fate mode ks b) (hj : j ∈ ks) (husable : stat home w j.path ≠ none)
    (hb : b = w ∨ (w (home ++ [".dotfiles"]) = none ∧
      ∃ t, b = plant (home ++ [".dotfiles"]) t w)) :
    SameAt home j w b ∧ j.Steady home ks b ∧ b j.place ≠ none := by
  have hclear := ht.clear j hj
  have hcases : Seat home b j.path j.place ∨ Unseated home b j.path := by
    rcases ht.seats j hj with h | ⟨-, h⟩
    · exact .inl (h b MayBecome.refl).1
    · exact (h b MayBecome.refl).imp_left fun h => h.1
  have hseat : Seat home b j.path j.place := by
    refine hcases.resolve_right fun hun => ?_
    obtain ⟨q, hq⟩ : ∃ q, resolve home w j.path = some q := by
      refine Option.ne_none_iff_exists'.1 fun h => husable ?_
      rw [stat, h, Option.bind_none]
    have hq' : resolve home b j.path = some q := by
      rcases hb with rfl | ⟨hnone, t, rfl⟩
      · exact hq
      · refine (resolve_of_absent ?_ (agreeOff_plant _ t w) hq).1
        rw [look_in_home, hnone]
    rw [hun.1] at hq'
    cases hq'
  have hsame := sameAt_of_cloned hclear hseat husable hb
  have hstands : b j.place ≠ none := by
    have hnode := congrFun hsame.node []
    rw [Disk.node, Disk.node, List.append_nil] at hnode
    rw [← hnode, ← look_apart hclear.place_home w]
    exact hsame.seat.look_of_stat husable
  refine ⟨hsame, (ht.seats j hj).resolve_right fun h => hstands h.1, hstands⟩

end Same

/-! ### Which failures do harm -/

section Harmless

variable (home : Path) (fate : Fate) (mode : String) (ks : List Slot) (w b : Disk)

/-- Every pass that is made for a path that was usable is sound. -/
def Harmless : Prop :=
  ∀ pre j post, ks = pre ++ j :: post → (∀ k ∈ pre, fate.fails k.ln = false) →
    stat home w j.path ≠ none → j.Sound home fate mode ks b

variable {home fate mode ks w b}

/-- The loops keep every usable path exactly when they are harmless. -/
lemma loops_keep_iff {cs : List (Sh World)} {s : World} (ht : Tame home fate mode ks b)
    (hsteps : Steps home fate mode ks cs) (hs : s.disk = b)
    (hb : b = w ∨ (w (home ++ [".dotfiles"]) = none ∧
      ∃ t, b = plant (home ++ [".dotfiles"]) t w)) (n : ℕ) :
    (∀ k ∈ ks, k.Kept home mode w (Sh.blockFrom n cs s).2.disk) ↔
      Harmless home fate mode ks w b := by
  have hready : Ready home ks ks b s := by
    rw [← hs]
    exact ⟨MayBecome.refl, fun _ _ _ _ => rfl⟩
  have hmay := (steps_frame ht hsteps (fun _ h => h) ht.apart hready n).1
  have hout : ∀ {pre j post}, ks = pre ++ j :: post → stat home w j.path ≠ none →
      ((∃ k ∈ pre, fate.fails k.ln = true) → j.Kept home mode w (Sh.blockFrom n cs s).2.disk) ∧
      ((∀ k ∈ pre, fate.fails k.ln = false) →
        (j.Kept home mode w (Sh.blockFrom n cs s).2.disk ↔ j.Sound home fate mode ks b)) := by
    intro pre j post hsplit husable
    have hj : j ∈ ks := by rw [hsplit]; simp
    obtain ⟨hsame, hsteady, hstands⟩ := usable_stands ht hj husable hb
    obtain ⟨huntouched, hmade⟩ := slot_outcome ht hsteps (fun _ h => h) ht.apart ht.order hready
      hsplit hsteady hstands n
    exact ⟨fun h => kept_of_untouched hsteady hsame hmay (huntouched h),
      fun h => kept_iff_of_made ht hj hsteady hsame hmay (hmade h) husable⟩
  constructor
  · intro hkept pre j post hsplit hpre husable
    exact ((hout hsplit husable).2 hpre).1 (hkept j (by rw [hsplit]; simp))
  · intro hharmless j hj husable
    obtain ⟨pre, post, hsplit⟩ := List.append_of_mem hj
    by_cases hpre : ∃ k ∈ pre, fate.fails k.ln = true
    · exact (hout hsplit husable).1 hpre husable
    · have hpre' : ∀ k ∈ pre, fate.fails k.ln = false := by simpa using hpre
      exact ((hout hsplit husable).2 hpre').2 (hharmless pre j post hsplit hpre' husable) husable

end Harmless

/-! ### The two scripts -/

section Scripts

variable (env : Env) (fate : Fate) (mode mode' : String) (platform : Platform) (w : Disk)

/-- The paths that a run of `install_mydotfiles.sh` handles. -/
def handled : List Slot := slots env (binDir env.home (clonedDisk fate env.home w)) platform

/-- The disk after a run of `install_mydotfiles.sh`. -/
def installed : Disk :=
  ((installMydotfiles (diskMachine env.home fate) env [mode, mode']).world ⟨w, []⟩).disk

/-- The disk after a run of `download_dotfiles.sh`. -/
def downloaded : Disk := ((downloadDotfiles (diskMachine env.home fate) env).world ⟨w, []⟩).disk

variable {env fate mode mode' platform w}

lemma installed_keeps_iff (hplatform : unameCase env.uname = some platform)
    (ht : ReachesClone fate platform →
      Tame env.home fate mode (handled env fate platform w) (clonedDisk fate env.home w)) :
    (∀ k ∈ handled env fate platform w,
        k.Kept env.home mode w (installed env fate mode mode' w)) ↔
      (ReachesClone fate platform → Harmless env.home fate mode (handled env fate platform w) w
        (clonedDisk fate env.home w)) := by
  obtain ⟨hreached, hnot⟩ := installMydotfiles_disk env mode mode' hplatform w
  by_cases h : ReachesClone fate platform
  · obtain ⟨s, hs, hdisk⟩ := hreached h
    rw [installed, hdisk, installLinks_eq, Sh.world,
      loops_keep_iff (ht h) (steps_linkCommands env _ platform) hs (clonedDisk_cases _ _ _)]
    exact ⟨fun hh _ => hh, fun hh => hh h⟩
  · rw [installed, hnot h]
    exact ⟨fun _ h' => absurd h' h, fun _ k _ _ => ⟨.inl rfl, fun _ hne => absurd rfl hne⟩⟩

/-- A run of `download_dotfiles.sh` on a home with `~/.dotfiles` moves it away, if it can, and
clones. -/
lemma downloaded_eq (hex : stat env.home w [".dotfiles"] ≠ none) :
    downloaded env fate w = (fate.step env.home ⟨.downloadDotfiles, 19, "", false⟩
      (.gitClone [".dotfiles"])
      ((mv env.home [".dotfiles"] [stamped ".dotfiles" env.datetime] w).getD w)).2 := by
  have hleads : LeadsOn env.home [".dotfiles"] ⟨w, []⟩ := hex
  have htest := testsFor_testE env.home fate [".dotfiles"] ⟨w, []⟩
  rw [if_pos hleads] at htest
  have hmv : (fate.step env.home ⟨.downloadDotfiles, 18, "", false⟩
      (.mv [".dotfiles"] [stamped ".dotfiles" env.datetime]) w).2 =
      (mv env.home [".dotfiles"] [stamped ".dotfiles" env.datetime] w).getD w := by
    cases h : mv env.home [".dotfiles"] [stamped ".dotfiles" env.datetime] w <;>
      simp [Fate.step, Call.mayFail, Fate.effect, h]
  have hline : (testE (diskMachine env.home fate) [".dotfiles"]).and
      (fate.perform env.home ⟨.downloadDotfiles, 18, "", false⟩
        (.mv [".dotfiles"] [stamped ".dotfiles" env.datetime])) ⟨w, []⟩ =
      (.status (fate.step env.home ⟨.downloadDotfiles, 18, "", false⟩
          (.mv [".dotfiles"] [stamped ".dotfiles" env.datetime]) w).1,
        World.after env.home fate ⟨.downloadDotfiles, 18, "", false⟩
          (.mv [".dotfiles"] [stamped ".dotfiles" env.datetime]) ⟨w, []⟩) :=
    Sh.and_apply_zero htest
  rw [← hmv]
  exact congrArg (fun r : Flow × World => r.2.disk) (Sh.blockFrom_cons_of_status (m := 0) hline)

/-- After a run of `download_dotfiles.sh`, `~/.dotfiles` is there if it could not be moved away
or `git clone` left something. -/
lemma downloaded_exists_iff (hex : stat env.home w [".dotfiles"] ≠ none)
    (hgit : ∀ t, fate.left ⟨.downloadDotfiles, 19, "", false⟩ = some t → t [] = some .dir) :
    stat env.home (downloaded env fate w) [".dotfiles"] ≠ none ↔
      mv env.home [".dotfiles"] [stamped ".dotfiles" env.datetime] w = none ∨
        fate.left ⟨.downloadDotfiles, 19, "", false⟩ ≠ none := by
  have hproper : Proper ".dotfiles" := by decide
  rw [downloaded_eq hex, step_gitClone_disk]
  cases hmv : mv env.home [".dotfiles"] [stamped ".dotfiles" env.datetime] w with
  | none =>
      have hstands : w (env.home ++ [".dotfiles"]) ≠ none := fun h =>
        hex (stat_singleton_of_none hproper h)
      rw [Option.getD_none, if_neg hstands]
      exact ⟨fun _ => .inl rfl, fun _ => hex⟩
  | some w' =>
      have hgone := mv_singleton_clears hmv
      rw [Option.getD_some, if_pos hgone]
      cases hleft : fate.left ⟨.downloadDotfiles, 19, "", false⟩ with
      | none =>
          rw [stat_singleton_of_none hproper hgone]
          simp
      | some t =>
          have hdir : plant (env.home ++ [".dotfiles"]) t w' (env.home ++ [".dotfiles"]) =
              some .dir := by rw [plant_self, hgit t hleft]
          rw [stat_singleton_of_not_link hproper hdir (by simp)]
          simp

end Scripts

/-! ### Ordinary homes -/

section Ordinary

variable {home : Path} {fate : Fate} {mode : String} {ks : List Slot} {b w : Disk} {k : Slot}

/-- The places of a slot. -/
def Slot.places (k : Slot) : List Path := [k.place, k.backupPlace]

/-- Neither path is above the other. -/
def Incomparable (p q : Path) : Prop := ¬ p <+: q ∧ ¬ q <+: p

instance (p q : Path) : Decidable (Incomparable p q) := inferInstanceAs (Decidable (_ ∧ _))

lemma Slot.region_iff {q : Path} : k.Region q ↔ ∃ p ∈ k.places, p <+: q := by
  simp [Slot.Region, Slot.places]

/-- What `~/bin` is while the loops run, when it is a directory. -/
lemma MayBecome.bin (h : MayBecome home ks b w) (hbin : b (home ++ ["bin"]) = some .dir)
    (hoff : ∀ k ∈ ks, ¬ k.Region (home ++ ["bin"])) : w (home ++ ["bin"]) = some .dir := by
  rcases h (home ++ ["bin"]) with hsame | ⟨k, hk, hreg⟩ | ⟨-, hnone, -⟩
  · rw [hsame, hbin]
  · exact absurd hreg (hoff k hk)
  · rw [hbin] at hnone
    cases hnone

/-- An entry of the home directory or of `~/bin`. -/
def Ordinary (home : Path) (p r : Path) : Prop :=
  r = home ++ p ∧ ((∃ x, Proper x ∧ p = [x]) ∨ ∃ x, Proper x ∧ p = ["bin", x])

lemma Ordinary.seat {p r : Path} (h : Ordinary home p r) (hbin : w (home ++ ["bin"]) = some .dir) :
    Seat home w p r := by
  obtain ⟨rfl, ⟨x, hx, rfl⟩ | ⟨x, hx, rfl⟩⟩ := h
  · exact seat_singleton hx
  · refine ⟨["bin"], home ++ ["bin"], x, rfl, by simp, hx, ?_, by rw [look_in_home, hbin]⟩
    exact resolve_singleton_of_not_link (by decide) hbin (by simp)

/-- A home in which the loops handle entries of the home directory and of the directory `~/bin`
only is without tricks. -/
lemma tame_of_ordinary (hbin : b (home ++ ["bin"]) = some .dir)
    (hordinary : ∀ k ∈ ks, Ordinary home k.path k.place ∧ Ordinary home k.backup k.backupPlace)
    (hplaces : (ks.flatMap Slot.places).Pairwise Incomparable)
    (hhome : ∀ k ∈ ks, ∀ p ∈ k.places, ¬ p <+: home ++ ["bin"])
    (hfree : mode = "backup" → ∀ k ∈ ks, b k.place ≠ none → b k.backupPlace = none)
    (hdebris : ∀ k ∈ ks, ∀ t, fate.debris k.cp = some t → t ≠ b.node k.place)
    (hdecided : ∀ k ∈ ks, k.Leads home ks b ∨
      ∀ w, MayBecome home ks b w → w k.place = some (.link k.target) →
        stat home w k.path = none) : Tame home fate mode ks b := by
  rw [List.pairwise_flatMap] at hplaces
  have hoff : ∀ k ∈ ks, ¬ k.Region (home ++ ["bin"]) := by
    intro k hk hreg
    obtain ⟨p, hp, hpre⟩ := Slot.region_iff.1 hreg
    exact hhome k hk p hp hpre
  have hsteady : ∀ k ∈ ks, k.Steady home ks b := fun k hk w hw =>
    ⟨(hordinary k hk).1.seat (hw.bin hbin hoff), (hordinary k hk).2.seat (hw.bin hbin hoff)⟩
  refine ⟨fun k hk => ?_, hoff, ?_, fun k hk => .inl (hsteady k hk), ?_, hfree, hdebris,
    hdecided⟩
  · have habove : ∀ p ∈ k.places, ¬ p <+: home := fun p hp hpre =>
      hhome k hk p hp (hpre.trans (List.prefix_append home ["bin"]))
    have hpair := hplaces.1 k hk
    simp only [Slot.places, List.pairwise_pair] at hpair
    exact ⟨habove _ (by simp [Slot.places]), habove _ (by simp [Slot.places]), hpair.1, hpair.2⟩
  · refine hplaces.2.imp fun {k l} hkl q hq => ?_
    obtain ⟨p, hp, hpq⟩ := Slot.region_iff.1 hq.1
    obtain ⟨p', hp', hpq'⟩ := Slot.region_iff.1 hq.2
    have hinc := hkl p hp p' hp'
    rcases List.prefix_or_prefix_of_prefix hpq hpq' with h | h
    · exact hinc.1 h
    · exact hinc.2 h
  · exact List.pairwise_of_forall_mem_list fun k hk _ _ _ => hsteady k hk

end Ordinary

/-- The link to a dotfile leads to what the clone contains under its name. -/
lemma stat_dotfiles_link {f : String} (hhome : ∀ c ∈ home, Proper c) (hf : Proper f)
    (hdot : Proper (dot f)) (hdir : w (home ++ [".dotfiles"]) = some .dir)
    (hno : ∀ t, w (home ++ [".dotfiles", f]) ≠ some (.link t))
    (hlink : w (home ++ [dot f]) = some (.link (dotfilesTarget home f))) :
    stat home w [dot f] = w (home ++ [".dotfiles", f]) := by
  have hdir' : look home w (home ++ [".dotfiles"]) = some .dir := by rw [look_in_home, hdir]
  have hlook : look home w (home ++ [".dotfiles"] ++ [f]) = w (home ++ [".dotfiles", f]) := by
    rw [List.append_assoc]
    exact look_in_home
  have hres := resolve_singleton_of_home_link hhome hdot hlink
  rw [resolveUpTo, walk_proper (by decide), hdir'] at hres
  simp only [walk_proper hf, hlook] at hres
  rw [stat, hres]
  rcases he : w (home ++ [".dotfiles", f]) with _ | (c | _ | t)
  · rfl
  · simp [he]
  · rw [walk, Option.bind_some, hlook, he]
  · exact absurd he (hno t)

/-- A link into a directory that is not there leads nowhere. -/
lemma stat_bin_link_of_absent {f c : Name} {rest : List Name} (hf : Proper f) (hc : Proper c)
    (hbin : w (home ++ ["bin"]) = some .dir) (habsent : look home w [c] = none)
    (hlink : w (home ++ ["bin", f]) = some (.link ⟨true, c :: rest⟩)) :
    stat home w ["bin", f] = none := by
  have hbin' : look home w (home ++ ["bin"]) = some .dir := by rw [look_in_home, hbin]
  have hlink' : look home w (home ++ ["bin"] ++ [f]) = some (.link ⟨true, c :: rest⟩) := by
    rw [List.append_assoc]
    exact look_in_home.trans hlink
  have hres : resolve home w ["bin", f] = none := by
    rw [resolve, maxLinks, resolveUpTo, walk_proper (by decide), hbin']
    simp only [walk_proper hf, hlink', if_true, List.cons_append]
    rw [resolveUpTo, walk_proper hc, List.nil_append, habsent]
  rw [stat, hres, Option.bind_none]

/-! ### A home with one dotfile of its own -/

/-- A home with a `~/.zshrc` of its own, a clone of the repository and a directory `~/bin`. -/
def workshopHome : Disk := put ["home", "u", "bin"] .dir zshrcHome

def workshopEnv : Env := ⟨["home", "u"], ["repo", "src", "my"], "linux", "20240102_0304"⟩

/-- The paths handled in that home. -/
def workshopSlots : List Slot := slots workshopEnv ["home", "u", "bin"] .linux

lemma workshop_handled {fate : Fate}
    (h : clonedDisk fate ["home", "u"] workshopHome = workshopHome) :
    handled workshopEnv fate .linux workshopHome = workshopSlots := by
  have hbin : binDir ["home", "u"] workshopHome = ["home", "u", "bin"] := by decide +kernel
  rw [handled, workshopSlots, ← hbin]
  exact congrArg (fun w => slots workshopEnv (binDir ["home", "u"] w) .linux) h

/-- What the loops leave alone in that home. -/
lemma MayBecome.workshop_eq {w : Disk} (h : MayBecome ["home", "u"] workshopSlots workshopHome w)
    {q : Path} (hq : ∀ k ∈ workshopSlots, ∀ p ∈ k.places, ¬ p <+: q)
    (hne : q ≠ ["home", "u", "bin"]) : w q = workshopHome q := by
  rcases h q with hsame | ⟨k, hk, hreg⟩ | ⟨hbin, -⟩
  · exact hsame
  · obtain ⟨p, hp, hpre⟩ := Slot.region_iff.1 hreg
    exact absurd hpre (hq k hk p hp)
  · exact absurd hbin hne

/-- Only the link to `zshrc` leads somewhere in that home. -/
lemma workshop_stat {w : Disk} {k : Slot} (hk : k ∈ workshopSlots)
    (hw : MayBecome ["home", "u"] workshopSlots workshopHome w)
    (hlink : w k.place = some (.link k.target)) :
    stat ["home", "u"] w k.path ≠ none ↔ k.path = [".zshrc"] := by
  have hoff : ∀ file ∈ dotfileNames, ∀ k ∈ workshopSlots, ∀ p ∈ k.places,
      ¬ p <+: ["home", "u", ".dotfiles", file] := by decide +kernel
  rcases mem_slots hk with ⟨line, file, hf, rfl⟩ | ⟨line, file, hf, rfl⟩
  · have hproper : ∀ file ∈ dotfileNames, Proper file := by decide
    have hdir : w ["home", "u", ".dotfiles"] = some .dir :=
      hw.workshop_eq (by decide +kernel) (by decide)
    have hfile : w ["home", "u", ".dotfiles", file] =
        workshopHome ["home", "u", ".dotfiles", file] :=
      hw.workshop_eq (hoff file hf) (by simp)
    have hclone : ∀ file ∈ dotfileNames, workshopHome ["home", "u", ".dotfiles", file] = none ∨
        workshopHome ["home", "u", ".dotfiles", file] = some (.file "# shared") := by
      decide +kernel
    have hno : ∀ t, w ["home", "u", ".dotfiles", file] ≠ some (.link t) := by
      intro t ht
      rcases hclone file hf with h | h <;> rw [hfile, h] at ht <;> cases ht
    have hhome : ∀ c ∈ ["home", "u"], Proper c := by decide
    have hstat := stat_dotfiles_link hhome (hproper file hf) (proper_dot (isDotfile_of_mem hf))
      hdir hno hlink
    have hiff : ∀ file ∈ dotfileNames,
        (workshopHome ["home", "u", ".dotfiles", file] ≠ none ↔ [dot file] = [".zshrc"]) := by
      decide +kernel
    show stat _ w [dot file] ≠ none ↔ _
    rw [hstat]
    exact hfile ▸ hiff file hf
  · have hproper : ∀ file ∈ installBinfiles ++ ["st"], Proper file := by decide
    have hbin : w ["home", "u", "bin"] = some .dir := by
      have hbelow : ∀ k ∈ workshopSlots, ∀ p ∈ k.places, ¬ p <+: ["home", "u", "bin"] := by
        decide +kernel
      refine hw.bin (by decide +kernel) fun k hk hreg => ?_
      obtain ⟨p, hp, hpre⟩ := Slot.region_iff.1 hreg
      exact hbelow k hk p hp hpre
    have habsent : w ["repo"] = workshopHome ["repo"] :=
      hw.workshop_eq (by decide +kernel) (by decide)
    have hstat : stat ["home", "u"] w ["bin", file] = none :=
      stat_bin_link_of_absent (hproper file hf) (c := "repo") (by decide) hbin
        (habsent.trans (by decide +kernel)) hlink
    simp [binSlot, hstat]

lemma workshop_tame (tree : Path → Option Entry) :
    Tame ["home", "u"] (.smooth tree) "backup" workshopSlots workshopHome := by
  refine tame_of_ordinary ?_ ?_ ?_ ?_ ?_ ?_ ?_
  · decide +kernel
  · intro k hk
    have hdot : ∀ file ∈ dotfileNames, Proper (stamped (dot file) workshopEnv.datetime) := by decide
    have hbin : ∀ file ∈ installBinfiles ++ ["st"],
        Proper file ∧ Proper (stamped file workshopEnv.datetime) := by decide
    rcases mem_slots hk with ⟨line, file, hf, rfl⟩ | ⟨line, file, hf, rfl⟩
    · exact ⟨⟨rfl, .inl ⟨_, proper_dot (isDotfile_of_mem hf), rfl⟩⟩,
        rfl, .inl ⟨_, hdot file hf, rfl⟩⟩
    · exact ⟨⟨rfl, .inr ⟨_, (hbin file hf).1, rfl⟩⟩, rfl, .inr ⟨_, (hbin file hf).2, rfl⟩⟩
  · decide +kernel
  · decide +kernel
  · have hfree : ∀ k ∈ workshopSlots, workshopHome k.backupPlace = none := by decide +kernel
    exact fun _ k hk _ => hfree k hk
  · rintro k - t ⟨⟩
  · intro k hk
    by_cases hz : k.path = [".zshrc"]
    · exact .inl fun w hw hlink => (workshop_stat hk hw hlink).2 hz
    · exact .inr fun w hw hlink => not_not.1 fun h => hz ((workshop_stat hk hw hlink).1 h)

/-- A home in which nothing but a `~/.zshrc` stands. -/
def bareHome : Disk := fun p =>
  if p = ["home", "u", ".zshrc"] then some (.file "# mine") else none

/-- `git clone` fails and every other command succeeds. -/
def failedClone : Fate :=
  ⟨fun _ => 0, fun o => o.line = 60, fun _ => none, sampleTree, sampleTree⟩

end InitialSetups.Dotfiles
