import InitialSetups.Dotfiles.Machine
import InitialSetups.Files.Seats

/-!
# One pass of the loops of `install_mydotfiles.sh` when commands fail

The four loops treat a dotfile and a bin-file alike: `cp -r` in mode `backup`, `rm -rf`,
`ln -s … || exit 1`.  A `Slot` is one handled path, with the physical places it stands for.  The
removal does not depend on the copy having succeeded, and nothing is put back when the link
cannot be made.
-/

namespace InitialSetups.Dotfiles

open InitialSetups.Shell InitialSetups.Files InitialSetups.Files.Disk InitialSetups.Scripts

/-- A path that `install_mydotfiles.sh` handles. -/
structure Slot where
  path : Path
  backup : Path
  /-- the physical path of the entry -/
  place : Path
  backupPlace : Path
  target : Target
  cp : Occ
  rm : Occ
  ln : Occ
  deriving DecidableEq

/-- The dotfile `.file`; `line` is that of the copy. -/
def dotSlot (env : Env) (line : ℕ) (file : String) : Slot where
  path := [dot file]
  backup := [stamped (dot file) env.datetime]
  place := env.home ++ [dot file]
  backupPlace := env.home ++ [stamped (dot file) env.datetime]
  target := dotfilesTarget env.home file
  cp := ⟨.installMydotfiles, line, file, false⟩
  rm := ⟨.installMydotfiles, line + 1, file, false⟩
  ln := ⟨.installMydotfiles, line + 2, file, true⟩

/-- The bin-file `bin/file`, when `~/bin` is the directory `d`. -/
def binSlot (env : Env) (d : Path) (line : ℕ) (file : String) : Slot where
  path := ["bin", file]
  backup := ["bin", stamped file env.datetime]
  place := d ++ [file]
  backupPlace := d ++ [stamped file env.datetime]
  target := binTarget env file
  cp := ⟨.installMydotfiles, line, file, false⟩
  rm := ⟨.installMydotfiles, line + 1, file, false⟩
  ln := ⟨.installMydotfiles, line + 2, file, true⟩

section Pass

variable (home : Path) (fate : Fate) (mode : String)

/-- The world before the `ln -s` of the pass for `k`. -/
def Slot.cleared (k : Slot) (s : World) : World :=
  (s.afterIf home fate (fun s => IsThere home k.path s ∧ mode = "backup") k.cp
    (.cpR k.path k.backup)).afterIf home fate (IsThere home k.path) k.rm (.rmRf k.path)

/-- The world after the pass for `k`. -/
def Slot.passed (k : Slot) (s : World) : World :=
  (k.cleared home fate mode s).after home fate k.ln (.lnS k.target k.path)

/-- The status of the `ln -s` of the pass for `k`. -/
def Slot.lnStatus (k : Slot) (s : World) : ℕ :=
  (fate.step home k.ln (.lnS k.target k.path) (k.cleared home fate mode s).disk).1

/-- `c` is a pass for `k`: it ends in `exit 1` when the `ln -s` fails. -/
def IsPass (k : Slot) (c : Sh World) : Prop :=
  ∀ s, (c s).2 = k.passed home fate mode s ∧
    (k.lnStatus home fate mode s = 0 → ∃ n, (c s).1 = .status n) ∧
    (k.lnStatus home fate mode s ≠ 0 → (c s).1 = .exit 1)

end Pass

variable {home : Path} {fate : Fate} {env : Env} {mode : String} {line : ℕ} {file : String}
  {k : Slot} {s : World} {w w' : Disk}

/-- The last command of a pass. -/
lemma orExit_ln_apply (home : Path) (fate : Fate) (mode : String) (k : Slot) (s : World) :
    orExit (fate.perform home k.ln (.lnS k.target k.path)) (k.cleared home fate mode s) =
      (if k.lnStatus home fate mode s = 0 then .status 0 else .exit 1,
        k.passed home fate mode s) :=
  orExit_perform_apply

lemma installDotfile_isPass :
    IsPass env.home fate mode (dotSlot env line file)
      (installDotfile (diskMachine env.home fate) env mode line file) := by
  intro s
  have hex := testsFor_isThere env.home fate [dot file]
  obtain ⟨n₁, h₁⟩ := blockFrom_guarded (hex.and (testsFor_testEq mode "backup"))
  obtain ⟨n₂, h₂⟩ := blockFrom_guarded hex.and_echo
  have hrun : installDotfile (diskMachine env.home fate) env mode line file s =
      orExit (fate.perform env.home (dotSlot env line file).ln
        (.lnS (dotSlot env line file).target (dotSlot env line file).path))
      ((dotSlot env line file).cleared env.home fate mode s) := by
    rw [installDotfile, Sh.block_cons, echo, Sh.ret_bind]
    refine h₁.trans (h₂.trans ?_)
    rw [Sh.blockFrom_singleton]
    rfl
  rw [hrun, orExit_ln_apply]
  exact ⟨rfl, fun h => ⟨0, if_pos h⟩, fun h => if_neg h⟩

lemma installBinfile_isPass (d : Path) :
    IsPass env.home fate mode (binSlot env d line file)
      (installBinfile (diskMachine env.home fate) env mode line file) := by
  intro s
  have hex := testsFor_isThere env.home fate ["bin", file]
  obtain ⟨n₁, h₁⟩ := blockFrom_guarded (hex.and (testsFor_testEq mode "backup"))
  obtain ⟨n₂, h₂⟩ := blockFrom_guarded hex
  have hrun : installBinfile (diskMachine env.home fate) env mode line file s =
      (orExit (fate.perform env.home (binSlot env d line file).ln
        (.lnS (binSlot env d line file).target (binSlot env d line file).path))).bind
        (fun _ => (diskMachine env.home fate).run ⟨.installMydotfiles, line + 3, file, false⟩)
      ((binSlot env d line file).cleared env.home fate mode s) := by
    rw [installBinfile, Sh.block_cons, echo, Sh.ret_bind]
    refine h₁.trans (h₂.trans ?_)
    rw [Sh.blockFrom_cons]
    simp only [Sh.blockFrom_singleton]
    rfl
  have hln := orExit_ln_apply env.home fate mode (binSlot env d line file) s
  rw [hrun]
  by_cases h : (binSlot env d line file).lnStatus env.home fate mode s = 0
  · rw [if_pos h] at hln
    rw [Sh.bind_of_status hln]
    exact ⟨rfl, fun _ => ⟨_, rfl⟩, fun h' => absurd h h'⟩
  · rw [if_neg h] at hln
    rw [Sh.bind_of_exit hln]
    exact ⟨rfl, fun h' => absurd h' h, fun _ => rfl⟩

/-! ### What a pass makes of the disk -/

/-- The paths of the slot name its places. -/
def Slot.Seated (home : Path) (k : Slot) (w : Disk) : Prop :=
  Seat home w k.path k.place ∧ Seat home w k.backup k.backupPlace

/-- The path of a pass and its stamped name. -/
def Slot.Region (k : Slot) (q : Path) : Prop := k.place <+: q ∨ k.backupPlace <+: q

/-- The two places of a slot are apart, and neither is above the home directory. -/
structure Slot.Clear (home : Path) (k : Slot) : Prop where
  place_home : ¬ k.place <+: home
  backup_home : ¬ k.backupPlace <+: home
  place_backup : ¬ k.place <+: k.backupPlace
  backup_place : ¬ k.backupPlace <+: k.place

lemma isLink_iff {p : Path} : isLink home p w = true ↔ ∃ t, lstat home w p = some (.link t) := by
  unfold isLink
  split
  · rename_i t ht
    exact ⟨fun _ => ⟨t, ht⟩, fun _ => rfl⟩
  · rename_i hno
    refine ⟨fun h => absurd h Bool.false_ne_true, ?_⟩
    rintro ⟨t, ht⟩
    exact absurd ht (hno t)

lemma Slot.Seated.isThere_iff (h : k.Seated home s.disk) (hk : k.Clear home) :
    IsThere home k.path s ↔ s.disk k.place ≠ none := by
  rw [← look_apart hk.place_home s.disk, ← h.1.exists_iff, ← isLink_iff]
  exact Iff.rfl

/-- Where a path leads nowhere nothing is there. -/
lemma not_isThere_of_unseated {p : Path} (h : Unseated home s.disk p) : ¬ IsThere home p s := by
  rintro (hs | hl)
  · exact hs (by rw [stat, h.1, Option.bind_none])
  · obtain ⟨t, ht⟩ := isLink_iff.1 hl
    rw [lstat, h.2] at ht
    cases ht

/-- A pass that finds nothing only makes the link. -/
lemma Slot.cleared_of_not_isThere (h : ¬ IsThere home k.path s) :
    k.cleared home fate mode s = s := by
  rw [Slot.cleared, afterIf_neg (s := s) fun h' => h h'.1, afterIf_neg h]

/-- A pass for a path that leads nowhere fails and changes nothing. -/
lemma Slot.passed_of_unseated (h : Unseated home s.disk k.path) :
    k.lnStatus home fate mode s ≠ 0 ∧ (k.passed home fate mode s).disk = s.disk := by
  have hnone : fate.effect home s.disk (.lnS k.target k.path) = none := h.lnS_eq_none _
  have hstep : fate.step home k.ln (.lnS k.target k.path) s.disk = (1, s.disk) := by
    unfold Fate.step
    split_ifs
    · rfl
    · rw [hnone]
  rw [Slot.lnStatus, Slot.passed, after_disk, Slot.cleared_of_not_isThere
    (not_isThere_of_unseated h), hstep]
  exact ⟨Nat.one_ne_zero, rfl⟩

/-- `ln -s` at a free place makes the link unless it fails for a reason of its own. -/
lemma step_lnS_of_seat (fate : Fate) {o : Occ} {t : Target} {p r : Path} (h : Seat home w p r)
    (hfree : look home w r = none) :
    fate.step home o (.lnS t p) w = if fate.fails o then (1, w) else (0, put r (.link t) w) := by
  have heffect : fate.effect home w (.lnS t p) = some (put r (.link t) w) := h.lnS_of_free hfree t
  by_cases ho : fate.fails o = true
  · simp [Fate.step, Call.mayFail, Fate.wreck, ho]
  · simp [Fate.step, Call.mayFail, heffect, ho]

/-- A pass that finds the place of its slot free. -/
lemma Slot.passed_of_free (h : k.Seated home s.disk) (hk : k.Clear home)
    (hfree : s.disk k.place = none) :
    AgreeOff k.Region s.disk (k.passed home fate mode s).disk ∧
      (fate.fails k.ln = true → k.lnStatus home fate mode s ≠ 0) ∧
      (fate.fails k.ln = false → k.lnStatus home fate mode s = 0) := by
  have hthere : ¬ IsThere home k.path s := fun ht => (h.isThere_iff hk).1 ht hfree
  have hstep := step_lnS_of_seat fate (o := k.ln) (t := k.target) h.1
    ((look_apart hk.place_home s.disk).trans hfree)
  rw [Slot.lnStatus, Slot.passed, after_disk, Slot.cleared_of_not_isThere hthere, hstep]
  by_cases ho : fate.fails k.ln = true
  · simp [ho, AgreeOff.refl]
  · simp only [ho]
    exact ⟨(agreeOff_put _ _ _).mono fun q => .inl, by simp, by simp⟩

/-- A copy of what stands on a seat to a free place: it is complete unless `cp -r` fails. -/
lemma after_cpR_of_seated (h : k.Seated home s.disk) (hk : k.Clear home)
    (hstands : s.disk k.place ≠ none) (hfree : s.disk k.backupPlace = none)
    (hdebris : ∀ t, fate.debris k.cp = some t → t ≠ s.disk.node k.place) :
    AgreeOff (k.backupPlace <+: ·) s.disk
        (s.after home fate k.cp (.cpR k.path k.backup)).disk ∧
      (fate.fails k.cp = false →
        (s.after home fate k.cp (.cpR k.path k.backup)).disk.node k.backupPlace =
          s.disk.node k.place) ∧
      (fate.fails k.cp = true →
        (s.after home fate k.cp (.cpR k.path k.backup)).disk.node k.backupPlace ≠
          s.disk.node k.place) := by
  have hlook := look_apart hk.place_home s.disk
  have hlook' := (look_apart hk.backup_home s.disk).trans hfree
  rw [after_disk]
  by_cases ho : fate.fails k.cp = true
  · have hstep : (fate.step home k.cp (.cpR k.path k.backup) s.disk).2 =
        fate.wreck home k.cp s.disk (.cpR k.path k.backup) := by
      simp [Fate.step, Call.mayFail, ho]
    have hdest := h.2.destination_of_free hlook' (base k.path)
    rw [hstep]
    simp only [Fate.wreck, hdest]
    rcases hd : fate.debris k.cp with _ | t
    · refine ⟨AgreeOff.refl _ _, fun h' => ?_, fun _ he => ?_⟩
      · rw [ho] at h'
        cases h'
      · have he' : s.disk.node k.backupPlace = s.disk.node k.place := he
        have hnil := congrFun he' []
        rw [node, node, List.append_nil, List.append_nil, hfree] at hnil
        exact hstands hnil.symm
    · simp only [hlook', if_true]
      refine ⟨agreeOff_plant _ _ _, fun h' => ?_, fun _ => ?_⟩
      · rw [ho] at h'
        cases h'
      · rw [node_plant]
        exact hdebris t hd
  · have heffect : fate.effect home s.disk (.cpR k.path k.backup) =
        some (plant k.backupPlace (s.disk.node k.place) s.disk) :=
      h.1.cpR_of_free h.2 (hlook ▸ hstands) hlook' hk.place_backup
    rw [step_of_some (by simpa using ho) heffect]
    exact ⟨agreeOff_plant _ _ _, fun _ => node_plant _ _ _, fun h' => absurd h' ho⟩

/-- What a pass makes of a slot at whose place something stands. -/
structure Slot.Passed (home : Path) (fate : Fate) (mode : String) (k : Slot) (s : World) :
    Prop where
  frame : AgreeOff k.Region s.disk (k.passed home fate mode s).disk
  failed : fate.fails k.ln = true →
    k.lnStatus home fate mode s ≠ 0 ∧ (k.passed home fate mode s).disk k.place = none
  linked : fate.fails k.ln = false →
    k.lnStatus home fate mode s = 0 ∧
      (k.passed home fate mode s).disk.node k.place = linkNode k.target
  copied : mode = "backup" → fate.fails k.cp = false →
    (k.passed home fate mode s).disk.node k.backupPlace = s.disk.node k.place
  notCopied : mode = "backup" → fate.fails k.cp = true →
    (k.passed home fate mode s).disk.node k.backupPlace ≠ s.disk.node k.place

/-- A pass that finds something: whatever becomes of the copy, the place is cleared. -/
lemma Slot.passed_of_stands
    (hseat : ∀ w', AgreeOff k.Region s.disk w' → k.Seated home w') (hk : k.Clear home)
    (hstands : s.disk k.place ≠ none) (hfree : mode = "backup" → s.disk k.backupPlace = none)
    (hdebris : ∀ t, fate.debris k.cp = some t → t ≠ s.disk.node k.place) :
    k.Passed home fate mode s := by
  have hseated := hseat _ (AgreeOff.refl _ _)
  have hthere : IsThere home k.path s := (hseated.isThere_iff hk).2 hstands
  -- the world after the copy
  obtain ⟨s₁, hs₁, hframe₁, hcopied₁, hnot₁⟩ : ∃ s₁,
      s₁ = s.afterIf home fate (fun s => IsThere home k.path s ∧ mode = "backup") k.cp
        (.cpR k.path k.backup) ∧
      AgreeOff (k.backupPlace <+: ·) s.disk s₁.disk ∧
      (mode = "backup" → fate.fails k.cp = false →
        s₁.disk.node k.backupPlace = s.disk.node k.place) ∧
      (mode = "backup" → fate.fails k.cp = true →
        s₁.disk.node k.backupPlace ≠ s.disk.node k.place) := by
    refine ⟨_, rfl, ?_⟩
    by_cases hmode : mode = "backup"
    · rw [afterIf_pos (s := s) ⟨hthere, hmode⟩]
      have hcp := after_cpR_of_seated hseated hk hstands (hfree hmode) hdebris
      exact ⟨hcp.1, fun _ => hcp.2.1, fun _ => hcp.2.2⟩
    · rw [afterIf_neg (s := s) fun h => hmode h.2]
      exact ⟨AgreeOff.refl _ _, fun h => absurd h hmode, fun h => absurd h hmode⟩
  have hplace₁ : s₁.disk k.place = s.disk k.place := hframe₁ _ hk.backup_place
  have hseated₁ := hseat s₁.disk (hframe₁.mono fun q => .inr)
  have hthere₁ : IsThere home k.path s₁ := (hseated₁.isThere_iff hk).2 (hplace₁ ▸ hstands)
  -- the world after the removal
  have hcleared : k.cleared home fate mode s = s₁.after home fate k.rm (.rmRf k.path) := by
    rw [Slot.cleared, ← hs₁, afterIf_pos hthere₁]
  have hdisk₂ : (k.cleared home fate mode s).disk = erase k.place s₁.disk := by
    rw [hcleared, after_disk, step_rmRf, hseated₁.1.rmRf_eq]
  have hframe₂ : AgreeOff k.Region s.disk (erase k.place s₁.disk) :=
    (hframe₁.mono fun q => .inr).trans ((agreeOff_erase _ _).mono fun q => .inl)
  have hbackup₂ : ∀ w', AgreeOff (k.place <+: ·) s₁.disk w' →
      w'.node k.backupPlace = s₁.disk.node k.backupPlace :=
    fun w' h => node_eq_of_apart h hk.backup_place hk.place_backup
  have hstep := step_lnS_of_seat fate (o := k.ln) (t := k.target) (hseat _ hframe₂).1
    ((look_apart hk.place_home _).trans (erase_self _ _))
  have hpassed : (k.passed home fate mode s).disk =
      if fate.fails k.ln then erase k.place s₁.disk
      else put k.place (.link k.target) (erase k.place s₁.disk) := by
    rw [Slot.passed, after_disk, hdisk₂, hstep]
    split_ifs <;> rfl
  have hstatus : k.lnStatus home fate mode s = if fate.fails k.ln then 1 else 0 := by
    rw [Slot.lnStatus, hdisk₂, hstep]
    split_ifs <;> rfl
  have hframe₃ : AgreeOff (k.place <+: ·) s₁.disk (k.passed home fate mode s).disk := by
    rw [hpassed]
    split_ifs
    · exact agreeOff_erase _ _
    · exact (agreeOff_erase _ _).trans (agreeOff_put _ _ _)
  refine ⟨(hframe₁.mono fun q => .inr).trans (hframe₃.mono fun q => .inl), fun h => ?_,
    fun h => ?_, fun hmode h => ?_, fun hmode h => ?_⟩
  · rw [hstatus, hpassed, if_pos h, if_pos h]
    exact ⟨Nat.one_ne_zero, erase_self _ _⟩
  · have h' : ¬ fate.fails k.ln = true := by simp [h]
    rw [hstatus, hpassed, if_neg h', if_neg h']
    exact ⟨rfl, node_put_erase _ _ _⟩
  · rw [hbackup₂ _ hframe₃, hcopied₁ hmode h]
  · rw [hbackup₂ _ hframe₃]
    exact hnot₁ hmode h

end InitialSetups.Dotfiles
