import InitialSetups.Dotfiles.Machine
import InitialSetups.Scripts.Clock

/-!
# Saving runs lose no dotfile

Runs of `install_mydotfiles.sh backup backup`, of `create_symbolic_link.sh` in the modes
`backup` and `no` and of `download_dotfiles.sh`, one after the other.  What stood at `$HOME/.f`
before the first of them is to be found, unchanged, at `$HOME/.f` or at a stamped name.

A run copies `.f` before it removes it, so the node is safe as long as each copy is made where
nothing stands.  That is where it goes wrong: the stamps count minutes, and a second run in the
same minute copies the link that the first has made over the backup.
-/

namespace InitialSetups.Dotfiles

open InitialSetups.Shell InitialSetups.Files InitialSetups.Files.Disk InitialSetups.Scripts

variable {home : Path} {f g : String} {w w' : Disk} {fate : Fate} {s : World}

/-! ### The places of a dotfile and its backups -/

/-- `n` is the name of the dotfile `.f` or of a backup of it. -/
def Held (f : String) (n : Name) : Prop :=
  n = dot f ∨ ∃ stamp, IsStamp stamp ∧ n = stamped (dot f) stamp

/-- The path is that of the dotfile, of a backup of it, or below. -/
def InHeld (home : Path) (f : String) (q : Path) : Prop := ∃ n, Held f n ∧ home ++ [n] <+: q

/-- The dotfile and its backups are neither above nor below the path. -/
def Apart (home : Path) (f : String) (r : Path) : Prop :=
  ∀ n, Held f n → ¬ r <+: home ++ [n] ∧ ¬ home ++ [n] <+: r

lemma Apart.not_inHeld {q r : Path} (h : Apart home f r) (hq : r <+: q) : ¬ InHeld home f q := by
  rintro ⟨n, hn, hpre⟩
  rcases List.prefix_or_prefix_of_prefix hq hpre with h' | h'
  · exact (h n hn).1 h'
  · exact (h n hn).2 h'

lemma apart_of_not_held {x : Name} (hx : ¬ Held f x) (rest : Path) :
    Apart home f (home ++ x :: rest) := by
  intro n hn
  have hne : n ≠ x := fun he => hx (he ▸ hn)
  refine ⟨fun h => ?_, fun h => hne (home_append_prefix_iff.1 h)⟩
  obtain ⟨t, ht⟩ := (List.prefix_append_right_inj home).1 h
  exact hne (by simpa using (List.cons.inj ht).1.symm)

lemma isDotfile_of_mem (hf : f ∈ dotfileNames) : IsDotfile f := by
  have hall : ∀ f ∈ dotfileNames, IsDotfile f := by decide
  exact hall f hf

/-- The backups of another name are not held. -/
lemma not_held_stamped {name stamp : String} (hf : f ∈ dotfileNames) (h : IsStamp stamp)
    (hne : name ≠ dot f) : ¬ Held f (stamped name stamp) := by
  rintro (he | ⟨stamp', hstamp', he⟩)
  · exact stamped_ne_dot hf h he
  · exact hne (stamped_injective h hstamp' he).1

/-- The name of another dotfile is not held. -/
lemma not_held_dot (hg : g ∈ dotfileNames) (hne : g ≠ f) : ¬ Held f (dot g) := by
  rintro (he | ⟨stamp, hstamp, he⟩)
  · exact hne (dot_injective he)
  · exact stamped_ne_dot hg hstamp he.symm

/-- A name that does not begin with a dot is not held. -/
lemma not_held_of_head {n : Name} (hn : n.toList.head? ≠ some '.') : ¬ Held f n := by
  rintro (rfl | ⟨stamp, -, rfl⟩)
  · exact hn (by rw [dot_toList]; rfl)
  · exact hn (by rw [stamped_toList, dot_toList]; rfl)

lemma dotfiles_ne_dot (hf : f ∈ dotfileNames) : ".dotfiles" ≠ dot f := by
  have hall : ∀ f ∈ dotfileNames, ".dotfiles" ≠ dot f := by decide
  exact hall f hf

lemma not_held_dotfiles (hf : f ∈ dotfileNames) : ¬ Held f ".dotfiles" := by
  rintro (he | ⟨stamp, hstamp, he⟩)
  · exact dotfiles_ne_dot hf he
  · refine stamped_ne_of_getLast hstamp (fun c hc => ?_) he.symm
    have hends : ".dotfiles".toList.getLast?.any (fun c => IsStampChar c) = false := by decide
    rw [hc] at hends
    simpa using hends

/-- The step leaves the dotfile and its backups as they are. -/
def Leaves (home : Path) (f : String) (w w' : Disk) : Prop := ∀ q, InHeld home f q → w' q = w q

lemma Leaves.refl (w : Disk) : Leaves home f w w := fun _ _ => rfl

lemma Leaves.node_eq {n : Name} (h : Leaves home f w w') (hn : Held f n) :
    w'.node (home ++ [n]) = w.node (home ++ [n]) := by
  funext r
  exact h _ ⟨n, hn, List.prefix_append _ r⟩

lemma leaves_of_agreeOff {r : Path} (hr : Apart home f r) (h : AgreeOff (r <+: ·) w w') :
    Leaves home f w w' :=
  fun q hq => h q fun hpre => hr.not_inHeld hpre hq

/-! ### Safe commands -/

/-- No symbolic link leads the command to the dotfile `.f` or to a backup of it, a copy or a
move finds its destination free, and the copy of `.f` itself is made at the name given. -/
def Safe (home : Path) (f : String) : Call → Disk → Prop
  | .cpR p q, w => ∀ r, destination home w (base p) q = some r →
      look home w r = none ∧ (r = home ++ q ∨ p ≠ [dot f] ∧ Apart home f r)
  | .mv p q, w => ∀ r, destination home w (base p) q = some r →
      look home w r = none ∧ (r = home ++ q ∨ Apart home f r)
  | .rmRf p, w => ∀ r, locate home w p = some r → r = home ++ p ∨ Apart home f r
  | .lnS t p, w => ∀ r, destination home w (base t.comps) p = some r →
      r = home ++ p ∨ Apart home f r
  | .gitPull p, w => ∀ r, resolve home w p = some r → r = home ++ p ∨ Apart home f r
  | _, _ => True

/-- The command works at the very place that its path names, and a copy or a move finds that
place free. -/
def Plain (home : Path) : Call → Disk → Prop
  | .cpR p q, w | .mv p q, w => ∀ r ∈ destination home w (base p) q,
      look home w r = none ∧ r = home ++ q
  | .rmRf p, w => ∀ r ∈ locate home w p, r = home ++ p
  | .lnS t p, w => ∀ r ∈ destination home w (base t.comps) p, r = home ++ p
  | .gitPull p, w => ∀ r ∈ resolve home w p, r = home ++ p
  | _, _ => True

instance (c : Call) (w : Disk) : Decidable (Plain home c w) := by
  cases c <;> unfold Plain <;> infer_instance

/-- Where no symbolic link is followed, commands are safe for every dotfile. -/
lemma safe_of_plain {c : Call} (h : Plain home c w) : Safe home f c w := by
  cases c with
  | cpR p q => exact fun r hr => ⟨(h r hr).1, .inl (h r hr).2⟩
  | mv p q => exact fun r hr => ⟨(h r hr).1, .inl (h r hr).2⟩
  | rmRf p => exact fun r hr => .inl (h r hr)
  | lnS t p => exact fun r hr => .inl (h r hr)
  | gitPull p => exact fun r hr => .inl (h r hr)
  | rm p => trivial
  | mkdir p => trivial
  | gitClone p => trivial

/-- The path does not begin with the name of `.f` or of a backup of it. -/
def Elsewhere (f : String) (p : Path) : Prop := ∃ x rest, p = x :: rest ∧ ¬ Held f x

/-- The command is not about `.f`. -/
def Foreign (f : String) : Call → Prop
  | .cpR p q => p ≠ [dot f] ∧ Elsewhere f q
  | .rmRf p => Elsewhere f p
  | .rm _ => False
  | .lnS _ p => Elsewhere f p
  | .mv p q => (∃ x, p = [x] ∧ ¬ Held f x) ∧ Elsewhere f q
  | .mkdir p => ∃ x, p = [x] ∧ ¬ Held f x
  | .gitClone p => ∃ x, p = [x] ∧ ¬ Held f x
  | .gitPull p => Elsewhere f p

lemma Elsewhere.apart {p r : Path} (h : Elsewhere f p) (hr : r = home ++ p ∨ Apart home f r) :
    Apart home f r := by
  obtain ⟨x, rest, rfl, hx⟩ := h
  rcases hr with rfl | hr
  · exact apart_of_not_held hx rest
  · exact hr

/-- A safe command that is not about `.f` leaves it and its backups as they are. -/
lemma leaves_of_foreign {c : Call} (hf : Foreign f c) (hs : Safe home f c w)
    (h : fate.effect home w c = some w') : Leaves home f w w' := by
  cases c with
  | cpR p q =>
      obtain ⟨src, -, h⟩ := Option.bind_eq_some_iff.1 h
      obtain ⟨r, hr, h⟩ := Option.bind_eq_some_iff.1 h
      obtain ⟨hfree, hplace⟩ := hs r hr
      rw [copyTo_of_free hfree h]
      exact leaves_of_agreeOff (hf.2.apart (hplace.imp_right And.right)) (agreeOff_plant _ _ _)
  | rmRf p =>
      obtain rfl := Option.some.inj h
      cases hl : locate home w p with
      | none => simpa [rmRf, hl] using Leaves.refl w
      | some r =>
          simp only [rmRf, hl]
          exact leaves_of_agreeOff (hf.apart (hs r hl)) (agreeOff_erase _ _)
  | rm p => exact hf.elim
  | lnS t p =>
      obtain ⟨r, hr, -, rfl⟩ := lnS_eq_some h
      exact leaves_of_agreeOff (hf.apart (hs r hr)) (agreeOff_put _ _ _)
  | mv p q =>
      obtain ⟨⟨x, rfl, hx⟩, hq⟩ := hf
      obtain ⟨src, hsrc, h⟩ := Option.bind_eq_some_iff.1 h
      obtain ⟨r, hr, h⟩ := Option.bind_eq_some_iff.1 h
      obtain ⟨hfree, hplace⟩ := hs r hr
      rw [locate_singleton] at hsrc
      obtain rfl := Option.some.inj hsrc
      rw [renameTo_of_free hfree h]
      have herase : Leaves home f w (erase (home ++ [x]) w) :=
        leaves_of_agreeOff (apart_of_not_held hx []) (agreeOff_erase _ _)
      have hplant := leaves_of_agreeOff (hq.apart hplace) (agreeOff_plant r
        (w.node (home ++ [x])) (erase (home ++ [x]) w))
      exact fun q hq => (hplant q hq).trans (herase q hq)
  | mkdir p =>
      obtain ⟨x, rfl, hx⟩ := hf
      simp only [Fate.effect, mkdir, locate_singleton, Option.bind_some] at h
      split_ifs at h
      rw [← Option.some.inj h]
      exact leaves_of_agreeOff (apart_of_not_held hx []) (agreeOff_put _ _ _)
  | gitClone p =>
      obtain ⟨x, rfl, hx⟩ := hf
      simp only [Fate.effect, create, locate_singleton, Option.bind_some] at h
      split_ifs at h
      rw [← Option.some.inj h]
      exact leaves_of_agreeOff (apart_of_not_held hx []) (agreeOff_plant _ _ _)
  | gitPull p =>
      simp only [Fate.effect, refresh] at h
      split at h
      · rename_i r hr
        split_ifs at h
        rw [← Option.some.inj h]
        refine leaves_of_agreeOff (hf.apart (hs r hr)) fun q hq => ?_
        rw [if_neg fun h => hq h.1]
      · cases h

/-! ### The commands of the scripts that are not about `.f` -/

section Foreign

variable {stamp : String}

/-- A pass for another dotfile is not about `.f`. -/
lemma foreign_cpR (hf : f ∈ dotfileNames) (h : IsStamp stamp) (hne : g ≠ f) :
    Foreign f (.cpR [dot g] [stamped (dot g) stamp]) :=
  ⟨fun he => hne (dot_injective (by simpa using he)), _, [], rfl,
    not_held_stamped hf h fun he => hne (dot_injective he)⟩

lemma foreign_rmRf (hg : g ∈ dotfileNames) (hne : g ≠ f) : Foreign f (.rmRf [dot g]) :=
  ⟨_, [], rfl, not_held_dot hg hne⟩

lemma foreign_lnS {t : Target} (hg : g ∈ dotfileNames) (hne : g ≠ f) :
    Foreign f (.lnS t [dot g]) :=
  ⟨_, [], rfl, not_held_dot hg hne⟩

lemma elsewhere_bin (rest : Path) : Elsewhere f ("bin" :: rest) :=
  ⟨"bin", rest, rfl, not_held_of_head (by decide)⟩

lemma foreign_mv (hf : f ∈ dotfileNames) (h : IsStamp stamp) :
    Foreign f (.mv [".dotfiles"] [stamped ".dotfiles" stamp]) :=
  ⟨⟨_, rfl, not_held_dotfiles hf⟩, _, [], rfl, not_held_stamped hf h (dotfiles_ne_dot hf)⟩

end Foreign

/-! ### The commands that are about `.f` -/

section Own

variable {N : Path → Option Entry} {stamps : List String} {stamp : String}

/-- The node `N` is to be found at `$HOME/.f` under one of the stamps. -/
def BackedUp (home : Path) (f : String) (N : Path → Option Entry) (stamps : List String)
    (w : Disk) : Prop :=
  ∃ stamp ∈ stamps, w.node (home ++ [stamped (dot f) stamp]) = N

/-- The node `N` is to be found, unchanged, at `$HOME/.f` or under one of the stamps. -/
def Saved (home : Path) (f : String) (N : Path → Option Entry) (stamps : List String)
    (w : Disk) : Prop :=
  w.node (home ++ [dot f]) = N ∨ BackedUp home f N stamps w

variable (hstamps : ∀ stamp ∈ stamps, IsStamp stamp)

include hstamps

lemma Leaves.backedUp (h : Leaves home f w w') (hw : BackedUp home f N stamps w) :
    BackedUp home f N stamps w' := by
  obtain ⟨stamp, hmem, hnode⟩ := hw
  exact ⟨stamp, hmem, by rw [h.node_eq (.inr ⟨stamp, hstamps stamp hmem, rfl⟩), hnode]⟩

lemma Leaves.saved (h : Leaves home f w w') (hw : Saved home f N stamps w) :
    Saved home f N stamps w' := by
  rcases hw with hw | hw
  · exact .inl (by rw [h.node_eq (.inl rfl), hw])
  · exact .inr (h.backedUp hstamps hw)

/-- What changes only `$HOME/.f` leaves the backups alone. -/
lemma backedUp_of_agreeOff (hfile : ∀ stamp, IsStamp stamp → stamped (dot f) stamp ≠ dot f)
    (h : AgreeOff (home ++ [dot f] <+: ·) w w') (hw : BackedUp home f N stamps w) :
    BackedUp home f N stamps w' := by
  obtain ⟨stamp, hmem, hnode⟩ := hw
  refine ⟨stamp, hmem, (h.node_eq fun r hpre => ?_).trans hnode⟩
  rw [List.append_assoc, List.singleton_append, home_append_prefix_iff] at hpre
  exact hfile stamp (hstamps stamp hmem) hpre.symm

variable (hfile : ∀ stamp, IsStamp stamp → stamped (dot f) stamp ≠ dot f)

include hfile

lemma backedUp_rmRf (hw : BackedUp home f N stamps w) :
    BackedUp home f N stamps (rmRf home [dot f] w) := by
  rw [rmRf_singleton]
  exact backedUp_of_agreeOff hstamps hfile (agreeOff_erase _ _) hw

/-- `ln -s` at `$HOME/.f` takes nothing away: it fails while something is there. -/
lemma saved_lnS {t : Target} (hN : N [] ≠ none) (hs : Safe home f (.lnS t [dot f]) w)
    (h : lnS home t [dot f] w = some w') (hw : Saved home f N stamps w) :
    Saved home f N stamps w' := by
  obtain ⟨r, hr, hfree, rfl⟩ := lnS_eq_some h
  rcases hs r hr with rfl | hapart
  · rw [look_in_home] at hfree
    rcases hw with hw | hw
    · have hnil := congrFun hw []
      rw [node, List.append_nil, hfree] at hnil
      exact absurd hnil.symm hN
    · exact .inr (backedUp_of_agreeOff hstamps hfile (agreeOff_put _ _ _) hw)
  · exact (leaves_of_agreeOff hapart (agreeOff_put _ _ _)).saved hstamps hw

/-- A safe copy of `$HOME/.f` succeeds and leaves the node in a backup. -/
lemma backedUp_cpR (hf : IsDotfile f) (hN : N [] ≠ none) (hstamp : stamp ∈ stamps)
    (hs : Safe home f (.cpR [dot f] [stamped (dot f) stamp]) w)
    (hstands : w (home ++ [dot f]) ≠ none) (hw : Saved home f N stamps w) :
    ∃ w', cpR home [dot f] [stamped (dot f) stamp] w = some w' ∧
      BackedUp home f N stamps w' := by
  have hne := hfile stamp (hstamps stamp hstamp)
  obtain ⟨r, hr⟩ := exists_destination_singleton (base [dot f])
  obtain ⟨hfree, rfl | h⟩ := hs r hr
  · rw [look_in_home] at hfree
    refine ⟨_, cpR_of_none (proper_stamped hf) hne.symm hstands hfree, ?_⟩
    rcases hw with hw | ⟨stamp', hmem, hnode⟩
    · exact ⟨stamp, hstamp, by rw [node_plant, hw]⟩
    · -- an older backup stands under another stamp
      refine ⟨stamp', hmem, ((agreeOff_plant _ _ _).node_eq fun q hpre => ?_).trans hnode⟩
      rw [List.append_assoc, List.singleton_append, home_append_prefix_iff] at hpre
      obtain rfl := (stamped_injective (hstamps _ hstamp) (hstamps _ hmem) hpre).2
      have hnil := congrFun hnode []
      rw [node, List.append_nil, hfree] at hnil
      exact hN hnil.symm
  · exact absurd rfl h.1

end Own

/-! ### Commands in a run -/

/-- While all commands have been safe, the disk satisfies `I`. -/
def WhileSafe (home : Path) (f : String) (I : Disk → Prop) (s : World) : Prop :=
  (∀ e ∈ s.past, Safe home f e.1 e.2) → I s.disk

section Run

variable {I I' : Disk → Prop} {o : Occ} {c : Call}

lemma WhileSafe.mono (h : WhileSafe home f I s) (hI : ∀ w, I w → I' w) : WhileSafe home f I' s :=
  fun hs => hI _ (h hs)

variable (hcalm : ∀ o, fate.fails o = false)

include hcalm

/-- A command that establishes `I'` where it is safe. -/
lemma WhileSafe.after (h : WhileSafe home f I s)
    (hc : ∀ w, I w → Safe home f c w → I' ((fate.effect home w c).getD w)) :
    WhileSafe home f I' (s.after home fate o c) := by
  intro hs
  rw [after_disk, step_disk (hcalm o)]
  refine hc _ (h fun e he => hs e ?_) (hs (c, s.disk) ?_)
  · exact List.mem_append_left _ he
  · exact List.mem_append_right _ (List.mem_singleton_self _)

/-- What a safe command keeps. -/
lemma preserves_whileSafe
    (hc : ∀ w w', I w → Safe home f c w → fate.effect home w c = some w' → I w') :
    Preserves (WhileSafe home f I) (fate.perform home o c) := by
  intro s hs
  refine WhileSafe.after (o := o) hcalm hs fun w hw hsafe => ?_
  cases h : fate.effect home w c with
  | none => exact hw
  | some w' => exact hc w w' hw hsafe h

variable {N : Path → Option Entry} {stamps : List String} {stamp : String}
  (hstamps : ∀ stamp ∈ stamps, IsStamp stamp)

include hstamps

lemma preserves_foreign (hF : Foreign f c) :
    Preserves (WhileSafe home f (Saved home f N stamps)) (fate.perform home o c) :=
  preserves_whileSafe hcalm fun _ _ hw hs h => (leaves_of_foreign hF hs h).saved hstamps hw

/-! ### The passes -/

variable {env : Env} {mode : String} {line : ℕ}

variable (hN : N [] ≠ none) (henv : env.home = home) (hstamp : env.datetime ∈ stamps)
  (hf : f ∈ dotfileNames)

section Own

include hcalm hstamps hN hf

lemma preserves_lnS_own {t : Target} :
    Preserves (WhileSafe home f (Saved home f N stamps)) (fate.perform home o (.lnS t [dot f])) :=
  preserves_whileSafe hcalm fun _ _ hw hs h =>
    saved_lnS hstamps (fun _ h => stamped_ne_dot hf h) hN hs h hw

include hstamp in
/-- After the copy of `.f` the node is in a backup, also after the removal. -/
lemma whileSafe_copied_removed {P : World → Prop} [DecidablePred P] {o' : Occ}
    (hs : WhileSafe home f (Saved home f N stamps) s) (hst : Stands home (dot f) s) :
    WhileSafe home f (Saved home f N stamps)
      ((s.after home fate o (.cpR [dot f] [stamped (dot f) env.datetime])).afterIf home fate P o'
        (.rmRf [dot f])) := by
  have hfile : ∀ stamp, IsStamp stamp → stamped (dot f) stamp ≠ dot f :=
    fun _ h => stamped_ne_dot hf h
  have hcopied : WhileSafe home f (BackedUp home f N stamps)
      (s.after home fate o (.cpR [dot f] [stamped (dot f) env.datetime])) := by
    have hs' : WhileSafe home f (fun w => Saved home f N stamps w ∧ w (home ++ [dot f]) ≠ none) s :=
      fun h => ⟨hs h, hst⟩
    refine hs'.after hcalm fun w hw hsafe => ?_
    obtain ⟨w', hcp, hb⟩ := backedUp_cpR hstamps hfile (isDotfile_of_mem hf) hN hstamp hsafe
      hw.2 hw.1
    simpa [Fate.effect, hcp] using hb
  have hremoved := afterIf_keeps (P := P) (o := o') (c := .rmRf [dot f])
    (I := WhileSafe home f (BackedUp home f N stamps))
    (fun s h => h.after hcalm fun w hw _ => backedUp_rmRf hstamps hfile hw) hcopied
  exact hremoved.mono fun w => .inr

include henv hstamp

/-- A pass of `install_mydotfiles.sh backup backup` for `.f` itself. -/
lemma preserves_installDotfile_own :
    Preserves (WhileSafe home f (Saved home f N stamps))
      (installDotfile (diskMachine home fate) env "backup" line f) := by
  intro s hs
  rw [installDotfile_apply (isDotfile_of_mem hf) henv, orExit_perform_apply]
  refine preserves_lnS_own hcalm hstamps hN hf _ ?_
  unfold installCleared
  by_cases hst : Stands home (dot f) s
  · rw [afterIf_pos (s := s) ⟨hst, rfl⟩]
    exact whileSafe_copied_removed hcalm hstamps hN hstamp hf hs hst
  · rw [afterIf_neg (s := s) fun h => hst h.1, afterIf_neg hst]
    exact hs

/-- A pass of `create_symbolic_link.sh` in a saving mode for `.f` itself. -/
lemma preserves_createDotfile_own (hmode : mode = "backup" ∨ mode = "no") :
    Preserves (WhileSafe home f (Saved home f N stamps))
      (createDotfile (diskMachine home fate) env mode f) := by
  intro s hs
  rw [createDotfile_apply henv]
  refine preserves_lnS_own hcalm hstamps hN hf _ ?_
  unfold createCleared
  rcases createCopied_cases with ⟨o, hcopy, -, hl⟩ | ⟨hcopy, hno⟩
  · have hst : Stands home (dot f) s := fun hnone =>
      hl (stat_singleton_of_none (proper_dot (isDotfile_of_mem hf)) hnone)
    rw [hcopy]
    exact whileSafe_copied_removed hcalm hstamps hN hstamp hf hs hst
  · rw [hcopy, afterIf_neg fun hl => hno ⟨hmode, hl⟩]
    exact hs

end Own

/-! ### The scripts -/

include hcalm hstamps hN henv hstamp hf

/-- A saving run of `install_mydotfiles.sh` keeps the node safe. -/
lemma preserves_installMydotfiles_saved :
    Preserves (WhileSafe home f (Saved home f N stamps))
      (installMydotfiles (diskMachine home fate) env ["backup", "backup"]) := by
  have hS := hstamps _ hstamp
  have hforeign : ∀ {o c}, Foreign f c →
      Preserves (WhileSafe home f (Saved home f N stamps)) (fate.perform home o c) :=
    fun hF => preserves_foreign hcalm hstamps hF
  refine preserves_installMydotfiles_of_parts (fun _ _ h => h) (Preserves.ret 0)
    (fun o => hforeign ⟨_, rfl, not_held_dotfiles hf⟩) fun mode platform hmode => ?_
  obtain rfl : "backup" = mode := by simpa using hmode
  refine preserves_installLinks (fun line g hg => ?_)
    (fun o => hforeign ⟨_, rfl, not_held_of_head (by decide)⟩) fun line g => ?_
  · by_cases hgf : g = f
    · subst hgf
      exact preserves_installDotfile_own hcalm hstamps hN henv hstamp hf
    · exact preserves_installDotfile (fun o => hforeign (foreign_cpR hf hS hgf))
        (fun o => hforeign (foreign_rmRf hg hgf)) fun o => hforeign (foreign_lnS hg hgf)
  · exact preserves_installBinfile
      (fun o => hforeign ⟨by simp, elsewhere_bin _⟩) (fun o => hforeign (elsewhere_bin _))
      (fun o => hforeign (elsewhere_bin _)) fun _ _ h => h

omit hN henv in
lemma preserves_downloadDotfiles_saved :
    Preserves (WhileSafe home f (Saved home f N stamps))
      (downloadDotfiles (diskMachine home fate) env) :=
  preserves_downloadDotfiles (Preserves.ret 0)
    (fun _ => preserves_foreign hcalm hstamps (foreign_mv hf (hstamps _ hstamp)))
    fun _ => preserves_foreign hcalm hstamps ⟨_, rfl, not_held_dotfiles hf⟩

/-- A saving run of `create_symbolic_link.sh` keeps the node safe. -/
lemma preserves_createSymbolicLink_saved (hmode : mode = "backup" ∨ mode = "no") :
    Preserves (WhileSafe home f (Saved home f N stamps))
      (createSymbolicLink (diskMachine home fate) env mode) := by
  have hS := hstamps _ hstamp
  have hforeign : ∀ {o c}, Foreign f c →
      Preserves (WhileSafe home f (Saved home f N stamps)) (fate.perform home o c) :=
    fun hF => preserves_foreign hcalm hstamps hF
  refine preserves_createSymbolicLink_of_parts (fun _ => Preserves.ret 0)
    (fun _ _ _ => Preserves.ret 0) (fun o => hforeign ⟨_, [], rfl, not_held_dotfiles hf⟩)
    (preserves_downloadDotfiles_saved hcalm hstamps hstamp hf) (fun g hg => ?_)
    fun line g => ?_
  · have hg' : g ∈ dotfileNames := by
      have hsub : ∀ g ∈ createDotfiles, g ∈ dotfileNames := by decide
      exact hsub g hg
    by_cases hgf : g = f
    · subst hgf
      exact preserves_createDotfile_own hcalm hstamps hN henv hstamp hf hmode
    · exact preserves_createDotfile (fun o => hforeign (foreign_cpR hf hS hgf))
        (fun o => hforeign (foreign_rmRf hg' hgf)) fun o => hforeign (foreign_lnS hg' hgf)
  · exact preserves_createBinfile (fun o => hforeign (elsewhere_bin _))
      (fun o => hforeign (elsewhere_bin _)) fun _ _ h => h

end Run

/-! ### Sequences of runs -/

/-- The scripts and arguments that save what they replace. -/
inductive Saving where
  | installBackup
  | createBackup
  | createNo
  | download
  deriving DecidableEq, Repr

/-- A run in which every command does what it is there for. -/
structure SavingRun where
  saving : Saving
  clock : Clock
  scriptDir : Path
  uname : String
  fate : Fate
  calm : ∀ o, fate.fails o = false

/-- `$DATETIME` of a run. -/
def SavingRun.datetime (run : SavingRun) : String :=
  match run.saving with
  | .installBackup => run.clock.stampUnderscore
  | .createBackup | .createNo | .download => run.clock.stampPlain

/-- The surroundings of a run. -/
def SavingRun.env (home : Path) (run : SavingRun) : Env :=
  ⟨home, run.scriptDir, run.uname, run.datetime⟩

/-- The script that is run. -/
def SavingRun.command (home : Path) (run : SavingRun) : Sh World :=
  match run.saving with
  | .installBackup =>
    installMydotfiles (diskMachine home run.fate) (run.env home) ["backup", "backup"]
  | .createBackup => createSymbolicLink (diskMachine home run.fate) (run.env home) "backup"
  | .createNo => createSymbolicLink (diskMachine home run.fate) (run.env home) "no"
  | .download => downloadDotfiles (diskMachine home run.fate) (run.env home)

/-- One run after the other. -/
def runAll (home : Path) (runs : List SavingRun) (s : World) : World :=
  runs.foldl (fun s run => (run.command home).world s) s

lemma isStamp_datetime (run : SavingRun) : IsStamp run.datetime := by
  unfold SavingRun.datetime
  split
  · exact isStamp_stampUnderscore _
  all_goals exact isStamp_stampPlain _

variable {N : Path → Option Entry} {stamps : List String}

/-- One run keeps the node safe. -/
lemma preserves_command {run : SavingRun} (hstamps : ∀ stamp ∈ stamps, IsStamp stamp)
    (hN : N [] ≠ none) (hf : f ∈ dotfileNames) (hrun : run.datetime ∈ stamps) :
    Preserves (WhileSafe home f (Saved home f N stamps)) (run.command home) := by
  have henv : (run.env home).home = home := rfl
  have hstamp : (run.env home).datetime ∈ stamps := hrun
  unfold SavingRun.command
  cases run.saving with
  | installBackup => exact preserves_installMydotfiles_saved run.calm hstamps hN henv hstamp hf
  | createBackup =>
      exact preserves_createSymbolicLink_saved run.calm hstamps hN henv hstamp hf (.inl rfl)
  | createNo =>
      exact preserves_createSymbolicLink_saved run.calm hstamps hN henv hstamp hf (.inr rfl)
  | download => exact preserves_downloadDotfiles_saved run.calm hstamps hstamp hf

/-- Any number of runs keeps the node safe. -/
lemma runAll_whileSafe {runs : List SavingRun} (hstamps : ∀ stamp ∈ stamps, IsStamp stamp)
    (hN : N [] ≠ none) (hf : f ∈ dotfileNames) (hruns : ∀ run ∈ runs, run.datetime ∈ stamps)
    (hs : WhileSafe home f (Saved home f N stamps) s) :
    WhileSafe home f (Saved home f N stamps) (runAll home runs s) := by
  induction runs generalizing s with
  | nil => exact hs
  | cons run runs ih =>
      have hone := preserves_command hstamps hN hf (hruns run List.mem_cons_self) s hs
      exact ih (fun r hr => hruns r (List.mem_cons_of_mem run hr)) hone

/-- **Saving runs lose no dotfile as long as their commands are safe**: what stood at `$HOME/.f`
is there still, unchanged, or under the stamp of one of the runs. -/
theorem saving_runs_save (home : Path) (runs : List SavingRun) (w : Disk) (f : String)
    (hf : f ∈ dotfileNames) (hw : w (home ++ [dot f]) ≠ none)
    (hsafe : ∀ e ∈ (runAll home runs ⟨w, []⟩).past, Safe home f e.1 e.2) :
    Saved home f (w.node (home ++ [dot f])) (runs.map SavingRun.datetime)
      (runAll home runs ⟨w, []⟩).disk := by
  have hN : w.node (home ++ [dot f]) [] ≠ none := by rwa [node, List.append_nil]
  have hstamps : ∀ stamp ∈ runs.map SavingRun.datetime, IsStamp stamp := by
    simp only [List.forall_mem_map]
    exact fun run _ => isStamp_datetime run
  refine runAll_whileSafe hstamps hN hf (fun run hrun => List.mem_map_of_mem hrun) ?_ hsafe
  exact fun _ => .inl rfl

/-! ### Two runs in one minute -/

/-- A dotfiles repository with a `zshrc`. -/
def sampleTree : Path → Option Entry := fun p =>
  if p = [] then some .dir
  else if p = ["zshrc"] then some (.file "# shared")
  else none

/-- A home with a `~/.zshrc` of its own and a clone of the repository. -/
def zshrcHome : Disk := fun p =>
  if p = ["home", "u", ".zshrc"] then some (.file "# mine")
  else if p = ["home", "u", ".dotfiles"] then some .dir
  else if p = ["home", "u", ".dotfiles", "zshrc"] then some (.file "# shared")
  else none

/-- A run at four past three. -/
def sampleRun (saving : Saving) : SavingRun :=
  ⟨saving, ⟨2024, 1, 2, 3, 4⟩, ["src", "lib"], "Linux", .smooth sampleTree, fun _ => rfl⟩

/-- A single run is safe. -/
theorem saving_runs_save_sample :
    Saved ["home", "u"] "zshrc" (zshrcHome.node ["home", "u", ".zshrc"]) ["202401020304"]
      (runAll ["home", "u"] [sampleRun .createBackup] ⟨zshrcHome, []⟩).disk :=
  saving_runs_save ["home", "u"] [sampleRun .createBackup] zshrcHome "zshrc" (by decide)
    (by decide) fun e he => safe_of_plain (by
      have hplain : ∀ e ∈ (runAll ["home", "u"] [sampleRun .createBackup] ⟨zshrcHome, []⟩).past,
          Plain ["home", "u"] e.1 e.2 := by decide +kernel
      exact hplain e he)

/-- The second of two runs in one minute puts the link of the first in the place of the
backup. -/
theorem second_run_loses_zshrc :
    ¬ Saved ["home", "u"] "zshrc" (zshrcHome.node ["home", "u", ".zshrc"])
      ["202401020304", "202401020304"]
      (runAll ["home", "u"] [sampleRun .createBackup, sampleRun .createBackup]
        ⟨zshrcHome, []⟩).disk := by
  have hlink : (runAll ["home", "u"] [sampleRun .createBackup, sampleRun .createBackup]
      ⟨zshrcHome, []⟩).disk ["home", "u", ".zshrc"] ≠ some (.file "# mine") := by decide +kernel
  have hstamped : (runAll ["home", "u"] [sampleRun .createBackup, sampleRun .createBackup]
      ⟨zshrcHome, []⟩).disk ["home", "u", ".zshrc.202401020304"] ≠ some (.file "# mine") := by
    decide +kernel
  rintro (h | ⟨stamp, hmem, h⟩)
  · exact hlink (congrFun h [])
  · obtain rfl : stamp = "202401020304" := by simpa using hmem
    exact hstamped (congrFun h [])

end InitialSetups.Dotfiles
