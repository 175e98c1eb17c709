import InitialSetups.Files.Disk

/-!
# The file commands

`ln -s`, `cp -r`, `mv`, `rm`, `rm -rf`, `mkdir` and the creation of a fresh tree, as functions
on disks with the behaviour of the GNU tools.  The result is `none` when the command fails and
changes nothing.

* An existing directory given as the destination of `ln -s`, `cp -r` or `mv`, also through a
  symbolic link, receives the new entry inside it.
* `cp -r` copies a symbolic link as a symbolic link, which replaces an existing entry that is
  no directory.  A regular file copied onto a symbolic link is written through it.
* `mv` and `rm` act on a symbolic link itself.
-/

namespace InitialSetups.Files

/-- The last component of a path, as `basename` gives it. -/
def base (p : Path) : Name := p.getLast?.getD ""

@[simp] lemma base_singleton (f : Name) : base [f] = f := rfl

@[simp] lemma base_append_singleton (p : Path) (f : Name) : base (p ++ [f]) = f := by
  simp [base]

namespace Disk

variable (home : Path)

/-- The path at which a command creates `$HOME/p`: inside it when it is a directory. -/
def destination (w : Disk) (b : Name) (p : Path) : Option Path :=
  match resolve home w p with
  | some d => if look home w d = some .dir then some (d ++ [b]) else locate home w p
  | none => locate home w p

/-- `ln -s t $HOME/p`. -/
def lnS (t : Target) (p : Path) (w : Disk) : Option Disk :=
  (destination home w (base t.comps) p).bind fun q =>
    if look home w q = none then some (put q (.link t) w) else none

/-- `cp` of a regular file onto the symbolic link at `t`: it is written through the link,
unless the link is dangling or leads back to the file at `s`. -/
def writeThrough (s t : Path) (contents : String) (w : Disk) : Option Disk :=
  match resolveUpTo (look home w) maxLinks t.dropLast [base t] with
  | none => none
  | some r =>
    match look home w r with
    | some (.file _) => if r = s then none else some (put r (.file contents) w)
    | _ => none

/-- What `cp -r` leaves at a path of an existing tree: an entry of the copied tree is written
where nothing stands, or over an entry that is no directory. -/
def overlay : Option Entry → Option Entry → Option Entry
  | none, old => old
  | some e, none => some e
  | some .dir, some old => some old
  | some e, some old => if old = .dir then some old else some e

/-- `cp -r` of the directory at `s` onto the directory at `t`.  Nothing is copied below a path
of the destination that is no directory. -/
def merge (s t : Path) (w : Disk) : Disk := fun q =>
  if t <+: q ∧ ∀ a ∈ (q.drop t.length).inits.dropLast,
      look home w (t ++ a) = none ∨ look home w (t ++ a) = some .dir then
    overlay (w (s ++ q.drop t.length)) (w q)
  else w q

/-- `cp -r` of the entry at the physical path `s` to the physical path `t`. -/
def copyTo (s t : Path) (w : Disk) : Option Disk :=
  if s = t then none
  else match look home w s, look home w t with
    | none, _ => none
    | some .dir, none => if s <+: t then none else some (plant t (w.node s) w)
    | some .dir, some .dir => if s <+: t ∨ t <+: s then none else some (merge home s t w)
    | some .dir, some _ => none
    | some _, none => some (plant t (w.node s) w)
    | some _, some .dir => none
    | some (.link _), some _ => some (plant t (w.node s) w)
    | some (.file c), some (.file _) => some (put t (.file c) w)
    | some (.file c), some (.link _) => writeThrough home s t c w

/-- `cp -r $HOME/p $HOME/p'`. -/
def cpR (p p' : Path) (w : Disk) : Option Disk :=
  (locate home w p).bind fun s => (destination home w (base p) p').bind fun t =>
    copyTo home s t w

/-- `rename` of the entry at the physical path `s` to the physical path `t`.  A directory
replaces nothing and is replaced by nothing; an empty directory at `t`, which the kernel would
accept, is refused like any other. -/
def renameTo (s t : Path) (w : Disk) : Option Disk :=
  if s <+: t then none
  else match look home w s, look home w t with
    | none, _ => none
    | some _, none => some (plant t (w.node s) (erase s w))
    | some .dir, some _ => none
    | some _, some .dir => none
    | some _, some _ => some (plant t (w.node s) (erase s w))

/-- `mv $HOME/p $HOME/p'`. -/
def mv (p p' : Path) (w : Disk) : Option Disk :=
  (locate home w p).bind fun s => (destination home w (base p) p').bind fun t =>
    renameTo home s t w

/-- `rm -rf $HOME/p`, which succeeds also when nothing is there. -/
def rmRf (p : Path) (w : Disk) : Disk :=
  match locate home w p with
  | some q => erase q w
  | none => w

/-- `rm $HOME/p`, which removes no directory. -/
def rm (p : Path) (w : Disk) : Option Disk :=
  (locate home w p).bind fun q =>
    match look home w q with
    | none => none
    | some .dir => none
    | some _ => some (erase q w)

/-- `mkdir $HOME/p`. -/
def mkdir (p : Path) (w : Disk) : Option Disk :=
  (locate home w p).bind fun q =>
    if look home w q = none then some (put q .dir w) else none

/-- A command such as `git clone` that creates the tree `t` at `$HOME/p`. -/
def create (t : Path → Option Entry) (p : Path) (w : Disk) : Option Disk :=
  (locate home w p).bind fun q =>
    if look home w q = none then some (plant q t w) else none

/-- A command such as `git pull` that leaves the tree `t` below the directory `$HOME/p`. -/
def refresh (t : Path → Option Entry) (p : Path) (w : Disk) : Option Disk :=
  match resolve home w p with
  | some d =>
    if look home w d = some .dir then
      some fun q => if d <+: q ∧ q ≠ d then t (q.drop d.length) else w q
    else none
  | none => none

/-! ### The commands on entries of the home directory -/

variable {home} {w w' : Disk} {f g : Name}

lemma destination_of_none (hf : Proper f) (h : w (home ++ [f]) = none) (b : Name) :
    destination home w b [f] = some (home ++ [f]) := by
  rw [destination, resolve_singleton_of_none hf h, locate_singleton]

@[simp] lemma rmRf_singleton : rmRf home [f] w = erase (home ++ [f]) w := by
  simp [rmRf]

lemma rm_singleton_eq_some (h : rm home [f] w = some w') : w' = erase (home ++ [f]) w := by
  rw [rm, locate_singleton, Option.bind_some] at h
  split at h
  · cases h
  · cases h
  · exact (Option.some.inj h).symm

lemma lnS_of_none (hf : Proper f) (h : w (home ++ [f]) = none) (t : Target) :
    lnS home t [f] w = some (put (home ++ [f]) (.link t) w) := by
  rw [lnS, destination_of_none hf h, Option.bind_some, look_in_home, if_pos h]

/-- A backup to a name that is free is a faithful copy, whatever is backed up. -/
lemma cpR_of_none (hg : Proper g) (hfg : f ≠ g) (hs : w (home ++ [f]) ≠ none)
    (hd : w (home ++ [g]) = none) :
    cpR home [f] [g] w = some (plant (home ++ [g]) (w.node (home ++ [f])) w) := by
  have hst : home ++ [f] ≠ home ++ [g] := by simpa using hfg
  have hpre : ¬ home ++ [f] <+: home ++ [g] := by simpa [home_append_prefix_iff] using hfg
  rw [cpR, locate_singleton, Option.bind_some, destination_of_none hg hd, Option.bind_some,
    copyTo, if_neg hst, look_in_home, look_in_home, hd]
  cases he : w (home ++ [f]) with
  | none => exact absurd he hs
  | some e =>
      cases e with
      | dir => simp [hpre]
      | file c => rfl
      | link t => rfl

lemma mv_of_none (hg : Proper g) (hfg : f ≠ g) (hs : w (home ++ [f]) ≠ none)
    (hd : w (home ++ [g]) = none) :
    mv home [f] [g] w =
      some (plant (home ++ [g]) (w.node (home ++ [f])) (erase (home ++ [f]) w)) := by
  have hpre : ¬ home ++ [f] <+: home ++ [g] := by simpa [home_append_prefix_iff] using hfg
  rw [mv, locate_singleton, Option.bind_some, destination_of_none hg hd, Option.bind_some,
    renameTo, if_neg hpre, look_in_home, look_in_home, hd]
  cases he : w (home ++ [f]) with
  | none => exact absurd he hs
  | some e => cases e <;> rfl

/-- `ln -s` creates an entry where nothing stood, and fails otherwise. -/
lemma lnS_eq_some {t : Target} {p : Path} (h : lnS home t p w = some w') :
    ∃ q, destination home w (base t.comps) p = some q ∧ look home w q = none ∧
      w' = put q (.link t) w := by
  rw [lnS, Option.bind_eq_some_iff] at h
  obtain ⟨q, hq, h⟩ := h
  split_ifs at h with hnone
  · exact ⟨q, hq, hnone, (Option.some.inj h).symm⟩

/-- `ln -s` at a symbolic link that leads nowhere fails. -/
lemma lnS_of_dangling {l t : Target} (h : w (home ++ [f]) = some (.link l))
    (hstat : stat home w [f] = none) : lnS home t [f] w = none := by
  have hdest : destination home w (base t.comps) [f] = some (home ++ [f]) := by
    rw [destination]
    cases hr : resolve home w [f] with
    | none => exact locate_singleton
    | some d =>
        have hd : look home w d = none := by rwa [stat, hr, Option.bind_some] at hstat
        simp [hd]
  rw [lnS, hdest, Option.bind_some, look_in_home, h, if_neg (by simp)]

/-- The destination of a command is the entry named, or an entry inside a directory. -/
lemma destination_singleton {b : Name} {q : Path} (h : destination home w b [f] = some q) :
    q = home ++ [f] ∨ ∃ d, look home w d = some .dir ∧ q = d ++ [b] := by
  rw [destination] at h
  split at h
  · split_ifs at h with hdir
    · exact .inr ⟨_, hdir, (Option.some.inj h).symm⟩
    · rw [locate_singleton] at h
      exact .inl (Option.some.inj h).symm
  · rw [locate_singleton] at h
    exact .inl (Option.some.inj h).symm

lemma exists_destination_singleton (b : Name) : ∃ q, destination home w b [f] = some q := by
  rw [destination]
  split
  · split_ifs
    · exact ⟨_, rfl⟩
    · exact ⟨_, locate_singleton⟩
  · exact ⟨_, locate_singleton⟩

lemma look_of_prefix_home {q : Path} (h : q <+: home) : look home w q = some .dir := if_pos h

/-- A path at which no directory stands is above no entry of the home directory but itself. -/
lemma prefix_home_entry {q : Path} (hq : q <+: home ++ [f]) (hdir : look home w q ≠ some .dir) :
    q = home ++ [f] := by
  rcases List.prefix_concat_iff.1 hq with h | h
  · exact h
  · exact absurd (look_of_prefix_home h) hdir

/-- A copy is a new node where no directory stood, is merged into a directory, or overwrites
the contents of one regular file. -/
lemma copyTo_eq_some {p q : Path} (h : copyTo home p q w = some w') :
    p ≠ q ∧ ((look home w q ≠ some .dir ∧ w' = plant q (w.node p) w) ∨
      (look home w q = some .dir ∧ ¬ q <+: p ∧ w' = merge home p q w) ∨
      ∃ r c c', look home w r = some (.file c) ∧ w' = put r (.file c') w) := by
  unfold copyTo at h
  by_cases hpq : p = q
  · rw [if_pos hpq] at h
    cases h
  rw [if_neg hpq] at h
  refine ⟨hpq, ?_⟩
  split at h
  · cases h
  · rename_i hq
    split_ifs at h
    exact .inl ⟨by rw [hq]; simp, (Option.some.inj h).symm⟩
  · rename_i hq
    split_ifs at h with hpre
    exact .inr (.inl ⟨hq, fun h' => hpre (.inr h'), (Option.some.inj h).symm⟩)
  · cases h
  · rename_i hq
    exact .inl ⟨by rw [hq]; simp, (Option.some.inj h).symm⟩
  · cases h
  · rename_i hdir _ hq
    exact .inl ⟨by rw [hq]; simpa using hdir, (Option.some.inj h).symm⟩
  · rename_i hq
    exact .inr (.inr ⟨q, _, _, hq, (Option.some.inj h).symm⟩)
  · -- a regular file is written through a link
    unfold writeThrough at h
    split at h
    · cases h
    · split at h
      · rename_i hr
        split_ifs at h
        exact .inr (.inr ⟨_, _, _, hr, (Option.some.inj h).symm⟩)
      · cases h

/-- A copy to a place where nothing stands is faithful. -/
lemma copyTo_of_free {p q : Path} (hq : look home w q = none) (h : copyTo home p q w = some w') :
    w' = plant q (w.node p) w := by
  unfold copyTo at h
  by_cases hpq : p = q
  · rw [if_pos hpq] at h
    cases h
  rw [if_neg hpq, hq] at h
  rcases hp : look home w p with _ | (c | _ | t) <;> rw [hp] at h
  · cases h
  · exact (Option.some.inj h).symm
  · simp only at h
    split_ifs at h
    exact (Option.some.inj h).symm
  · exact (Option.some.inj h).symm

/-- A move to a place where nothing stands takes the whole node there. -/
lemma renameTo_of_free {p q : Path} (hq : look home w q = none)
    (h : renameTo home p q w = some w') : w' = plant q (w.node p) (erase p w) := by
  unfold renameTo at h
  split_ifs at h
  rw [hq] at h
  rcases hp : look home w p with _ | (c | _ | t) <;> rw [hp] at h
  · cases h
  all_goals exact (Option.some.inj h).symm

/-- What has been moved away is gone. -/
lemma mv_singleton_clears {p : Path} (h : mv home [f] p w = some w') : w' (home ++ [f]) = none := by
  rw [mv, locate_singleton, Option.bind_some, Option.bind_eq_some_iff] at h
  obtain ⟨q, -, h⟩ := h
  unfold renameTo at h
  split_ifs at h with hpre
  have hw : w' = plant q (w.node (home ++ [f])) (erase (home ++ [f]) w) ∧
      look home w q ≠ some .dir := by
    split at h
    · cases h
    · rename_i hq
      exact ⟨(Option.some.inj h).symm, by rw [hq]; simp⟩
    · cases h
    · cases h
    · rename_i hdir
      exact ⟨(Option.some.inj h).symm, by simp_all⟩
  rw [hw.1, plant_apart, erase_self]
  intro hq
  exact hpre (prefix_home_entry hq hw.2 ▸ List.prefix_refl _)

/-- `cp -r $HOME/g $HOME/g'` changes no entry of the home directory that is a symbolic link,
except `$HOME/g'`. -/
lemma cpR_keeps_link {g' : Name} {t : Target} (h : cpR home [g] [g'] w = some w')
    (hf : w (home ++ [f]) = some (.link t)) (hne : f ≠ g') :
    w' (home ++ [f]) = some (.link t) := by
  rw [cpR, locate_singleton, Option.bind_some, Option.bind_eq_some_iff] at h
  obtain ⟨q, hq, h⟩ := h
  have hlook : look home w (home ++ [f]) = some (.link t) := by rw [look_in_home, hf]
  obtain ⟨hgq, ⟨hdir, rfl⟩ | ⟨hdir, hqg, rfl⟩ | ⟨r, c, c', hr, rfl⟩⟩ := copyTo_eq_some h
  · -- the copy is not made at the link itself
    rw [plant_apart, hf]
    intro hpre
    have hqf := prefix_home_entry hpre hdir
    rcases destination_singleton hq with h' | ⟨d, -, h'⟩
    · rw [h'] at hqf
      exact hne (by simpa using hqf.symm)
    · rw [h', base_singleton] at hqf
      rw [List.append_inj_left' hqf rfl] at h'
      exact hgq h'.symm
  · -- the tree is not merged into a directory above the home directory
    have hpre : ¬ q <+: home ++ [f] := by
      intro hpre
      rcases List.prefix_concat_iff.1 hpre with rfl | hhome
      · rw [hlook] at hdir
        cases hdir
      · exact hqg (hhome.trans (List.prefix_append home [g]))
    rw [merge, if_neg fun h' => hpre h'.1, hf]
  · rw [put_of_ne _ _ w, hf]
    rintro rfl
    rw [hlook] at hr
    cases hr

lemma create_singleton_of_none (h : w (home ++ [f]) = none) (t : Path → Option Entry) :
    create home t [f] w = some (plant (home ++ [f]) t w) := by
  simp [create, h]

lemma create_singleton_of_some (h : w (home ++ [f]) ≠ none) (t : Path → Option Entry) :
    create home t [f] w = none := by
  simp [create, h]

end Disk

end InitialSetups.Files
