import InitialSetups.Files.Commands

/-!
# Entries of directories that are reached through a path

`Seat home w p r` says that the path `p` names the entry at the physical path `r`: all of `p`
but its last component leads to a directory, symbolic links followed, and `r` is the entry of
that directory.  The entry itself need not be there.  On a seat the file commands do what
their names say.
-/

namespace InitialSetups.Files.Disk

variable {home : Path} {w w' : Disk} {p p' r r' : Path} {x : Name}

/-! ### The last component of a path -/

section LastComponent

variable {at_ : Path → Option Entry} {follow : Path → List Name → Option Path}

/-- What resolves with a last component `x` resolves without it, and `x` is there. -/
lemma walk_snoc (hx : Proper x)
    (hfollow : ∀ cur xs q, follow cur (xs ++ [x]) = some q →
      ∃ d, follow cur xs = some d ∧ at_ (d ++ [x]) ≠ none) :
    ∀ xs cur q, walk follow at_ cur (xs ++ [x]) = some q →
      ∃ d, walk follow at_ cur xs = some d ∧ at_ (d ++ [x]) ≠ none := by
  intro xs
  induction xs with
  | nil =>
      intro cur q h
      refine ⟨cur, rfl, fun hnone => ?_⟩
      rw [List.nil_append, walk_proper hx, hnone] at h
      cases h
  | cons c xs ih =>
      intro cur q h
      rw [List.cons_append, walk_cons] at h
      rw [walk_cons]
      by_cases h₁ : c = "" ∨ c = "."
      · rw [if_pos h₁] at h ⊢
        exact ih _ _ h
      rw [if_neg h₁] at h ⊢
      by_cases h₂ : c = ".."
      · rw [if_pos h₂] at h ⊢
        exact ih _ _ h
      rw [if_neg h₂] at h ⊢
      rcases hat : at_ (cur ++ [c]) with _ | (contents | _ | t) <;> rw [hat] at h <;>
        simp only at h ⊢
      · cases h
      · -- a file has no entries
        rw [if_neg (by simp)] at h
        cases h
      · exact ih _ _ h
      · rw [← List.append_assoc] at h
        exact hfollow _ _ _ h

lemma resolveUpTo_snoc (hx : Proper x) (n : ℕ) :
    ∀ cur xs q, resolveUpTo at_ n cur (xs ++ [x]) = some q →
      ∃ d, resolveUpTo at_ n cur xs = some d ∧ at_ (d ++ [x]) ≠ none := by
  induction n with
  | zero => exact fun cur xs q h => walk_snoc hx (fun _ _ _ h => by cases h) xs cur q h
  | succ n ih => exact fun cur xs q h => walk_snoc hx ih xs cur q h

/-- An entry of a directory that is no symbolic link is where it is. -/
lemma walk_snoc_of_not_link (hx : Proper x) {e : Entry} (he : ∀ t, e ≠ .link t)
    (hfollow : ∀ cur xs d, follow cur xs = some d → at_ d = some .dir →
      at_ (d ++ [x]) = some e → follow cur (xs ++ [x]) = some (d ++ [x])) :
    ∀ xs cur d, walk follow at_ cur xs = some d → at_ d = some .dir →
      at_ (d ++ [x]) = some e → walk follow at_ cur (xs ++ [x]) = some (d ++ [x]) := by
  intro xs
  induction xs with
  | nil =>
      intro cur d h hd hdx
      obtain rfl := Option.some.inj h
      rw [List.nil_append, walk_proper hx, hdx]
      cases e with
      | file c => simp
      | dir => rfl
      | link t => exact absurd rfl (he t)
  | cons c xs ih =>
      intro cur d h hd hdx
      rw [walk_cons] at h
      rw [List.cons_append, walk_cons]
      by_cases h₁ : c = "" ∨ c = "."
      · rw [if_pos h₁] at h ⊢
        exact ih _ _ h hd hdx
      rw [if_neg h₁] at h ⊢
      by_cases h₂ : c = ".."
      · rw [if_pos h₂] at h ⊢
        exact ih _ _ h hd hdx
      rw [if_neg h₂] at h ⊢
      rcases hat : at_ (cur ++ [c]) with _ | (contents | _ | t) <;> rw [hat] at h <;>
        simp only at h ⊢
      · cases h
      · -- a file is no directory
        split_ifs at h
        obtain rfl := Option.some.inj h
        rw [hat] at hd
        cases hd
      · exact ih _ _ h hd hdx
      · rw [← List.append_assoc]
        exact hfollow _ _ _ h hd hdx

lemma resolveUpTo_snoc_of_not_link (hx : Proper x) {e : Entry} (he : ∀ t, e ≠ .link t) (n : ℕ) :
    ∀ cur xs d, resolveUpTo at_ n cur xs = some d → at_ d = some .dir →
      at_ (d ++ [x]) = some e → resolveUpTo at_ n cur (xs ++ [x]) = some (d ++ [x]) := by
  induction n with
  | zero =>
      exact fun cur xs d h => walk_snoc_of_not_link hx he (fun _ _ _ h => by cases h) xs cur d h
  | succ n ih => exact fun cur xs d h => walk_snoc_of_not_link hx he ih xs cur d h

/-- What resolves does so without looking below a path at which nothing stands. -/
lemma walk_of_absent {at' : Path → Option Entry} {follow' : Path → List Name → Option Path}
    {a : Path} (ha : at_ a = none) (hag : ∀ q, ¬ a <+: q → at' q = at_ q) (hnil : a ≠ [])
    (hfollow : ∀ cur xs d, ¬ a <+: cur → follow cur xs = some d →
      follow' cur xs = some d ∧ ¬ a <+: d) :
    ∀ xs cur d, ¬ a <+: cur → walk follow at_ cur xs = some d →
      walk follow' at' cur xs = some d ∧ ¬ a <+: d := by
  intro xs
  induction xs with
  | nil =>
      intro cur d hcur h
      obtain rfl := Option.some.inj h
      exact ⟨rfl, hcur⟩
  | cons c xs ih =>
      intro cur d hcur h
      rw [walk_cons] at h ⊢
      by_cases h₁ : c = "" ∨ c = "."
      · rw [if_pos h₁] at h ⊢
        exact ih _ _ hcur h
      rw [if_neg h₁] at h ⊢
      by_cases h₂ : c = ".."
      · rw [if_pos h₂] at h ⊢
        exact ih _ _ (fun hpre => hcur (hpre.trans (List.dropLast_prefix cur))) h
      rw [if_neg h₂] at h ⊢
      by_cases hpre : a <+: cur ++ [c]
      · -- the path looked up is the absent one
        rcases List.prefix_concat_iff.1 hpre with rfl | hpre
        · rw [ha] at h
          cases h
        · exact absurd hpre hcur
      · rw [hag _ hpre]
        rcases hat : at_ (cur ++ [c]) with _ | (contents | _ | t) <;> rw [hat] at h <;>
          simp only at h ⊢
        · cases h
        · split_ifs at h with hxs
          obtain rfl := Option.some.inj h
          exact ⟨by rw [if_pos hxs], hpre⟩
        · exact ih _ _ hpre h
        · refine hfollow _ _ _ ?_ h
          split_ifs
          · rwa [List.prefix_nil]
          · exact hcur

lemma resolveUpTo_of_absent {at' : Path → Option Entry} {a : Path} (ha : at_ a = none)
    (hag : ∀ q, ¬ a <+: q → at' q = at_ q) (hnil : a ≠ []) (n : ℕ) :
    ∀ cur xs d, ¬ a <+: cur → resolveUpTo at_ n cur xs = some d →
      resolveUpTo at' n cur xs = some d ∧ ¬ a <+: d := by
  induction n with
  | zero =>
      exact fun cur xs d => walk_of_absent ha hag hnil (fun _ _ _ _ h => by cases h) xs cur d
  | succ n ih => exact fun cur xs d => walk_of_absent ha hag hnil ih xs cur d

end LastComponent

/-- A path that leads somewhere leads there also after something has been put where nothing
stood. -/
lemma resolve_of_absent {a q : Path} (ha : look home w a = none)
    (hag : AgreeOff (a <+: ·) w w') (h : resolve home w p = some q) :
    resolve home w' p = some q ∧ ¬ a <+: q := by
  have hnil : a ≠ [] := by
    rintro rfl
    rw [look_of_prefix_home List.nil_prefix] at ha
    cases ha
  have hhome : ¬ a <+: home := by
    intro hpre
    rw [look_of_prefix_home hpre] at ha
    cases ha
  refine resolveUpTo_of_absent ha (fun q hq => ?_) hnil maxLinks home p q hhome h
  rw [look, look, hag q hq]

/-! ### Places -/

lemma look_apart (h : ¬ r <+: home) (w : Disk) : look home w r = w r := if_neg h

/-- The node of a symbolic link. -/
def linkNode (t : Target) : Path → Option Entry := fun q => if q = [] then some (.link t) else none

/-- A link that is put where a node has been removed. -/
lemma node_put_erase (r : Path) (t : Target) (w : Disk) :
    (put r (.link t) (erase r w)).node r = linkNode t := by
  funext q
  by_cases hq : q = []
  · subst hq
    simp [node, linkNode]
  · have hne : r ++ q ≠ r := by simpa using hq
    rw [node, put_of_ne hne, erase_below (List.prefix_append r q), linkNode, if_neg hq]

/-- A node is the same when only incomparable places are changed. -/
lemma node_eq_of_apart (h : AgreeOff (r' <+: ·) w w') (h₁ : ¬ r <+: r') (h₂ : ¬ r' <+: r) :
    w'.node r = w.node r := by
  refine h.node_eq fun q hpre => ?_
  rcases List.prefix_or_prefix_of_prefix hpre (List.prefix_append r q) with h' | h'
  · exact h₂ h'
  · exact h₁ h'

/-! ### Seats -/

/-- The path `p` names the entry at the physical path `r`. -/
def Seat (home : Path) (w : Disk) (p r : Path) : Prop :=
  ∃ dp d x, p = dp ++ [x] ∧ r = d ++ [x] ∧ Proper x ∧ resolve home w dp = some d ∧
    look home w d = some .dir

/-- The path leads nowhere, and no entry can be made there. -/
def Unseated (home : Path) (w : Disk) (p : Path) : Prop :=
  resolve home w p = none ∧ locate home w p = none

lemma seat_singleton (hx : Proper x) : Seat home w [x] (home ++ [x]) :=
  ⟨[], home, x, rfl, rfl, hx, resolve_nil w, look_home w⟩

lemma Seat.locate (h : Seat home w p r) : locate home w p = some r := by
  obtain ⟨dp, d, x, rfl, rfl, -, hd, hdir⟩ := h
  simp [Disk.locate, hd, hdir]

lemma Seat.resolve_none (h : Seat home w p r) (hr : look home w r = none) :
    resolve home w p = none := by
  obtain ⟨dp, d, x, rfl, rfl, hx, hd, -⟩ := h
  by_contra hne
  obtain ⟨q, hq⟩ := Option.ne_none_iff_exists'.1 hne
  obtain ⟨d', hd', hdx⟩ := resolveUpTo_snoc hx _ _ _ _ hq
  rw [resolve] at hd
  rw [hd, Option.some.injEq] at hd'
  exact hdx (hd' ▸ hr)

/-- A path that leads somewhere names an entry that is there. -/
lemma Seat.look_of_stat (h : Seat home w p r) (hs : stat home w p ≠ none) :
    look home w r ≠ none := by
  intro hr
  rw [stat, h.resolve_none hr] at hs
  exact hs rfl

/-- `[ -e p ] || [ -L p ]` asks whether the entry is there. -/
lemma Seat.exists_iff (h : Seat home w p r) :
    (stat home w p ≠ none ∨ ∃ t, lstat home w p = some (.link t)) ↔ look home w r ≠ none := by
  have hl : lstat home w p = look home w r := by rw [lstat, h.locate, Option.bind_some]
  constructor
  · rintro (hs | ⟨t, ht⟩)
    · exact h.look_of_stat hs
    · rw [← hl, ht]
      simp
  · intro hne
    obtain ⟨e, he⟩ := Option.ne_none_iff_exists'.1 hne
    by_cases hlink : ∃ t, e = .link t
    · obtain ⟨t, rfl⟩ := hlink
      exact .inr ⟨t, hl.trans he⟩
    · left
      obtain ⟨dp, d, x, rfl, rfl, hx, hd, hdir⟩ := h
      have hres := resolveUpTo_snoc_of_not_link hx (fun t ht => hlink ⟨t, ht⟩) _ _ _ _ hd hdir he
      rw [stat, resolve, hres, Option.bind_some, he]
      simp

lemma Seat.destination_of_free (h : Seat home w p r) (hr : look home w r = none) (b : Name) :
    destination home w b p = some r := by
  rw [destination, h.resolve_none hr, h.locate]

lemma Seat.lnS_of_free (h : Seat home w p r) (hr : look home w r = none) (t : Target) :
    lnS home t p w = some (put r (.link t) w) := by
  rw [lnS, h.destination_of_free hr, Option.bind_some, if_pos hr]

lemma Seat.rmRf_eq (h : Seat home w p r) : rmRf home p w = erase r w := by
  rw [rmRf, h.locate]

/-- A backup to a free place is a faithful copy, whatever is backed up. -/
lemma Seat.cpR_of_free (h : Seat home w p r) (h' : Seat home w p' r') (hr : look home w r ≠ none)
    (hr' : look home w r' = none) (hpre : ¬ r <+: r') :
    cpR home p p' w = some (plant r' (w.node r) w) := by
  have hne : r ≠ r' := fun he => hpre (he ▸ List.prefix_refl r)
  rw [cpR, h.locate, Option.bind_some, h'.destination_of_free hr', Option.bind_some, copyTo,
    if_neg hne, hr']
  cases he : look home w r with
  | none => exact absurd he hr
  | some e => cases e <;> simp [hpre]

lemma Unseated.lnS_eq_none (h : Unseated home w p) (t : Target) : lnS home t p w = none := by
  rw [lnS, destination, h.1, h.2, Option.bind_none]

/-! ### Links into the home directory -/

/-- A walk from the root through the components of `home` comes to `home`. -/
lemma walk_through_home (hhome : ∀ c ∈ home, Proper c)
    (follow : Path → List Name → Option Path) (rest : List Name) {pre post : Path}
    (h : home = pre ++ post) :
    walk follow (look home w) pre (post ++ rest) = walk follow (look home w) home rest := by
  induction post generalizing pre with
  | nil => rw [h, List.append_nil, List.nil_append]
  | cons c post ih =>
      have hc : Proper c := hhome c (by rw [h]; simp)
      have hpre : pre ++ [c] <+: home := ⟨post, by rw [h]; simp⟩
      rw [List.cons_append, walk_proper hc, look_of_prefix_home hpre]
      exact ih (by rw [h]; simp)

/-- A link whose text goes through the home directory leads where its last components lead. -/
lemma resolve_singleton_of_home_link (hhome : ∀ c ∈ home, Proper c) (hx : Proper x)
    {rest : List Name} (h : w (home ++ [x]) = some (.link ⟨true, home ++ rest⟩)) :
    resolve home w [x] = resolveUpTo (look home w) 39 home rest := by
  have hw : look home w (home ++ [x]) = some (.link ⟨true, home ++ rest⟩) := by rw [look_in_home, h]
  rw [resolve, maxLinks, resolveUpTo, walk_proper hx, hw]
  simp only [if_true, List.append_nil]
  exact walk_through_home hhome _ rest rfl

end InitialSetups.Files.Disk
