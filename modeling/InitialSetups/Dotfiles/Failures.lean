import InitialSetups.Dotfiles.Slots

/-!
# What failing commands destroy

A run of `install_mydotfiles.sh` in which any of `git clone`, `cp -r`, `mkdir` and `ln -s` may
fail.  A path that led somewhere before the run should still hold its node afterwards, or be a
link that leads somewhere; in mode `backup` a node that is gone should be under its stamped
name.

The removal is guarded neither by the copy nor by the existence of the link's target, and the
link is made only afterwards.  For homes without tricks (`Tame`) this module says exactly which
failures do harm.
-/

namespace InitialSetups.Dotfiles

open InitialSetups.Shell InitialSetups.Files InitialSetups.Files.Disk InitialSetups.Scripts

/-! ### Homes without tricks -/

section Tame

variable (home : Path) (fate : Fate) (mode : String) (ks : List Slot) (b : Disk)

/-- The disk differs from `b` only in what the loops may change: the handled paths, their
stamped names, and a directory `~/bin` where nothing stood. -/
def MayBecome (w : Disk) : Prop :=
  ∀ q, w q = b q ∨ (∃ k ∈ ks, k.Region q) ∨
    (q = home ++ ["bin"] ∧ b q = none ∧ w q = some .dir)

/-- Whatever the loops change, the slot keeps its places. -/
def Slot.Steady (k : Slot) : Prop := ∀ w, MayBecome home ks b w → k.Seated home w

/-- Once it is made, the link of the slot leads somewhere, whatever else the loops change. -/
def Slot.Leads (k : Slot) : Prop :=
  ∀ w, MayBecome home ks b w → w k.place = some (.link k.target) → stat home w k.path ≠ none

/-- The handled paths do not interfere with each other, and no stamped name is taken. -/
structure Tame : Prop where
  clear : ∀ k ∈ ks, k.Clear home
  bin : ∀ k ∈ ks, ¬ k.Region (home ++ ["bin"])
  apart : ks.Pairwise fun k l => ∀ q, ¬ (k.Region q ∧ l.Region q)
  /-- a path keeps its place, or nothing stands there and the path may lead nowhere -/
  seats : ∀ k ∈ ks, k.Steady home ks b ∨ b k.place = none ∧
    ∀ w, MayBecome home ks b w → k.Seated home w ∨ Unseated home w k.path
  order : ks.Pairwise fun k l => l.Steady home ks b → k.Steady home ks b
  free : mode = "backup" → ∀ k ∈ ks, b k.place ≠ none → b k.backupPlace = none
  /-- what a failing `cp -r` leaves behind is not complete -/
  debris : ∀ k ∈ ks, ∀ t, fate.debris k.cp = some t → t ≠ b.node k.place
  /-- whether a link leads somewhere does not depend on what the loops change -/
  decided : ∀ k ∈ ks, k.Leads home ks b ∨
    ∀ w, MayBecome home ks b w → w k.place = some (.link k.target) → stat home w k.path = none

/-- The pass for the slot does no harm: its `ln -s` does not fail, and unless the link is there
already its target exists and, in mode `backup`, the `cp -r` does not fail. -/
def Slot.Sound (k : Slot) : Prop :=
  fate.fails k.ln = false ∧ (b.node k.place = linkNode k.target ∨
    ((mode = "backup" → fate.fails k.cp = false) ∧ k.Leads home ks b))

/-- What a path holds. -/
def held (w : Disk) (p : Path) : Option (Path → Option Entry) := (locate home w p).map w.node

/-- The path of the slot has not lost its node `W` being the disk after the run. -/
def Slot.Kept (k : Slot) (w W : Disk) : Prop :=
  stat home w k.path ≠ none →
    (held home W k.path = held home w k.path ∨
      (∃ t, lstat home W k.path = some (.link t)) ∧ stat home W k.path ≠ none) ∧
    (mode = "backup" → held home W k.path ≠ held home w k.path →
      held home W k.backup = held home w k.path)

end Tame

variable {home : Path} {fate : Fate} {mode : String} {ks : List Slot} {b w w' : Disk} {k j : Slot}
  {s : World}

lemma MayBecome.refl : MayBecome home ks b b := fun _ => .inl rfl

/-- A pass changes only what it may. -/
lemma MayBecome.of_region (h : MayBecome home ks b w) (hk : k ∈ ks)
    (ha : AgreeOff k.Region w w') : MayBecome home ks b w' := by
  intro q
  by_cases hq : k.Region q
  · exact .inr (.inl ⟨k, hk, hq⟩)
  · rw [ha q hq]
    exact h q

/-- The slot is as it was before the loops. -/
def Slot.Untouched (b : Disk) (k : Slot) (w : Disk) : Prop := ∀ q, k.Region q → w q = b q

/-- A command that may create the directory `~/bin` and changes nothing else. -/
def Idle (home : Path) (c : Sh World) : Prop :=
  ∀ s, ∃ n s', c s = (.status n, s') ∧ ∀ q, s'.disk q = s.disk q ∨
    (q = home ++ ["bin"] ∧ s.disk q = none ∧ s'.disk q = some .dir)

/-- The commands are the passes for the slots, with idle commands in between. -/
inductive Steps (home : Path) (fate : Fate) (mode : String) :
    List Slot → List (Sh World) → Prop where
  | nil : Steps home fate mode [] []
  | pass {k ks c cs} : IsPass home fate mode k c → Steps home fate mode ks cs →
      Steps home fate mode (k :: ks) (c :: cs)
  | idle {ks c cs} : Idle home c → Steps home fate mode ks cs → Steps home fate mode ks (c :: cs)

/-- The loops can go on: nothing has changed but what may, and the slots `rest` have not. -/
structure Ready (home : Path) (ks rest : List Slot) (b : Disk) (s : World) : Prop where
  mayBecome : MayBecome home ks b s.disk
  untouched : ∀ k ∈ rest, k.Untouched b s.disk

section Run

variable (ht : Tame home fate mode ks b)

include ht

/-- `~/bin` can have been created only where nothing stood before the loops. -/
lemma Ready.idle {rest : List Slot} {s' : World} (h : Ready home ks rest b s)
    (hrest : ∀ k ∈ rest, k ∈ ks)
    (hs' : ∀ q, s'.disk q = s.disk q ∨
      (q = home ++ ["bin"] ∧ s.disk q = none ∧ s'.disk q = some .dir)) :
    Ready home ks rest b s' := by
  constructor
  · intro q
    rcases hs' q with hq | ⟨rfl, hnone, hdir⟩
    · rw [hq]
      exact h.mayBecome q
    · rcases h.mayBecome (home ++ ["bin"]) with hb | ⟨k, hk, hreg⟩ | ⟨-, -, hb⟩
      · exact .inr (.inr ⟨rfl, hb ▸ hnone, hdir⟩)
      · exact absurd hreg (ht.bin k hk)
      · rw [hnone] at hb
        cases hb
  · intro k hk q hq
    rcases hs' q with hsame | ⟨rfl, -, -⟩
    · rw [hsame, h.untouched k hk q hq]
    · exact absurd hq (ht.bin k (hrest k hk))

omit ht in
lemma Slot.Untouched.node_eq (h : k.Untouched b w) : w.node k.place = b.node k.place := by
  funext r
  exact h _ (.inl (List.prefix_append k.place r))

/-- The pass for a slot at whose place something stands. -/
lemma Ready.passed_of_stands {rest : List Slot} (h : Ready home ks (k :: rest) b s) (hk : k ∈ ks)
    (hsteady : k.Steady home ks b) (hstands : b k.place ≠ none) :
    k.Passed home fate mode s := by
  have hun := h.untouched k List.mem_cons_self
  have hsame : s.disk k.place = b k.place := hun _ (.inl (List.prefix_refl _))
  refine Slot.passed_of_stands (fun w' ha => hsteady w' (h.mayBecome.of_region hk ha))
    (ht.clear k hk) (hsame ▸ hstands) (fun hmode => ?_) fun t htree => ?_
  · rw [hun _ (.inr (List.prefix_refl _)), ht.free hmode k hk hstands]
  · rw [hun.node_eq]
    exact ht.debris k hk t htree

/-- A pass changes nothing outside its slot, so that the loops can go on. -/
lemma Ready.pass {rest : List Slot} (h : Ready home ks (k :: rest) b s) (hk : k ∈ ks)
    (hapart : ∀ l ∈ rest, ∀ q, ¬ (k.Region q ∧ l.Region q)) :
    AgreeOff k.Region s.disk (k.passed home fate mode s).disk ∧
      Ready home ks rest b (k.passed home fate mode s) := by
  have hsame : s.disk k.place = b k.place :=
    h.untouched k List.mem_cons_self _ (.inl (List.prefix_refl _))
  have hframe : AgreeOff k.Region s.disk (k.passed home fate mode s).disk := by
    rcases ht.seats k hk with hsteady | ⟨hnone, hseats⟩
    · by_cases hstands : b k.place = none
      · exact (Slot.passed_of_free (hsteady _ h.mayBecome) (ht.clear k hk)
          (hsame.trans hstands)).1
      · exact (h.passed_of_stands ht hk hsteady hstands).frame
    · rcases hseats _ h.mayBecome with hseat | hun
      · exact (Slot.passed_of_free hseat (ht.clear k hk) (hsame.trans hnone)).1
      · rw [(Slot.passed_of_unseated hun).2]
        exact AgreeOff.refl _ _
  refine ⟨hframe, h.mayBecome.of_region hk hframe, fun l hl q hq => ?_⟩
  rw [hframe q fun hkq => hapart l hl q ⟨hkq, hq⟩]
  exact h.untouched l (List.mem_cons_of_mem k hl) q hq

/-- The `ln -s` of a slot that keeps its places fails only for a reason of its own. -/
lemma Ready.lnStatus_iff {rest : List Slot} (h : Ready home ks (k :: rest) b s) (hk : k ∈ ks)
    (hsteady : k.Steady home ks b) :
    k.lnStatus home fate mode s = 0 ↔ fate.fails k.ln = false := by
  have hsame : s.disk k.place = b k.place :=
    h.untouched k List.mem_cons_self _ (.inl (List.prefix_refl _))
  obtain ⟨hfail, hok⟩ : (fate.fails k.ln = true → k.lnStatus home fate mode s ≠ 0) ∧
      (fate.fails k.ln = false → k.lnStatus home fate mode s = 0) := by
    by_cases hstands : b k.place = none
    · exact (Slot.passed_of_free (hsteady _ h.mayBecome) (ht.clear k hk)
        (hsame.trans hstands)).2
    · have hp := h.passed_of_stands ht hk hsteady hstands
      exact ⟨fun hf => (hp.failed hf).1, fun hf => (hp.linked hf).1⟩
  refine ⟨fun h0 => ?_, hok⟩
  by_contra hf
  exact hfail (by simpa using hf) h0

/-! ### The run of the loops -/

/-- Where the run goes when it has come to a list of commands. -/
lemma steps_frame {rest : List Slot} {cs : List (Sh World)} (hsteps : Steps home fate mode rest cs)
    (hrest : ∀ k ∈ rest, k ∈ ks)
    (hapart : rest.Pairwise fun k l => ∀ q, ¬ (k.Region q ∧ l.Region q))
    (h : Ready home ks rest b s) (n : ℕ) :
    MayBecome home ks b (Sh.blockFrom n cs s).2.disk ∧
      ∀ q, (∀ k ∈ rest, ¬ k.Region q) → q ≠ home ++ ["bin"] →
        (Sh.blockFrom n cs s).2.disk q = s.disk q := by
  induction hsteps generalizing s n with
  | nil => exact ⟨h.mayBecome, fun _ _ _ => rfl⟩
  | @pass k rest c cs hpass hsteps ih =>
      obtain ⟨hk, hapart⟩ := List.pairwise_cons.1 hapart
      obtain ⟨hframe, hready⟩ := h.pass ht (hrest k List.mem_cons_self) hk
      obtain ⟨hworld, hok, hfail⟩ := hpass s
      have hrest' : ∀ l ∈ rest, l ∈ ks := fun l hl => hrest l (List.mem_cons_of_mem k hl)
      by_cases hst : k.lnStatus home fate mode s = 0
      · obtain ⟨m, hm⟩ := hok hst
        have hc : c s = (.status m, k.passed home fate mode s) := Prod.ext hm hworld
        rw [Sh.blockFrom_cons_of_status hc]
        obtain ⟨hmay, hsame⟩ := ih hrest' hapart hready m
        refine ⟨hmay, fun q hq hbin => ?_⟩
        rw [hsame q (fun l hl => hq l (List.mem_cons_of_mem k hl)) hbin]
        exact hframe q (hq k List.mem_cons_self)
      · have hc : c s = (.exit 1, k.passed home fate mode s) := Prod.ext (hfail hst) hworld
        rw [Sh.blockFrom_cons, Sh.bind_of_exit hc]
        exact ⟨hready.mayBecome, fun q hq _ => hframe q (hq k List.mem_cons_self)⟩
  | idle hidle hsteps ih =>
      obtain ⟨m, s', hc, hs'⟩ := hidle s
      rw [Sh.blockFrom_cons_of_status hc]
      obtain ⟨hmay, hsame⟩ := ih hrest hapart (h.idle ht hrest hs') m
      refine ⟨hmay, fun q hq hbin => ?_⟩
      rw [hsame q hq hbin]
      rcases hs' q with hq' | ⟨rfl, -, -⟩
      · exact hq'
      · exact absurd rfl hbin

/-- What has become of a slot whose pass has been made. -/
structure Slot.Made (fate : Fate) (mode : String) (j : Slot) (b W : Disk) : Prop where
  failed : fate.fails j.ln = true → W j.place = none
  linked : fate.fails j.ln = false → W.node j.place = linkNode j.target
  copied : mode = "backup" → fate.fails j.cp = false → W.node j.backupPlace = b.node j.place
  notCopied : mode = "backup" → fate.fails j.cp = true → W.node j.backupPlace ≠ b.node j.place

/-- Directly after its pass, and also when the other passes have been made, a slot is as its
pass has made it. -/
lemma Ready.made {rest : List Slot} {W : Disk} (h : Ready home ks (j :: rest) b s) (hj : j ∈ ks)
    (hsteady : j.Steady home ks b) (hstands : b j.place ≠ none)
    (hW : ∀ q, j.Region q → W q = (j.passed home fate mode s).disk q) :
    j.Made fate mode b W := by
  have hp := h.passed_of_stands ht hj hsteady hstands
  have hb : s.disk.node j.place = b.node j.place :=
    (h.untouched j List.mem_cons_self).node_eq
  have hplace : W.node j.place = (j.passed home fate mode s).disk.node j.place := by
    funext r
    exact hW _ (.inl (List.prefix_append _ r))
  have hbackup : W.node j.backupPlace = (j.passed home fate mode s).disk.node j.backupPlace := by
    funext r
    exact hW _ (.inr (List.prefix_append _ r))
  refine ⟨fun hf => ?_, fun hf => hplace.trans (hp.linked hf).2, fun hmode hf => ?_,
    fun hmode hf => ?_⟩
  · rw [hW _ (.inl (List.prefix_refl _)), (hp.failed hf).2]
  · rw [hbackup, hp.copied hmode hf, hb]
  · rw [hbackup, ← hb]
    exact hp.notCopied hmode hf

/-- What the loops make of a slot that holds something: it stays as it is if an earlier `ln -s`
fails, and is as its pass makes it otherwise. -/
lemma slot_outcome {rest pre post : List Slot} {cs : List (Sh World)}
    (hsteps : Steps home fate mode rest cs) (hrest : ∀ k ∈ rest, k ∈ ks)
    (hapart : rest.Pairwise fun k l => ∀ q, ¬ (k.Region q ∧ l.Region q))
    (horder : rest.Pairwise fun k l => l.Steady home ks b → k.Steady home ks b)
    (h : Ready home ks rest b s) (hsplit : rest = pre ++ j :: post)
    (hsteady : j.Steady home ks b) (hstands : b j.place ≠ none) (n : ℕ) :
    ((∃ k ∈ pre, fate.fails k.ln = true) → j.Untouched b (Sh.blockFrom n cs s).2.disk) ∧
      ((∀ k ∈ pre, fate.fails k.ln = false) →
        j.Made fate mode b (Sh.blockFrom n cs s).2.disk) := by
  induction hsteps generalizing s n pre with
  | nil => simp at hsplit
  | @pass k rest c cs hpass hsteps ih =>
      obtain ⟨hk, hapart⟩ := List.pairwise_cons.1 hapart
      obtain ⟨hkord, horder⟩ := List.pairwise_cons.1 horder
      have hkmem := hrest k List.mem_cons_self
      have hrest' : ∀ l ∈ rest, l ∈ ks := fun l hl => hrest l (List.mem_cons_of_mem k hl)
      obtain ⟨-, hready⟩ := h.pass ht hkmem hk
      obtain ⟨hworld, hok, hfail⟩ := hpass s
      rcases pre with _ | ⟨k', pre⟩
      · -- the pass is that of the slot
        obtain ⟨rfl, rfl⟩ := List.cons.inj hsplit
        refine ⟨by simp, fun _ => h.made ht hkmem hsteady hstands fun q hq => ?_⟩
        by_cases hst : k.lnStatus home fate mode s = 0
        · obtain ⟨m, hm⟩ := hok hst
          rw [Sh.blockFrom_cons_of_status (Prod.ext hm hworld)]
          refine (steps_frame ht hsteps hrest' hapart hready m).2 q (fun l hl hlq => ?_) ?_
          · exact hk l hl q ⟨hq, hlq⟩
          · rintro rfl
            exact ht.bin k hkmem hq
        · rw [Sh.blockFrom_cons, Sh.bind_of_exit (Prod.ext (hfail hst) hworld)]
          rfl
      · -- the pass is an earlier one
        rw [List.cons_append, List.cons.injEq] at hsplit
        obtain ⟨rfl, hrest''⟩ := hsplit
        have hjmem : j ∈ rest := by rw [hrest'']; simp
        have hiff := h.lnStatus_iff ht hkmem (hkord j hjmem hsteady)
        by_cases hf : fate.fails k.ln = false
        · obtain ⟨m, hm⟩ := hok (hiff.2 hf)
          rw [Sh.blockFrom_cons_of_status (Prod.ext hm hworld)]
          obtain ⟨hun, hmade⟩ := ih hrest' hapart horder hready hrest'' m
          refine ⟨fun ⟨l, hl, hlf⟩ => hun ?_, fun hall => hmade ?_⟩
          · rcases List.mem_cons.1 hl with rfl | hl
            · rw [hf] at hlf
              cases hlf
            · exact ⟨l, hl, hlf⟩
          · exact fun l hl => hall l (List.mem_cons_of_mem k hl)
        · rw [Sh.blockFrom_cons, Sh.bind_of_exit (Prod.ext (hfail fun h0 => hf (hiff.1 h0)) hworld)]
          exact ⟨fun _ => hready.untouched j hjmem,
            fun hall => absurd (hall k List.mem_cons_self) hf⟩
  | idle hidle hsteps ih =>
      obtain ⟨m, s', hc, hs'⟩ := hidle s
      rw [Sh.blockFrom_cons_of_status hc]
      exact ih hrest hapart horder (h.idle ht hrest hs') hsplit m

end Run

/-! ### What is kept -/

variable {W : Disk}

lemma held_of_seat {p r : Path} (h : Seat home w p r) : held home w p = some (w.node r) := by
  rw [held, h.locate, Option.map_some]

/-- The home before the loops holds at the slot what the home before the run did. -/
structure SameAt (home : Path) (j : Slot) (w b : Disk) : Prop where
  seat : Seat home w j.path j.place
  node : w.node j.place = b.node j.place

/-- A slot that was left alone is kept. -/
lemma kept_of_untouched (hsteady : j.Steady home ks b) (hsame : SameAt home j w b)
    (hW : MayBecome home ks b W) (hun : j.Untouched b W) : j.Kept home mode w W := by
  have hheld : held home W j.path = held home w j.path := by
    rw [held_of_seat (hsteady W hW).1, held_of_seat hsame.seat, hun.node_eq, hsame.node]
  exact fun _ => ⟨.inl hheld, fun _ hne => absurd hheld hne⟩

/-- A slot whose pass has been made is kept exactly when the pass was sound. -/
lemma kept_iff_of_made (ht : Tame home fate mode ks b) (hj : j ∈ ks)
    (hsteady : j.Steady home ks b) (hsame : SameAt home j w b) (hW : MayBecome home ks b W)
    (hmade : j.Made fate mode b W) (husable : stat home w j.path ≠ none) :
    j.Kept home mode w W ↔ j.Sound home fate mode ks b := by
  obtain ⟨hseat, hseat'⟩ := hsteady W hW
  have hclear := ht.clear j hj
  have hstands : b.node j.place [] ≠ none := by
    rw [← hsame.node, Disk.node, List.append_nil, ← look_apart hclear.place_home w]
    exact hsame.seat.look_of_stat husable
  have hheld : held home W j.path = some (W.node j.place) := held_of_seat hseat
  have hheldw : held home w j.path = some (b.node j.place) := by
    rw [held_of_seat hsame.seat, hsame.node]
  have hheld' : held home W j.backup = some (W.node j.backupPlace) := held_of_seat hseat'
  have hlstat : lstat home W j.path = W j.place := by
    rw [lstat, hseat.locate, Option.bind_some, look_apart hclear.place_home]
  rw [Slot.Kept, Slot.Sound, hheld, hheld', hheldw, hlstat]
  simp only [ne_eq, Option.some_inj]
  constructor
  · intro hkept
    obtain ⟨hplace, hbackup⟩ := hkept husable
    -- a failing `ln -s` leaves nothing behind
    have hln : fate.fails j.ln = false := by
      by_contra hf
      have hnone := hmade.failed (by simpa using hf)
      rcases hplace with hsame' | ⟨⟨t, ht'⟩, -⟩
      · exact hstands (by rw [← hsame', Disk.node, List.append_nil, hnone])
      · rw [hnone] at ht'
        cases ht'
    have hlinked := hmade.linked hln
    refine ⟨hln, ?_⟩
    by_cases halready : b.node j.place = linkNode j.target
    · exact .inl halready
    · have hne : W.node j.place ≠ b.node j.place := fun he => halready (he.symm.trans hlinked)
      have hlink : W j.place = some (.link j.target) := by
        have hnil := congrFun hlinked []
        rwa [Disk.node, List.append_nil] at hnil
      refine .inr ⟨fun hmode => ?_, ?_⟩
      · by_contra hf
        exact hmade.notCopied hmode (by simpa using hf) (hbackup hmode hne)
      · rcases hplace with hsame' | ⟨-, hstat⟩
        · exact absurd hsame' hne
        · exact (ht.decided j hj).resolve_right fun hno => hstat (hno W hW hlink)
  · rintro ⟨hln, hsound⟩ -
    have hlinked := hmade.linked hln
    have hlink : W j.place = some (.link j.target) := by
      have hnil := congrFun hlinked []
      rwa [Disk.node, List.append_nil] at hnil
    rcases hsound with halready | ⟨hcp, hleads⟩
    · have hsame' : W.node j.place = b.node j.place := hlinked.trans halready.symm
      exact ⟨.inl hsame', fun _ hne => absurd hsame' hne⟩
    · exact ⟨.inr ⟨⟨_, hlink⟩, hleads W hW hlink⟩, fun hmode _ => hmade.copied hmode (hcp hmode)⟩

end InitialSetups.Dotfiles
