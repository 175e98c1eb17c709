import InitialSetups.Shell.Command

/-!
# Rules of pre- and postconditions for command lists

`Triple P c Q R` says that `c`, started in a world satisfying `P`, either ends normally with
a status `n` in a world satisfying `Q n`, or leaves the shell with `exit n` in a world
satisfying `R n`.  A command always ends, so this is total correctness.  `Preserves I c` is
the special case of an invariant that holds whichever way `c` ends.
-/

namespace InitialSetups.Shell

variable {σ α : Type}

/-- What has to hold of an outcome: `Q` of a normal end, `R` of an `exit`. -/
def Outcome (Q R : ℕ → σ → Prop) : Flow × σ → Prop
  | (.status n, s) => Q n s
  | (.exit n, s) => R n s

@[simp] lemma outcome_status {Q R : ℕ → σ → Prop} {n : ℕ} {s : σ} :
    Outcome Q R (.status n, s) ↔ Q n s := Iff.rfl

@[simp] lemma outcome_exit {Q R : ℕ → σ → Prop} {n : ℕ} {s : σ} :
    Outcome Q R (.exit n, s) ↔ R n s := Iff.rfl

/-- From `P`, the command ends normally in `Q` or by `exit` in `R`. -/
def Triple (P : σ → Prop) (c : Sh σ) (Q R : ℕ → σ → Prop) : Prop :=
  ∀ s, P s → Outcome Q R (c s)

/-- The command keeps `I`, whichever way it ends. -/
def Preserves (I : σ → Prop) (c : Sh σ) : Prop := ∀ s, I s → I (c s).2

namespace Triple

variable {P : σ → Prop} {Q Q' R R' : ℕ → σ → Prop} {c d : Sh σ}

lemma conseq {P' : σ → Prop} (h : Triple P c Q R) (hP : ∀ s, P' s → P s)
    (hQ : ∀ n s, Q n s → Q' n s) (hR : ∀ n s, R n s → R' n s) : Triple P' c Q' R' := by
  intro s hs
  have h₁ := h s (hP s hs)
  rcases hc : c s with ⟨n | n, s'⟩
  · rw [hc] at h₁
    exact hQ n s' h₁
  · rw [hc] at h₁
    exact hR n s' h₁

lemma bind {k : ℕ → Sh σ} (hc : Triple P c Q R) (hk : ∀ n, Triple (Q n) (k n) Q' R) :
    Triple P (c.bind k) Q' R := by
  intro s hs
  have h₁ := hc s hs
  rcases h : c s with ⟨n | n, s'⟩
  · rw [h] at h₁
    rw [Sh.bind_of_status h]
    exact hk n s' h₁
  · rw [h] at h₁
    rw [Sh.bind_of_exit h]
    exact h₁

lemma ret {n : ℕ} (h : ∀ s, P s → Q n s) : Triple P (Sh.ret n) Q R := h

lemma exit {n : ℕ} (h : ∀ s, P s → R n s) : Triple P (Sh.exit n) Q R := h

lemma simple {f : σ → ℕ × σ} (h : ∀ s, P s → Q (f s).1 (f s).2) :
    Triple P (Sh.simple f) Q R := h

lemma seq (hc : Triple P c Q R) (hd : Triple (fun s => ∃ n, Q n s) d Q' R) :
    Triple P (c.seq d) Q' R :=
  hc.bind fun n s hs => hd s ⟨n, hs⟩

/-- The list goes on only after a success; otherwise the failing status is the result. -/
lemma and (hc : Triple P c Q R) (hd : Triple (Q 0) d Q' R)
    (hfail : ∀ n s, n ≠ 0 → Q n s → Q' n s) : Triple P (c.and d) Q' R := by
  refine hc.bind fun n => ?_
  by_cases hn : n = 0
  · subst hn
    simpa using hd
  · rw [if_neg hn]
    exact ret fun s hs => hfail n s hn hs

/-- The list goes on only after a failure. -/
lemma or (hc : Triple P c Q R) (hd : ∀ n, n ≠ 0 → Triple (Q n) d Q' R)
    (hok : ∀ s, Q 0 s → Q' 0 s) : Triple P (c.or d) Q' R := by
  refine hc.bind fun n => ?_
  by_cases hn : n = 0
  · subst hn
    simpa using ret hok
  · rw [if_neg hn]
    exact hd n hn

lemma ifThen {a b : Sh σ} (hc : Triple P c Q R) (ha : Triple (Q 0) a Q' R)
    (hb : ∀ n, n ≠ 0 → Triple (Q n) b Q' R) : Triple P (Sh.ifThen c a b) Q' R := by
  refine hc.bind fun n => ?_
  by_cases hn : n = 0
  · subst hn
    simpa using ha
  · rw [if_neg hn]
    exact hb n hn

/-- A subshell ends normally, whichever way its body ends. -/
lemma subshell (hc : Triple P c Q Q) : Triple P c.subshell Q R := by
  intro s hs
  have h₁ := hc s hs
  rcases h : c s with ⟨n | n, s'⟩ <;> rw [h] at h₁ <;> simpa [h] using h₁

/-- Running commands one after the other, each of which keeps the invariant `I`. -/
lemma blockFrom {I : σ → Prop} {cs : List (Sh σ)}
    (h : ∀ c ∈ cs, Triple I c (fun _ => I) R) (n : ℕ) :
    Triple I (Sh.blockFrom n cs) (fun _ => I) R := by
  induction cs generalizing n with
  | nil => exact ret fun s hs => hs
  | cons c cs ih =>
      exact (h c List.mem_cons_self).bind fun m =>
        ih (fun d hd => h d (List.mem_cons_of_mem c hd)) m

lemma block {I : σ → Prop} {cs : List (Sh σ)} (h : ∀ c ∈ cs, Triple I c (fun _ => I) R) :
    Triple I (Sh.block cs) (fun _ => I) R := blockFrom h 0

/-- The loop rule: an invariant that every pass keeps. -/
lemma forEach {I : σ → Prop} {xs : List α} {body : α → Sh σ}
    (h : ∀ x ∈ xs, Triple I (body x) (fun _ => I) R) :
    Triple I (Sh.forEach xs body) (fun _ => I) R := by
  refine block fun c hc => ?_
  obtain ⟨x, hx, rfl⟩ := List.mem_map.1 hc
  exact h x hx

end Triple

namespace Preserves

variable {I : σ → Prop} {c d : Sh σ}

lemma ret (n : ℕ) : Preserves I (Sh.ret n) := fun _ h => h

lemma exit (n : ℕ) : Preserves I (Sh.exit n) := fun _ h => h

lemma test (p : σ → Bool) : Preserves I (Sh.test p) := fun _ h => h

/-- The invariant may be established by the first command. -/
lemma bind_from {k : ℕ → Sh σ} {s : σ} (hc : I (c s).2) (hk : ∀ n, Preserves I (k n)) :
    I (c.bind k s).2 := by
  rcases h : c s with ⟨n | n, s'⟩ <;> rw [h] at hc
  · rw [Sh.bind_of_status h]
    exact hk n s' hc
  · rw [Sh.bind_of_exit h]
    exact hc

lemma bind {k : ℕ → Sh σ} (hc : Preserves I c) (hk : ∀ n, Preserves I (k n)) :
    Preserves I (c.bind k) :=
  fun s hs => bind_from (hc s hs) hk

lemma seq (hc : Preserves I c) (hd : Preserves I d) : Preserves I (c.seq d) :=
  hc.bind fun _ => hd

lemma and (hc : Preserves I c) (hd : Preserves I d) : Preserves I (c.and d) := by
  refine hc.bind fun n => ?_
  by_cases hn : n = 0
  · rwa [if_pos hn]
  · rw [if_neg hn]
    exact ret n

lemma or (hc : Preserves I c) (hd : Preserves I d) : Preserves I (c.or d) := by
  refine hc.bind fun n => ?_
  by_cases hn : n = 0
  · rw [if_pos hn]
    exact ret 0
  · rwa [if_neg hn]

lemma ifThen {a b : Sh σ} (hc : Preserves I c) (ha : Preserves I a) (hb : Preserves I b) :
    Preserves I (Sh.ifThen c a b) := by
  refine hc.bind fun n => ?_
  by_cases hn : n = 0
  · rwa [if_pos hn]
  · rwa [if_neg hn]

lemma subshell (hc : Preserves I c) : Preserves I c.subshell := hc

lemma blockFrom {cs : List (Sh σ)} (h : ∀ c ∈ cs, Preserves I c) (n : ℕ) :
    Preserves I (Sh.blockFrom n cs) := by
  induction cs generalizing n with
  | nil => exact fun _ h => h
  | cons c cs ih =>
      exact (h c List.mem_cons_self).bind fun m =>
        ih (fun d hd => h d (List.mem_cons_of_mem c hd)) m

lemma block {cs : List (Sh σ)} (h : ∀ c ∈ cs, Preserves I c) : Preserves I (Sh.block cs) :=
  blockFrom h 0

lemma forEach {xs : List α} {body : α → Sh σ} (h : ∀ x ∈ xs, Preserves I (body x)) :
    Preserves I (Sh.forEach xs body) := by
  refine block fun c hc => ?_
  obtain ⟨x, hx, rfl⟩ := List.mem_map.1 hc
  exact h x hx

end Preserves

end InitialSetups.Shell
