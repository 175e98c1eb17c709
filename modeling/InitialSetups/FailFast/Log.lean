import InitialSetups.Shell.Triple
import InitialSetups.Scripts.MyUbuntu

/-!
# Runs as logs of the commands executed

The machine whose world is a log.  The status of every command and the answer of every file
test are given beforehand; a run records the commands it executes, the scripts whose last line
it reaches and the scripts that come back to their caller.

`FailsFast c os` is what the failure handlers are for: `os` are the handled commands of `c` in
the order of the script, and `c` ends at the first of them that fails.  The one exception is
the `cd` inside `SCRIPT_DIR=$(…)`, whose `exit 1` leaves only the command substitution.
-/

namespace InitialSetups.FailFast

open InitialSetups.Shell InitialSetups.Files InitialSetups.Scripts

/-- What a log records. -/
inductive Event where
  | ran (o : Occ) (status : ℕ)
  | finished (script : Script)
  | returned (script : Script) (handled : Bool) (status : ℕ)
  deriving DecidableEq, Repr

/-- A command with a failure handler has failed. -/
def Event.failed : Event → Bool
  | .ran o n => o.handled && n ≠ 0
  | .finished _ => false
  | .returned _ handled n => handled && n ≠ 0

/-- The script whose command is run, or which is finished or has come back. -/
def Event.script : Event → Script
  | .ran o _ => o.script
  | .finished script => script
  | .returned script _ _ => script

/-- The event is the return of a script to its caller. -/
def Event.isReturn : Event → Bool
  | .returned _ _ _ => true
  | _ => false

/-- The event is the execution of a command. -/
def Event.isRun : Event → Bool
  | .ran _ _ => true
  | _ => false

/-- The events of a run, the oldest first. -/
abbrev Log : Type := List Event

/-- The status of each command and the answers of the tests `-e`, `-L`, `-d` and `-f`. -/
structure Outcomes where
  status : Occ → ℕ
  isE : Path → Bool
  isL : Path → Bool
  isD : Path → Bool
  isF : Path → Bool

/-- Execute a command: its status is the given one. -/
def Outcomes.exec (out : Outcomes) (o : Occ) : Sh Log :=
  Sh.simple fun l => (out.status o, l ++ [.ran o (out.status o)])

/-- The machine that records what it executes. -/
def logMachine (out : Outcomes) : Machine Log where
  run o := out.exec o
  isE p _ := out.isE p
  isL p _ := out.isL p
  isD p _ := out.isD p
  isF p _ := out.isF p
  cpR o _ _ := out.exec o
  rmRf o _ := out.exec o
  rm o _ := out.exec o
  lnS o _ _ := out.exec o
  mv o _ _ := out.exec o
  mkdir o _ := out.exec o
  gitClone o _ := out.exec o
  gitPull o _ := out.exec o
  finished script := Sh.simple fun l => (0, l ++ [.finished script])
  returned script handled n := Sh.simple fun l => (0, l ++ [.returned script handled n])

section LogMachine

variable (out : Outcomes) (o : Occ) (p q : Path) (t : Target)

@[simp] lemma logMachine_run : (logMachine out).run o = out.exec o := rfl
@[simp] lemma logMachine_cpR : (logMachine out).cpR o p q = out.exec o := rfl
@[simp] lemma logMachine_rmRf : (logMachine out).rmRf o p = out.exec o := rfl
@[simp] lemma logMachine_lnS : (logMachine out).lnS o t p = out.exec o := rfl
@[simp] lemma logMachine_mv : (logMachine out).mv o p q = out.exec o := rfl
@[simp] lemma logMachine_mkdir : (logMachine out).mkdir o p = out.exec o := rfl
@[simp] lemma logMachine_gitClone : (logMachine out).gitClone o p = out.exec o := rfl
@[simp] lemma logMachine_gitPull : (logMachine out).gitPull o p = out.exec o := rfl

end LogMachine

/-- A log only grows. -/
lemma logMachine_keeps (out : Outcomes) (l : Log) : (logMachine out).Keeps (l <+: ·) := by
  constructor <;> intros <;> exact fun l' h => h.trans (List.prefix_append _ _)

/-! ### Stopping at the first failure -/

/-- The first command of a list that fails. -/
def Outcomes.firstFailure (out : Outcomes) (os : List Occ) : Option Occ :=
  os.find? fun o => out.status o ≠ 0

/-- Nothing fails before `o` does, and after it scripts only come back to their callers. -/
def StopsAt (out : Outcomes) (o : Occ) (es : List Event) : Prop :=
  ∃ before after, es = before ++ .ran o (out.status o) :: after ∧
    (∀ e ∈ before, e.failed = false) ∧ ∀ e ∈ after, e.isReturn = true

/-- After the failure `e` the command `e'` should not be executed any more: it belongs to a
script that the driver calls, or `e` has stopped the driver itself. -/
def Event.bars (e e' : Event) : Prop :=
  e'.isRun = true ∧ (e'.script = .myubuntuSetup → e.script = .myubuntuSetup)

/-- After a failure another command is executed. -/
def Leaks (es : List Event) : Prop :=
  ∃ before e between e' after, es = before ++ e :: (between ++ e' :: after) ∧
    e.failed = true ∧ e.bars e'

/-- `c` ends at the first of its handled commands `os` that fails, unless that one is the `cd`
in a `SCRIPT_DIR=$(…)`; when none fails it ends in `fin`. -/
def FailsFast (out : Outcomes) (c : Sh Log) (os : List Occ) (fin : Flow → Prop) : Prop :=
  ∀ l, ∃ es, (c l).2 = l ++ es ∧
    (out.firstFailure os = none → fin (c l).1 ∧ ∀ e ∈ es, e.failed = false) ∧
    ∀ o, out.firstFailure os = some o →
      (o.word = "SCRIPT_DIR" → Leaks es) ∧
      (o.word ≠ "SCRIPT_DIR" → (c l).1 = .exit 1 ∧ StopsAt out o es)

/-- The command ends normally. -/
def Normally (f : Flow) : Prop := ∃ n, f = .status n

variable {out : Outcomes} {os os' : List Occ}

lemma firstFailure_append :
    out.firstFailure (os ++ os') = (out.firstFailure os).or (out.firstFailure os') :=
  List.find?_append

lemma firstFailure_singleton_eq_none {o : Occ} :
    out.firstFailure [o] = none ↔ out.status o = 0 := by
  simp [Outcomes.firstFailure]

lemma firstFailure_singleton_eq_some {o o' : Occ} :
    out.firstFailure [o] = some o' ↔ o = o' ∧ out.status o ≠ 0 := by
  rw [Outcomes.firstFailure, List.find?_singleton]
  by_cases h : out.status o = 0 <;> simp [h]

/-- `c || exit 1` on a command leaves the shell exactly when the command fails. -/
lemma orExit_exec_apply (o : Occ) (l : Log) :
    orExit (out.exec o) l =
      (if out.status o = 0 then .status 0 else .exit 1, l ++ [.ran o (out.status o)]) := by
  have hl : out.exec o l = (.status (out.status o), l ++ [.ran o (out.status o)]) := rfl
  by_cases h : out.status o = 0
  · rw [h] at hl
    rw [orExit, Sh.or_apply_zero hl, if_pos h, h]
  · rw [orExit, Sh.or_apply_ne_zero hl h, if_neg h, Sh.exit_apply]

lemma StopsAt.append_left {o : Occ} {es es' : List Event} (h : StopsAt out o es')
    (hes : ∀ e ∈ es, e.failed = false) : StopsAt out o (es ++ es') := by
  obtain ⟨before, after, rfl, hb, ha⟩ := h
  refine ⟨es ++ before, after, by simp, ?_, ha⟩
  intro e he
  rcases List.mem_append.1 he with he | he
  · exact hes e he
  · exact hb e he

lemma StopsAt.append_right {o : Occ} {es es' : List Event} (h : StopsAt out o es)
    (hes : ∀ e ∈ es', e.isReturn = true) : StopsAt out o (es ++ es') := by
  obtain ⟨before, after, rfl, hb, ha⟩ := h
  refine ⟨before, after ++ es', by simp, hb, ?_⟩
  intro e he
  rcases List.mem_append.1 he with he | he
  · exact ha e he
  · exact hes e he

lemma Leaks.append_left {es es' : List Event} (h : Leaks es') : Leaks (es ++ es') := by
  obtain ⟨before, e, between, e', after, rfl, he, he'⟩ := h
  exact ⟨es ++ before, e, between, e', after, by simp, he, he'⟩

lemma Leaks.append_right {es es' : List Event} (h : Leaks es) : Leaks (es ++ es') := by
  obtain ⟨before, e, between, e', after, rfl, he, he'⟩ := h
  exact ⟨before, e, between, e', after ++ es', by simp, he, he'⟩

namespace FailsFast

variable {c : Sh Log} {fin : Flow → Prop}

/-- Commands that run one after the other: the handled commands of the first come first. -/
lemma bind {k : ℕ → Sh Log} (hc : FailsFast out c os Normally)
    (hk : ∀ n, FailsFast out (k n) os' fin) : FailsFast out (c.bind k) (os ++ os') fin := by
  intro l
  obtain ⟨es, hes, hnone, hsome⟩ := hc l
  rw [firstFailure_append]
  rcases hl : c l with ⟨n | n, l'⟩
  · -- the first command ends normally and the second runs
    obtain ⟨es', hes', hnone', hsome'⟩ := hk n l'
    rw [hl] at hes hnone hsome
    simp only at hes
    subst hes
    refine ⟨es ++ es', by rw [Sh.bind_of_status hl, hes', List.append_assoc], ?_, ?_⟩
    · intro hnn
      rw [Option.or_eq_none_iff] at hnn
      obtain ⟨hfin, hclean⟩ := hnone' hnn.2
      refine ⟨by rwa [Sh.bind_of_status hl], fun e he => ?_⟩
      rcases List.mem_append.1 he with he | he
      · exact (hnone hnn.1).2 e he
      · exact hclean e he
    · intro o ho
      rcases ho₁ : out.firstFailure os with _ | o₁
      · rw [ho₁, Option.none_or] at ho
        refine ⟨fun hw => ((hsome' o ho).1 hw).append_left, fun hw => ?_⟩
        rw [Sh.bind_of_status hl]
        exact ⟨((hsome' o ho).2 hw).1, ((hsome' o ho).2 hw).2.append_left (hnone ho₁).2⟩
      · rw [ho₁, Option.some_or, Option.some.injEq] at ho
        subst ho
        refine ⟨fun hw => ((hsome _ ho₁).1 hw).append_right, fun hw => ?_⟩
        exact absurd ((hsome _ ho₁).2 hw).1 (by simp)
  · -- the first command has left the shell
    rw [hl] at hes hnone hsome
    simp only at hes
    subst hes
    refine ⟨es, by rw [Sh.bind_of_exit hl], ?_, ?_⟩
    · intro hnn
      rw [Option.or_eq_none_iff] at hnn
      obtain ⟨m, hm⟩ := (hnone hnn.1).1
      simp at hm
    · intro o ho
      rw [Sh.bind_of_exit hl]
      rcases ho₁ : out.firstFailure os with _ | o₁
      · obtain ⟨m, hm⟩ := (hnone ho₁).1
        simp at hm
      · rw [ho₁, Option.some_or, Option.some.injEq] at ho
        subst ho
        exact hsome _ ho₁

lemma ret (n : ℕ) : FailsFast out (Sh.ret n) [] Normally := by
  intro l
  refine ⟨[], by simp, fun _ => ⟨⟨n, rfl⟩, by simp⟩, ?_⟩
  simp [Outcomes.firstFailure]

lemma exit_zero : FailsFast out (Sh.exit 0) [] (· = .exit 0) := by
  intro l
  refine ⟨[], by simp, fun _ => ⟨rfl, by simp⟩, ?_⟩
  simp [Outcomes.firstFailure]

/-- A command that records one event which is no failure. -/
lemma record {f : Log → ℕ} {e : Event} (he : e.failed = false) :
    FailsFast out (Sh.simple fun l => (f l, l ++ [e])) [] Normally := by
  intro l
  refine ⟨[e], rfl, fun _ => ⟨⟨f l, rfl⟩, by simpa using he⟩, ?_⟩
  simp [Outcomes.firstFailure]

lemma exec {o : Occ} (ho : o.handled = false) : FailsFast out (out.exec o) [] Normally :=
  record (by simp [Event.failed, ho])

/-- What follows a command may depend on its status. -/
lemma exec_bind {o : Occ} {k : ℕ → Sh Log} (ho : o.handled = false)
    (hk : FailsFast out (k (out.status o)) os fin) :
    FailsFast out ((out.exec o).bind k) os fin := by
  intro l
  have hclean : ∀ e ∈ [Event.ran o (out.status o)], e.failed = false := by
    simp [Event.failed, ho]
  obtain ⟨es, hes, hnone, hsome⟩ := hk (l ++ [.ran o (out.status o)])
  have hrun : (out.exec o).bind k l = k (out.status o) (l ++ [.ran o (out.status o)]) := rfl
  rw [hrun]
  refine ⟨[.ran o (out.status o)] ++ es, by rw [hes, List.append_assoc], fun h => ?_, ?_⟩
  · exact ⟨(hnone h).1, List.forall_mem_append.2 ⟨hclean, (hnone h).2⟩⟩
  · intro o' ho'
    exact ⟨fun hw => ((hsome o' ho').1 hw).append_left,
      fun hw => ⟨((hsome o' ho').2 hw).1, ((hsome o' ho').2 hw).2.append_left hclean⟩⟩

/-- `c || exit 1` on a command. -/
lemma orExit_exec {o : Occ} (hw : o.word ≠ "SCRIPT_DIR") :
    FailsFast out (orExit (out.exec o)) [o] Normally := by
  intro l
  refine ⟨[.ran o (out.status o)], by rw [orExit_exec_apply], ?_, fun o' ho' => ?_⟩
  · rw [orExit_exec_apply, firstFailure_singleton_eq_none]
    intro h
    exact ⟨⟨0, if_pos h⟩, by simp [Event.failed, h]⟩
  · rw [firstFailure_singleton_eq_some] at ho'
    obtain ⟨rfl, hne⟩ := ho'
    rw [orExit_exec_apply]
    exact ⟨fun h => absurd h hw, fun _ => ⟨if_neg hne, [], [], rfl, by simp, by simp⟩⟩

lemma blockFrom_nil (n : ℕ) : FailsFast out (Sh.blockFrom n []) [] Normally := ret n

lemma blockFrom_cons {cs : List (Sh Log)} {n : ℕ} (hc : FailsFast out c os Normally)
    (hcs : ∀ n, FailsFast out (Sh.blockFrom n cs) os' fin) :
    FailsFast out (Sh.blockFrom n (c :: cs)) (os ++ os') fin :=
  hc.bind hcs

/-- A command without a failure handler comes first. -/
lemma blockFrom_cons_plain {cs : List (Sh Log)} {n : ℕ} (hc : FailsFast out c [] Normally)
    (hcs : ∀ n, FailsFast out (Sh.blockFrom n cs) os' fin) :
    FailsFast out (Sh.blockFrom n (c :: cs)) os' fin :=
  hc.bind hcs

/-- A command with a failure handler comes first. -/
lemma blockFrom_cons_handled {o : Occ} {cs : List (Sh Log)} {n : ℕ}
    (hc : FailsFast out c [o] Normally)
    (hcs : ∀ n, FailsFast out (Sh.blockFrom n cs) os' fin) :
    FailsFast out (Sh.blockFrom n (c :: cs)) (o :: os') fin :=
  hc.bind hcs

lemma blockFrom_append {cs ds : List (Sh Log)} {n : ℕ}
    (hcs : FailsFast out (Sh.blockFrom n cs) os Normally)
    (hds : ∀ n, FailsFast out (Sh.blockFrom n ds) os' fin) :
    FailsFast out (Sh.blockFrom n (cs ++ ds)) (os ++ os') fin := by
  rw [Sh.blockFrom_append]
  exact hcs.bind hds

lemma forEach {α : Type} {xs : List α} {body : α → Sh Log} {occs : α → List Occ}
    (h : ∀ x ∈ xs, FailsFast out (body x) (occs x) Normally) :
    FailsFast out (Sh.forEach xs body) (xs.flatMap occs) Normally := by
  unfold Sh.forEach Sh.block
  generalize 0 = n
  induction xs generalizing n with
  | nil => exact ret n
  | cons x xs ih =>
      exact blockFrom_cons (h x List.mem_cons_self)
        fun n => ih (fun y hy => h y (List.mem_cons_of_mem x hy)) n

/-- A script that is called with `|| exit 1`. -/
lemma orExit_call {script : Script} (h : FailsFast out c os (· = .exit 0)) :
    FailsFast out (orExit (call (logMachine out) script true c)) os Normally := by
  intro l
  obtain ⟨es, hes, hnone, hsome⟩ := h l
  have hcall : call (logMachine out) script true c l =
      (.status (c l).1.code, l ++ es ++ [.returned script true (c l).1.code]) := by
    rw [← hes]
    rfl
  refine ⟨es ++ [.returned script true (c l).1.code], ?_, fun hn => ?_, fun o ho => ?_⟩
  · rw [← List.append_assoc]
    by_cases hz : (c l).1.code = 0
    · rw [hz] at hcall ⊢
      rw [orExit, Sh.or_apply_zero hcall]
    · rw [orExit, Sh.or_apply_ne_zero hcall hz, Sh.exit_apply]
  · obtain ⟨hfin, hclean⟩ := hnone hn
    rw [hfin, Flow.code_exit] at hcall
    rw [orExit, Sh.or_apply_zero hcall, hfin]
    exact ⟨⟨0, rfl⟩, List.forall_mem_append.2 ⟨hclean, by simp [Event.failed]⟩⟩
  · refine ⟨fun hw => ((hsome o ho).1 hw).append_right, fun hw => ?_⟩
    obtain ⟨hexit, hstop⟩ := (hsome o ho).2 hw
    rw [hexit, Flow.code_exit] at hcall
    rw [orExit, Sh.or_apply_ne_zero hcall Nat.one_ne_zero]
    exact ⟨rfl, hstop.append_right (by simp [Event.isReturn])⟩

end FailsFast

end InitialSetups.FailFast
