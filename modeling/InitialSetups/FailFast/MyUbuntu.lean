import InitialSetups.FailFast.Log

/-!
# When the native Ubuntu setup is fail-fast

`myubuntu_setup.sh` promises two things of every run: if no command with a failure handler
fails, every script runs to its end and the exit status is `0`; and after the first such
failure nothing else is executed and the exit status is not `0`.

`install_packages.sh` and what runs before it keep the second promise (`failsFast_early`), but
for the `cd` inside `SCRIPT_DIR=$(…)`.  From there on both promises are broken: line 66 of
`install_python.sh` reads `c || echo … && exit 1`, which exits also when `c` succeeds, and the
handler of its caller, `|| (echo …; exit 1)`, ends only a subshell.
-/

namespace InitialSetups.FailFast

open InitialSetups.Shell InitialSetups.Files InitialSetups.Scripts

variable {out : Outcomes}

/-! ### The common parts of the scripts -/

/-- The handled commands of a prologue. -/
def prologueOccs (script : Script) (line : ℕ) : List Occ :=
  [⟨script, line, "SCRIPT_DIR", true⟩, ⟨script, line + 1, "cd", true⟩]

/-- The handled commands of a loop over `PACKAGES`: the installation of each package that is
not found. -/
def packagesOccs (out : Outcomes) (script : Script) (line : ℕ) (packages : List String) :
    List Occ :=
  packages.flatMap fun package =>
    if out.status ⟨script, line, package, false⟩ ≠ 0 then
      [⟨script, line + 4, package, true⟩] else []

/-- Whether or not the substitution on the first line fails, the second line is executed. -/
lemma prologue_apply (script : Script) (line n : ℕ) (l : Log) :
    Sh.blockFrom n (prologue (logMachine out) script line) l =
      (if out.status ⟨script, line + 1, "cd", true⟩ = 0 then .status 0 else .exit 1,
        l ++ [.ran ⟨script, line, "SCRIPT_DIR", true⟩
                (out.status ⟨script, line, "SCRIPT_DIR", true⟩),
              .ran ⟨script, line + 1, "cd", true⟩
                (out.status ⟨script, line + 1, "cd", true⟩)]) := by
  have hfirst : ∃ k, Sh.subshell (Sh.block
      [orExit (out.exec ⟨script, line, "SCRIPT_DIR", true⟩), echo]) l = (.status k,
        l ++ [.ran ⟨script, line, "SCRIPT_DIR", true⟩
          (out.status ⟨script, line, "SCRIPT_DIR", true⟩)]) := by
    by_cases h : out.status ⟨script, line, "SCRIPT_DIR", true⟩ = 0
    · exact ⟨0, by simp [Sh.bind, orExit_exec_apply, echo, h]⟩
    · exact ⟨1, by simp [Sh.bind, orExit_exec_apply, h]⟩
  obtain ⟨k, hk⟩ := hfirst
  simp only [prologue, Sh.blockFrom_cons, logMachine_run]
  rw [Sh.bind_of_status hk]
  by_cases h : out.status ⟨script, line + 1, "cd", true⟩ = 0 <;>
    simp [Sh.bind, orExit_exec_apply, h]

lemma failsFast_prologue (script : Script) (line n : ℕ) :
    FailsFast out (Sh.blockFrom n (prologue (logMachine out) script line))
      (prologueOccs script line) Normally := by
  intro l
  refine ⟨_, by rw [prologue_apply], ?_, fun o ho => ?_⟩
  · intro h
    rw [prologueOccs, ← List.singleton_append, firstFailure_append, Option.or_eq_none_iff,
      firstFailure_singleton_eq_none, firstFailure_singleton_eq_none] at h
    refine ⟨⟨0, by rw [prologue_apply, if_pos h.2]⟩, ?_⟩
    simp [Event.failed, h.1, h.2]
  · by_cases h₁ : out.status ⟨script, line, "SCRIPT_DIR", true⟩ = 0
    · rw [prologueOccs, ← List.singleton_append, firstFailure_append,
        firstFailure_singleton_eq_none.2 h₁, Option.none_or, firstFailure_singleton_eq_some] at ho
      obtain ⟨rfl, hne⟩ := ho
      refine ⟨fun hw => absurd hw (by simp), fun _ => ⟨by rw [prologue_apply, if_neg hne], ?_⟩⟩
      exact ⟨[_], [], rfl, by simp [Event.failed, h₁], by simp⟩
    · rw [prologueOccs, ← List.singleton_append, firstFailure_append,
        firstFailure_singleton_eq_some.2 ⟨rfl, h₁⟩, Option.some_or, Option.some.injEq] at ho
      subst ho
      refine ⟨fun _ => ⟨[], _, [], _, [], rfl, ?_, rfl, fun h => h⟩, fun hw => absurd rfl hw⟩
      simp [Event.failed, h₁]

lemma failsFast_epilogue (script : Script) (line n : ℕ) :
    FailsFast out (Sh.blockFrom n (epilogue (logMachine out) script line))
      [⟨script, line, "cd", true⟩] (· = .exit 0) := by
  refine FailsFast.blockFrom_cons_handled (FailsFast.orExit_exec (by simp)) fun _ => ?_
  exact FailsFast.blockFrom_cons_plain (FailsFast.record rfl) fun _ => FailsFast.exit_zero

lemma failsFast_packagesLoop (script : Script) (line : ℕ) {packages : List String}
    (hp : "SCRIPT_DIR" ∉ packages) :
    FailsFast out (packagesLoop (logMachine out) script line packages)
      (packagesOccs out script line packages) Normally := by
  refine FailsFast.forEach fun package hmem => ?_
  refine FailsFast.exec_bind rfl ?_
  split_ifs
  · exact FailsFast.orExit_exec fun h => hp (h ▸ hmem)
  · exact FailsFast.ret 0

/-! ### The scripts that keep their promise -/

/-- The handled commands of `add_sudo.sh`. -/
def addSudoOccs : List Occ := prologueOccs .addSudo 11 ++ [⟨.addSudo, 19, "cd", true⟩]

/-- The handled commands of `install_packages.sh`. -/
def installPackagesOccs (out : Outcomes) : List Occ :=
  prologueOccs .installPackages 7 ++
    [⟨.installPackages, 11, "apt-key", true⟩, ⟨.installPackages, 12, "sh -c", true⟩,
     ⟨.installPackages, 13, "apt update", true⟩, ⟨.installPackages, 14, "apt upgrade", true⟩] ++
    packagesOccs out .installPackages 34 packages ++
    [⟨.installPackages, 45, "apt upgrade", true⟩, ⟨.installPackages, 48, "cd", true⟩]

/-- The handled commands of `myubuntu_setup.sh` before the call of `install_python.sh`, those of
the scripts called included. -/
def earlyOccs (out : Outcomes) : List Occ :=
  prologueOccs .myubuntuSetup 7 ++ (addSudoOccs ++ installPackagesOccs out)

lemma failsFast_addSudo : FailsFast out (addSudo (logMachine out)) addSudoOccs (· = .exit 0) := by
  unfold addSudo Sh.block
  rw [List.append_assoc]
  refine FailsFast.blockFrom_append (failsFast_prologue _ _ _) fun _ => ?_
  refine FailsFast.blockFrom_cons_plain (FailsFast.exec rfl) fun _ => ?_
  refine FailsFast.blockFrom_cons_plain (FailsFast.exec rfl) fun n => ?_
  exact failsFast_epilogue _ _ n

lemma failsFast_installPackages :
    FailsFast out (installPackages (logMachine out)) (installPackagesOccs out) (· = .exit 0) := by
  unfold installPackages Sh.block installPackagesOccs
  rw [List.append_assoc, List.append_assoc, List.append_assoc]
  refine FailsFast.blockFrom_append (failsFast_prologue _ _ _) fun _ => ?_
  refine FailsFast.blockFrom_cons_plain (FailsFast.exec rfl) fun _ => ?_
  refine FailsFast.blockFrom_cons_handled (FailsFast.orExit_exec (by simp)) fun _ => ?_
  refine FailsFast.blockFrom_cons_handled (FailsFast.orExit_exec (by simp)) fun _ => ?_
  refine FailsFast.blockFrom_cons_handled (FailsFast.orExit_exec (by simp)) fun _ => ?_
  refine FailsFast.blockFrom_cons_handled (FailsFast.orExit_exec (by simp)) fun _ => ?_
  have hp : "SCRIPT_DIR" ∉ packages := by decide
  show FailsFast out _ (packagesOccs out .installPackages 34 packages ++ _) _
  refine FailsFast.blockFrom_cons (failsFast_packagesLoop _ _ hp) fun _ => ?_
  refine FailsFast.blockFrom_cons_handled (FailsFast.orExit_exec (by simp)) fun n => ?_
  exact failsFast_epilogue _ _ n

/-- The part of `myubuntu_setup.sh` before the call of `install_python.sh`. -/
def early (m : Machine Log) : List (Sh Log) :=
  prologue m .myubuntuSetup 7 ++
    [m.run ⟨.myubuntuSetup, 11, "find", false⟩,
     m.run ⟨.myubuntuSetup, 11, "chmod", false⟩,
     orExit (call m .addSudo true (addSudo m)),
     orExit (call m .installPackages true (installPackages m))]

lemma failsFast_early (out : Outcomes) (n : ℕ) :
    FailsFast out (Sh.blockFrom n (early (logMachine out))) (earlyOccs out) Normally := by
  refine FailsFast.blockFrom_append (failsFast_prologue _ _ _) fun _ => ?_
  refine FailsFast.blockFrom_cons_plain (FailsFast.exec rfl) fun _ => ?_
  refine FailsFast.blockFrom_cons_plain (FailsFast.exec rfl) fun _ => ?_
  refine FailsFast.blockFrom_cons (FailsFast.orExit_call failsFast_addSudo) fun _ => ?_
  rw [← List.append_nil (installPackagesOccs out)]
  exact FailsFast.blockFrom_cons (FailsFast.orExit_call failsFast_installPackages)
    fun n => FailsFast.blockFrom_nil n

/-! ### `install_python.sh` never runs to its end -/

section InstallPython

variable {home : Path} {datetime python3 name : String} {dirTmp : Path}

/-- The command is followed by the next one or leaves the shell with status `1`. -/
def OrExitsOne (c : Sh Log) : Prop := Triple (fun _ => True) c (fun _ _ => True) (fun n _ => n = 1)

/-- The command leaves the shell with status `1`. -/
def ExitsOne (c : Sh Log) : Prop := Triple (fun _ => True) c (fun _ _ => False) (fun n _ => n = 1)

lemma orExitsOne_exec (o : Occ) : OrExitsOne (out.exec o) := fun _ _ => trivial

lemma orExitsOne_orExit {c : Sh Log} (h : OrExitsOne c) : OrExitsOne (orExit c) :=
  Triple.or h (fun _ _ => Triple.exit fun _ _ => rfl) fun _ _ => trivial

/-- `c || echo … && exit 1` exits whether or not `c` succeeds. -/
lemma exitsOne_orEchoAndExit {c : Sh Log} (h : OrExitsOne c) : ExitsOne (orEchoAndExit c) := by
  refine Triple.and (Q := fun n _ => n = 0) ?_ (Triple.exit fun _ _ => rfl) fun n _ hn h => hn h
  exact Triple.or h (fun _ _ => Triple.ret fun _ _ => rfl) fun _ _ => rfl

section Blocks

variable {c : Sh Log} {cs ds : List (Sh Log)} {n : ℕ}

lemma exitsOne_append (hcs : ∀ d ∈ cs, OrExitsOne d) (hds : ∀ n, ExitsOne (Sh.blockFrom n ds)) :
    ExitsOne (Sh.blockFrom n (cs ++ ds)) := by
  rw [Sh.blockFrom_append]
  exact Triple.bind (Triple.blockFrom hcs n) hds

lemma exitsOne_cons (hc : OrExitsOne c) (hcs : ∀ n, ExitsOne (Sh.blockFrom n cs)) :
    ExitsOne (Sh.blockFrom n (c :: cs)) := Triple.bind hc hcs

lemma exitsOne_head (hc : ExitsOne c) : ExitsOne (Sh.blockFrom n (c :: cs)) :=
  Triple.bind hc fun _ _ h => h.elim

lemma orExitsOne_ifThen {a b : Sh Log} (p : Log → Bool) (ha : OrExitsOne a)
    (hb : OrExitsOne b) : OrExitsOne (Sh.ifThen (Sh.test p) a b) :=
  Triple.ifThen (Q := fun _ _ => True) (fun _ _ => trivial) ha fun _ _ => hb

lemma orExitsOne_test_and (p : Log → Bool) (hc : OrExitsOne c) :
    OrExitsOne ((Sh.test p).and c) :=
  Triple.and (Q := fun _ _ => True) (fun _ _ => trivial) hc fun _ _ _ _ => trivial

end Blocks

lemma orExitsOne_packagesLoop (script : Script) (line : ℕ) (packages : List String) :
    OrExitsOne (packagesLoop (logMachine out) script line packages) := by
  refine Triple.forEach fun package _ => Triple.bind (orExitsOne_exec _) fun status => ?_
  split_ifs
  · exact orExitsOne_orExit (orExitsOne_exec _)
  · exact Triple.ret fun _ _ => trivial

lemma orExitsOne_prologue (script : Script) (line : ℕ) :
    ∀ c ∈ prologue (logMachine out) script line, OrExitsOne c := by
  simp only [prologue, List.forall_mem_cons]
  refine ⟨Triple.subshell (Triple.conseq (Triple.block (I := fun _ => True)
    (R := fun _ _ => True) ?_) (fun _ h => h) (fun _ _ h => h) fun _ _ h => h),
    orExitsOne_orExit (orExitsOne_exec _), by simp⟩
  simp only [List.forall_mem_cons]
  exact ⟨Triple.conseq (orExitsOne_orExit (orExitsOne_exec _)) (fun _ h => h) (fun _ _ h => h)
    fun _ _ _ => trivial, Triple.ret fun _ h => h, by simp⟩

/-- Line 66 of `install_python.sh` is reached or an earlier line has exited; either way the
status is `1`. -/
lemma exitsOne_installPython :
    ExitsOne (installPython (logMachine out) home datetime python3 name dirTmp) := by
  unfold installPython Sh.block
  rw [List.append_assoc]
  refine exitsOne_append (orExitsOne_prologue _ _) fun _ => ?_
  refine exitsOne_cons (orExitsOne_orExit (orExitsOne_exec _)) fun _ => ?_
  refine exitsOne_cons (orExitsOne_orExit (orExitsOne_exec _)) fun _ => ?_
  refine exitsOne_cons (orExitsOne_packagesLoop _ _ _) fun _ => ?_
  refine exitsOne_cons (orExitsOne_ifThen _ (orExitsOne_orExit (orExitsOne_exec _))
    (Triple.ret fun _ h => h)) fun _ => ?_
  refine exitsOne_cons (orExitsOne_test_and _ (orExitsOne_exec _)) fun _ => ?_
  refine exitsOne_cons (orExitsOne_ifThen _ (Triple.ret fun _ h => h)
    (orExitsOne_orExit (orExitsOne_exec _))) fun _ => ?_
  refine exitsOne_cons (orExitsOne_test_and _ (orExitsOne_exec _)) fun _ => ?_
  exact exitsOne_head (exitsOne_orEchoAndExit (orExitsOne_exec _))

end InstallPython

/-! ### The two promises -/

/-- The scripts that `myubuntu_setup.sh` runs, directly or through `install_myzsh.sh`. -/
def subScripts : List Script :=
  [.addSudo, .installPackages, .installPython, .installMyzsh, .installPrezto, .installPeco,
   .installMydotfiles]

/-- The promises of a run that ends with the status `code` and the log `es`: without a failure
every script reaches its last line and the status is `0`; after a failure no command of that
script or of a later one is executed and the status is not `0`. -/
structure Truthful (code : ℕ) (es : List Event) : Prop where
  success : (∀ e ∈ es, e.failed = false) →
    (∀ script ∈ subScripts, Event.finished script ∈ es) ∧ code = 0
  failure : ∀ before e after, es = before ++ e :: after → e.failed = true →
    (∀ e' ∈ after, ¬ e.bars e') ∧ code ≠ 0

/-- The run of `myubuntu_setup.sh` is fail-fast and its exit status is truthful. -/
def SetupTruthful (out : Outcomes) (env : Env) (rcfiles : List String) : Prop :=
  Truthful (Sh.code (myubuntuSetup (logMachine out) env rcfiles) [])
    (Sh.world (myubuntuSetup (logMachine out) env rcfiles) [])

/-- A handled command of the driver before `install_python.sh`, of `add_sudo.sh` or of
`install_packages.sh` fails, and the first to fail is not the `cd` in a
`SCRIPT_DIR=$(…)`. -/
def FailsEarly (out : Outcomes) : Prop :=
  ∃ o, out.firstFailure (earlyOccs out) = some o ∧ o.word ≠ "SCRIPT_DIR"

instance (out : Outcomes) : Decidable (FailsEarly out) :=
  match h : out.firstFailure (earlyOccs out) with
  | none => isFalse fun ⟨_, ho, _⟩ => by rw [h] at ho; cases ho
  | some o =>
    if hw : o.word ≠ "SCRIPT_DIR" then isTrue ⟨o, h, hw⟩
    else isFalse fun ⟨_, ho, ho'⟩ => by
      rw [h, Option.some.injEq] at ho
      exact hw (ho ▸ ho')

lemma Truthful.not_leaks {code : ℕ} {es : List Event} (h : Truthful code es) : ¬ Leaks es := by
  rintro ⟨before, e, between, e', after, rfl, he, he'⟩
  exact (h.failure before e _ rfl he).1 e' (by simp) he'

/-- A run that stops at a failure with a status other than `0` keeps both promises. -/
lemma StopsAt.truthful {o : Occ} {es : List Event} (h : StopsAt out o es)
    (ho : (Event.ran o (out.status o)).failed = true) {code : ℕ} (hcode : code ≠ 0) :
    Truthful code es := by
  obtain ⟨pre, post, rfl, hpre, hpost⟩ := h
  refine ⟨fun hclean => ?_, fun before e after heq he => ⟨fun e' he' hbars => ?_, hcode⟩⟩
  · have h₁ := hclean _ (List.mem_append_right pre List.mem_cons_self)
    rw [ho] at h₁
    cases h₁
  · -- the failing event `e` does not come before `o`, so what follows it comes after `o`
    have hmem : e' ∈ post := by
      rcases List.append_eq_append_iff.1 heq with ⟨mid, h₁, h₂⟩ | ⟨mid, h₁, h₂⟩
      · rcases mid with _ | ⟨x, mid⟩
        · simp only [List.nil_append, List.cons.injEq] at h₂
          exact h₂.2 ▸ he'
        · simp only [List.cons_append, List.cons.injEq] at h₂
          rw [h₂.2]
          exact List.mem_append_right _ (List.mem_cons_of_mem _ he')
      · rcases mid with _ | ⟨x, mid⟩
        · simp only [List.nil_append, List.cons.injEq] at h₂
          exact h₂.2 ▸ he'
        · simp only [List.cons_append, List.cons.injEq] at h₂
          have h₃ := hpre e (by rw [h₁, h₂.1]; simp)
          rw [he] at h₃
          cases h₃
    have hret := hpost e' hmem
    have hrun := hbars.1
    cases e' <;> simp [Event.isReturn, Event.isRun] at hret hrun

/-- The rest of `myubuntu_setup.sh`. -/
def late (m : Machine Log) (env : Env) (rcfiles : List String) : List (Sh Log) :=
  orSubshellExit (call m .installPython true
      (installPython m env.home env.datetime "3.9" "py39" ["tmp"])) ::
    orExit (call m .installMyzsh true (installMyzsh m env rcfiles true true)) ::
    orExit (call m .installMydotfiles true (installMydotfiles m env ["no", "no"])) ::
    m.run ⟨.myubuntuSetup, 26, "gsettings", false⟩ ::
    m.run ⟨.myubuntuSetup, 27, "gsettings", false⟩ :: epilogue m .myubuntuSetup 30

variable {env : Env} {rcfiles : List String}

lemma myubuntuSetup_eq (m : Machine Log) :
    myubuntuSetup m env rcfiles =
      (Sh.blockFrom 0 (early m)).bind fun n => Sh.blockFrom n (late m env rcfiles) := by
  rw [← Sh.blockFrom_append]
  rfl

/-- The log after a call that exits with `1`. -/
lemma orSubshellExit_call (script : Script) {c : Sh Log} (hc : ExitsOne c)
    (hg : ∀ l, Preserves (l <+: ·) c) (l : Log) :
    ∃ es, orSubshellExit (call (logMachine out) script true c) l =
      (.status 1, l ++ es ++ [.returned script true 1]) := by
  have hexit : (c l).1 = .exit 1 := by
    have h₁ := hc l trivial
    rcases h : c l with ⟨n | n, l'⟩
    · rw [h] at h₁
      exact h₁.elim
    · rw [h] at h₁
      exact congrArg Flow.exit h₁
  obtain ⟨es, hes⟩ := hg l l (List.prefix_refl l)
  refine ⟨es, ?_⟩
  have hcall : call (logMachine out) script true c l =
      (.status 1, l ++ es ++ [.returned script true 1]) := by
    have h₁ : call (logMachine out) script true c l =
        (.status (c l).1.code, (c l).2 ++ [.returned script true (c l).1.code]) := rfl
    rw [h₁, hexit, ← hes, Flow.code_exit]
  rw [orSubshellExit, Sh.or_apply_ne_zero hcall Nat.one_ne_zero]
  rfl

/-- A script that starts with a prologue executes a command, whatever follows. -/
lemma block_prologue_executes {script : Script} {line : ℕ} {cs : List (Sh Log)} (l : Log)
    (hcs : ∀ l', ∀ d ∈ cs, Preserves (l' <+: ·) d) :
    l ++ [.ran ⟨script, line, "SCRIPT_DIR", true⟩
        (out.status ⟨script, line, "SCRIPT_DIR", true⟩)] <+:
      (Sh.block (prologue (logMachine out) script line ++ cs) l).2 := by
  rw [Sh.block, Sh.blockFrom_append]
  refine Preserves.bind_from ?_ fun n => Preserves.blockFrom (hcs _) n
  rw [prologue_apply]
  simp

/-- After the early part the run goes wrong: `install_python.sh` comes back with a failure and
`install_myzsh.sh` is run all the same. -/
lemma leaks_late (out : Outcomes) (env : Env) (rcfiles : List String) (n : ℕ) (l : Log) :
    ∃ es, (Sh.blockFrom n (late (logMachine out) env rcfiles) l).2 = l ++ es ∧ Leaks es := by
  have hk := logMachine_keeps out
  have hpython : ExitsOne (installPython (logMachine out) env.home env.datetime "3.9" "py39"
      ["tmp"]) := exitsOne_installPython
  have hgrow : ∀ l', Preserves (l' <+: ·) (installPython (logMachine out) env.home env.datetime
      "3.9" "py39" ["tmp"]) := fun l' => preserves_installPython (hk l')
  obtain ⟨es, hes⟩ := orSubshellExit_call .installPython hpython hgrow l
  set back := l ++ es ++ [.returned .installPython true 1] with hback
  set next : Event := .ran ⟨.installMyzsh, 7, "SCRIPT_DIR", true⟩
    (out.status ⟨.installMyzsh, 7, "SCRIPT_DIR", true⟩) with hnext
  have hI := hk (back ++ [next])
  -- the first command of `install_myzsh.sh` is executed, and what follows only adds to the log
  have hrest : back ++ [next] <+: (Sh.blockFrom n (late (logMachine out) env rcfiles) l).2 := by
    rw [late, Sh.blockFrom_cons, Sh.bind_of_status hes, Sh.blockFrom_cons]
    refine Preserves.bind_from (Preserves.bind_from (Preserves.bind_from ?_ fun _ => ?_)
      fun n => ?_) fun m => Preserves.blockFrom ?_ m
    · exact block_prologue_executes back fun l' => by
        simpa using preserves_installMyzshMain (hk l')
    · exact (hI.returned _ _ _).seq (Preserves.ret _)
    · split_ifs
      · exact Preserves.ret 0
      · exact Preserves.exit 1
    · simp only [List.forall_mem_cons]
      exact ⟨preserves_orExit (preserves_call (hI.returned _ _) (preserves_installMydotfiles hI)),
        hI.run _, hI.run _, preserves_epilogue hI.run (hI.finished _) _⟩
  obtain ⟨post, hpost⟩ := hrest
  refine ⟨es ++ [.returned .installPython true 1] ++ [next] ++ post, ?_, ?_⟩
  · rw [← hpost, hback]
    simp
  · refine ⟨es, .returned .installPython true 1, [], next, post, by simp, rfl, rfl, fun h => ?_⟩
    exact absurd h (by simp [hnext, Event.script])

lemma preserves_late {I : Log → Prop} {m : Machine Log} (hm : m.Keeps I) :
    ∀ c ∈ late m env rcfiles, Preserves I c := by
  simp only [late, List.forall_mem_cons]
  exact ⟨preserves_orSubshellExit (preserves_call (hm.returned _ _) (preserves_installPython hm)),
    preserves_orExit (preserves_call (hm.returned _ _) (preserves_installMyzsh hm)),
    preserves_orExit (preserves_call (hm.returned _ _) (preserves_installMydotfiles hm)),
    hm.run _, hm.run _, preserves_epilogue hm.run (hm.finished _) _⟩

lemma handled_of_mem_earlyOccs {o : Occ} (h : o ∈ earlyOccs out) : o.handled = true := by
  simp only [earlyOccs, addSudoOccs, installPackagesOccs, prologueOccs, packagesOccs,
    List.mem_append, List.mem_cons, List.not_mem_nil, or_false, List.mem_flatMap] at h
  rcases h with (rfl | rfl) | ((rfl | rfl) | rfl) | (((rfl | rfl) | rfl | rfl | rfl | rfl) |
    ⟨package, -, hp⟩) | rfl | rfl <;> first | rfl | skip
  split_ifs at hp
  · rw [List.mem_singleton.1 hp]
  · cases hp

/-- A run in which nothing fails early breaks its promises. -/
lemma not_setupTruthful_of_not_early (h : out.firstFailure (earlyOccs out) = none) :
    ¬ SetupTruthful out env rcfiles := by
  obtain ⟨es, hes, hnone, -⟩ := failsFast_early out 0 []
  obtain ⟨⟨n, hn⟩, -⟩ := hnone h
  rw [List.nil_append] at hes
  obtain ⟨es', hes', hleaks⟩ := leaks_late out env rcfiles n es
  have hstatus : Sh.blockFrom 0 (early (logMachine out)) [] = (.status n, es) := Prod.ext hn hes
  rw [SetupTruthful, Sh.code, Sh.world, myubuntuSetup_eq, Sh.bind_of_status hstatus, hes']
  exact fun h => h.not_leaks hleaks.append_left

/-- **The native Ubuntu setup is fail-fast with a truthful exit status exactly when it fails
early**, in the driver's first lines, in `add_sudo.sh` or in `install_packages.sh`. -/
theorem setupTruthful_iff (out : Outcomes) (env : Env) (rcfiles : List String) :
    SetupTruthful out env rcfiles ↔ FailsEarly out := by
  rcases hff : out.firstFailure (earlyOccs out) with _ | o
  · -- nothing fails early: the run reaches `install_python.sh`
    refine iff_of_false (not_setupTruthful_of_not_early hff) ?_
    rintro ⟨o, ho, -⟩
    rw [hff] at ho
    cases ho
  obtain ⟨es, hes, -, hsome⟩ := failsFast_early out 0 []
  rw [List.nil_append] at hes
  rw [SetupTruthful, Sh.code, Sh.world, myubuntuSetup_eq]
  by_cases hw : o.word = "SCRIPT_DIR"
  · -- the first failure leaves only a command substitution
    have hleaks := (hsome o hff).1 hw
    have hgrow : es <+: ((Sh.blockFrom 0 (early (logMachine out))).bind
        (fun n => Sh.blockFrom n (late (logMachine out) env rcfiles)) []).2 := by
      refine Preserves.bind_from ?_ fun n =>
        Preserves.blockFrom (preserves_late (logMachine_keeps out es)) n
      rw [hes]
    obtain ⟨es', hes'⟩ := hgrow
    rw [← hes']
    refine iff_of_false (fun h => h.not_leaks hleaks.append_right) ?_
    rintro ⟨o', ho', hw'⟩
    rw [hff, Option.some.injEq] at ho'
    exact hw' (ho' ▸ hw)
  · obtain ⟨hexit, hstop⟩ := (hsome o hff).2 hw
    have hrun : Sh.blockFrom 0 (early (logMachine out)) [] = (.exit 1, es) :=
      Prod.ext hexit hes
    rw [Sh.bind_of_exit hrun]
    refine iff_of_true (hstop.truthful ?_ Nat.one_ne_zero) ⟨o, hff, hw⟩
    have hfail := List.find?_some hff
    simpa [Event.failed, handled_of_mem_earlyOccs (List.mem_of_find?_eq_some hff)] using hfail

/-- A machine on which every command succeeds and none of the tested files exists. -/
def allSucceed : Outcomes where
  status _ := 0
  isE _ := false
  isL _ := false
  isD _ := false
  isF _ := false

/-- The run in which every command succeeds is not reported as a success. -/
theorem setup_untruthful_when_all_succeed :
    ¬ SetupTruthful allSucceed ⟨["home", "user"], ["repo", "bin", "setup"], "Linux", "202401011200"⟩
      [] :=
  not_setupTruthful_of_not_early (by simp [Outcomes.firstFailure, allSucceed])

end InitialSetups.FailFast
