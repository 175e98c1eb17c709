import InitialSetups.Scripts.UbuntuSetup2

/-!
# When the interactive setup does what was answered

The acts of a run are computed step by step (`ubuntuSetup2_apply`).  The run follows the answers
exactly when the four guarded steps are all accepted and all succeed and the scripts of the
accepted steps are found from the directory of the driver (`followsAnswers_iff`): a declined
guarded step takes the branch that reports a failure, and `exit 1` in that branch ends only a
subshell.  In the repository `lib` is not below `bin/setup`, so no run follows its answers.
-/

namespace InitialSetups.Interactive

open InitialSetups.Shell InitialSetups.Files InitialSetups.Scripts

/-! ### Steps -/

/-- The steps with a prompt, in the order in which the driver runs them. -/
inductive Step where
  | addAptRepository
  | addJapanesePackages
  | installAptPackages
  | swapKey
  | enableHibernate
  | linkDotfiles
  | changeUbuntuSettings
  deriving DecidableEq, Repr

namespace Step

/-- The position of a step in the driver. -/
def rank : Step → ℕ
  | addAptRepository => 0
  | addJapanesePackages => 1
  | installAptPackages => 2
  | swapKey => 3
  | enableHibernate => 4
  | linkDotfiles => 5
  | changeUbuntuSettings => 6

/-- The script of a step, a file in `lib`. -/
def script : Step → String
  | addAptRepository => "add_apt_repositories_and_update.sh"
  | addJapanesePackages => "add_japanese_packages.sh"
  | installAptPackages => "install_apt_packages.sh"
  | swapKey => "keyswap.sh"
  | enableHibernate => "enable_hibernate.sh"
  | linkDotfiles => "create_symbolic_link.sh"
  | changeUbuntuSettings => "change_ubuntu_settings.sh"

/-- The report that a guarded step has failed. -/
def failedText : Step → Option String
  | addAptRepository => some "####failed to add repositories; exit 1"
  | addJapanesePackages => some "####failed to add japanese packages; exit1"
  | installAptPackages => some "####failed to install apt packages; exit 1"
  | linkDotfiles => some "####failed to create symbolic links of dotfiles; exit 1"
  | _ => none

/-- The step is written as `(…) || (echo failed; exit 1)`. -/
def guarded (s : Step) : Bool := s.failedText.isSome

lemma script_injective {s t : Step} (h : s.script = t.script) : s = t := by
  cases s <;> cases t <;> first | rfl | exact absurd h (by decide)

end Step

/-- The prompt of a step was accepted. -/
def accepted (a : Answers) : Step → Bool
  | .addAptRepository => unlessNo a.addAptRepository
  | .addJapanesePackages => unlessNo a.addJapanesePackages
  | .installAptPackages => unlessNo a.installAptPackages
  | .swapKey => unlessNo a.swapKey
  | .enableHibernate => onlyYes a.enableHibernate
  | .linkDotfiles => unlessNo a.deleteDefaultDotfiles
  | .changeUbuntuSettings => unlessNo a.changeUbuntuSettings

/-- The arguments that the driver gives to the script of a step. -/
def args (a : Answers) : Step → List String
  | .linkDotfiles => [deleteDefaultDotfiles a.deleteDefaultDotfiles]
  | _ => []

/-- What can be done with the dotfiles that are there. -/
inductive Meaning where
  | delete
  | backup
  | leaveAlone
  deriving DecidableEq, Repr

/-- What the seventh prompt, `delete or backup default files? [Y/b/n] default[y]`, says an answer
means. -/
def promptMeaning (answer : String) : Meaning :=
  if answer ∈ ["N", "n", "no", "No", "NO"] then .leaveAlone
  else if answer ∈ ["B", "b", "backup", "Backup", "BACKUP"] then .backup
  else .delete

/-- What `create_symbolic_link.sh` says its modes do. -/
def modeMeaning (mode : String) : Option Meaning :=
  if mode = "yes" then some .delete
  else if mode = "backup" then some .backup
  else if mode = "no" then some .backup
  else none

variable (site : Site) (a : Answers)

/-- The status of a step that is accepted and run. -/
def stepStatus (s : Step) : ℕ :=
  if site.layout (fromDriver s.script) then scriptStatus site s.script (args a s) else 127

/-- How often the script of a step is started. -/
def timesRun (s : Step) (acts : List Act) : ℕ :=
  acts.countP fun act => match act with
    | .ran script _ => script = fromDriver s.script
    | .said _ => false

/-- A run with the status `code` and the acts `acts` does exactly what was answered. -/
structure FollowsAnswers (code : ℕ) (acts : List Act) : Prop where
  /-- a declined step is not run and not reported as failed -/
  declined : ∀ s, accepted a s = false →
    timesRun s acts = 0 ∧ ∀ text ∈ s.failedText, Act.said text ∉ acts
  /-- an accepted step is run once, unless a guarded step has failed before it -/
  ran_once : ∀ s, accepted a s = true →
    (∀ g : Step, g.guarded = true → g.rank < s.rank → accepted a g = true →
      stepStatus site a g = 0) →
    timesRun s acts = 1
  /-- the mode for the dotfiles is accepted and means what the prompt says -/
  mode : accepted a .linkDotfiles = true →
    createAccepts (deleteDefaultDotfiles a.deleteDefaultDotfiles) = true ∧
      modeMeaning (deleteDefaultDotfiles a.deleteDefaultDotfiles) =
        some (promptMeaning a.deleteDefaultDotfiles)
  /-- a guarded step that fails ends the run -/
  stops : ∀ g : Step, g.guarded = true → accepted a g = true → stepStatus site a g ≠ 0 →
    (∀ s : Step, g.rank < s.rank → timesRun s acts = 0) ∧ code ≠ 0

/-! ### The acts of a run -/

variable {site a}

/-- What `bash -x lib/script args` adds to the acts. -/
def bashActs (site : Site) (script : String) (args : List String) : List Act :=
  if site.layout (fromDriver script) then [.ran (fromDriver script) args] else []

/-- The status of `bash -x lib/script args`. -/
def bashStatus (site : Site) (script : String) (args : List String) : ℕ :=
  if site.layout (fromDriver script) then scriptStatus site script args else 127

lemma bashLib_apply (site : Site) (script : String) (args : List String) (acts : List Act) :
    bashLib site script args acts =
      (.status (bashStatus site script args), acts ++ bashActs site script args) := by
  by_cases h : site.layout (fromDriver script) = true <;>
    simp [bashLib, bashStatus, bashActs, h]

/-- What a guarded step adds to the acts. -/
def guardedActs (site : Site) (test : Bool) (script : String) (args : List String)
    (succeed failed : String) : List Act :=
  if test then
    bashActs site script args ++
      [.said (if bashStatus site script args = 0 then succeed else failed)]
  else [.said failed]

lemma guardedStep_apply (test : Bool) (script : String) (args : List String)
    (succeed failed : String) (acts : List Act) :
    ∃ n, guardedStep site test script args succeed failed acts =
      (.status n, acts ++ guardedActs site test script args succeed failed) := by
  unfold guardedStep
  have hbash := bashLib_apply site script args acts
  cases test with
  | false => exact ⟨1, by simp [Sh.or, Sh.and, Sh.bind, guardedActs, say]⟩
  | true =>
      by_cases h : bashStatus site script args = 0
      · exact ⟨0, by simp [Sh.or, Sh.and, Sh.bind, guardedActs, say, hbash, h]⟩
      · exact ⟨1, by simp [Sh.or, Sh.and, Sh.bind, guardedActs, say, hbash, h]⟩

/-- What a step without a failure handler adds to the acts. -/
def plainActs (site : Site) (flag : Bool) (script succeed : String) : List Act :=
  if flag then
    bashActs site script [] ++ if bashStatus site script [] = 0 then [.said succeed] else []
  else []

lemma plainStep_apply (flag : Bool) (script succeed : String) (acts : List Act) :
    ∃ n, plainStep site flag script succeed acts =
      (.status n, acts ++ plainActs site flag script succeed) := by
  unfold plainStep
  have hbash := bashLib_apply site script [] acts
  cases flag with
  | false => exact ⟨1, by simp [Sh.and, Sh.bind, plainActs]⟩
  | true =>
      by_cases h : bashStatus site script [] = 0
      · exact ⟨0, by simp [Sh.and, Sh.bind, plainActs, say, hbash, h]⟩
      · exact ⟨bashStatus site script [], by simp [Sh.and, Sh.bind, plainActs, hbash, h]⟩

/-- The command ends normally and adds `es` to the acts. -/
def Adds (c : Sh (List Act)) (es : List Act) : Prop :=
  ∀ acts, ∃ n, c acts = (.status n, acts ++ es)

lemma adds_bashLib (script : String) (args : List String) :
    Adds (bashLib site script args) (bashActs site script args) :=
  fun acts => ⟨_, bashLib_apply site script args acts⟩

lemma Adds.blockFrom_cons {c : Sh (List Act)} {cs : List (Sh (List Act))} {es es' : List Act}
    (hc : Adds c es) (hcs : ∀ n acts, Sh.blockFrom n cs acts = (.exit 0, acts ++ es')) (n : ℕ)
    (acts : List Act) : Sh.blockFrom n (c :: cs) acts = (.exit 0, acts ++ (es ++ es')) := by
  obtain ⟨m, hm⟩ := hc acts
  rw [Sh.blockFrom_cons, Sh.bind_of_status hm, hcs, List.append_assoc]

/-- What the driver does for a step. -/
def stepActs (site : Site) (a : Answers) (s : Step) : List Act :=
  match s with
  | .addAptRepository => guardedActs site (accepted a s) s.script [] "####succeed to add repositories"
      "####failed to add repositories; exit 1"
  | .addJapanesePackages => guardedActs site (accepted a s) s.script []
      "####succeed to add japanese packages" "####failed to add japanese packages; exit1"
  | .installAptPackages => guardedActs site (accepted a s) s.script []
      "####succeed to install apt packages" "####failed to install apt packages; exit 1"
  | .swapKey => plainActs site (accepted a s) s.script "####succeed to swap caps for ctrl"
  | .enableHibernate => plainActs site (accepted a s) s.script "####succeed to enable hibernate"
  | .linkDotfiles => guardedActs site (accepted a s) s.script (args a s)
      "####succeed to create symbolic links to dotfiles"
      "####failed to create symbolic links of dotfiles; exit 1"
  | .changeUbuntuSettings => plainActs site (accepted a s) s.script
      "####Change ubuntu settings such as power plan and dock icons"

/-- All that a run does. -/
def setupActs (site : Site) (testHost : Bool) (a : Answers) : List Act :=
  stepActs site a .addAptRepository ++ (stepActs site a .addJapanesePackages ++
    (stepActs site a .installAptPackages ++ (stepActs site a .swapKey ++
    (stepActs site a .enableHibernate ++ (bashActs site "download_dotfiles.sh" [] ++
    (bashActs site "download_my_fonts.sh" [] ++ (stepActs site a .linkDotfiles ++
    (bashActs site "install_python.sh" [] ++
    ((if testHost then bashActs site "install_ruby.sh" [] else []) ++
    (stepActs site a .changeUbuntuSettings ++ []))))))))))

lemma mode_ne_false (answer : String) :
    decide (deleteDefaultDotfiles answer ≠ "false") = unlessNo answer := by
  unfold deleteDefaultDotfiles
  cases h : unlessNo answer with
  | false => simp
  | true =>
      rw [if_neg (by simp)]
      split_ifs <;> decide

/-- The acts of a run; it always ends with `exit 0`. -/
lemma ubuntuSetup2_apply (testHost : Bool) :
    ubuntuSetup2 site testHost a [] = (.exit 0, setupActs site testHost a) := by
  unfold ubuntuSetup2 Sh.block
  rw [mode_ne_false, ← List.nil_append (setupActs site testHost a)]
  refine Adds.blockFrom_cons (guardedStep_apply _ _ _ _ _) ?_ _ _
  refine Adds.blockFrom_cons (guardedStep_apply _ _ _ _ _) ?_
  refine Adds.blockFrom_cons (guardedStep_apply _ _ _ _ _) ?_
  refine Adds.blockFrom_cons (plainStep_apply _ _ _) ?_
  refine Adds.blockFrom_cons (plainStep_apply _ _ _) ?_
  refine Adds.blockFrom_cons (adds_bashLib _ _) ?_
  refine Adds.blockFrom_cons (adds_bashLib _ _) ?_
  refine Adds.blockFrom_cons (guardedStep_apply _ _ _ _ _) ?_
  refine Adds.blockFrom_cons (adds_bashLib _ _) ?_
  refine Adds.blockFrom_cons (?_) ?_
  · cases testHost with
    | false => exact fun acts => ⟨0, by simp⟩
    | true => exact adds_bashLib _ _
  refine Adds.blockFrom_cons (plainStep_apply _ _ _) ?_
  intro n acts
  simp

/-! ### Which scripts a run starts -/

lemma timesRun_append (s : Step) (acts acts' : List Act) :
    timesRun s (acts ++ acts') = timesRun s acts + timesRun s acts' :=
  List.countP_append

lemma timesRun_bashActs (s : Step) (script : String) (args : List String) :
    timesRun s (bashActs site script args) =
      if script = s.script ∧ site.layout (fromDriver s.script) then 1 else 0 := by
  by_cases hs : script = s.script
  · subst hs
    by_cases h : site.layout (fromDriver s.script) = true <;> simp [timesRun, bashActs, h]
  · have hne : fromDriver script ≠ fromDriver s.script := by simpa [fromDriver] using hs
    by_cases h : site.layout (fromDriver script) = true <;>
      simp [timesRun, bashActs, h, hs, hne]

lemma timesRun_guardedActs (s : Step) (test : Bool) (script : String) (args : List String)
    (succeed failed : String) :
    timesRun s (guardedActs site test script args succeed failed) =
      if test ∧ script = s.script ∧ site.layout (fromDriver s.script) then 1 else 0 := by
  cases test with
  | false => simp [guardedActs, timesRun]
  | true =>
      have hsaid : ∀ text, timesRun s [.said text] = 0 := fun _ => by simp [timesRun]
      simp [guardedActs, timesRun_append, timesRun_bashActs, hsaid]

lemma timesRun_plainActs (s : Step) (flag : Bool) (script succeed : String) :
    timesRun s (plainActs site flag script succeed) =
      if flag ∧ script = s.script ∧ site.layout (fromDriver s.script) then 1 else 0 := by
  cases flag with
  | false => simp [plainActs, timesRun]
  | true =>
      have hsaid :
          timesRun s (if bashStatus site script [] = 0 then [.said succeed] else []) = 0 := by
        split_ifs <;> simp [timesRun]
      simp [plainActs, timesRun_append, timesRun_bashActs, hsaid]

lemma timesRun_stepActs (s t : Step) :
    timesRun s (stepActs site a t) =
      if accepted a t ∧ t = s ∧ site.layout (fromDriver s.script) then 1 else 0 := by
  have hst : t.script = s.script ↔ t = s := ⟨Step.script_injective, fun h => h ▸ rfl⟩
  cases t <;> simp only [stepActs, timesRun_guardedActs, timesRun_plainActs, hst]

/-- A step is run exactly when it is accepted and its script is found. -/
lemma timesRun_setupActs (s : Step) (testHost : Bool) :
    timesRun s (setupActs site testHost a) =
      if accepted a s ∧ site.layout (fromDriver s.script) then 1 else 0 := by
  have hother : ∀ script : String, script ≠ s.script →
      timesRun s (bashActs site script []) = 0 := by
    intro script h
    rw [timesRun_bashActs, if_neg (fun h' => h h'.1)]
  have hnil : timesRun s [] = 0 := rfl
  have hruby : timesRun s (if testHost then bashActs site "install_ruby.sh" [] else []) = 0 := by
    split_ifs
    · exact hother _ (by cases s <;> decide)
    · exact hnil
  have hsum : timesRun s (setupActs site testHost a) =
      timesRun s (stepActs site a .addAptRepository) +
      (timesRun s (stepActs site a .addJapanesePackages) +
      (timesRun s (stepActs site a .installAptPackages) +
      (timesRun s (stepActs site a .swapKey) + (timesRun s (stepActs site a .enableHibernate) +
      (timesRun s (stepActs site a .linkDotfiles) +
        timesRun s (stepActs site a .changeUbuntuSettings)))))) := by
    simp only [setupActs, timesRun_append, hruby, hnil,
      hother "download_dotfiles.sh" (by cases s <;> decide),
      hother "download_my_fonts.sh" (by cases s <;> decide),
      hother "install_python.sh" (by cases s <;> decide)]
    omega
  rw [hsum]
  simp only [timesRun_stepActs]
  cases s <;> simp

/-! ### The exact condition -/

/-- A guarded step that is declined takes the branch that reports a failure. -/
lemma said_failed_of_declined {s : Step} (h : accepted a s = false) {text : String}
    (ht : s.failedText = some text) (testHost : Bool) :
    Act.said text ∈ setupActs site testHost a := by
  have hmem : Act.said text ∈ stepActs site a s := by
    cases s <;> simp only [Step.failedText, Option.some.injEq, reduceCtorEq] at ht <;>
      simp [stepActs, guardedActs, h, ht]
  cases s <;> simp only [Step.failedText, Option.some.injEq, reduceCtorEq] at ht <;>
    simp [setupActs, hmem]

/-- The only mode that is both derived from an answer and accepted by its script. -/
lemma mode_of_accepted {answer : String} (h : createAccepts (deleteDefaultDotfiles answer)) :
    deleteDefaultDotfiles answer = "backup" ∧ promptMeaning answer = .backup := by
  unfold deleteDefaultDotfiles at h ⊢
  split_ifs at h ⊢ with h₁ h₂
  · exact absurd h (by decide)
  · refine ⟨rfl, ?_⟩
    have hno : answer ∉ ["N", "n", "no", "No", "NO"] := by
      simpa [unlessNo, Bool.or_assoc, or_assoc] using h₁
    rw [promptMeaning, if_neg hno, if_pos (by simpa [or_assoc] using h₂)]
  · exact absurd h (by decide)

/-- **The run follows the answers exactly when** every guarded step is accepted and succeeds and
the script of every accepted step is found from the directory of the driver. -/
theorem followsAnswers_iff (testHost : Bool) :
    FollowsAnswers site a 0 (setupActs site testHost a) ↔
      (∀ g : Step, g.guarded = true → accepted a g = true ∧ stepStatus site a g = 0) ∧
        ∀ s, accepted a s = true → site.layout (fromDriver s.script) = true := by
  constructor
  · intro h
    have hg : ∀ g : Step, g.guarded = true → accepted a g = true ∧ stepStatus site a g = 0 := by
      intro g hg
      obtain ⟨text, ht⟩ := Option.isSome_iff_exists.1 hg
      have hacc : accepted a g = true := by
        by_contra hdec
        rw [Bool.not_eq_true] at hdec
        exact (h.declined g hdec).2 text ht (said_failed_of_declined hdec ht testHost)
      refine ⟨hacc, ?_⟩
      by_contra hst
      exact (h.stops g hg hacc hst).2 rfl
    refine ⟨hg, fun s hs => ?_⟩
    have hone := h.ran_once s hs fun g hguard _ _ => (hg g hguard).2
    rw [timesRun_setupActs] at hone
    by_contra hl
    rw [if_neg fun h' => hl h'.2] at hone
    cases hone
  · rintro ⟨hg, hl⟩
    refine ⟨fun s hs => ⟨?_, fun text ht => ?_⟩, fun s hs _ => ?_, fun _ => ?_,
      fun g hguard _ hst => absurd (hg g hguard).2 hst⟩
    · rw [timesRun_setupActs, if_neg]
      rw [hs]
      simp
    · have hguard : s.guarded = true := Option.isSome_iff_exists.2 ⟨text, ht⟩
      rw [(hg s hguard).1] at hs
      cases hs
    · rw [timesRun_setupActs, if_pos ⟨hs, hl s hs⟩]
    · have hst := (hg .linkDotfiles rfl).2
      have hacc : createAccepts (deleteDefaultDotfiles a.deleteDefaultDotfiles) = true := by
        by_contra hrej
        rw [stepStatus, if_pos (hl _ (hg .linkDotfiles rfl).1), scriptStatus, if_pos] at hst
        · cases hst
        · exact ⟨rfl, by simpa [args] using hrej⟩
      obtain ⟨hmode, hmean⟩ := mode_of_accepted hacc
      rw [hmode, hmean]
      decide

/-- The run of `ubuntu_setup_2.sh` on the lines typed does exactly what was answered. -/
def SetupFollowsAnswers (site : Site) (testHost : Bool) (typed : List String) : Prop :=
  FollowsAnswers site (readAnswers typed)
    (Sh.code (ubuntuSetup2 site testHost (readAnswers typed)) [])
    (Sh.world (ubuntuSetup2 site testHost (readAnswers typed)) [])

/-- The repository as it is, with an exit status for each script. -/
def repository (status : Path → ℕ) : Site := ⟨fun p => p ∈ repoFiles, status⟩

lemma not_setupFollowsAnswers (status : Path → ℕ) (testHost : Bool) (typed : List String) :
    ¬ SetupFollowsAnswers (repository status) testHost typed := by
  rw [SetupFollowsAnswers, Sh.code, Sh.world, ubuntuSetup2_apply, Flow.code_exit,
    followsAnswers_iff]
  rintro ⟨hg, hl⟩
  have hfound := hl .addAptRepository (hg .addAptRepository rfl).1
  -- `bin/setup/lib` does not exist
  have hmissing : fromDriver (Step.script .addAptRepository) ∉ repoFiles := by decide
  exact hmissing (by simpa [repository] using hfound)

/-- **In the repository's own layout no run does what was answered**, whatever is typed and
whatever the scripts return. -/
theorem never_setupFollowsAnswers :
    ∀ (status : Path → ℕ) (testHost : Bool) (typed : List String),
      ¬ SetupFollowsAnswers (repository status) testHost typed :=
  not_setupFollowsAnswers

/-- Seven times Enter, every script ready to succeed. -/
theorem defaults_not_followed :
    ¬ SetupFollowsAnswers (repository fun _ => 0) false ["", "", "", "", "", "", ""] :=
  not_setupFollowsAnswers _ _ _

end InitialSetups.Interactive
