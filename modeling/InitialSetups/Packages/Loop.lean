import InitialSetups.Packages.Dpkg
import InitialSetups.Scripts.Machine
import Mathlib.Data.List.TakeWhile

/-!
# The loops over `PACKAGES`

The loops of `install_packages.sh`, `install_myzsh.sh` and `install_ns3_pkgs.sh` on a machine
whose world is the database of `dpkg`, with a record of the tests made and of the calls of
`apt install`.  What `apt install` does is given as a function.

A word is tested exactly when the test succeeds for the fully installed package and for no
other.  This module says when that is, for a word and then for whole runs of the loops.
-/

namespace InitialSetups.Packages

open InitialSetups.Shell InitialSetups.Scripts InitialSetups.Text

/-! ### Words -/

/-- The name in `NAME` or `NAME=VERSION`. -/
def nameOf (word : Chars) : Chars := word.takeWhile (· ≠ '=')

/-- The version in `NAME=VERSION`. -/
def versionOf (word : Chars) : Option Chars := (word.dropWhile (· ≠ '=')).tail?

/-- The entry is that of a fully installed package, at the version that the word names. -/
def FullyInstalled (word : Chars) (e : Entry) : Prop :=
  e.status = 'i' ∧ ∀ v ∈ versionOf word, e.version = v

instance (word : Chars) (e : Entry) : Decidable (FullyInstalled word e) :=
  match h : versionOf word with
  | none => decidable_of_iff (e.status = 'i') (by simp [FullyInstalled, h])
  | some v => decidable_of_iff (e.status = 'i' ∧ e.version = v) (by simp [FullyInstalled, h])

/-- The package that the word names is fully installed. -/
def installed (db : Db) (word : Chars) : Bool :=
  (db.entry (nameOf word)).any fun e => FullyInstalled word e

/-- The test recognises the entry as installed. -/
def Recognised (widths : Widths) (word : Chars) (e : Entry) : Prop :=
  '=' ∉ word ∧ e.desired = 'i' ∧ Named word (e.line widths word)

/-- The test is exact for the word: it recognises the fully installed package and nothing
else. -/
def TestExact (widths : Widths) (db : Db) (word : Chars) : Prop :=
  ∀ e, db.entry (nameOf word) = some e → (Recognised widths word e ↔ FullyInstalled word e)

section Words

variable {widths : Widths} {db : Db} {word : Chars} {e : Entry}

lemma dropWhile_of_unpinned (h : '=' ∉ word) : word.dropWhile (· ≠ '=') = [] := by
  refine List.dropWhile_eq_nil_iff.2 fun c hc => ?_
  simp only [decide_eq_true_eq]
  rintro rfl
  exact h hc

lemma nameOf_of_unpinned (h : '=' ∉ word) : nameOf word = word := by
  have hsplit := List.takeWhile_append_dropWhile (p := (· ≠ '=')) (l := word)
  rwa [dropWhile_of_unpinned h, List.append_nil] at hsplit

lemma versionOf_of_unpinned (h : '=' ∉ word) : versionOf word = none := by
  rw [versionOf, dropWhile_of_unpinned h]
  rfl

/-- A word with a version is the name of no package. -/
lemma unpinned_of_entry (h : db.entry word = some e) : '=' ∉ word := by
  have hname := db.named word e h
  rw [IsPackageName, Bool.and_eq_true, List.all_eq_true] at hname
  exact fun hc => absurd (hname.2 _ hc) (by decide)

lemma found_iff_recognised : found widths db word = true ↔
    ∃ e, db.entry (nameOf word) = some e ∧ Recognised widths word e := by
  rw [found_iff]
  constructor
  · rintro ⟨e, he, hdesired, hnamed⟩
    have hplain := unpinned_of_entry he
    exact ⟨e, by rwa [nameOf_of_unpinned hplain], hplain, hdesired, hnamed⟩
  · rintro ⟨e, he, hplain, hdesired, hnamed⟩
    rw [nameOf_of_unpinned hplain] at he
    exact ⟨e, he, hdesired, hnamed⟩

lemma installed_iff :
    installed db word = true ↔ ∃ e, db.entry (nameOf word) = some e ∧ FullyInstalled word e := by
  simp [installed, Option.any_eq_true]

/-- The test is exact when it succeeds just for the installed packages. -/
lemma testExact_iff : TestExact widths db word ↔ found widths db word = installed db word := by
  rw [Bool.eq_iff_iff, found_iff_recognised, installed_iff, TestExact]
  cases he : db.entry (nameOf word) with
  | none => simp
  | some e => simp

/-- For a name without `+` the test is exact just when the desired action and the status
agree. -/
lemma testExact_of_plain (hpin : '=' ∉ word) (hplus : '+' ∉ word) :
    TestExact widths db word ↔
      ∀ e, db.entry word = some e → (e.desired = 'i' ↔ e.status = 'i') := by
  rw [TestExact, nameOf_of_unpinned hpin]
  refine forall_congr' fun e => imp_congr_right fun _ => ?_
  simp [Recognised, FullyInstalled, hpin, named_of_plain hplus, versionOf_of_unpinned hpin]

end Words

/-! ### The machine -/

/-- The database with the tests and the calls of `apt install` made so far, each with the
database it found. -/
structure PackageWorld where
  db : Db
  tests : List (Chars × Db)
  calls : List (Chars × Db)

/-- `apt install -y "$package"`: its status and the database it leaves. -/
abbrev Apt : Type := Chars → Db → ℕ × Db

section Machine

variable (widths : Widths) (apt : Apt)

/-- The line with `dpkg -l "$package" | grep -E …` in a script. -/
def dpkgLine : Script → Option ℕ
  | .installPackages | .installMyzsh | .installNs3Pkgs => some 34
  | .installMydotfiles => some 39
  | .installPython => some 42
  | _ => none

/-- Test a package. -/
def testPackage (word : Chars) : Sh PackageWorld :=
  Sh.simple fun s =>
    (if found widths s.db word then 0 else 1, { s with tests := s.tests ++ [(word, s.db)] })

/-- Call `apt install`. -/
def aptInstall (word : Chars) : Sh PackageWorld :=
  Sh.simple fun s =>
    ((apt word s.db).1, ⟨(apt word s.db).2, s.tests, s.calls ++ [(word, s.db)]⟩)

/-- The machine with the database of `dpkg`.  Its other commands are of no concern here. -/
def packageMachine : Machine PackageWorld where
  run o :=
    if dpkgLine o.script = some o.line then testPackage widths o.word.toList
    else aptInstall apt o.word.toList
  isE _ _ := false
  isL _ _ := false
  isD _ _ := false
  isF _ _ := false
  cpR _ _ _ := Sh.ret 0
  rmRf _ _ := Sh.ret 0
  rm _ _ := Sh.ret 0
  lnS _ _ _ := Sh.ret 0
  mv _ _ _ := Sh.ret 0
  mkdir _ _ := Sh.ret 0
  gitClone _ _ := Sh.ret 0
  gitPull _ _ := Sh.ret 0
  finished _ := Sh.ret 0
  returned _ _ _ := Sh.ret 0

end Machine

/-- The loops over `PACKAGES`. -/
inductive Loop where
  | installPackages
  | installMyzsh
  | installNs3Pkgs
  deriving DecidableEq, Repr

/-- The loop over a list of words. -/
def Loop.command {σ : Type} (m : Machine σ) (packages : List String) : Loop → Sh σ
  | .installPackages => packagesLoop m .installPackages 34 packages
  | .installMyzsh => packagesLoop m .installMyzsh 34 packages
  | .installNs3Pkgs => ns3PackagesLoop m packages

/-- A failing `apt install` ends the script. -/
def Loop.stops : Loop → Bool
  | .installNs3Pkgs => false
  | _ => true

section Run

variable (widths : Widths) (apt : Apt) (loop : Loop)

/-- One pass of a loop. -/
def Loop.pass (word : String) : Sh PackageWorld :=
  (testPackage widths word.toList).bind fun status =>
    if status ≠ 0 then
      if loop.stops then orExit (aptInstall apt word.toList) else aptInstall apt word.toList
    else echo

/-- A run of a loop from a database. -/
def Loop.run (packages : List String) (db : Db) : PackageWorld :=
  (loop.command (packageMachine widths apt) packages).world ⟨db, [], []⟩

variable {widths apt loop}

/-- The loops make the passes. -/
lemma command_eq (packages : List String) :
    loop.command (packageMachine widths apt) packages =
      Sh.forEach packages (loop.pass widths apt) := by
  cases loop <;> rfl

/-- A pass with a package that the test finds. -/
lemma pass_of_found {s : PackageWorld} {word : String}
    (h : found widths s.db word.toList = true) :
    loop.pass widths apt word s =
      (.status 0, { s with tests := s.tests ++ [(word.toList, s.db)] }) := by
  have htest : testPackage widths word.toList s =
      (.status 0, { s with tests := s.tests ++ [(word.toList, s.db)] }) := by
    simp [testPackage, h]
  rw [Loop.pass, Sh.bind_of_status htest]
  rfl

/-- The world after a pass with a package that the test does not find. -/
def PackageWorld.called (apt : Apt) (word : Chars) (s : PackageWorld) : PackageWorld :=
  ⟨(apt word s.db).2, s.tests ++ [(word, s.db)], s.calls ++ [(word, s.db)]⟩

lemma pass_of_not_found {s : PackageWorld} {word : String}
    (h : found widths s.db word.toList = false) :
    (loop.pass widths apt word s).2 = s.called apt word.toList ∧
      ((apt word.toList s.db).1 = 0 → (loop.pass widths apt word s).1 = .status 0) := by
  have htest : testPackage widths word.toList s =
      (.status 1, { s with tests := s.tests ++ [(word.toList, s.db)] }) := by
    simp [testPackage, h]
  have hcall : aptInstall apt word.toList { s with tests := s.tests ++ [(word.toList, s.db)] } =
      (.status (apt word.toList s.db).1, s.called apt word.toList) := rfl
  rw [Loop.pass, Sh.bind_of_status htest, if_pos Nat.one_ne_zero]
  cases loop.stops with
  | false =>
      rw [if_neg Bool.false_ne_true, hcall]
      exact ⟨rfl, fun h0 => by rw [h0]⟩
  | true =>
      rw [if_pos rfl, orExit]
      by_cases h0 : (apt word.toList s.db).1 = 0
      · rw [h0] at hcall
        rw [Sh.or_apply_zero hcall]
        exact ⟨rfl, fun _ => rfl⟩
      · rw [Sh.or_apply_ne_zero hcall h0]
        exact ⟨rfl, fun h' => absurd h' h0⟩

/-- `apt install` is called just after the tests that find nothing. -/
def Logged (widths : Widths) (s : PackageWorld) : Prop :=
  s.calls = s.tests.filter fun t => !found widths t.2 t.1

lemma preserves_logged_pass (word : String) :
    Preserves (Logged widths) (loop.pass widths apt word) := by
  intro s hs
  cases h : found widths s.db word.toList with
  | true =>
      rw [pass_of_found h]
      show s.calls = _
      rw [hs, List.filter_append]
      simp [h]
  | false =>
      rw [(pass_of_not_found h).1]
      show s.calls ++ _ = _
      rw [hs, PackageWorld.called, List.filter_append]
      simp [h]

/-- `apt install` is called for the words whose package was not fully installed when it was
tested, and for no others. -/
def Exact (s : PackageWorld) : Prop := s.calls = s.tests.filter fun t => !installed t.2 t.1

/-- The calls of a run are exact when the tests are. -/
lemma exact_iff (packages : List String) (db : Db) :
    Exact (loop.run widths apt packages db) ↔
      ∀ t ∈ (loop.run widths apt packages db).tests, TestExact widths t.2 t.1 := by
  have hlogged : Logged widths (loop.run widths apt packages db) := by
    rw [Loop.run, command_eq]
    exact Preserves.forEach (fun word _ => preserves_logged_pass word) ⟨db, [], []⟩ rfl
  rw [Exact, hlogged]
  constructor
  · intro h t ht
    have hiff : ∀ p : Chars × Db → Bool, t ∈ (loop.run widths apt packages db).tests.filter p ↔
        p t = true := fun p => by simp [List.mem_filter, ht]
    have hnot : (!found widths t.2 t.1) = true ↔ (!installed t.2 t.1) = true := by
      rw [← hiff fun t => !found widths t.2 t.1, h, hiff]
    rw [testExact_iff]
    exact Bool.not_inj (Bool.eq_iff_iff.2 hnot)
  · intro h
    refine List.filter_congr fun t ht => ?_
    rw [testExact_iff.1 (h t ht)]

/-! ### Records only grow -/

lemma preserves_calls_pass (cs : List (Chars × Db)) (word : String) :
    Preserves (fun s => cs <+: s.calls) (loop.pass widths apt word) := by
  intro s hs
  cases h : found widths s.db word.toList with
  | true =>
      rw [pass_of_found h]
      exact hs
  | false =>
      rw [(pass_of_not_found h).1]
      exact hs.trans (List.prefix_append _ _)

lemma preserves_tests_pass (t : Chars × Db) (word : String) :
    Preserves (fun s => t ∈ s.tests) (loop.pass widths apt word) := by
  intro s hs
  cases h : found widths s.db word.toList with
  | true =>
      rw [pass_of_found h]
      exact List.mem_append_left _ hs
  | false =>
      rw [(pass_of_not_found h).1]
      exact List.mem_append_left _ hs

/-- A pass records its own test. -/
lemma mem_tests_pass (word : String) (s : PackageWorld) :
    (word.toList, s.db) ∈ (loop.pass widths apt word s).2.tests := by
  cases h : found widths s.db word.toList with
  | true =>
      rw [pass_of_found h]
      simp
  | false =>
      rw [(pass_of_not_found h).1]
      simp [PackageWorld.called]

/-- No call is made just when every package is found from the start. -/
lemma calls_eq_iff {packages : List String} {s : PackageWorld} :
    (Sh.forEach packages (loop.pass widths apt) s).2.calls = s.calls ↔
      ∀ word ∈ packages, found widths s.db word.toList = true := by
  induction packages generalizing s with
  | nil => simp
  | cons word packages ih =>
      rw [List.forall_mem_cons]
      cases h : found widths s.db word.toList with
      | true =>
          rw [Sh.forEach_cons_world (pass_of_found h)]
          simpa using ih
      | false =>
          -- the call of the first pass stays in the record
          have hgrown : s.calls ++ [(word.toList, s.db)] <+:
              (Sh.forEach (word :: packages) (loop.pass widths apt) s).2.calls := by
            refine Preserves.bind_from (I := fun s' : PackageWorld =>
              s.calls ++ [(word.toList, s.db)] <+: s'.calls) ?_ fun m => Preserves.blockFrom ?_ m
            · rw [(pass_of_not_found h).1]
              exact List.prefix_refl _
            · simp only [List.forall_mem_map]
              exact fun word' _ => preserves_calls_pass _ word'
          refine ⟨fun he => ?_, fun hall => absurd hall.1 (by simp)⟩
          have hlen := hgrown.length_le
          rw [he, List.length_append, List.length_singleton] at hlen
          omega

/-! ### When installations work -/

/-- `apt install` succeeds, installs the package that each of the words names, and leaves the
other packages installed that are. -/
structure Works (apt : Apt) (packages : List String) : Prop where
  succeeds : ∀ word ∈ packages, ∀ db, (apt word.toList db).1 = 0
  installs : ∀ word ∈ packages, ∀ db, ∃ e, (apt word.toList db).2.entry (nameOf word.toList) =
    some e ∧ e.desired = 'i' ∧ FullyInstalled word.toList e
  keeps : ∀ word ∈ packages, ∀ db name e, db.entry name = some e → e.status = 'i' →
    name ≠ nameOf word.toList → ∃ e', (apt word.toList db).2.entry name = some e' ∧
      e'.desired = e.desired ∧ e'.status = 'i'

/-- The package is to be installed and is. -/
def Settled (name : Chars) (db : Db) : Prop :=
  ∃ e, db.entry name = some e ∧ e.desired = 'i' ∧ e.status = 'i'

variable {packages : List String}

lemma Settled.after_apt (h : Works apt packages) {word : String} (hw : word ∈ packages)
    {name : Chars} {db : Db} (hs : Settled name db) : Settled name (apt word.toList db).2 := by
  obtain ⟨e, he, hdesired, hstatus⟩ := hs
  by_cases hname : name = nameOf word.toList
  · obtain ⟨e', he', hdesired', hfull⟩ := h.installs word hw db
    exact ⟨e', hname ▸ he', hdesired', hfull.1⟩
  · obtain ⟨e', he', hdesired', hstatus'⟩ := h.keeps word hw db name e he hstatus hname
    exact ⟨e', he', hdesired'.trans hdesired, hstatus'⟩

/-- A pass ends normally, settles its package if the test is exact, and unsettles none. -/
lemma pass_settles (h : Works apt packages) {word : String} (hw : word ∈ packages)
    (hpin : '=' ∉ word.toList) {s : PackageWorld} (hexact : TestExact widths s.db word.toList) :
    ∃ s', loop.pass widths apt word s = (.status 0, s') ∧ Settled word.toList s'.db ∧
      ∀ name, Settled name s.db → Settled name s'.db := by
  cases hf : found widths s.db word.toList with
  | true =>
      refine ⟨_, pass_of_found hf, ?_, fun _ hs => hs⟩
      obtain ⟨e, he, hrec⟩ := found_iff_recognised.1 hf
      have hfull := (hexact e he).1 hrec
      rw [nameOf_of_unpinned hpin] at he
      exact ⟨e, he, hrec.2.1, hfull.1⟩
  | false =>
      obtain ⟨hworld, hok⟩ := @pass_of_not_found widths apt loop s word hf
      refine ⟨_, Prod.ext (hok (h.succeeds word hw _)) hworld, ?_, fun _ hs => hs.after_apt h hw⟩
      obtain ⟨e, he, hdesired, hfull⟩ := h.installs word hw s.db
      rw [nameOf_of_unpinned hpin] at he
      exact ⟨e, he, hdesired, hfull.1⟩

/-- The tests of a run are exact at each of its passes. -/
lemma atEachPass_of_tests {s : PackageWorld}
    (hend : ∀ word ∈ packages, ∀ s, TestExact widths s.db word.toList →
      ∃ s', loop.pass widths apt word s = (.status 0, s'))
    (h : ∀ t ∈ (Sh.forEach packages (loop.pass widths apt) s).2.tests, TestExact widths t.2 t.1) :
    Sh.AtEachPass (loop.pass widths apt) (fun word s => TestExact widths s.db word.toList)
      packages s := by
  induction packages generalizing s with
  | nil => trivial
  | cons word packages ih =>
      have hkept : (word.toList, s.db) ∈
          (Sh.forEach (word :: packages) (loop.pass widths apt) s).2.tests := by
        refine Preserves.bind_from (I := fun s' : PackageWorld => (word.toList, s.db) ∈ s'.tests)
          (mem_tests_pass word s) fun m => Preserves.blockFrom ?_ m
        simp only [List.forall_mem_map]
        exact fun word' _ => preserves_tests_pass _ word'
      have hexact : TestExact widths s.db word.toList := h _ hkept
      obtain ⟨s', hs'⟩ := hend word List.mem_cons_self s hexact
      rw [Sh.forEach_cons_world hs'] at h
      refine ⟨hexact, ?_⟩
      rw [hs']
      exact ih (fun w hw => hend w (List.mem_cons_of_mem word hw)) h

/-- When the installations work and the tests are exact, everything is settled in the end. -/
lemma run_settles (h : Works apt packages) (hpin : ∀ word ∈ packages, '=' ∉ word.toList) (db : Db)
    (htests : ∀ t ∈ (loop.run widths apt packages db).tests, TestExact widths t.2 t.1) :
    ∀ word ∈ packages, Settled word.toList (loop.run widths apt packages db).db := by
  rw [Loop.run, command_eq, Sh.world] at htests ⊢
  have hpass : Sh.AtEachPass (loop.pass widths apt)
      (fun word s => word ∈ packages ∧ TestExact widths s.db word.toList) packages
      ⟨db, [], []⟩ := by
    refine (Sh.AtEachPass.of_forall (fun word hw _ => hw) _).and
      (atEachPass_of_tests (fun word hw s hexact => ?_) htests)
    obtain ⟨s', hs', -⟩ := @pass_settles widths apt loop packages h word hw (hpin word hw) s hexact
    exact ⟨s', hs'⟩
  have hend := Sh.forEach_induct
    (I := fun (done : List String) (s : PackageWorld) =>
      ∀ word ∈ done, Settled word.toList s.db) []
    ⟨db, [], []⟩ (fun done word s hdone hw => ?_) (by simp) hpass
  · intro word hw
    exact hend word (by simpa using hw)
  · obtain ⟨s', hs', hsettled, hkeeps⟩ :=
      @pass_settles widths apt loop packages h word hw.1 (hpin word hw.1) s hw.2
    exact ⟨0, s', hs', List.forall_mem_cons.2 ⟨hsettled, fun w hw => hkeeps _ (hdone w hw)⟩⟩

/-- In the end the word has no version and its name is found in its line. -/
def Findable (widths : Widths) (db : Db) (word : Chars) : Prop :=
  '=' ∉ word ∧ ∀ e, db.entry word = some e → Named word (e.line widths word)

/-- **Exactly when the loops install what is missing and nothing else.**  The calls of
`apt install` are exact if and only if the tests are; and when `apt install` works, they are
exact, everything is installed in the end and a second run calls `apt install` for nothing if
and only if the tests are exact and every word is findable in the end. -/
theorem loop_installs_iff (widths : Widths) (apt : Apt) (loop : Loop) (packages : List String)
    (db : Db) :
    (Exact (loop.run widths apt packages db) ↔
      ∀ t ∈ (loop.run widths apt packages db).tests, TestExact widths t.2 t.1) ∧
    (Works apt packages →
      ((Exact (loop.run widths apt packages db) ∧
        (∀ word ∈ packages,
          installed (loop.run widths apt packages db).db word.toList = true) ∧
        (loop.run widths apt packages (loop.run widths apt packages db).db).calls = []) ↔
      ((∀ t ∈ (loop.run widths apt packages db).tests, TestExact widths t.2 t.1) ∧
        ∀ word ∈ packages,
          Findable widths (loop.run widths apt packages db).db word.toList))) := by
  refine ⟨exact_iff packages db, fun hworks => ?_⟩
  rw [exact_iff]
  refine and_congr_right fun htests => ?_
  have hsecond : ∀ db', (loop.run widths apt packages db').calls = [] ↔
      ∀ word ∈ packages, found widths db' word.toList = true := by
    intro db'
    rw [Loop.run, command_eq]
    exact calls_eq_iff (s := ⟨db', [], []⟩)
  rw [hsecond]
  constructor
  · rintro ⟨-, hfound⟩ word hw
    obtain ⟨e, he, hplain, -, hnamed⟩ := found_iff_recognised.1 (hfound word hw)
    rw [nameOf_of_unpinned hplain] at he
    refine ⟨hplain, fun e' he' => ?_⟩
    rw [he, Option.some.injEq] at he'
    exact he' ▸ hnamed
  · intro hfindable
    have hsettled := run_settles hworks (fun word hw => (hfindable word hw).1) db htests
    refine ⟨fun word hw => ?_, fun word hw => ?_⟩
    · obtain ⟨e, he, -, hstatus⟩ := hsettled word hw
      have hpin := (hfindable word hw).1
      refine installed_iff.2 ⟨e, by rwa [nameOf_of_unpinned hpin], hstatus, ?_⟩
      simp [versionOf_of_unpinned hpin]
    · obtain ⟨e, he, hdesired, -⟩ := hsettled word hw
      exact found_iff.2 ⟨e, he, hdesired, (hfindable word hw).2 e he⟩

end Run

/-! ### Small databases -/

/-- The database with a further package. -/
def Db.set (db : Db) (name : Chars) (e : Entry) (h : IsPackageName name = true) : Db where
  entry n := if n = name then some e else db.entry n
  named n e' he := by
    split_ifs at he with hn
    · rwa [hn]
    · exact db.named n e' he

/-- The database that knows no package. -/
def noPackages : Db := ⟨fun _ => none, by simp⟩

/-- The entry of an installed package. -/
def installedEntry (version : Chars) : Entry :=
  ⟨'i', 'i', version, "amd64".toList, "a package".toList⟩

/-- An `apt install` that installs the version asked for, or version 1. -/
def plainApt : Apt := fun word db =>
  if h : IsPackageName (nameOf word) = true then
    (0, db.set (nameOf word) (installedEntry ((versionOf word).getD ['1'])) h)
  else (100, db)

lemma works_plainApt {packages : List String}
    (h : ∀ word ∈ packages, IsPackageName (nameOf word.toList) = true) :
    Works plainApt packages := by
  refine ⟨fun word hw db => ?_, fun word hw db => ?_, fun word hw db name e he hstatus hne => ?_⟩
  · rw [plainApt, dif_pos (h word hw)]
  · rw [plainApt, dif_pos (h word hw)]
    refine ⟨_, if_pos rfl, rfl, rfl, fun v hv => ?_⟩
    rw [Option.mem_def.1 hv]
    rfl
  · rw [plainApt, dif_pos (h word hw)]
    exact ⟨e, (if_neg hne).trans he, rfl, hstatus⟩

def sampleWidths : Widths := ⟨20, 20, 8⟩

/-- `vim` is installed. -/
def vimDb : Db := noPackages.set "vim".toList (installedEntry "8.1".toList) (by decide)

/-- From a database with `vim`, the loop installs `git`, and nothing in a second run. -/
theorem loop_installs_git :
    Exact (Loop.installMyzsh.run sampleWidths plainApt ["vim", "git"] vimDb) ∧
    (∀ word ∈ ["vim", "git"], installed
      (Loop.installMyzsh.run sampleWidths plainApt ["vim", "git"] vimDb).db word.toList = true) ∧
    (Loop.installMyzsh.run sampleWidths plainApt ["vim", "git"]
      (Loop.installMyzsh.run sampleWidths plainApt ["vim", "git"] vimDb).db).calls = [] := by
  refine ((loop_installs_iff sampleWidths plainApt .installMyzsh ["vim", "git"] vimDb).2
    (works_plainApt (by decide))).2 ⟨?_, ?_⟩
  · have htests : (Loop.installMyzsh.run sampleWidths plainApt ["vim", "git"] vimDb).tests =
        [("vim".toList, vimDb), ("git".toList, vimDb)] := rfl
    have hvim : vimDb.entry "vim".toList = some (installedEntry "8.1".toList) := rfl
    have hgit : vimDb.entry "git".toList = none := rfl
    rw [htests, List.forall_mem_cons, List.forall_mem_singleton]
    constructor
    · rw [testExact_of_plain (by decide) (by decide), hvim]
      rintro e ⟨⟩
      decide
    · rw [testExact_of_plain (by decide) (by decide), hgit]
      rintro e ⟨⟩
  · have hplain : ∀ word ∈ ["vim", "git"], '=' ∉ word.toList ∧ '+' ∉ word.toList := by decide
    exact fun word hw => ⟨(hplain word hw).1, fun e _ => named_of_plain (hplain word hw).2 _ e⟩

/-- A package that is at the version asked for is installed all the same. -/
theorem pinned_package_reinstalled :
    ¬ Exact (Loop.installPackages.run sampleWidths plainApt
      ["google-chrome-stable=91.0.4472.164-1"]
      (noPackages.set "google-chrome-stable".toList
        (installedEntry "91.0.4472.164-1".toList) (by decide))) := by
  intro h
  have hlen := congrArg List.length h
  exact absurd hlen (by decide +kernel)

end InitialSetups.Packages
