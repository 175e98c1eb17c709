import InitialSetups.Shell.Triple
import InitialSetups.Files.Commands

/-!
# The commands the scripts run, and the idioms they share

Every script of the repository is translated once, as a function of the machine it runs on.
`Machine σ` lists the commands the scripts use; a machine whose world is a disk and a machine
whose world is a log of the commands run are both instances.

An occurrence of a command is named by the script, the line of the script and, in a loop, the
word the loop is at.  `handled` records whether the line gives the command a failure handler:
`|| exit 1`, `|| (echo …; exit 1)` or `|| echo … && exit 1`.

`echo`, `basename`, `dirname`, `pwd`, `date` and `alias` leave nothing behind that the scripts
look at again; they are not recorded.
-/

namespace InitialSetups.Scripts

open InitialSetups.Shell InitialSetups.Files

/-- The scripts that are translated. -/
inductive Script where
  | myubuntuSetup
  | addSudo
  | installPackages
  | installPython
  | installMyzsh
  | installPrezto
  | installPeco
  | installMydotfiles
  | createSymbolicLink
  | downloadDotfiles
  | cygwinSetup
  | installNs3Pkgs
  deriving DecidableEq, Repr

/-- An occurrence of a command in a script. -/
structure Occ where
  script : Script
  line : ℕ
  word : String
  handled : Bool
  deriving DecidableEq, Repr

/-- The commands of the scripts.  Paths are relative to `$HOME`. -/
structure Machine (σ : Type) where
  /-- a command that does nothing to the modelled files -/
  run : Occ → Sh σ
  /-- `[ -e p ]` -/
  isE : Path → σ → Bool
  /-- `[ -L p ]`, `[ -h p ]` -/
  isL : Path → σ → Bool
  /-- `[ -d p ]` -/
  isD : Path → σ → Bool
  /-- `[ -f p ]` -/
  isF : Path → σ → Bool
  cpR : Occ → Path → Path → Sh σ
  rmRf : Occ → Path → Sh σ
  rm : Occ → Path → Sh σ
  lnS : Occ → Target → Path → Sh σ
  mv : Occ → Path → Path → Sh σ
  mkdir : Occ → Path → Sh σ
  gitClone : Occ → Path → Sh σ
  gitPull : Occ → Path → Sh σ
  /-- the last line of a script is reached -/
  finished : Script → Sh σ
  /-- a script called on a line with or without a failure handler has come back -/
  returned : Script → Bool → ℕ → Sh σ

variable {σ : Type} (m : Machine σ)

/-- A message to the terminal. -/
def echo : Sh σ := Sh.ret 0

/-- `c || exit 1`. -/
def orExit (c : Sh σ) : Sh σ := c.or (Sh.exit 1)

/-- `c || (echo …; exit 1)`. -/
def orSubshellExit (c : Sh σ) : Sh σ := c.or (Sh.subshell (Sh.block [echo, Sh.exit 1]))

/-- `c || echo … && exit 1`. -/
def orEchoAndExit (c : Sh σ) : Sh σ := (c.or echo).and (Sh.exit 1)

/-- The two lines every script starts with,
`SCRIPT_DIR=$(cd "$(dirname …)" || exit 1; pwd)` and `cd "$SCRIPT_DIR" || exit 1`. -/
def prologue (script : Script) (line : ℕ) : List (Sh σ) :=
  [Sh.subshell (Sh.block [orExit (m.run ⟨script, line, "SCRIPT_DIR", true⟩), echo]),
   orExit (m.run ⟨script, line + 1, "cd", true⟩)]

/-- The lines every script ends with, `cd "$INITIALDIR" || exit 1` and `exit 0`. -/
def epilogue (script : Script) (line : ℕ) : List (Sh σ) :=
  [orExit (m.run ⟨script, line, "cd", true⟩), m.finished script, Sh.exit 0]

/-- `bash script` as a process of its own, on a line with or without a failure handler. -/
def call (script : Script) (handled : Bool) (body : Sh σ) : Sh σ :=
  (Sh.subshell body).bind fun n => (m.returned script handled n).seq (Sh.ret n)

/-- The loop over `PACKAGES`: what `dpkg -l "$package" | grep -E …` does not find is
installed. -/
def packagesLoop (script : Script) (line : ℕ) (packages : List String) : Sh σ :=
  Sh.forEach packages fun package =>
    (m.run ⟨script, line, package, false⟩).bind fun status =>
      if status ≠ 0 then orExit (m.run ⟨script, line + 4, package, true⟩) else echo

/-- The loop over `PACKAGES` of `install_ns3_pkgs.sh`, which goes on when an installation
fails. -/
def ns3PackagesLoop (packages : List String) : Sh σ :=
  Sh.forEach packages fun package =>
    (m.run ⟨.installNs3Pkgs, 34, package, false⟩).bind fun status =>
      if status ≠ 0 then m.run ⟨.installNs3Pkgs, 38, package, false⟩ else echo

/-! ### What every command of the machine keeps -/

/-- Every command of the machine keeps `I`, whichever way it ends. -/
structure Machine.Keeps (I : σ → Prop) : Prop where
  run : ∀ o, Preserves I (m.run o)
  cpR : ∀ o p q, Preserves I (m.cpR o p q)
  rmRf : ∀ o p, Preserves I (m.rmRf o p)
  rm : ∀ o p, Preserves I (m.rm o p)
  lnS : ∀ o t p, Preserves I (m.lnS o t p)
  mv : ∀ o p q, Preserves I (m.mv o p q)
  mkdir : ∀ o p, Preserves I (m.mkdir o p)
  gitClone : ∀ o p, Preserves I (m.gitClone o p)
  gitPull : ∀ o p, Preserves I (m.gitPull o p)
  finished : ∀ script, Preserves I (m.finished script)
  returned : ∀ script handled n, Preserves I (m.returned script handled n)

variable {m} {I : σ → Prop} {c : Sh σ}

lemma preserves_echo : Preserves I (echo : Sh σ) := Preserves.ret 0

lemma preserves_orExit (h : Preserves I c) : Preserves I (orExit c) := h.or (Preserves.exit 1)

lemma preserves_orSubshellExit (h : Preserves I c) : Preserves I (orSubshellExit c) :=
  h.or (Preserves.subshell (Preserves.block (by simp [preserves_echo, Preserves.exit])))

lemma preserves_orEchoAndExit (h : Preserves I c) : Preserves I (orEchoAndExit c) :=
  (h.or preserves_echo).and (Preserves.exit 1)

lemma preserves_prologue (hrun : ∀ o, Preserves I (m.run o)) (script : Script) (line : ℕ) :
    ∀ c ∈ prologue m script line, Preserves I c := by
  simp only [prologue, List.forall_mem_cons]
  refine ⟨Preserves.subshell (Preserves.block ?_), preserves_orExit (hrun _), by simp⟩
  simp [preserves_orExit, hrun, preserves_echo]

lemma preserves_epilogue {script : Script} (hrun : ∀ o, Preserves I (m.run o))
    (hfin : Preserves I (m.finished script)) (line : ℕ) :
    ∀ c ∈ epilogue m script line, Preserves I c := by
  simp [epilogue, preserves_orExit, hrun, hfin, Preserves.exit]

lemma preserves_call {script : Script} {handled : Bool}
    (hret : ∀ n, Preserves I (m.returned script handled n)) (h : Preserves I c) :
    Preserves I (call m script handled c) :=
  h.subshell.bind fun n => (hret n).seq (Preserves.ret n)

lemma preserves_packagesLoop (hrun : ∀ o, Preserves I (m.run o)) {script : Script} {line : ℕ}
    {packages : List String} : Preserves I (packagesLoop m script line packages) := by
  refine Preserves.forEach fun package _ => (hrun _).bind fun status => ?_
  split_ifs
  · exact preserves_orExit (hrun _)
  · exact preserves_echo

/-- The platforms that the scripts tell apart. -/
inductive Platform where
  | cygwin
  | mac
  | linux
  deriving DecidableEq, Repr

/-- `case "$(uname -s)" in p*) …`. -/
def startsWith (p s : String) : Bool := p.toList.isPrefixOf s.toList

/-- The `case "$(uname -s)"` of the scripts under `src/my`. -/
def unameCase (uname : String) : Option Platform :=
  if startsWith "cygwin" uname then some .cygwin
  else if startsWith "darwin" uname then some .mac
  else if startsWith "linux" uname then some .linux
  else if startsWith "Linux" uname then some .linux
  else if startsWith "FreeBSD" uname then some .linux
  else none

/-- What a run of a script finds around it. -/
structure Env where
  /-- `$HOME` -/
  home : Path
  /-- `$SCRIPT_DIR` -/
  scriptDir : Path
  /-- the output of `uname -s` -/
  uname : String
  /-- `$DATETIME` -/
  datetime : String

/-- The same surroundings when the clock shows something else. -/
def Env.withDatetime (env : Env) (datetime : String) : Env := { env with datetime := datetime }

end InitialSetups.Scripts
