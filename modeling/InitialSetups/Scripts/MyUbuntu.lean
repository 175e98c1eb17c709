import InitialSetups.Scripts.Dotfiles

/-!
# The native Ubuntu setup

`bin/setup/myubuntu_setup.sh` and the scripts it calls, but for `install_mydotfiles.sh`, which
stands with the other scripts that link the dotfiles.
-/

namespace InitialSetups.Scripts

open InitialSetups.Shell InitialSetups.Files

variable {σ : Type} (m : Machine σ)

/-- `src/setup/add_sudo.sh`. -/
def addSudo : Sh σ :=
  Sh.block (prologue m .addSudo 11 ++
    [m.run ⟨.addSudo, 15, "whoami", false⟩,
     m.run ⟨.addSudo, 16, "tee", false⟩] ++
    epilogue m .addSudo 19)

/-- `PACKAGES` of `install_packages.sh`. -/
def packages : List String :=
  ["vim", "zip", "tmux", "git", "postfix", "unzip", "net-tools", "xvfb",
   "google-chrome-stable=91.0.4472.164-1", "language-pack-ja-base", "language-pack-ja",
   "ibus-kkc", "gparted"]

/-- `src/setup/install_packages.sh`.  The status of the pipeline on line 11 is that of its last
command. -/
def installPackages : Sh σ :=
  Sh.block (prologue m .installPackages 7 ++
    [m.run ⟨.installPackages, 11, "wget", false⟩,
     orExit (m.run ⟨.installPackages, 11, "apt-key", true⟩),
     orExit (m.run ⟨.installPackages, 12, "sh -c", true⟩),
     orExit (m.run ⟨.installPackages, 13, "apt update", true⟩),
     orExit (m.run ⟨.installPackages, 14, "apt upgrade", true⟩),
     packagesLoop m .installPackages 34 packages,
     orExit (m.run ⟨.installPackages, 45, "apt upgrade", true⟩)] ++
    epilogue m .installPackages 48)

section InstallPython

/-- `ANACONDA_VER`. -/
def anacondaVer : String := "3-2021.05"

/-- The file `Anaconda${ANACONDA_VER}-Linux-x86_64.sh`. -/
def anacondaInstaller : Name := "Anaconda" ++ anacondaVer ++ "-Linux-x86_64.sh"

/-- `PACKAGES` of `install_python.sh`. -/
def pythonPackages (python3 : String) : List String :=
  ["git", "build-essential", "libsm6", "libxrender1", "python", "python2.7-dev",
   "python" ++ python3 ++ "-dev"]

/-- `src/setup/install_python.sh` with its three arguments, the last of which is a path below
`$HOME`. -/
def installPython (home : Path) (datetime python3 name : String) (dirTmp : Path) : Sh σ :=
  Sh.block (prologue m .installPython 7 ++
    [orExit (m.run ⟨.installPython, 28, "apt update", true⟩),
     orExit (m.run ⟨.installPython, 29, "apt upgrade", true⟩),
     packagesLoop m .installPython 42 (pythonPackages python3),
     Sh.ifThen (Sh.test fun s => !m.isD [".pyenv"] s)
       (orExit (m.gitClone ⟨.installPython, 55, "", true⟩ [".pyenv"])) (Sh.ret 0),
     (Sh.test fun s => !m.isE dirTmp s).and (m.mkdir ⟨.installPython, 59, "", false⟩ dirTmp),
     Sh.ifThen (testE m (dirTmp ++ [anacondaInstaller])) echo
       (orExit (m.run ⟨.installPython, 63, "wget", true⟩)),
     (Sh.test (m.isD [".pyenv", "versions", "anaconda" ++ anacondaVer])).and
       (m.rmRf ⟨.installPython, 65, "", false⟩
         [".pyenv", "versions", "anaconda" ++ anacondaVer]),
     orEchoAndExit (m.run ⟨.installPython, 66, "bash", true⟩),
     orEchoAndExit (m.run ⟨.installPython, 71, "pyenv init", true⟩),
     orEchoAndExit (m.run ⟨.installPython, 72, "pyenv rehash", true⟩),
     Sh.ifThen ((Sh.test (m.isF [".pyenv", "versions", "anaconda"])).or
         (testL m [".pyenv", "versions", "anaconda"]))
       (orEchoAndExit (m.mv ⟨.installPython, 76, "", true⟩ [".pyenv", "versions", "anaconda"]
         [".pyenv", "versions", stamped "anaconda" datetime]))
       (Sh.ret 0),
     orEchoAndExit (m.lnS ⟨.installPython, 79, "", true⟩
       ⟨true, home ++ [".pyenv", "versions", "anaconda" ++ anacondaVer]⟩
       [".pyenv", "versions", "anaconda"]),
     m.run ⟨.installPython, 82, "chmod", false⟩,
     m.run ⟨.installPython, 83, "chmod", false⟩,
     orEchoAndExit (m.run ⟨.installPython, 89, "conda create py27", true⟩),
     orEchoAndExit (m.run ⟨.installPython, 91, "conda create " ++ name, true⟩)] ++
    epilogue m .installPython 95)

end InstallPython

/-- `src/my/install_prezto.sh`, `rcfiles` being the files that the glob of line 14 finds.
`install_myzsh.sh` does not export `IS_CYGWIN`, so it is empty here. -/
def installPrezto (home : Path) (rcfiles : List String) : Sh σ :=
  Sh.block (prologue m .installPrezto 7 ++
    [orExit (m.gitClone ⟨.installPrezto, 11, "", true⟩ [".zprezto"]),
     orExit ((Sh.test fun _ => false).and (m.run ⟨.installPrezto, 12, "chmod", true⟩)),
     Sh.forEach rcfiles fun rcfile =>
       orExit (m.lnS ⟨.installPrezto, 15, rcfile, true⟩
         ⟨true, home ++ [".zprezto", "runcoms", rcfile]⟩ [dot rcfile]),
     orExit (m.run ⟨.installPrezto, 18, "cd", true⟩),
     orExit (m.gitPull ⟨.installPrezto, 19, "", true⟩ [".zprezto"]),
     orExit (m.run ⟨.installPrezto, 20, "git submodule", true⟩),
     (Sh.test (m.isD ["tmp", "fonts_for_powerline"])).and
       (m.rmRf ⟨.installPrezto, 23, "", false⟩ ["tmp", "fonts_for_powerline"]),
     orExit (m.gitClone ⟨.installPrezto, 24, "", true⟩ ["tmp", "fonts_for_powerline"]),
     orExit (m.run ⟨.installPrezto, 25, "cd", true⟩),
     orExit (m.run ⟨.installPrezto, 26, "zsh install.sh", true⟩),
     orExit (m.rmRf ⟨.installPrezto, 28, "", true⟩ ["tmp", "fonts_for_powerline"])] ++
    epilogue m .installPrezto 31)

/-- `src/my/install_peco.sh`. -/
def installPeco : Sh σ :=
  Sh.block (prologue m .installPeco 7 ++
    [m.run ⟨.installPeco, 11, "apt install peco", false⟩] ++
    epilogue m .installPeco 14)

/-- `($flag && zsh script && echo …) || (echo …; exit 1)`. -/
def optionalStep (flag : Bool) (script : Script) (body : Sh σ) : Sh σ :=
  orSubshellExit (Sh.subshell
    (((Sh.test fun _ => flag).and (call m script true body)).and echo))

/-- `src/my/install_myzsh.sh` from the `case` on the platform on. -/
def installMyzshMain (env : Env) (rcfiles : List String) (prezto peco : Bool) : Sh σ :=
  match unameCase env.uname with
  | none => Sh.exit 1
  | some platform => Sh.block
     ([match platform with
       | .linux => Sh.block
           [orExit (m.run ⟨.installMyzsh, 32, "apt update", true⟩),
            packagesLoop m .installMyzsh 34 ["vim", "zsh", "git"],
            orExit (m.run ⟨.installMyzsh, 44, "apt upgrade", true⟩)]
       | .cygwin => Sh.forEach ["vim", "zsh", "git"] fun package =>
           orExit (m.run ⟨.installMyzsh, 47, package, true⟩)
       | .mac => Sh.ret 0,
       orSubshellExit (m.run ⟨.installMyzsh, 53, "chsh", true⟩),
       optionalStep m prezto .installPrezto (installPrezto m env.home rcfiles),
       optionalStep m peco .installPeco (installPeco m)] ++
      epilogue m .installMyzsh 59)

/-- `src/my/install_myzsh.sh` with its two arguments `true` or `false`. -/
def installMyzsh (env : Env) (rcfiles : List String) (prezto peco : Bool) : Sh σ :=
  Sh.block (prologue m .installMyzsh 7 ++ [installMyzshMain m env rcfiles prezto peco])

/-- `bin/setup/myubuntu_setup.sh`. -/
def myubuntuSetup (env : Env) (rcfiles : List String) : Sh σ :=
  Sh.block (prologue m .myubuntuSetup 7 ++
    [m.run ⟨.myubuntuSetup, 11, "find", false⟩,
     m.run ⟨.myubuntuSetup, 11, "chmod", false⟩,
     orExit (call m .addSudo true (addSudo m)),
     orExit (call m .installPackages true (installPackages m)),
     orSubshellExit (call m .installPython true
       (installPython m env.home env.datetime "3.9" "py39" ["tmp"])),
     orExit (call m .installMyzsh true (installMyzsh m env rcfiles true true)),
     orExit (call m .installMydotfiles true (installMydotfiles m env ["no", "no"])),
     m.run ⟨.myubuntuSetup, 26, "gsettings", false⟩,
     m.run ⟨.myubuntuSetup, 27, "gsettings", false⟩] ++
    epilogue m .myubuntuSetup 30)

/-! ### What the commands of the machine keep, these scripts keep -/

section Keeps

variable {m} {I : σ → Prop}

lemma preserves_addSudo (hm : m.Keeps I) : Preserves I (addSudo m) := by
  refine Preserves.block (List.forall_mem_append.2 ⟨List.forall_mem_append.2
    ⟨preserves_prologue hm.run _ _, ?_⟩, preserves_epilogue hm.run (hm.finished _) _⟩)
  simp [hm.run]

lemma preserves_installPackages (hm : m.Keeps I) : Preserves I (installPackages m) := by
  refine Preserves.block (List.forall_mem_append.2 ⟨List.forall_mem_append.2
    ⟨preserves_prologue hm.run _ _, ?_⟩, preserves_epilogue hm.run (hm.finished _) _⟩)
  simp [hm.run, preserves_orExit, preserves_packagesLoop hm.run]

lemma preserves_installPython (hm : m.Keeps I) {home : Path} {datetime python3 name : String}
    {dirTmp : Path} : Preserves I (installPython m home datetime python3 name dirTmp) := by
  refine Preserves.block (List.forall_mem_append.2 ⟨List.forall_mem_append.2
    ⟨preserves_prologue hm.run _ _, ?_⟩, preserves_epilogue hm.run (hm.finished _) _⟩)
  simp only [List.forall_mem_cons]
  refine ⟨preserves_orExit (hm.run _), preserves_orExit (hm.run _), preserves_packagesLoop hm.run,
    ?_, (Preserves.test _).and (hm.mkdir _ _), ?_, (Preserves.test _).and (hm.rmRf _ _),
    preserves_orEchoAndExit (hm.run _), preserves_orEchoAndExit (hm.run _),
    preserves_orEchoAndExit (hm.run _), ?_, preserves_orEchoAndExit (hm.lnS _ _ _), hm.run _,
    hm.run _, preserves_orEchoAndExit (hm.run _), preserves_orEchoAndExit (hm.run _), by simp⟩
  · exact (Preserves.test _).ifThen (preserves_orExit (hm.gitClone _ _)) (Preserves.ret 0)
  · exact (Preserves.test _).ifThen preserves_echo (preserves_orExit (hm.run _))
  · exact ((Preserves.test _).or (Preserves.test _)).ifThen
      (preserves_orEchoAndExit (hm.mv _ _ _)) (Preserves.ret 0)

lemma preserves_installPrezto (hm : m.Keeps I) {home : Path} {rcfiles : List String} :
    Preserves I (installPrezto m home rcfiles) := by
  refine Preserves.block (List.forall_mem_append.2 ⟨List.forall_mem_append.2
    ⟨preserves_prologue hm.run _ _, ?_⟩, preserves_epilogue hm.run (hm.finished _) _⟩)
  simp only [List.forall_mem_cons]
  refine ⟨preserves_orExit (hm.gitClone _ _),
    preserves_orExit ((Preserves.test _).and (hm.run _)),
    Preserves.forEach fun _ _ => preserves_orExit (hm.lnS _ _ _), preserves_orExit (hm.run _),
    preserves_orExit (hm.gitPull _ _), preserves_orExit (hm.run _),
    (Preserves.test _).and (hm.rmRf _ _), preserves_orExit (hm.gitClone _ _),
    preserves_orExit (hm.run _), preserves_orExit (hm.run _), preserves_orExit (hm.rmRf _ _),
    by simp⟩

lemma preserves_installPeco (hm : m.Keeps I) : Preserves I (installPeco m) := by
  refine Preserves.block (List.forall_mem_append.2 ⟨List.forall_mem_append.2
    ⟨preserves_prologue hm.run _ _, ?_⟩, preserves_epilogue hm.run (hm.finished _) _⟩)
  simp [hm.run]

lemma preserves_optionalStep (hm : m.Keeps I) {flag : Bool} {script : Script} {body : Sh σ}
    (h : Preserves I body) : Preserves I (optionalStep m flag script body) :=
  preserves_orSubshellExit
    (((Preserves.test _).and (preserves_call (hm.returned _ _) h)).and preserves_echo).subshell

lemma preserves_installMyzshMain (hm : m.Keeps I) {env : Env} {rcfiles : List String}
    {prezto peco : Bool} : Preserves I (installMyzshMain m env rcfiles prezto peco) := by
  unfold installMyzshMain
  cases unameCase env.uname with
  | none => exact Preserves.exit 1
  | some platform =>
      refine Preserves.block (List.forall_mem_append.2
        ⟨?_, preserves_epilogue hm.run (hm.finished _) _⟩)
      simp only [List.forall_mem_cons]
      refine ⟨?_, preserves_orSubshellExit (hm.run _),
        preserves_optionalStep hm (preserves_installPrezto hm),
        preserves_optionalStep hm (preserves_installPeco hm), by simp⟩
      cases platform with
      | linux =>
          refine Preserves.block ?_
          simp [preserves_orExit, hm.run, preserves_packagesLoop hm.run]
      | cygwin => exact Preserves.forEach fun _ _ => preserves_orExit (hm.run _)
      | mac => exact Preserves.ret 0

lemma preserves_installMyzsh (hm : m.Keeps I) {env : Env} {rcfiles : List String}
    {prezto peco : Bool} : Preserves I (installMyzsh m env rcfiles prezto peco) :=
  Preserves.block (List.forall_mem_append.2 ⟨preserves_prologue hm.run _ _,
    by simpa using preserves_installMyzshMain hm⟩)

end Keeps

end InitialSetups.Scripts
