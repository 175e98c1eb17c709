import InitialSetups.Scripts.Machine

/-!
# The scripts that link the dotfiles

`src/my/install_mydotfiles.sh`, `lib/create_symbolic_link.sh`, `lib/download_dotfiles.sh` and
the loop of `cygwin_setups/cygwin_setup.sh`.
-/

namespace InitialSetups.Scripts

open InitialSetups.Shell InitialSetups.Files

/-- The entry `.$file` of the home directory. -/
def dot (file : String) : Name := "." ++ file

/-- `$name.$stamp`. -/
def stamped (name stamp : String) : Name := name ++ "." ++ stamp

/-- The text `$HOME/.dotfiles/$file` of a link. -/
def dotfilesTarget (home : Path) (file : String) : Target := ⟨true, home ++ [".dotfiles", file]⟩

variable {σ : Type} (m : Machine σ)

/-- `[ -e p ]`. -/
def testE (p : Path) : Sh σ := Sh.test (m.isE p)

/-- `[ -L p ]`. -/
def testL (p : Path) : Sh σ := Sh.test (m.isL p)

/-- `[ s == t ]` on strings. -/
def testEq (s t : String) : Sh σ := Sh.test fun _ => s = t

/-! ### `src/my/install_mydotfiles.sh` -/

section InstallMydotfiles

variable (env : Env)

/-- The body of the two loops over `DOTFILES`; `line` is that of the copy. -/
def installDotfile (mode : String) (line : ℕ) (file : String) : Sh σ :=
  Sh.block
    [echo,
     (((testE m [dot file]).or (testL m [dot file])).and (testEq mode "backup")).and
       (m.cpR ⟨.installMydotfiles, line, file, false⟩ [dot file]
         [stamped (dot file) env.datetime]),
     (((testE m [dot file]).or (testL m [dot file])).and echo).and
       (m.rmRf ⟨.installMydotfiles, line + 1, file, false⟩ [dot file]),
     orExit (m.lnS ⟨.installMydotfiles, line + 2, file, true⟩ (dotfilesTarget env.home file)
       [dot file])]

/-- The text `$SCRIPT_DIR/../../bin/$file` of a link. -/
def binTarget (file : String) : Target := ⟨true, env.scriptDir ++ ["..", "..", "bin", file]⟩

/-- The body of the two loops over `BINFILES`; `line` is that of the copy. -/
def installBinfile (mode : String) (line : ℕ) (file : String) : Sh σ :=
  Sh.block
    [echo,
     (((testE m ["bin", file]).or (testL m ["bin", file])).and (testEq mode "backup")).and
       (m.cpR ⟨.installMydotfiles, line, file, false⟩ ["bin", file]
         ["bin", stamped file env.datetime]),
     ((testE m ["bin", file]).or (testL m ["bin", file])).and
       (m.rmRf ⟨.installMydotfiles, line + 1, file, false⟩ ["bin", file]),
     orExit (m.lnS ⟨.installMydotfiles, line + 2, file, true⟩ (binTarget env file)
       ["bin", file]),
     m.run ⟨.installMydotfiles, line + 3, file, false⟩]

/-- The first list `DOTFILES` of `install_mydotfiles.sh`. -/
def installDotfiles : List String :=
  ["zshrc", "vimrc", "vim", "tmux.conf", "tmux", "zpreztorc", "zlogout"]

/-- The first list `BINFILES` of `install_mydotfiles.sh`. -/
def installBinfiles : List String :=
  ["activate-anaconda", "pulldotfiles", "pushgitfiles", "pushgooglegit", "rmate"]

/-- The lines that install `git`. -/
def installGit (platform : Platform) : Sh σ :=
  match platform with
  | .linux => Sh.block
      [orExit (m.run ⟨.installMydotfiles, 37, "apt update", true⟩),
       packagesLoop m .installMydotfiles 39 ["git"],
       orExit (m.run ⟨.installMydotfiles, 49, "apt upgrade", true⟩)]
  | .cygwin => Sh.forEach ["git"] fun package =>
      orExit (m.run ⟨.installMydotfiles, 52, package, true⟩)
  | .mac => Sh.ret 0

/-- `if [ -e $HOME/.dotfiles ]; then echo …; else git clone …; fi`. -/
def cloneDotfiles : Sh σ :=
  Sh.ifThen (testE m [".dotfiles"]) echo
    (m.gitClone ⟨.installMydotfiles, 60, "", false⟩ [".dotfiles"])

/-- The four loops of `install_mydotfiles.sh`, with the creation of `$HOME/bin` between
them. -/
def installLinks (mode : String) (platform : Platform) : Sh σ :=
  Sh.block
    [Sh.forEach installDotfiles (installDotfile m env mode 75),
     if platform ≠ .cygwin then Sh.forEach ["minttyrc"] (installDotfile m env mode 86)
       else Sh.ret 0,
     (Sh.test fun s => !m.isE ["bin"] s).and (m.mkdir ⟨.installMydotfiles, 93, "", false⟩ ["bin"]),
     Sh.forEach installBinfiles (installBinfile m env mode 103),
     if platform ≠ .cygwin then Sh.forEach ["st"] (installBinfile m env mode 115)
       else Sh.ret 0]

/-- `src/my/install_mydotfiles.sh`.  The mode of the dotfiles and that of the bin-files are
both the first argument. -/
def installMydotfiles (args : List String) : Sh σ :=
  Sh.block (prologue m .installMydotfiles 7 ++
    [match args with
     | [mode, _] =>
       match unameCase env.uname with
       | none => Sh.exit 1
       | some platform => Sh.block
           ([installGit m platform, cloneDotfiles m, installLinks m env mode platform] ++
             epilogue m .installMydotfiles 124)
     | _ => Sh.exit 1])

variable {m env} {I : σ → Prop} {args : List String}

lemma preserves_existence {p : Path} : Preserves I ((testE m p).or (testL m p)) :=
  (Preserves.test _).or (Preserves.test _)

lemma preserves_installDotfile {mode : String} {line : ℕ} {file : String}
    (hcp : ∀ o, Preserves I (m.cpR o [dot file] [stamped (dot file) env.datetime]))
    (hrm : ∀ o, Preserves I (m.rmRf o [dot file]))
    (hln : ∀ o, Preserves I (m.lnS o (dotfilesTarget env.home file) [dot file])) :
    Preserves I (installDotfile m env mode line file) := by
  refine Preserves.block ?_
  simp only [List.forall_mem_cons]
  refine ⟨preserves_echo, ?_, ?_, preserves_orExit (hln _), by simp⟩
  · exact (preserves_existence.and (Preserves.test _)).and (hcp _)
  · exact (preserves_existence.and preserves_echo).and (hrm _)

lemma preserves_installBinfile {mode : String} {line : ℕ} {file : String}
    (hcp : ∀ o, Preserves I (m.cpR o ["bin", file] ["bin", stamped file env.datetime]))
    (hrm : ∀ o, Preserves I (m.rmRf o ["bin", file]))
    (hln : ∀ o, Preserves I (m.lnS o (binTarget env file) ["bin", file]))
    (hrun : ∀ o, Preserves I (m.run o)) :
    Preserves I (installBinfile m env mode line file) := by
  refine Preserves.block ?_
  simp only [List.forall_mem_cons]
  refine ⟨preserves_echo, ?_, ?_, preserves_orExit (hln _), hrun _, by simp⟩
  · exact (preserves_existence.and (Preserves.test _)).and (hcp _)
  · exact preserves_existence.and (hrm _)

/-- The names of the dotfiles that `install_mydotfiles.sh` handles. -/
def dotfileNames : List String := installDotfiles ++ ["minttyrc"]

lemma preserves_installLinks {mode : String} {platform : Platform}
    (hdot : ∀ line, ∀ file ∈ dotfileNames, Preserves I (installDotfile m env mode line file))
    (hmkdir : ∀ o, Preserves I (m.mkdir o ["bin"]))
    (hbin : ∀ line file, Preserves I (installBinfile m env mode line file)) :
    Preserves I (installLinks m env mode platform) := by
  refine Preserves.block ?_
  simp only [List.forall_mem_cons]
  refine ⟨?_, ?_, (Preserves.test _).and (hmkdir _), ?_, ?_, by simp⟩
  · exact Preserves.forEach fun file hf => hdot _ file (List.mem_append_left _ hf)
  · split_ifs
    · exact Preserves.forEach fun file hf => hdot _ file (List.mem_append_right _ hf)
    · exact Preserves.ret 0
  · exact Preserves.forEach fun _ _ => hbin _ _
  · split_ifs
    · exact Preserves.forEach fun _ _ => hbin _ _
    · exact Preserves.ret 0

lemma preserves_installGit (hrun : ∀ o, Preserves I (m.run o)) {platform : Platform} :
    Preserves I (installGit m platform) := by
  cases platform with
  | linux =>
      refine Preserves.block ?_
      simp [preserves_orExit, hrun, preserves_packagesLoop hrun]
  | cygwin => exact Preserves.forEach fun _ _ => preserves_orExit (hrun _)
  | mac => exact Preserves.ret 0

/-- What the parts of `install_mydotfiles.sh` keep, the script keeps. -/
lemma preserves_installMydotfiles_of_parts (hrun : ∀ o, Preserves I (m.run o))
    (hfin : Preserves I (m.finished .installMydotfiles))
    (hclone : ∀ o, Preserves I (m.gitClone o [".dotfiles"]))
    (hlinks : ∀ mode platform, args.head? = some mode →
      Preserves I (installLinks m env mode platform)) :
    Preserves I (installMydotfiles m env args) := by
  refine Preserves.block (List.forall_mem_append.2 ⟨preserves_prologue hrun _ _, ?_⟩)
  rw [List.forall_mem_singleton]
  match args with
  | [] | [_] | _ :: _ :: _ :: _ => exact Preserves.exit 1
  | [mode, _] =>
    cases h : unameCase env.uname with
    | none => simpa only [h] using Preserves.exit 1
    | some platform =>
        refine Preserves.block (List.forall_mem_append.2 ⟨?_, preserves_epilogue hrun hfin _⟩)
        simp only [List.forall_mem_cons]
        refine ⟨preserves_installGit hrun, ?_, hlinks mode platform rfl, by simp⟩
        exact (Preserves.test _).ifThen preserves_echo (hclone _)

lemma preserves_installMydotfiles (hm : m.Keeps I) :
    Preserves I (installMydotfiles m env args) := by
  refine preserves_installMydotfiles_of_parts hm.run (hm.finished _) (fun o => hm.gitClone o _)
    fun mode platform _ => preserves_installLinks (fun line file _ => ?_) (fun o => hm.mkdir o _)
      fun line file => ?_
  · exact preserves_installDotfile (fun o => hm.cpR o _ _) (fun o => hm.rmRf o _)
      fun o => hm.lnS o _ _
  · exact preserves_installBinfile (fun o => hm.cpR o _ _) (fun o => hm.rmRf o _)
      (fun o => hm.lnS o _ _) hm.run

end InstallMydotfiles

/-! ### `lib/download_dotfiles.sh` -/

/-- `lib/download_dotfiles.sh`. -/
def downloadDotfiles (env : Env) : Sh σ :=
  Sh.block
    [(testE m [".dotfiles"]).and
       (m.mv ⟨.downloadDotfiles, 18, "", false⟩ [".dotfiles"]
         [stamped ".dotfiles" env.datetime]),
     m.gitClone ⟨.downloadDotfiles, 19, "", false⟩ [".dotfiles"],
     m.finished .downloadDotfiles,
     Sh.exit 0]

/-! ### `lib/create_symbolic_link.sh` -/

section CreateSymbolicLink

variable (env : Env)

/-- The `case "$(uname -s)"` of `create_symbolic_link.sh`. -/
def createUnameCase (uname : String) : Option Platform :=
  if startsWith "CYGWIN" uname then some .cygwin
  else if startsWith "Linux" uname then some .linux
  else none

/-- The modes that the `case "$1"` of `create_symbolic_link.sh` accepts. -/
def createAccepts (mode : String) : Bool := mode = "yes" || mode = "backup" || mode = "no"

/-- The body of the loop over `DOTFILES`. -/
def createDotfile (mode file : String) : Sh σ :=
  Sh.block
    [((testEq mode "backup").and (testE m [dot file])).and
       (m.cpR ⟨.createSymbolicLink, 40, file, false⟩ [dot file]
         [stamped (dot file) env.datetime]),
     ((testEq mode "no").and (testE m [dot file])).and
       (m.cpR ⟨.createSymbolicLink, 41, file, false⟩ [dot file]
         [stamped (dot file) env.datetime]),
     (testE m [dot file]).and (m.rmRf ⟨.createSymbolicLink, 42, file, false⟩ [dot file]),
     m.lnS ⟨.createSymbolicLink, 43, file, false⟩ (dotfilesTarget env.home file) [dot file]]

/-- The list `DOTFILES` of `create_symbolic_link.sh`. -/
def createDotfiles : List String := ["zshrc", "vimrc", "vim", "tmux.conf", "zpreztorc", "zlogout"]

/-- The body of the loop over `BINFILES` and of the lines for `st`; `line` is that of the
removal. -/
def createBinfile (line : ℕ) (file : String) : Sh σ :=
  Sh.block
    [(testE m ["bin", file]).and (m.rmRf ⟨.createSymbolicLink, line, file, false⟩ ["bin", file]),
     m.lnS ⟨.createSymbolicLink, line + 1, file, false⟩
       ⟨true, env.scriptDir ++ ["..", "bin", file]⟩ ["bin", ""],
     m.run ⟨.createSymbolicLink, line + 2, file, false⟩]

/-- `lib/create_symbolic_link.sh`. -/
def createSymbolicLink (mode : String) : Sh σ :=
  match createUnameCase env.uname with
  | none => Sh.exit 1
  | some platform =>
    if createAccepts mode then Sh.block
      [Sh.ifThen (testE m [".dotfiles"])
         (m.gitPull ⟨.createSymbolicLink, 33, "", false⟩ [".dotfiles"])
         (call m .downloadDotfiles false (downloadDotfiles m env)),
       Sh.forEach createDotfiles (createDotfile m env mode),
       Sh.forEach ["pushgitfiles", "pulldotfiles"] (createBinfile m env 48),
       if platform ≠ .cygwin then createBinfile m env 54 "st" else Sh.ret 0,
       m.finished .createSymbolicLink,
       Sh.exit 0]
    else Sh.exit 2

variable {m env} {I : σ → Prop} {mode : String}

lemma preserves_downloadDotfiles (hfin : Preserves I (m.finished .downloadDotfiles))
    (hmv : ∀ o, Preserves I (m.mv o [".dotfiles"] [stamped ".dotfiles" env.datetime]))
    (hclone : ∀ o, Preserves I (m.gitClone o [".dotfiles"])) :
    Preserves I (downloadDotfiles m env) := by
  refine Preserves.block ?_
  simp only [List.forall_mem_cons]
  exact ⟨(Preserves.test _).and (hmv _), hclone _, hfin, Preserves.exit 0, by simp⟩

lemma preserves_createDotfile {file : String}
    (hcp : ∀ o, Preserves I (m.cpR o [dot file] [stamped (dot file) env.datetime]))
    (hrm : ∀ o, Preserves I (m.rmRf o [dot file]))
    (hln : ∀ o, Preserves I (m.lnS o (dotfilesTarget env.home file) [dot file])) :
    Preserves I (createDotfile m env mode file) := by
  refine Preserves.block ?_
  simp only [List.forall_mem_cons]
  refine ⟨?_, ?_, (Preserves.test _).and (hrm _), hln _, by simp⟩
  · exact ((Preserves.test _).and (Preserves.test _)).and (hcp _)
  · exact ((Preserves.test _).and (Preserves.test _)).and (hcp _)

lemma preserves_createBinfile {line : ℕ} {file : String}
    (hrm : ∀ o, Preserves I (m.rmRf o ["bin", file]))
    (hln : ∀ o, Preserves I (m.lnS o ⟨true, env.scriptDir ++ ["..", "bin", file]⟩ ["bin", ""]))
    (hrun : ∀ o, Preserves I (m.run o)) : Preserves I (createBinfile m env line file) := by
  refine Preserves.block ?_
  simp only [List.forall_mem_cons]
  exact ⟨(Preserves.test _).and (hrm _), hln _, hrun _, by simp⟩

/-- What the parts of `create_symbolic_link.sh` keep, the script keeps. -/
lemma preserves_createSymbolicLink_of_parts (hfin : ∀ script, Preserves I (m.finished script))
    (hret : ∀ script handled n, Preserves I (m.returned script handled n))
    (hpull : ∀ o, Preserves I (m.gitPull o [".dotfiles"]))
    (hdownload : Preserves I (downloadDotfiles m env))
    (hdot : ∀ file ∈ createDotfiles, Preserves I (createDotfile m env mode file))
    (hbin : ∀ line file, Preserves I (createBinfile m env line file)) :
    Preserves I (createSymbolicLink m env mode) := by
  unfold createSymbolicLink
  cases createUnameCase env.uname with
  | none => exact Preserves.exit 1
  | some platform =>
      by_cases hmode : createAccepts mode = true
      · have hst : Preserves I
            (if platform ≠ .cygwin then createBinfile m env 54 "st" else Sh.ret 0) := by
          split_ifs
          · exact hbin _ _
          · exact Preserves.ret 0
        simp only [hmode, if_true]
        refine Preserves.block ?_
        simp only [List.forall_mem_cons]
        refine ⟨?_, Preserves.forEach fun file hf => hdot file hf,
          Preserves.forEach fun _ _ => hbin _ _, hst, hfin _, Preserves.exit 0, by simp⟩
        exact (Preserves.test _).ifThen (hpull _) (preserves_call (hret _ _) hdownload)
      · simp only [hmode]
        exact Preserves.exit 2

end CreateSymbolicLink

/-! ### `cygwin_setups/cygwin_setup.sh` -/

/-- The body of the loop over `DOTFILES` of `cygwin_setup.sh`. -/
def cygwinDotfile (home : Path) (dotfile : String) : Sh σ :=
  Sh.block
    [Sh.ifThen ((testE m [dot dotfile]).or (testL m [dot dotfile]))
       (m.rm ⟨.cygwinSetup, 48, dotfile, false⟩ [dot dotfile]) (Sh.ret 0),
     m.lnS ⟨.cygwinSetup, 51, dotfile, false⟩ (dotfilesTarget home dotfile) [dot dotfile]]

/-! ### Names of dotfiles -/

/-- The name of a dotfile: it has no slash and `.$file` is an entry of its own. -/
def IsDotfile (file : String) : Prop := file ≠ "" ∧ file ≠ "." ∧ '/' ∉ file.toList

instance (file : String) : Decidable (IsDotfile file) := inferInstanceAs (Decidable (_ ∧ _ ∧ _))

lemma dot_toList (file : String) : (dot file).toList = '.' :: file.toList := by
  simp [dot]

lemma dot_injective {f g : String} (h : dot f = dot g) : f = g := by
  have h₁ := congrArg String.toList h
  rw [dot_toList, dot_toList, List.cons.injEq] at h₁
  exact String.toList_injective h₁.2

lemma proper_dot {file : String} (h : IsDotfile file) : Proper (dot file) := by
  refine ⟨fun he => ?_, fun he => ?_, fun he => ?_⟩ <;>
    have h₁ := congrArg String.toList he <;> rw [dot_toList] at h₁
  · simp at h₁
  · exact h.1 (String.toList_injective (by simpa using h₁))
  · exact h.2.1 (String.toList_injective (by simpa using h₁))

end InitialSetups.Scripts
