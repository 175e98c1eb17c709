import InitialSetups.Shell.Command
import InitialSetups.Scripts.Dotfiles

/-!
# The interactive setup

`bin/setup/ubuntu_setup_2.sh`: seven prompts, and then the steps they select.  The world of a
run is what it does: the scripts it starts and the messages it prints about the steps.

The driver changes into its own directory `bin/setup` and starts its scripts as
`bash -x lib/…`; whether such a file is there is a question to the layout of the repository.
-/

namespace InitialSetups.Scripts

open InitialSetups.Shell InitialSetups.Files

/-! ### `read` -/

/-- The characters of a line for `read` without `-r`: a backslash makes the next character
literal, and at the end of the line it asks for another line. -/
def unescape : List Char → List (Char × Bool) × Bool
  | [] => ([], false)
  | ['\\'] => ([], true)
  | '\\' :: c :: cs => ((c, true) :: (unescape cs).1, (unescape cs).2)
  | c :: cs => ((c, false) :: (unescape cs).1, (unescape cs).2)

/-- The characters that `read` takes from the lines typed, and the lines that remain.  At the
end of the input there are none. -/
def readChars : List String → List (Char × Bool) × List String
  | [] => ([], [])
  | l :: ls =>
    if (unescape l.toList).2 then
      ((unescape l.toList).1 ++ (readChars ls).1, (readChars ls).2)
    else ((unescape l.toList).1, ls)

/-- A blank that is not literal. -/
def isSeparator (c : Char × Bool) : Bool := !c.2 && (c.1 = ' ' || c.1 = '\t')

/-- `read ANSWER`: the value of `ANSWER`, without the blanks around it, and the lines that
remain. -/
def readAnswer (typed : List String) : String × List String :=
  let cs := (readChars typed).1.dropWhile isSeparator
  (String.ofList (((cs.reverse.dropWhile isSeparator).reverse).map (·.1)), (readChars typed).2)

/-! ### The prompts -/

/-- `"N" | "n" | "no" | "No" | "NO" ) …=false;; * ) …=true`. -/
def unlessNo (answer : String) : Bool :=
  !(answer = "N" || answer = "n" || answer = "no" || answer = "No" || answer = "NO")

/-- `"Y" | "y" | "yes" | "Yes" | "YES" ) …=true;; * ) …=false`. -/
def onlyYes (answer : String) : Bool :=
  answer = "Y" || answer = "y" || answer = "yes" || answer = "Yes" || answer = "YES"

/-- The `case` that sets `DELETE_DEFAULT_DOTFILES`. -/
def deleteDefaultDotfiles (answer : String) : String :=
  if !unlessNo answer then "false"
  else if answer = "B" || answer = "b" || answer = "backup" || answer = "Backup" ||
    answer = "BACKUP" then "backup"
  else "true"

/-- The seven answers, in the order of the prompts. -/
structure Answers where
  changeUbuntuSettings : String
  swapKey : String
  enableHibernate : String
  addAptRepository : String
  addJapanesePackages : String
  installAptPackages : String
  deleteDefaultDotfiles : String

/-- What the seven `read`s take from the lines typed. -/
def readAnswers (typed : List String) : Answers :=
  let a₁ := readAnswer typed
  let a₂ := readAnswer a₁.2
  let a₃ := readAnswer a₂.2
  let a₄ := readAnswer a₃.2
  let a₅ := readAnswer a₄.2
  let a₆ := readAnswer a₅.2
  let a₇ := readAnswer a₆.2
  ⟨a₁.1, a₂.1, a₃.1, a₄.1, a₅.1, a₆.1, a₇.1⟩

/-! ### The steps -/

/-- What a run does: it starts a script with its arguments, or prints a message. -/
inductive Act where
  | ran (script : Path) (args : List String)
  | said (text : String)
  deriving DecidableEq, Repr

/-- What a run finds: the files of the repository, and the exit status of each script. -/
structure Site where
  layout : Path → Bool
  status : Path → ℕ

variable (site : Site)

/-- `echo text`. -/
def say (text : String) : Sh (List Act) := Sh.simple fun acts => (0, acts ++ [.said text])

/-- The path in the repository of `lib/script`, seen from the directory of the driver. -/
def fromDriver (script : String) : Path := ["bin", "setup", "lib", script]

/-- The exit status of `bash -x lib/script args` when the file is there.  The check of its own
argument decides that of `create_symbolic_link.sh` first. -/
def scriptStatus (script : String) (args : List String) : ℕ :=
  if script = "create_symbolic_link.sh" ∧ ¬ ∃ mode ∈ args.head?, createAccepts mode then 2
  else site.status (fromDriver script)

/-- `bash -x lib/script args`; `bash` comes back with `127` when there is no such file. -/
def bashLib (script : String) (args : List String) : Sh (List Act) :=
  Sh.simple fun acts =>
    if site.layout (fromDriver script) then
      (scriptStatus site script args, acts ++ [.ran (fromDriver script) args])
    else (127, acts)

/-- `(test && bash -x lib/script args && echo succeed) || (echo failed; exit 1)`. -/
def guardedStep (test : Bool) (script : String) (args : List String) (succeed failed : String) :
    Sh (List Act) :=
  (Sh.subshell (((Sh.test fun _ => test).and (bashLib site script args)).and (say succeed))).or
    (Sh.subshell (Sh.block [say failed, Sh.exit 1]))

/-- `$flag && bash -x lib/script && echo succeed`. -/
def plainStep (flag : Bool) (script succeed : String) : Sh (List Act) :=
  ((Sh.test fun _ => flag).and (bashLib site script [])).and (say succeed)

/-- `bin/setup/ubuntu_setup_2.sh` after its prompts; `testHost` tells whether the host is
`ubuntusetuptest`. -/
def ubuntuSetup2 (testHost : Bool) (a : Answers) : Sh (List Act) :=
  Sh.block
    [guardedStep site (unlessNo a.addAptRepository) "add_apt_repositories_and_update.sh" []
       "####succeed to add repositories" "####failed to add repositories; exit 1",
     guardedStep site (unlessNo a.addJapanesePackages) "add_japanese_packages.sh" []
       "####succeed to add japanese packages" "####failed to add japanese packages; exit1",
     guardedStep site (unlessNo a.installAptPackages) "install_apt_packages.sh" []
       "####succeed to install apt packages" "####failed to install apt packages; exit 1",
     plainStep site (unlessNo a.swapKey) "keyswap.sh" "####succeed to swap caps for ctrl",
     plainStep site (onlyYes a.enableHibernate) "enable_hibernate.sh"
       "####succeed to enable hibernate",
     bashLib site "download_dotfiles.sh" [],
     bashLib site "download_my_fonts.sh" [],
     guardedStep site (deleteDefaultDotfiles a.deleteDefaultDotfiles ≠ "false")
       "create_symbolic_link.sh" [deleteDefaultDotfiles a.deleteDefaultDotfiles]
       "####succeed to create symbolic links to dotfiles"
       "####failed to create symbolic links of dotfiles; exit 1",
     bashLib site "install_python.sh" [],
     if testHost then bashLib site "install_ruby.sh" [] else Sh.ret 0,
     plainStep site (unlessNo a.changeUbuntuSettings) "change_ubuntu_settings.sh"
       "####Change ubuntu settings such as power plan and dock icons",
     Sh.exit 0]

/-- The files of the repository in the directories that the driver is in and means. -/
def repoFiles : List Path :=
  ["cygwin_install.bat", "cygwin_install_1.sh", "install.sh", "myubuntu_setup.sh",
   "ubuntu_setup_1.sh", "ubuntu_setup_2.sh"].map (fun f => ["bin", "setup", f]) ++
  ["add_apt_repositories_and_update.sh", "add_japanese_packages.sh", "install_apt_packages.sh",
   "keyswap.sh", "enable_hibernate.sh", "download_dotfiles.sh", "download_my_fonts.sh",
   "create_symbolic_link.sh", "install_python.sh", "install_ruby.sh",
   "change_ubuntu_settings.sh"].map (fun f => ["lib", f])

end InitialSetups.Scripts
