import InitialSetups.Text.Edit
import InitialSetups.Text.Words

/-!
# `tmux-pane-border`

For a pane in which `ssh` runs, the script prints ` ssh:user@host `.  User and host are cut out
of the command line of the process.  When no user is written there, `awk` turns the `Host` and
`User` lines of `~/.ssh/config` into lines `pattern|user`, and the user of the first such line
that matches the host as a regular expression is taken.

The model is about runs in which one line of the process list mentions `ssh`.
-/

namespace InitialSetups.Tmux

open InitialSetups.Text Ere

/-! ### The command line -/

/-- `^[0-9]*[[:blank:]]*ssh `. -/
def commandEre : Ere :=
  seq (bol :: star (one ⟨false, [('0', '9')]⟩) :: star (one ⟨false, [(' ', ' '), ('\t', '\t')]⟩) ::
    "ssh ".toList.map lit)

/-- The lines of the process list that mention `ssh`. -/
def sshLines (processes : List Chars) : List Chars := processes.filter (lits "ssh".toList).search

/-- `sed -E 's/^[0-9]*[[:blank:]]*ssh //'`. -/
def info (line : Chars) : Chars := subst commandEre [] line

/-- `-p ([0-9]+)`. -/
def portEre : Ere := seq ("-p ".toList.map lit ++ [plus (one ⟨false, [('0', '9')]⟩)])

/-- The port: the number after `-p`, else 22; `none` when there are several. -/
def port (info : Chars) : Option Chars :=
  match (grepO portEre info).map (subst (lits "-p ".toList) []) with
  | [] => some "22".toList
  | [number] => some number
  | _ => none

/-- `sed 's/\-p '"$port"'//g'`. -/
def withoutPort (port info : Chars) : Chars := gsub (lits ("-p ".toList ++ port)) [] info

/-- `awk '{print $NF}'`. -/
def lastField (line : Chars) : Chars := (words isBlank line).getLast?.getD line

/-- `cut -f$k -d@`: the whole line when it has no `@`. -/
def cutAt (k : ℕ) (line : Chars) : Chars :=
  if '@' ∈ line then (line.splitOn '@').getD (k - 1) [] else line

/-! ### The configuration -/

/-- `gsub("\\\\.", "\\\\.", $2)`, then `gsub("\\\\*", ".*", $2)`.  As regular expressions the two
strings are a backslash with the character after it, and any number of backslashes. -/
def rewriteHost (pattern : Chars) : Chars :=
  gsub (star (lit '\\')) ".*".toList (gsub (cat (lit '\\') any) "\\.".toList pattern)

/-- What `awk` keeps between the lines of the configuration: the pattern of the last `Host` line,
and the lines that it has printed. -/
structure Awk where
  host : Chars
  printed : List Chars
  deriving DecidableEq, Repr

/-- `awk` on the fields of a line of the configuration. -/
def Awk.step (st : Awk) (fields : List Chars) : Awk :=
  if fields.head? = some "Host".toList then { st with host := rewriteHost (fields.getD 1 []) }
  else if fields.head? = some "User".toList then
    { st with printed := st.printed ++ [st.host ++ '|' :: [' '].intercalate fields.tail] }
  else st

/-- `list=$(awk …)`. -/
def hostUsers (config : List Chars) : List Chars :=
  ((config.map (words isBlank)).foldl Awk.step ⟨[], []⟩).printed

/-- The lines that `echo $list | while read line` goes through: an empty one if there is none. -/
def readLines (list : List Chars) : List Chars := if list = [] then [[]] else list.map strip

/-- `${line#*|}`. -/
def afterBar (line : Chars) : Chars :=
  if '|' ∈ line then (line.dropWhile (· ≠ '|')).drop 1 else line

/-- `[[ "$host" =~ $line ]]`: false for a line that is no regular expression. -/
def lineMatches (host line : Chars) : Bool :=
  match parse line with
  | some r => r.search host
  | none => false

/-- The loop: the user of the first line that matches. -/
def lookup (host : Chars) (list : List Chars) (user : Chars) : Chars :=
  match (readLines list).find? (lineMatches host) with
  | some line => afterBar line
  | none => user

/-! ### The label -/

/-- The label of a pane. -/
def label (user host : Chars) : Chars := " ssh:".toList ++ user ++ '@' :: host ++ [' ']

/-- What the script prints when called with `ssh`, without the newline; `me` is the output of
`whoami`. -/
def paneBorder (processes config : List Chars) (me : Chars) : Option Chars :=
  match sshLines processes with
  | [line] =>
    (port (info line)).map fun number =>
      let destination := lastField (withoutPort number (info line))
      let user := cutAt 1 destination
      let host := cutAt 2 destination
      if user = host then label (lookup host (hostUsers config) me) host else label user host
  | _ => none

end InitialSetups.Tmux
