import InitialSetups.Tmux.PaneBorder

/-!
# The destination on the command line of `ssh`

A command line is made of the parts that a process list shows of it; the script finds the user
and the host among them.
-/

namespace InitialSetups.Tmux

open InitialSetups.Text Ere

/-- A name in a destination. -/
structure IsName (name : Chars) : Prop where
  word : IsWord isBlank name
  no_at : '@' ∉ name

/-- A number. -/
structure IsNumber (number : Chars) : Prop where
  ne_nil : number ≠ []
  digits : ∀ c ∈ number, c.isDigit = true

/-- A line of the process list with `ssh [-p port] [user@]host`. -/
structure Command where
  pid : Chars
  blanks : Chars
  port : Option Chars
  user : Option Chars
  host : Chars
  pid_digits : ∀ c ∈ pid, c.isDigit = true
  blanks_blank : Blank blanks
  port_number : ∀ number ∈ port, IsNumber number
  user_name : ∀ name ∈ user, IsName name
  host_name : IsName host

namespace Command

/-- `[user@]host`. -/
def destination (cmd : Command) : Chars :=
  match cmd.user with
  | some user => user ++ '@' :: cmd.host
  | none => cmd.host

/-- What follows `ssh`. -/
def arguments (cmd : Command) : Chars :=
  match cmd.port with
  | some number => "-p ".toList ++ (number ++ ' ' :: cmd.destination)
  | none => cmd.destination

/-- The line. -/
def line (cmd : Command) : Chars :=
  cmd.pid ++ (cmd.blanks ++ ("ssh ".toList ++ cmd.arguments))

end Command

variable {n : ℕ} {xs ys number : Chars} {cmd : Command}

/-! ### Reading the arguments -/

lemma has_digits {c : Char} : (⟨false, [('0', '9')]⟩ : CharSet).has c = true ↔
    c.isDigit = true := by
  simp only [CharSet.has, List.any_cons, List.any_nil, Bool.or_false, Bool.false_xor,
    Char.isDigit, Bool.and_eq_true, decide_eq_true_eq]
  exact Iff.rfl

lemma has_blanks {c : Char} : (⟨false, [(' ', ' '), ('\t', '\t')]⟩ : CharSet).has c = true ↔
    isBlank c = true := by
  have hlist : [(' ', ' '), ('\t', '\t')] = [' ', '\t'].map fun d => (d, d) := rfl
  rw [hlist, has_listed]
  simp [isBlank]

lemma mem_ends_command : ys ∈ commandEre.ends n xs ↔
    xs.length = n ∧ ∃ ds bs, xs = ds ++ (bs ++ ("ssh ".toList ++ ys)) ∧
      (∀ d ∈ ds, d.isDigit = true) ∧ Blank bs := by
  have hlits : ∀ zs as : Chars, zs ∈ (seq ("ssh ".toList.map lit)).ends n as ↔
      as = "ssh ".toList ++ zs := fun _ _ => mem_ends_lits
  simp only [commandEre, seq, mem_ends_cat, mem_ends_bol, mem_ends_star_one, has_digits,
    has_blanks, hlits, Blank]
  constructor
  · rintro ⟨_, ⟨rfl, hlen⟩, _, ⟨ds, rfl, hds⟩, _, ⟨bs, rfl, hbs⟩, rfl⟩
    exact ⟨hlen, ds, bs, rfl, hds, hbs⟩
  · rintro ⟨hlen, ds, bs, rfl, hds, hbs⟩
    exact ⟨_, ⟨rfl, hlen⟩, _, ⟨ds, rfl, hds⟩, _, ⟨bs, rfl, hbs⟩, rfl⟩

lemma isDigit_of_blank {c : Char} (h : isBlank c = true) : c.isDigit = false := by
  simp only [isBlank, Bool.or_eq_true, decide_eq_true_eq] at h
  rcases h with rfl | rfl <;> rfl

/-- No digit stands directly after the process number. -/
lemma not_digit_head (bs : Chars) (hbs : Blank bs) (ys : Chars) :
    ∀ c ∈ (bs ++ ("ssh ".toList ++ ys)).head?, c.isDigit = false := by
  cases bs with
  | nil =>
      rintro c ⟨⟩
      rfl
  | cons b bs =>
      rintro c ⟨⟩
      exact isDigit_of_blank (hbs b List.mem_cons_self)

lemma longest_line : longest cmd.line.length commandEre cmd.line = some cmd.arguments := by
  refine longest_eq_some.2 ⟨mem_ends_command.2 ⟨rfl, cmd.pid, cmd.blanks, rfl, cmd.pid_digits,
    cmd.blanks_blank⟩, fun zs hzs => ?_⟩
  obtain ⟨-, ds, bs, he, hds, hbs⟩ := mem_ends_command.1 hzs
  -- the digits and the blanks end where they end
  have hblank := (append_inj_of_boundary cmd.pid_digits hds
    (not_digit_head cmd.blanks cmd.blanks_blank _) (not_digit_head bs hbs zs) he).2
  have hssh := (append_inj_of_boundary cmd.blanks_blank hbs
    (by rintro c ⟨⟩; rfl) (by rintro c ⟨⟩; rfl) hblank).2
  rw [List.append_cancel_left hssh]

/-- The script finds the arguments of `ssh`. -/
lemma info_line : info cmd.line = cmd.arguments := subst_of_longest longest_line

/-! ### The port -/

lemma mem_ends_port : ys ∈ portEre.ends n xs ↔
    ∃ number, IsNumber number ∧ xs = "-p ".toList ++ (number ++ ys) := by
  have hlits : ∀ zs as : Chars, zs ∈ (seq ("-p ".toList.map lit)).ends n as ↔
      as = "-p ".toList ++ zs := fun _ _ => mem_ends_lits
  simp only [portEre, mem_ends_seq_append, hlits, seq, mem_ends_cat, mem_ends_plus_one,
    mem_ends_empty, has_digits]
  constructor
  · rintro ⟨zs, rfl, as, ⟨ds, d, rfl, hd, hds⟩, rfl⟩
    refine ⟨ds ++ [d], ⟨by simp, fun c hc => ?_⟩, by simp⟩
    rcases List.mem_append.1 hc with hc | hc
    · exact hds c hc
    · rwa [List.mem_singleton.1 hc]
  · rintro ⟨number, hnumber, rfl⟩
    obtain ⟨ds, d, rfl⟩ := (List.eq_nil_or_concat number).resolve_left hnumber.ne_nil
    rw [List.concat_eq_append] at hnumber ⊢
    exact ⟨_, rfl, ys, ⟨ds, d, by simp, hnumber.digits d (by simp),
      fun c hc => hnumber.digits c (List.mem_append_left _ hc)⟩, rfl⟩

/-- A destination has no blank. -/
lemma solid_destination : ∀ c ∈ cmd.destination, isBlank c = false := by
  rw [Command.destination]
  cases huser : cmd.user with
  | none => exact cmd.host_name.word.solid
  | some user =>
      intro c hc
      rcases List.mem_append.1 hc with hc | hc
      · exact (cmd.user_name user huser).word.solid c hc
      · rcases List.mem_cons.1 hc with rfl | hc
        · rfl
        · exact cmd.host_name.word.solid c hc

lemma isWord_destination : IsWord isBlank cmd.destination := by
  refine ⟨?_, solid_destination⟩
  rw [Command.destination]
  cases cmd.user with
  | none => exact cmd.host_name.word.ne_nil
  | some user => simp

/-- Nothing in a destination, nor in the blank before it, is matched that starts with `-p` and a
blank. -/
lemma no_match_destination (cmd : Command) {r : Ere}
    (hr : ∀ zs ys, ys ∈ r.ends n zs → ∃ as, zs = "-p ".toList ++ as) :
    ∀ zs, zs <:+ ' ' :: cmd.destination → r.ends n zs = [] := by
  refine fun zs hzs => List.eq_nil_iff_forall_not_mem.2 fun ys hys => ?_
  obtain ⟨as, rfl⟩ := hr zs ys hys
  rcases List.suffix_cons_iff.1 hzs with he | hsuffix
  · cases he
  · have hblank := solid_destination ' ' (hsuffix.subset (by simp))
    cases hblank

lemma option_of_mem_ends_port (zs ys : Chars) (h : ys ∈ portEre.ends n zs) :
    ∃ as, zs = "-p ".toList ++ as := by
  obtain ⟨number, -, rfl⟩ := mem_ends_port.1 h
  exact ⟨_, rfl⟩

lemma option_of_mem_ends_lits (zs ys : Chars)
    (h : ys ∈ (lits ("-p ".toList ++ number)).ends n zs) : ∃ as, zs = "-p ".toList ++ as :=
  ⟨number ++ ys, by rw [mem_ends_lits.1 h, List.append_assoc]⟩

/-- The number after `-p` ends at the blank. -/
lemma longest_port (hnumber : IsNumber number) :
    longest n portEre ("-p ".toList ++ (number ++ ' ' :: xs)) = some (' ' :: xs) := by
  refine longest_eq_some.2 ⟨mem_ends_port.2 ⟨number, hnumber, rfl⟩, fun zs hzs => ?_⟩
  obtain ⟨number', hnumber', he⟩ := mem_ends_port.1 hzs
  rcases List.append_eq_append_iff.1 (List.append_cancel_left he) with ⟨as, rfl, has⟩ | ⟨as, -, rfl⟩
  · cases as with
    | nil => rw [has, List.nil_append]
    | cons a as =>
        have hdigit := hnumber'.digits a (by simp)
        obtain ⟨rfl, -⟩ := List.cons.inj has
        cases hdigit
  · simp

lemma number_ne_nil : "-p ".toList ++ number ≠ [] := List.cons_ne_nil _ _

lemma subst_option : subst (lits "-p ".toList) [] ("-p ".toList ++ number) = number :=
  subst_of_longest longest_lits

/-- The script finds the port. -/
lemma port_arguments : port cmd.arguments = some (cmd.port.getD "22".toList) := by
  rw [port, grepO, Command.arguments]
  cases hport : cmd.port with
  | none =>
      have hno := no_match_destination cmd (@option_of_mem_ends_port cmd.destination.length)
      simp only [matchesFrom_of_no_match fun zs hzs => hno zs (hzs.trans (List.suffix_cons _ _))]
      rfl
  | some number =>
      have hlong := @longest_port ("-p ".toList ++ (number ++ ' ' :: cmd.destination)).length
        cmd.destination number (cmd.port_number number hport)
      simp only [← List.append_assoc] at hlong ⊢
      rw [matchesFrom_of_longest hlong number_ne_nil,
        matchesFrom_of_no_match (no_match_destination cmd option_of_mem_ends_port),
        List.map_singleton, subst_option]
      rfl

/-- Without the port, the destination is the last field. -/
lemma lastField_withoutPort :
    lastField (withoutPort (cmd.port.getD "22".toList) cmd.arguments) = cmd.destination := by
  have hword := @isWord_destination cmd
  rw [lastField, withoutPort, gsub, Command.arguments]
  cases hport : cmd.port with
  | none =>
      have hno := no_match_destination cmd
        (@option_of_mem_ends_lits cmd.destination.length "22".toList)
      simp only [Option.getD_none]
      rw [gsubFrom_of_no_match fun zs hzs => hno zs (hzs.trans (List.suffix_cons _ _)),
        words_of_isWord hword]
      rfl
  | some number =>
      simp only [Option.getD_some, ← List.append_assoc]
      rw [gsubFrom_of_longest longest_lits number_ne_nil,
        gsubFrom_of_no_match (no_match_destination cmd option_of_mem_ends_lits), List.nil_append,
        words_cons rfl, words_of_isWord hword]
      rfl

/-! ### User and host -/

lemma cutAt_of_at {user host : Chars} (huser : '@' ∉ user) (hhost : '@' ∉ host) :
    cutAt 1 (user ++ '@' :: host) = user ∧ cutAt 2 (user ++ '@' :: host) = host := by
  have hat : '@' ∈ user ++ '@' :: host := by simp
  have hsplit : (user ++ '@' :: host).splitOn '@' = [user, host] := by
    rw [List.splitOn_append_cons_self_of_not_mem huser, List.splitOn_eq_singleton hhost]
  constructor <;> rw [cutAt, if_pos hat, hsplit] <;> rfl

lemma cutAt_destination : cutAt 1 cmd.destination = cmd.user.getD cmd.host ∧
    cutAt 2 cmd.destination = cmd.host := by
  rw [Command.destination]
  cases huser : cmd.user with
  | none => exact ⟨if_neg cmd.host_name.no_at, if_neg cmd.host_name.no_at⟩
  | some user => exact cutAt_of_at (cmd.user_name user huser).no_at cmd.host_name.no_at

/-- What the script prints for a command line of `ssh`. -/
lemma paneBorder_of_command {processes config : List Chars} {me : Chars}
    (h : sshLines processes = [cmd.line]) : paneBorder processes config me =
      some (if cmd.user.getD cmd.host = cmd.host
        then label (lookup cmd.host (hostUsers config) me) cmd.host
        else label (cmd.user.getD cmd.host) cmd.host) := by
  rw [paneBorder, h]
  simp only [info_line, port_arguments, Option.map_some, lastField_withoutPort,
    (cutAt_destination).1, (cutAt_destination).2]

end InitialSetups.Tmux
