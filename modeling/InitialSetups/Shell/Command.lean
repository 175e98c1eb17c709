import Mathlib.Data.List.Basic
import Mathlib.Tactic.Basic
import Mathlib.Data.Nat.Notation

/-!
# Command lists of the shell

A command of the shell is a function on a world `σ`: it changes the world and ends either
with a status in `$?` or by leaving the shell through `exit`.  The combinators below are the
connectives of the shell's grammar.

* `&&` and `||` have equal precedence and associate to the left, so `A || B && C` is
  `(A.or B).and C`;
* `exit` leaves the shell it is run in, and a subshell `( … )` turns it into a plain status;
* a script run in a process of its own behaves like a subshell.
-/

namespace InitialSetups.Shell

/-- How a command ends: it leaves a status in `$?`, or it leaves the shell through `exit`. -/
inductive Flow where
  | status (n : ℕ)
  | exit (n : ℕ)
  deriving DecidableEq, Repr

/-- The status that a caller in another process sees. -/
def Flow.code : Flow → ℕ
  | .status n => n
  | .exit n => n

@[simp] lemma Flow.code_status (n : ℕ) : (Flow.status n).code = n := rfl
@[simp] lemma Flow.code_exit (n : ℕ) : (Flow.exit n).code = n := rfl

/-- A command of the shell over a world `σ`. -/
abbrev Sh (σ : Type) : Type := σ → Flow × σ

namespace Sh

variable {σ α : Type}

/-- The command that only leaves the status `n`. -/
def ret (n : ℕ) : Sh σ := fun s => (.status n, s)

/-- `exit n`. -/
def exit (n : ℕ) : Sh σ := fun s => (.exit n, s)

/-- A simple command: it leaves a status and may change the world. -/
def simple (f : σ → ℕ × σ) : Sh σ := fun s => (.status (f s).1, (f s).2)

/-- A test `[ … ]`: status `0` when it holds, `1` when it does not. -/
def test (p : σ → Bool) : Sh σ := simple fun s => (if p s then 0 else 1, s)

/-- Run `c`, then what follows it, which may read the status in `$?`. -/
def bind (c : Sh σ) (k : ℕ → Sh σ) : Sh σ := fun s =>
  match c s with
  | (.status n, s') => k n s'
  | (.exit n, s') => (.exit n, s')

/-- `c; d`. -/
def seq (c d : Sh σ) : Sh σ := c.bind fun _ => d

/-- `c && d`. -/
def and (c d : Sh σ) : Sh σ := c.bind fun n => if n = 0 then d else ret n

/-- `c || d`. -/
def or (c d : Sh σ) : Sh σ := c.bind fun n => if n = 0 then ret 0 else d

/-- `if c; then a; else b; fi`. -/
def ifThen (c a b : Sh σ) : Sh σ := c.bind fun n => if n = 0 then a else b

/-- `( c )`, or a process of its own: `exit` ends only this shell. -/
def subshell (c : Sh σ) : Sh σ := fun s => (.status (c s).1.code, (c s).2)

/-- The commands of a list one after the other, `$?` being `n` before the first. -/
def blockFrom : ℕ → List (Sh σ) → Sh σ
  | n, [] => ret n
  | _, c :: cs => c.bind fun m => blockFrom m cs

/-- The commands of a list one after the other, each on a line of its own. -/
def block (cs : List (Sh σ)) : Sh σ := blockFrom 0 cs

/-- `for x in xs; do body; done`. -/
def forEach (xs : List α) (body : α → Sh σ) : Sh σ := block (xs.map body)

/-! ### What the connectives compute -/

lemma bind_of_status {c : Sh σ} {k : ℕ → Sh σ} {s s' : σ} {n : ℕ}
    (h : c s = (.status n, s')) : c.bind k s = k n s' := by
  simp only [bind, h]

lemma bind_of_exit {c : Sh σ} {k : ℕ → Sh σ} {s s' : σ} {n : ℕ}
    (h : c s = (.exit n, s')) : c.bind k s = (.exit n, s') := by
  simp only [bind, h]

@[simp] lemma ret_apply (n : ℕ) (s : σ) : (ret n : Sh σ) s = (.status n, s) := rfl

@[simp] lemma exit_apply (n : ℕ) (s : σ) : (exit n : Sh σ) s = (.exit n, s) := rfl

@[simp] lemma simple_apply (f : σ → ℕ × σ) (s : σ) :
    simple f s = (.status (f s).1, (f s).2) := rfl

@[simp] lemma test_apply (p : σ → Bool) (s : σ) :
    test p s = (.status (if p s then 0 else 1), s) := rfl

@[simp] lemma ret_bind (n : ℕ) (k : ℕ → Sh σ) : (ret n).bind k = k n := rfl

@[simp] lemma exit_bind (n : ℕ) (k : ℕ → Sh σ) : (exit n).bind k = exit n := rfl

@[simp] lemma simple_bind_apply (f : σ → ℕ × σ) (k : ℕ → Sh σ) (s : σ) :
    (simple f).bind k s = k (f s).1 (f s).2 := rfl

@[simp] lemma test_bind_apply (p : σ → Bool) (k : ℕ → Sh σ) (s : σ) :
    (test p).bind k s = k (if p s then 0 else 1) s := rfl

lemma bind_assoc (c : Sh σ) (k l : ℕ → Sh σ) :
    (c.bind k).bind l = c.bind fun n => (k n).bind l := by
  funext s
  rcases h : c s with ⟨n | n, s'⟩
  · simp only [bind, h]
  · simp only [bind, h]

lemma and_apply_zero {c d : Sh σ} {s s' : σ} (h : c s = (.status 0, s')) :
    c.and d s = d s' := by
  rw [and, bind_of_status h, if_pos rfl]

lemma and_apply_ne_zero {c d : Sh σ} {s s' : σ} {n : ℕ} (h : c s = (.status n, s'))
    (hn : n ≠ 0) : c.and d s = (.status n, s') := by
  rw [and, bind_of_status h, if_neg hn, ret_apply]

lemma or_apply_zero {c d : Sh σ} {s s' : σ} (h : c s = (.status 0, s')) :
    c.or d s = (.status 0, s') := by
  rw [or, bind_of_status h, if_pos rfl, ret_apply]

lemma or_apply_ne_zero {c d : Sh σ} {s s' : σ} {n : ℕ} (h : c s = (.status n, s'))
    (hn : n ≠ 0) : c.or d s = d s' := by
  rw [or, bind_of_status h, if_neg hn]

@[simp] lemma subshell_apply (c : Sh σ) (s : σ) :
    subshell c s = (.status (c s).1.code, (c s).2) := rfl

@[simp] lemma blockFrom_nil (n : ℕ) : (blockFrom n [] : Sh σ) = ret n := rfl

@[simp] lemma blockFrom_cons (n : ℕ) (c : Sh σ) (cs : List (Sh σ)) :
    blockFrom n (c :: cs) = c.bind fun m => blockFrom m cs := rfl

@[simp] lemma block_nil : (block [] : Sh σ) = ret 0 := rfl

@[simp] lemma block_cons (c : Sh σ) (cs : List (Sh σ)) :
    block (c :: cs) = c.bind fun m => blockFrom m cs := rfl

@[simp] lemma blockFrom_singleton (n : ℕ) (c : Sh σ) : blockFrom n [c] = c := by
  funext s
  rcases h : c s with ⟨m | m, s'⟩
  · rw [blockFrom_cons, bind_of_status h, blockFrom_nil, ret_apply]
  · rw [blockFrom_cons, bind_of_exit h]

lemma blockFrom_cons_of_status {c : Sh σ} {cs : List (Sh σ)} {s s' : σ} {m n : ℕ}
    (h : c s = (.status n, s')) : blockFrom m (c :: cs) s = blockFrom n cs s' :=
  bind_of_status h

lemma blockFrom_append (cs ds : List (Sh σ)) :
    ∀ n, blockFrom n (cs ++ ds) = (blockFrom n cs).bind fun m => blockFrom m ds := by
  induction cs with
  | nil => intro n; rfl
  | cons c cs ih =>
      intro n
      rw [List.cons_append, blockFrom_cons, blockFrom_cons, bind_assoc]
      congr 1
      funext m
      exact ih m

/-! ### Loops -/

/-- Every pass of `for x in xs; do body; done` finds a world satisfying `P`. -/
def AtEachPass (body : α → Sh σ) (P : α → σ → Prop) : List α → σ → Prop
  | [], _ => True
  | x :: xs, s => P x s ∧ AtEachPass body P xs (body x s).2

lemma blockFrom_world_eq {cs : List (Sh σ)} (m n : ℕ) (s : σ) :
    (blockFrom m cs s).2 = (blockFrom n cs s).2 := by
  cases cs with
  | nil => rfl
  | cons c cs => rfl

@[simp] lemma forEach_nil (body : α → Sh σ) : forEach [] body = ret 0 := rfl

lemma forEach_cons_world {body : α → Sh σ} {x : α} {xs : List α} {s s' : σ} {n : ℕ}
    (h : body x s = (.status n, s')) : (forEach (x :: xs) body s).2 = (forEach xs body s').2 := by
  rw [forEach, List.map_cons, block_cons, bind_of_status h]
  exact blockFrom_world_eq _ _ _

/-- What holds of a loop whose passes all end normally, by induction on the passes made.  `I`
speaks of the words done so far, the last first. -/
lemma forEach_induct {body : α → Sh σ} {P : α → σ → Prop} {I : List α → σ → Prop}
    {xs : List α} (done : List α) (s : σ)
    (hstep : ∀ done x s, I done s → P x s → ∃ n s', body x s = (.status n, s') ∧ I (x :: done) s')
    (hs : I done s) (hP : AtEachPass body P xs s) :
    I (xs.reverse ++ done) (forEach xs body s).2 := by
  induction xs generalizing done s with
  | nil => exact hs
  | cons x xs ih =>
      obtain ⟨hx, hxs⟩ := hP
      obtain ⟨n, s', hrun, hs'⟩ := hstep done x s hs hx
      rw [forEach_cons_world hrun, List.reverse_cons, List.append_assoc]
      rw [hrun] at hxs
      exact ih _ _ hs' hxs

lemma AtEachPass.mono {body : α → Sh σ} {P Q : α → σ → Prop} {xs : List α} {s : σ}
    (h : AtEachPass body P xs s) (hPQ : ∀ x ∈ xs, ∀ s, P x s → Q x s) :
    AtEachPass body Q xs s := by
  induction xs generalizing s with
  | nil => trivial
  | cons x xs ih =>
      exact ⟨hPQ x List.mem_cons_self s h.1,
        ih h.2 fun y hy => hPQ y (List.mem_cons_of_mem x hy)⟩

lemma AtEachPass.and {body : α → Sh σ} {P Q : α → σ → Prop} {xs : List α} {s : σ}
    (h : AtEachPass body P xs s) (h' : AtEachPass body Q xs s) :
    AtEachPass body (fun x s => P x s ∧ Q x s) xs s := by
  induction xs generalizing s with
  | nil => trivial
  | cons x xs ih => exact ⟨⟨h.1, h'.1⟩, ih h.2 h'.2⟩

/-- What holds of every world holds at each pass. -/
lemma AtEachPass.of_forall {body : α → Sh σ} {P : α → σ → Prop} {xs : List α}
    (h : ∀ x ∈ xs, ∀ s, P x s) (s : σ) : AtEachPass body P xs s := by
  induction xs generalizing s with
  | nil => trivial
  | cons x xs ih =>
      exact ⟨h x List.mem_cons_self s, ih (fun y hy => h y (List.mem_cons_of_mem x hy)) _⟩

/-- What an invariant of the passes implies holds at each pass. -/
lemma AtEachPass.of_invariant {body : α → Sh σ} {P : α → σ → Prop} {I : σ → Prop} {xs : List α}
    {s : σ} (h : ∀ x ∈ xs, ∀ s, I s → P x s ∧ I (body x s).2) (hs : I s) :
    AtEachPass body P xs s := by
  induction xs generalizing s with
  | nil => trivial
  | cons x xs ih =>
      obtain ⟨hx, hs'⟩ := h x List.mem_cons_self s hs
      exact ⟨hx, ih (fun y hy => h y (List.mem_cons_of_mem x hy)) hs'⟩

/-! ### What a caller sees -/

/-- The world after the command, whichever way it ends. -/
def world (c : Sh σ) (s : σ) : σ := (c s).2

/-- The status a caller in another process sees. -/
def code (c : Sh σ) (s : σ) : ℕ := (c s).1.code

end Sh

end InitialSetups.Shell
