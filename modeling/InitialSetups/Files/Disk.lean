import Mathlib.Data.List.Infix
import Mathlib.Tactic.Basic
import Mathlib.Data.Nat.Notation

/-!
# Disks, symbolic links and the resolution of paths

A disk says what stands at each physical path, counted from the root: a regular file with its
contents, a directory, or a symbolic link with the text of its target.  A path that a program
names is *resolved* first: symbolic links on the way are followed, at most `maxLinks` of them,
so that a dangling link and a link to itself both lead nowhere.

One directory `home` is fixed.  It and the directories above it always exist.
-/

namespace InitialSetups.Files

/-- A component of a path. -/
abbrev Name := String

/-- A component that names an entry: neither empty nor `.` nor `..`. -/
def Proper (f : Name) : Prop := f ≠ "" ∧ f ≠ "." ∧ f ≠ ".."

instance (f : Name) : Decidable (Proper f) := inferInstanceAs (Decidable (_ ∧ _ ∧ _))

/-- A path, as the list of its components. -/
abbrev Path := List Name

/-- The text of a symbolic link, cut at its slashes. -/
structure Target where
  absolute : Bool
  comps : List Name
  deriving DecidableEq, Repr

/-- What can stand at a path. -/
inductive Entry where
  | file (contents : String)
  | dir
  | link (target : Target)
  deriving DecidableEq, Repr

/-- What stands at each physical path. -/
abbrev Disk : Type := Path → Option Entry

namespace Disk

/-! ### Changing a disk -/

/-- Put one entry. -/
def put (p : Path) (e : Entry) (w : Disk) : Disk := fun q => if q = p then some e else w q

/-- Remove a path with everything below it. -/
def erase (p : Path) (w : Disk) : Disk := fun q => if p <+: q then none else w q

/-- The node at a path: its entry and everything below it. -/
def node (w : Disk) (p : Path) : Path → Option Entry := fun r => w (p ++ r)

/-- Put a whole node. -/
def plant (p : Path) (t : Path → Option Entry) (w : Disk) : Disk :=
  fun q => if p <+: q then t (q.drop p.length) else w q

/-- The two disks agree at every path outside `X`. -/
def AgreeOff (X : Path → Prop) (w w' : Disk) : Prop := ∀ q, ¬ X q → w' q = w q

lemma AgreeOff.refl (X : Path → Prop) (w : Disk) : AgreeOff X w w := fun _ _ => rfl

lemma AgreeOff.trans {X : Path → Prop} {w w' w'' : Disk} (h : AgreeOff X w w')
    (h' : AgreeOff X w' w'') : AgreeOff X w w'' :=
  fun q hq => (h' q hq).trans (h q hq)

lemma AgreeOff.mono {X Y : Path → Prop} {w w' : Disk} (h : AgreeOff X w w')
    (hXY : ∀ q, X q → Y q) : AgreeOff Y w w' :=
  fun q hq => h q fun hX => hq (hXY q hX)

@[simp] lemma put_self (p : Path) (e : Entry) (w : Disk) : put p e w p = some e := if_pos rfl

lemma put_of_ne {p q : Path} (h : q ≠ p) (e : Entry) (w : Disk) : put p e w q = w q := if_neg h

lemma erase_below {p q : Path} (h : p <+: q) (w : Disk) : erase p w q = none := if_pos h

@[simp] lemma erase_self (p : Path) (w : Disk) : erase p w p = none :=
  erase_below (List.prefix_refl p) w

lemma erase_apart {p q : Path} (h : ¬ p <+: q) (w : Disk) : erase p w q = w q :=
  if_neg h

lemma plant_apart {p q : Path} (h : ¬ p <+: q) (t : Path → Option Entry) (w : Disk) :
    plant p t w q = w q := if_neg h

@[simp] lemma plant_append (p r : Path) (t : Path → Option Entry) (w : Disk) :
    plant p t w (p ++ r) = t r := by
  simp [plant]

@[simp] lemma plant_self (p : Path) (t : Path → Option Entry) (w : Disk) :
    plant p t w p = t [] := by
  simpa using plant_append p [] t w

@[simp] lemma node_plant (p : Path) (t : Path → Option Entry) (w : Disk) :
    (plant p t w).node p = t := by
  funext r
  exact plant_append p r t w

lemma agreeOff_put (p : Path) (e : Entry) (w : Disk) : AgreeOff (p <+: ·) w (put p e w) :=
  fun _ hq => put_of_ne (fun h => hq (by rw [h])) e w

lemma agreeOff_erase (p : Path) (w : Disk) : AgreeOff (p <+: ·) w (erase p w) :=
  fun _ hq => erase_apart hq w

lemma agreeOff_plant (p : Path) (t : Path → Option Entry) (w : Disk) :
    AgreeOff (p <+: ·) w (plant p t w) :=
  fun _ hq => plant_apart hq t w

/-- A node outside the changed paths is the same before and after. -/
lemma AgreeOff.node_eq {X : Path → Prop} {w w' : Disk} (h : AgreeOff X w w') {p : Path}
    (hp : ∀ r, ¬ X (p ++ r)) : w'.node p = w.node p := by
  funext r
  exact h (p ++ r) (hp r)

/-! ### Resolving a path -/

section Resolve

variable (home : Path)

/-- What stands at a physical path; the home directory and those above it always exist. -/
def look (w : Disk) (p : Path) : Option Entry := if p <+: home then some .dir else w p

/-- Follow the components `todo` from the directory `cur`; a symbolic link is left to
`follow`, which gets the directory it is read from and what remains to be followed. -/
def walk (follow : Path → List Name → Option Path) (at_ : Path → Option Entry) :
    Path → List Name → Option Path
  | cur, [] => some cur
  | cur, c :: rest =>
    if c = "" ∨ c = "." then walk follow at_ cur rest
    else if c = ".." then walk follow at_ cur.dropLast rest
    else match at_ (cur ++ [c]) with
      | none => none
      | some .dir => walk follow at_ (cur ++ [c]) rest
      | some (.file _) => if rest = [] then some (cur ++ [c]) else none
      | some (.link t) => follow (if t.absolute then [] else cur) (t.comps ++ rest)

/-- Resolve `todo` from `cur`, following at most `n` symbolic links. -/
def resolveUpTo (at_ : Path → Option Entry) : ℕ → Path → List Name → Option Path
  | 0 => walk (fun _ _ => none) at_
  | n + 1 => walk (resolveUpTo at_ n) at_

/-- The number of symbolic links the kernel follows before it gives up. -/
def maxLinks : ℕ := 40

/-- The physical path that `$HOME/p` leads to, symbolic links followed. -/
def resolve (w : Disk) (p : Path) : Option Path := resolveUpTo (look home w) maxLinks home p

/-- What `$HOME/p` leads to, symbolic links followed. -/
def stat (w : Disk) (p : Path) : Option Entry := (resolve home w p).bind (look home w)

/-- The physical path of the entry `$HOME/p` itself, its last component not followed. -/
def locate (w : Disk) (p : Path) : Option Path :=
  match p.getLast?, resolve home w p.dropLast with
  | some x, some d => if look home w d = some .dir then some (d ++ [x]) else none
  | _, _ => none

/-- What the entry `$HOME/p` itself is, its last component not followed. -/
def lstat (w : Disk) (p : Path) : Option Entry := (locate home w p).bind (look home w)

end Resolve

/-! ### Entries of the home directory -/

variable {home : Path} {w : Disk} {f g : Name}

lemma home_append_prefix_iff {r : Path} : home ++ [f] <+: home ++ (g :: r) ↔ f = g := by
  rw [List.prefix_append_right_inj]
  simp

lemma not_home_prefix_home {r : Path} : ¬ home ++ (f :: r) <+: home := by
  intro h
  have hlen := h.length_le
  simp only [List.length_append, List.length_cons] at hlen
  omega

@[simp] lemma look_home (w : Disk) : look home w home = some .dir := if_pos (List.prefix_refl home)

@[simp] lemma look_in_home {r : Path} : look home w (home ++ (f :: r)) = w (home ++ (f :: r)) :=
  if_neg not_home_prefix_home

@[simp] lemma resolveUpTo_nil (at_ : Path → Option Entry) (n : ℕ) (cur : Path) :
    resolveUpTo at_ n cur [] = some cur := by
  cases n <;> rfl

@[simp] lemma resolve_nil (w : Disk) : resolve home w [] = some home := resolveUpTo_nil _ _ _

@[simp] lemma locate_singleton : locate home w [f] = some (home ++ [f]) := by
  simp [locate]

@[simp] lemma lstat_singleton : lstat home w [f] = w (home ++ [f]) := by
  simp [lstat]

lemma walk_cons (follow : Path → List Name → Option Path) (at_ : Path → Option Entry)
    (cur : Path) (c : Name) (rest : List Name) :
    walk follow at_ cur (c :: rest) =
      if c = "" ∨ c = "." then walk follow at_ cur rest
      else if c = ".." then walk follow at_ cur.dropLast rest
      else match at_ (cur ++ [c]) with
        | none => none
        | some .dir => walk follow at_ (cur ++ [c]) rest
        | some (.file _) => if rest = [] then some (cur ++ [c]) else none
        | some (.link t) => follow (if t.absolute then [] else cur) (t.comps ++ rest) := rfl

lemma walk_proper {follow : Path → List Name → Option Path} {at_ : Path → Option Entry}
    {cur : Path} {c : Name} {rest : List Name} (hc : Proper c) :
    walk follow at_ cur (c :: rest) =
      match at_ (cur ++ [c]) with
      | none => none
      | some .dir => walk follow at_ (cur ++ [c]) rest
      | some (.file _) => if rest = [] then some (cur ++ [c]) else none
      | some (.link t) => follow (if t.absolute then [] else cur) (t.comps ++ rest) := by
  rw [walk, if_neg (by rintro (h | h); exacts [hc.1 h, hc.2.1 h]), if_neg hc.2.2]

/-- An entry of the home directory that is no symbolic link leads to itself. -/
lemma resolve_singleton_of_not_link (hf : Proper f) {e : Entry} (he : w (home ++ [f]) = some e)
    (hl : ∀ t, e ≠ .link t) : resolve home w [f] = some (home ++ [f]) := by
  have hw : look home w (home ++ [f]) = some e := by rw [look_in_home, he]
  unfold resolve maxLinks resolveUpTo
  rw [walk_proper hf, hw]
  cases e with
  | file c => simp
  | dir => rfl
  | link t => exact absurd rfl (hl t)

lemma resolve_singleton_of_none (hf : Proper f) (he : w (home ++ [f]) = none) :
    resolve home w [f] = none := by
  have hw : look home w (home ++ [f]) = none := by rw [look_in_home, he]
  unfold resolve maxLinks resolveUpTo
  rw [walk_proper hf, hw]

lemma stat_singleton_of_not_link (hf : Proper f) {e : Entry} (he : w (home ++ [f]) = some e)
    (hl : ∀ t, e ≠ .link t) : stat home w [f] = some e := by
  rw [stat, resolve_singleton_of_not_link hf he hl, Option.bind_some, look_in_home, he]

lemma stat_singleton_of_none (hf : Proper f) (he : w (home ++ [f]) = none) :
    stat home w [f] = none := by
  rw [stat, resolve_singleton_of_none hf he, Option.bind_none]

end Disk

end InitialSetups.Files
