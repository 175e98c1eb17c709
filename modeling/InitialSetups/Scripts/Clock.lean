import InitialSetups.Scripts.Dotfiles

/-!
# The stamps of the backups

The scripts stamp a backup with the output of `date`, down to the minute.  Two formats are in
use; both write digits, one of them with an underscore in the middle.
-/

namespace InitialSetups.Scripts

open InitialSetups.Files

/-- What the clock shows. -/
structure Clock where
  year : ℕ
  month : ℕ
  day : ℕ
  hour : ℕ
  minute : ℕ
  deriving DecidableEq, Repr

/-- The last `k` decimal digits of `n`. -/
def digits : ℕ → ℕ → List Char
  | 0, _ => []
  | k + 1, n => digits k (n / 10) ++ [Nat.digitChar (n % 10)]

/-- `%Y%m%d`. -/
def Clock.ymd (c : Clock) : List Char := digits 4 c.year ++ digits 2 c.month ++ digits 2 c.day

/-- `%H%M`. -/
def Clock.hm (c : Clock) : List Char := digits 2 c.hour ++ digits 2 c.minute

/-- `date +%Y%m%d_%H%M`. -/
def Clock.stampUnderscore (c : Clock) : String := String.ofList (c.ymd ++ ['_'] ++ c.hm)

/-- `date +%Y%m%d%H%M`. -/
def Clock.stampPlain (c : Clock) : String := String.ofList (c.ymd ++ c.hm)

/-- A character of a stamp. -/
def IsStampChar (c : Char) : Prop := c.isDigit = true ∨ c = '_'

instance (c : Char) : Decidable (IsStampChar c) := inferInstanceAs (Decidable (_ ∨ _))

/-- A stamp has digits and underscores only. -/
def IsStamp (stamp : String) : Prop := stamp ≠ "" ∧ ∀ c ∈ stamp.toList, IsStampChar c

lemma isDigit_digitChar : ∀ d < 10, (Nat.digitChar d).isDigit = true := by decide

lemma isStampChar_digits {k n : ℕ} {c : Char} (h : c ∈ digits k n) : IsStampChar c := by
  induction k generalizing n with
  | zero => cases h
  | succ k ih =>
      rcases List.mem_append.1 h with h | h
      · exact ih h
      · rw [List.mem_singleton.1 h]
        exact .inl (isDigit_digitChar _ (Nat.mod_lt _ (by omega)))

lemma isStampChar_ymd {clock : Clock} {c : Char} (h : c ∈ clock.ymd) : IsStampChar c := by
  simp only [Clock.ymd, List.mem_append] at h
  rcases h with (h | h) | h <;> exact isStampChar_digits h

lemma isStampChar_hm {clock : Clock} {c : Char} (h : c ∈ clock.hm) : IsStampChar c := by
  rcases List.mem_append.1 h with h | h <;> exact isStampChar_digits h

lemma isStamp_stampUnderscore (clock : Clock) : IsStamp clock.stampUnderscore := by
  refine ⟨fun he => ?_, fun c hc => ?_⟩
  · have hlist := congrArg String.toList he
    simp [Clock.stampUnderscore] at hlist
  · rw [Clock.stampUnderscore, String.toList_ofList, List.mem_append, List.mem_append,
      List.mem_singleton] at hc
    rcases hc with (hc | rfl) | hc
    · exact isStampChar_ymd hc
    · exact .inr rfl
    · exact isStampChar_hm hc

lemma isStamp_stampPlain (clock : Clock) : IsStamp clock.stampPlain := by
  refine ⟨fun he => ?_, fun c hc => ?_⟩
  · have hlist := congrArg String.toList he
    simp [Clock.stampPlain, Clock.ymd, digits] at hlist
  · rw [Clock.stampPlain, String.toList_ofList, List.mem_append] at hc
    exact hc.elim isStampChar_ymd isStampChar_hm

/-! ### Stamped names -/

variable {stamp stamp' name name' : String}

lemma stamped_toList : (stamped name stamp).toList = name.toList ++ '.' :: stamp.toList := by
  simp [stamped]

lemma IsStamp.dot_notMem (h : IsStamp stamp) : '.' ∉ stamp.toList :=
  fun hmem => absurd (h.2 '.' hmem) (by decide)

/-- A list is cut at its last `x` in one way. -/
lemma append_cons_inj_of_notMem {α : Type} {x : α} {l l' s s' : List α} (hs : x ∉ s)
    (hs' : x ∉ s') (h : l ++ x :: s = l' ++ x :: s') : l = l' ∧ s = s' := by
  rcases List.append_eq_append_iff.1 h with ⟨m, hl, hm⟩ | ⟨m, hl, hm⟩ <;>
    rcases m with _ | ⟨y, m⟩ <;> simp only [List.nil_append, List.append_nil, List.cons_append,
      List.cons.injEq] at hl hm
  · exact ⟨hl.symm, hm.2⟩
  · exact absurd (hm.2 ▸ List.mem_append_right m List.mem_cons_self) hs
  · exact ⟨hl, hm.2.symm⟩
  · exact absurd (hm.2 ▸ List.mem_append_right m List.mem_cons_self) hs'

/-- A stamped name tells the name and the stamp. -/
lemma stamped_injective (h : IsStamp stamp) (h' : IsStamp stamp')
    (he : stamped name stamp = stamped name' stamp') : name = name' ∧ stamp = stamp' := by
  have hlist := congrArg String.toList he
  rw [stamped_toList, stamped_toList] at hlist
  obtain ⟨h₁, h₂⟩ := append_cons_inj_of_notMem h.dot_notMem h'.dot_notMem hlist
  exact ⟨String.toList_injective h₁, String.toList_injective h₂⟩

/-- A stamped name ends like a stamp. -/
lemma getLast_stamped (h : IsStamp stamp) :
    ∃ c, (stamped name stamp).toList.getLast? = some c ∧ IsStampChar c := by
  have hne : stamp.toList ≠ [] := fun he => h.1 (String.toList_injective he)
  refine ⟨stamp.toList.getLast hne, ?_, h.2 _ (List.getLast_mem hne)⟩
  rw [stamped_toList, List.getLast?_append, List.getLast?_cons, List.getLast?_eq_some_getLast hne]
  rfl

/-- A name that does not end like a stamp is no stamped name. -/
lemma stamped_ne_of_getLast {n : String} (h : IsStamp stamp)
    (hn : ∀ c, n.toList.getLast? = some c → ¬ IsStampChar c) : stamped name stamp ≠ n := by
  rintro rfl
  obtain ⟨c, hc, hstamp⟩ := @getLast_stamped stamp name h
  exact hn c hc hstamp

lemma proper_stamped {file : String} (hf : IsDotfile file) : Proper (stamped (dot file) stamp) := by
  have hlen : 0 < file.toList.length := by
    rw [List.length_pos_iff]
    exact fun h => hf.1 (String.toList_injective h)
  have hlong : ∀ n : String, n.toList.length ≤ 2 → stamped (dot file) stamp ≠ n := by
    intro n hn he
    have hlist := congrArg (fun n : String => n.toList.length) he
    simp only [stamped_toList, dot_toList, List.length_append, List.length_cons] at hlist
    omega
  exact ⟨hlong _ (by decide), hlong _ (by decide), hlong _ (by decide)⟩

/-- The names of the dotfiles do not end like a stamp. -/
lemma stamped_ne_dot {file : String} (hf : file ∈ dotfileNames) (h : IsStamp stamp) :
    stamped name stamp ≠ dot file := by
  refine stamped_ne_of_getLast h fun c hc => ?_
  have hends : ∀ file ∈ dotfileNames,
      (dot file).toList.getLast?.any (fun c => IsStampChar c) = false := by decide
  simpa [hc] using hends file hf

end InitialSetups.Scripts
