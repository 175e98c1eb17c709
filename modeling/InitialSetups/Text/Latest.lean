import Mathlib.Data.List.Induction

/-!
# The last entry counts

Entries are read one after another, and of those that have something to say the last one counts.
`latest_eq_latest_iff` compares two ways of reading the same entries.
-/

namespace InitialSetups.Text

variable {α β γ : Type*} {g h : α → Option β} {xs ys : List α} {x : α} {b : β}

/-- What the last of the entries says that says anything. -/
def latest (g : α → Option β) (xs : List α) : Option β := xs.foldl (fun b x => (g x).or b) none

@[simp] lemma latest_nil : latest g [] = none := rfl

lemma latest_concat : latest g (xs ++ [x]) = (g x).or (latest g xs) := by
  rw [latest, List.foldl_append]
  rfl

lemma latest_append : latest g (xs ++ ys) = (latest g ys).or (latest g xs) := by
  induction ys using List.reverseRecOn with
  | nil => rw [List.append_nil, latest_nil, Option.none_or]
  | append_singleton ys y ih => rw [← List.append_assoc, latest_concat, ih, latest_concat,
      Option.or_assoc]

lemma latest_map {f : γ → α} {zs : List γ} : latest g (zs.map f) = latest (g ∘ f) zs := by
  rw [latest, List.foldl_map]
  rfl

lemma latest_eq_none : latest g xs = none ↔ ∀ x ∈ xs, g x = none := by
  induction xs using List.reverseRecOn with
  | nil => simp
  | append_singleton xs x ih =>
      rw [latest_concat, Option.or_eq_none_iff, ih, List.forall_mem_append,
        List.forall_mem_singleton, and_comm]

lemma exists_of_latest (h : latest g xs = some b) : ∃ x ∈ xs, g x = some b := by
  induction xs using List.reverseRecOn with
  | nil => cases h
  | append_singleton xs x ih =>
      rw [latest_concat, Option.or_eq_some_iff] at h
      rcases h with h | ⟨-, h⟩
      · exact ⟨x, by simp, h⟩
      · obtain ⟨y, hy, h⟩ := ih h
        exact ⟨y, List.mem_append_left _ hy, h⟩

/-- What nobody contradicts counts. -/
lemma latest_of_unique (hx : x ∈ xs) (hb : g x = some b)
    (hother : ∀ y ∈ xs, ∀ c, g y = some c → c = b) : latest g xs = some b := by
  cases h : latest g xs with
  | none =>
      rw [latest_eq_none] at h
      rw [h x hx] at hb
      cases hb
  | some c =>
      obtain ⟨y, hy, hc⟩ := exists_of_latest h
      rw [hother y hy c hc]

lemma latest_append_of_silent (hys : ∀ y ∈ ys, g y = none) : latest g (xs ++ ys) = latest g xs := by
  rw [latest_append, latest_eq_none.2 hys, Option.none_or]

lemma latest_append_cons_of_silent (hys : ∀ y ∈ ys, g y = none) :
    latest g (xs ++ x :: ys) = (g x).or (latest g xs) := by
  rw [List.append_cons, latest_append_of_silent hys, latest_concat]

/-- What counts is said by an entry after which there is silence. -/
lemma latest_eq_some : latest g xs = some b ↔
    ∃ before x after, xs = before ++ x :: after ∧ g x = some b ∧ ∀ y ∈ after, g y = none := by
  constructor
  · intro hb
    induction xs using List.reverseRecOn with
    | nil => cases hb
    | append_singleton xs x ih =>
        rw [latest_concat, Option.or_eq_some_iff] at hb
        rcases hb with hx | ⟨hx, hb⟩
        · exact ⟨xs, x, [], rfl, hx, by simp⟩
        · obtain ⟨before, y, after, rfl, hy, hafter⟩ := ih hb
          refine ⟨before, y, after ++ [x], by simp, hy, ?_⟩
          rw [List.forall_mem_append, List.forall_mem_singleton]
          exact ⟨hafter, hx⟩
  · rintro ⟨before, x, after, rfl, hx, hafter⟩
    rw [latest_append_cons_of_silent hafter, hx, Option.some_or]

/-- Two readings come to the same at an entry after which there is silence: they agree there, or
one of them is silent there and said the same thing before. -/
def MeetAt (g h : α → Option β) (before : List α) (x : α) : Prop :=
  g x = h x ∨ (g x = none ∧ latest g before = h x) ∨ (h x = none ∧ latest h before = g x)

lemma meetAt_iff (hsaid : g x ≠ none ∨ h x ≠ none) :
    MeetAt g h xs x ↔ (g x).or (latest g xs) = (h x).or (latest h xs) := by
  rw [MeetAt]
  cases hg : g x with
  | none =>
      cases hh : h x with
      | none => simp [hg, hh] at hsaid
      | some c => simp
  | some b =>
      cases hh : h x with
      | none => simp [eq_comm]
      | some c => simp

/-- Two readings come to the same if and only if they meet at the last entry about which one of
them says anything. -/
theorem latest_eq_latest_iff : latest g xs = latest h xs ↔
    ∀ before x after, xs = before ++ x :: after → (∀ y ∈ after, g y = none ∧ h y = none) →
      (g x ≠ none ∨ h x ≠ none) → MeetAt g h before x := by
  constructor
  · rintro heq before x after rfl hafter hsaid
    rw [meetAt_iff hsaid]
    rwa [latest_append_cons_of_silent fun y hy => (hafter y hy).1,
      latest_append_cons_of_silent fun y hy => (hafter y hy).2] at heq
  · intro hmeet
    induction xs using List.reverseRecOn with
    | nil => rfl
    | append_singleton xs x ih =>
        rw [latest_concat, latest_concat]
        by_cases hsaid : g x ≠ none ∨ h x ≠ none
        · exact (meetAt_iff hsaid).1 (hmeet xs x [] rfl (by simp) hsaid)
        · -- the last entry says nothing, and what counts stands before it
          simp only [not_or, ne_eq, not_not] at hsaid
          rw [hsaid.1, hsaid.2, Option.none_or, Option.none_or]
          refine ih fun before y after hxs hafter =>
            hmeet before y (after ++ [x]) (by simp [hxs]) ?_
          rw [List.forall_mem_append, List.forall_mem_singleton]
          exact ⟨hafter, hsaid⟩

end InitialSetups.Text
