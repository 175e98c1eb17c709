import InitialSetups.Text.Latest

/-!
# Dictionaries that keep the order of insertion

A dictionary is the list of its items.  Setting a key changes its item in place, or adds one at
the end; no key is there twice in a dictionary that is built by setting keys.
-/

namespace InitialSetups.Text

variable {α β γ : Type} [DecidableEq α] [DecidableEq β]

/-- A dictionary: its items in the order of insertion. -/
abbrev Dict (α β : Type) := List (α × β)

namespace Dict

/-- The value of a key. -/
def get (d : Dict α β) (key : α) : Option β := (d.find? fun item => item.1 = key).map (·.2)

/-- Give the key a value. -/
def set (d : Dict α β) (key : α) (value : β) : Dict α β :=
  if d.any fun item => item.1 = key then
    d.map fun item => if item.1 = key then (key, value) else item
  else d ++ [(key, value)]

/-- Values to keys. -/
def inverse (d : Dict α β) : Dict β α := d.foldl (fun inv item => set inv item.2 item.1) []

/-- No key is there twice. -/
def Valid (d : Dict α β) : Prop := (d.map (·.1)).Nodup

variable {d : Dict α β} {key key' : α} {value : β}

omit [DecidableEq β] in
lemma get_set_self : (set d key value).get key = some value := by
  rw [set]
  split_ifs with hany
  · obtain ⟨item, hitem, hkey⟩ := List.any_eq_true.1 hany
    have hsome : (d.map fun item => if item.1 = key then (key, value) else item).find?
        (fun item => item.1 = key) = some (key, value) := by
      rw [List.find?_map]
      cases hfind : d.find? ((fun item : α × β => decide (item.1 = key)) ∘
          fun item => if item.1 = key then (key, value) else item) with
      | none =>
          have hno := List.find?_eq_none.1 hfind item hitem
          simp only [Function.comp_apply, decide_eq_true_eq] at hno hkey
          rw [if_pos hkey] at hno
          exact absurd rfl hno
      | some item' =>
          have hkey' := List.find?_some hfind
          simp only [Function.comp_apply, decide_eq_true_eq] at hkey'
          rw [Option.map_some]
          split_ifs at hkey' ⊢ with h
          · rfl
          · exact absurd hkey' h
    rw [get, hsome]
    rfl
  · have hno : d.find? (fun item => item.1 = key) = none := by
      rw [List.find?_eq_none]
      intro item hitem hkey
      exact hany (List.any_eq_true.2 ⟨item, hitem, hkey⟩)
    rw [get, List.find?_append, hno, Option.none_or, List.find?_singleton]
    simp

omit [DecidableEq β] in
lemma get_set_of_ne (hne : key' ≠ key) : (set d key value).get key' = d.get key' := by
  rw [set]
  split_ifs with hany
  · rw [get, get, List.find?_map]
    have hsame : ((fun item : α × β => decide (item.1 = key')) ∘
        fun item => if item.1 = key then (key, value) else item) =
          fun item => decide (item.1 = key') := by
      funext item
      simp only [Function.comp_apply]
      split_ifs with h
      · simp [h]
      · rfl
    rw [hsame]
    cases hfind : d.find? (fun item => decide (item.1 = key')) with
    | none => rfl
    | some item =>
        have hkey : item.1 = key' := by simpa using List.find?_some hfind
        rw [Option.map_some, Option.map_some, Option.map_some, if_neg (by rw [hkey]; exact hne)]
  · rw [get, get, List.find?_append, List.find?_singleton, if_neg (by simpa using hne.symm),
      Option.or_none]

omit [DecidableEq β] in
lemma Valid.set (h : Valid d) (key : α) (value : β) : Valid (set d key value) := by
  rw [Dict.set]
  split_ifs with hany
  · have hkeys : (d.map fun item => if item.1 = key then (key, value) else item).map (·.1) =
        d.map (·.1) := by
      rw [List.map_map]
      refine List.map_congr_left fun item _ => ?_
      simp only [Function.comp_apply]
      split_ifs with hkey
      · exact hkey.symm
      · rfl
    rwa [Valid, hkeys]
  · rw [Valid, List.map_append, List.nodup_append]
    refine ⟨h, by simp, ?_⟩
    rintro a ha b hb rfl
    obtain ⟨item, hitem, rfl⟩ := List.mem_map.1 ha
    rw [List.map_singleton, List.mem_singleton] at hb
    exact hany (List.any_eq_true.2 ⟨item, hitem, by simpa using hb⟩)

omit [DecidableEq β] in
/-- The items are the keys with their values. -/
lemma Valid.mem_iff (h : Valid d) : (key, value) ∈ d ↔ d.get key = some value := by
  rw [get]
  constructor
  · intro hmem
    induction d with
    | nil => cases hmem
    | cons item d ih =>
        rw [Valid, List.map_cons, List.nodup_cons] at h
        rcases List.mem_cons.1 hmem with rfl | hmem
        · rw [List.find?_cons_of_pos (by simp)]
          rfl
        · have hne : item.1 ≠ key := by
            rintro rfl
            exact h.1 (List.mem_map.2 ⟨_, hmem, rfl⟩)
          rw [List.find?_cons_of_neg (by simpa using hne)]
          exact ih h.2 hmem
  · intro hget
    obtain ⟨item, hfind, rfl⟩ := Option.map_eq_some_iff.1 hget
    have hkey : item.1 = key := by simpa using List.find?_some hfind
    rw [← hkey]
    exact List.mem_of_find?_eq_some hfind

omit [DecidableEq β] in
/-- After setting one key after the other, the last value of a key counts. -/
lemma get_foldl_set (f : γ → α) (g : γ → β) (xs : List γ) :
    (xs.foldl (fun d x => set d (f x) (g x)) d).get key =
      (latest (fun x => if f x = key then some (g x) else none) xs).or (d.get key) := by
  induction xs using List.reverseRecOn with
  | nil => rfl
  | append_singleton xs x ih =>
      rw [List.foldl_append, List.foldl_cons, List.foldl_nil, latest_concat, Option.or_assoc, ← ih]
      by_cases hx : f x = key
      · rw [if_pos hx, hx, get_set_self, Option.some_or]
      · rw [if_neg hx, get_set_of_ne (Ne.symm hx), Option.none_or]

/-- Where no value is there twice, the inverse leads back. -/
lemma get_inverse (h : Valid d)
    (hinj : ∀ k k' v, d.get k = some v → d.get k' = some v → k = k') :
    d.inverse.get value = some key ↔ d.get key = some value := by
  have hnil : get ([] : Dict β α) value = none := rfl
  rw [inverse, get_foldl_set, hnil, Option.or_none]
  constructor
  · intro hlatest
    obtain ⟨item, hitem, hkey⟩ := exists_of_latest hlatest
    split_ifs at hkey with hvalue
    rw [← h.mem_iff, ← hvalue, ← Option.some.inj hkey]
    exact hitem
  · intro hget
    refine latest_of_unique (h.mem_iff.2 hget) (if_pos rfl) fun item hitem k hk => ?_
    split_ifs at hk with hvalue
    have hitem' : d.get item.1 = some item.2 := h.mem_iff.1 hitem
    rw [← Option.some.inj hk]
    exact hinj _ _ _ (hvalue ▸ hitem') hget

end Dict

end InitialSetups.Text
