import InitialSetups.Text.Latest
import InitialSetups.Winpty.Nodes

/-!
# Lookups in the input map

Whatever the calls of `set` were, a lookup finds the longest encoding that the input begins with,
with the key that was set for it last, and says that the input is incomplete when an encoding goes
on where the input ends (`lookupKey_longest`).
-/

namespace InitialSetups.Winpty.InputMap

open InitialSetups.Text

variable {m : InputMap} {entries : List (Bytes × Key)} {input pre p q : Bytes} {n : Addr}

/-- The key that was set last for an encoding, or the zero key. -/
def keyOf (entries : List (Bytes × Key)) (p : Bytes) : Key :=
  (latest (fun e => if e.1 = p then some e.2 else none) entries).getD kKeyZero

/-- An encoding begins with `p`. -/
def Begins (entries : List (Bytes × Key)) (p : Bytes) : Prop := ∃ e ∈ entries, p <+: e.1

/-- The longest encoding the input begins with, for a lookup's answer. -/
structure LongestMatch (entries : List (Bytes × Key)) (input : Bytes) (len : ℕ) (key : Key) :
    Prop where
  length_le : len ≤ input.length
  key_eq : key = keyOf entries (input.take len)
  matched : len = 0 ∨ key.isSet = true
  longest : ∀ j, len < j → j ≤ input.length → (keyOf entries (input.take j)).isSet = false

/-- The map holds the entries. -/
structure Holds (m : InputMap) (entries : List (Bytes × Key)) : Prop where
  sound : m.Sound
  nonempty : ∀ e ∈ entries, e.1 ≠ []
  contents_none : ∀ p, p ≠ [] → ¬ Begins entries p → m.contents p = none
  contents_some : ∀ p, p = [] ∨ Begins entries p → m.contents p = some (keyOf entries p)

lemma keyOf_of_not_begins (h : ¬ Begins entries p) : keyOf entries p = kKeyZero := by
  rw [keyOf, latest_eq_none.2]
  · rfl
  · intro e he
    refine if_neg fun hp => h ⟨e, he, ?_⟩
    subst hp
    exact List.prefix_rfl

lemma keyOf_concat (e : Bytes × Key) :
    keyOf (entries ++ [e]) p = if e.1 = p then e.2 else keyOf entries p := by
  rw [keyOf, latest_concat]
  split_ifs <;> rfl

lemma begins_concat {e : Bytes × Key} :
    Begins (entries ++ [e]) p ↔ Begins entries p ∨ p <+: e.1 := by
  simp only [Begins, List.mem_append, List.mem_singleton]
  constructor
  · rintro ⟨e', he' | rfl, hp⟩
    · exact .inl ⟨e', he', hp⟩
    · exact .inr hp
  · rintro (⟨e', he', hp⟩ | hp)
    · exact ⟨e', .inl he', hp⟩
    · exact ⟨e, .inr rfl, hp⟩

lemma begins_mono (hpq : p <+: q) : Begins entries q → Begins entries p :=
  fun ⟨e, he, hq⟩ => ⟨e, he, hpq.trans hq⟩

lemma holds_empty : Holds {} [] := by
  refine ⟨sound_empty, by simp, fun p hp _ => ?_, fun p hp => ?_⟩
  · cases p with
    | nil => exact absurd rfl hp
    | cons ch p => rfl
  · rcases hp with rfl | ⟨e, he, -⟩
    · rfl
    · cases he

lemma Holds.set (h : m.Holds entries) {e : Bytes × Key} (he : e.1 ≠ []) :
    (m.setHelper 0 e.1 e.2).Holds (entries ++ [e]) := by
  have hroot : walk m.child 0 [] = some 0 := walk_nil
  obtain ⟨hsound, hcontents⟩ := h.sound.setHelper hroot e.1 e.2
  rw [List.nil_append] at hcontents
  refine ⟨hsound, ?_, fun p hp hno => ?_, fun p hp => ?_⟩
  · exact List.forall_mem_append.2 ⟨h.nonempty, List.forall_mem_singleton.2 he⟩
  · rw [begins_concat, not_or] at hno
    have hpe : p ≠ e.1 := by
      rintro rfl
      exact hno.2 List.prefix_rfl
    rw [hcontents, if_neg hpe, if_neg hno.2, h.contents_none p hp hno.1]
  · rw [hcontents, keyOf_concat]
    by_cases hpe : p = e.1
    · rw [if_pos hpe, if_pos hpe.symm]
    rw [if_neg hpe, if_neg (Ne.symm hpe)]
    by_cases hold : p = [] ∨ Begins entries p
    · rw [h.contents_some p hold]
      split_ifs <;> rfl
    · rw [not_or] at hold
      have hpre : p <+: e.1 := by
        rcases hp with hp | hp
        · exact absurd hp hold.1
        · exact (begins_concat.1 hp).resolve_left hold.2
      rw [if_pos hpre, h.contents_none p hold.1 hold.2, keyOf_of_not_begins hold.2]
      rfl

lemma holds_of_foldlM (es : List (Bytes × Key)) (h : m.Holds entries) {m' : InputMap}
    (hm' : es.foldlM (fun m e => m.set e.1 e.2) m = some m') : m'.Holds (entries ++ es) := by
  induction es generalizing m entries with
  | nil =>
      rw [List.append_nil]
      obtain rfl : m = m' := Option.some.inj hm'
      exact h
  | cons e es ih =>
      rw [List.foldlM_cons] at hm'
      obtain ⟨m₁, hm₁, hm'⟩ := Option.bind_eq_some_iff.1 hm'
      rw [InputMap.set] at hm₁
      split_ifs at hm₁ with hlen
      obtain rfl := Option.some.inj hm₁
      have hnext := ih (h.set (List.length_pos_iff.1 hlen)) hm'
      rwa [List.append_assoc] at hnext

lemma holds_of_setAll (h : setAll entries = some m) : m.Holds entries :=
  holds_of_foldlM entries holds_empty h

lemma Holds.child_eq_none_iff (h : m.Holds entries) (hn : walk m.child 0 pre = some n)
    (ch : UInt8) : (m.node n).getChild ch = none ↔ ¬ Begins entries (pre ++ [ch]) := by
  have hwalk : walk m.child 0 (pre ++ [ch]) = (m.node n).getChild ch := by
    rw [walk_concat, hn]
    rfl
  have hnone : m.contents (pre ++ [ch]) = none ↔ (m.node n).getChild ch = none := by
    rw [contents, hwalk, Option.map_eq_none_iff]
  rw [← hnone]
  constructor
  · intro hno hbegins
    rw [h.contents_some _ (.inr hbegins)] at hno
    cases hno
  · exact h.contents_none _ (by simp)

lemma Holds.child_key (h : m.Holds entries) (hn : walk m.child 0 pre = some n) {ch : UInt8}
    {c : Addr} (hc : (m.node n).getChild ch = some c) :
    walk m.child 0 (pre ++ [ch]) = some c ∧ (m.node c).key = keyOf entries (pre ++ [ch]) := by
  have hwalk : walk m.child 0 (pre ++ [ch]) = some c := by
    rw [walk_concat, hn]
    exact hc
  have hbegins : Begins entries (pre ++ [ch]) := by
    by_contra hno
    rw [(h.child_eq_none_iff hn ch).2 hno] at hc
    cases hc
  have hcontents := h.contents_some _ (.inr hbegins)
  rw [contents, hwalk] at hcontents
  exact ⟨hwalk, Option.some.inj hcontents⟩

lemma Holds.childCount_pos_iff (h : m.Holds entries) (hn : walk m.child 0 pre = some n) :
    0 < (m.node n).childCount ↔ ∃ e ∈ entries, pre <+: e.1 ∧ pre ≠ e.1 := by
  constructor
  · intro hpos
    obtain ⟨ch, hch⟩ := (h.sound.node n).nonempty hpos
    rw [Ne, h.child_eq_none_iff hn, not_not] at hch
    obtain ⟨e, he, t, ht⟩ := hch
    refine ⟨e, he, ⟨[ch] ++ t, by rw [← ht, List.append_assoc]⟩, fun hpre => ?_⟩
    have hlen := congrArg List.length ht
    rw [← hpre, List.length_append, List.length_append, List.length_singleton] at hlen
    omega
  · rintro ⟨e, he, ⟨t, ht⟩, hne⟩
    by_contra hzero
    cases t with
    | nil => exact hne (by rw [← ht, List.append_nil])
    | cons ch t =>
        have hchild : (m.node n).getChild ch = none := by
          rw [Node.getChild, Nat.eq_zero_of_not_pos hzero]
          rfl
        refine (h.child_eq_none_iff hn ch).1 hchild ⟨e, he, t, ?_⟩
        rw [List.append_assoc]
        exact ht

/-- One byte more: the best match so far is that of the input with the byte. -/
lemma LongestMatch.concat {len : ℕ} {key : Key} (h : LongestMatch entries pre len key)
    (ch : UInt8) :
    if (keyOf entries (pre ++ [ch])).isSet then
      LongestMatch entries (pre ++ [ch]) (pre.length + 1) (keyOf entries (pre ++ [ch]))
    else LongestMatch entries (pre ++ [ch]) len key := by
  have hfull : (pre ++ [ch]).take (pre.length + 1) = pre ++ [ch] :=
    List.take_of_length_le (by simp)
  have hpart : ∀ j ≤ pre.length, (pre ++ [ch]).take j = pre.take j :=
    fun j hj => List.take_append_of_le_length hj
  have hlength : (pre ++ [ch]).length = pre.length + 1 := by simp
  split_ifs with hset
  · refine ⟨hlength.ge, by rw [hfull], .inr hset, fun j hj hj' => ?_⟩
    omega
  · refine ⟨by have := h.length_le; omega, by rw [hpart len h.length_le]; exact h.key_eq,
      h.matched, fun j hj hj' => ?_⟩
    rcases Nat.lt_or_ge pre.length j with hlt | hle
    · obtain rfl : j = pre.length + 1 := by omega
      rw [hfull]
      simpa using hset
    · rw [hpart j hle]
      exact h.longest j hj hle

/-- No longer match where the nodes end. -/
lemma LongestMatch.of_not_begins {len : ℕ} {key : Key} {ch : UInt8} {rest : Bytes}
    (h : LongestMatch entries pre len key) (hno : ¬ Begins entries (pre ++ [ch])) :
    LongestMatch entries (pre ++ ch :: rest) len key := by
  have hpart : ∀ j ≤ pre.length, (pre ++ ch :: rest).take j = pre.take j :=
    fun j hj => List.take_append_of_le_length hj
  refine ⟨h.length_le.trans (by simp), by rw [hpart len h.length_le]; exact h.key_eq, h.matched,
    fun j hj _ => ?_⟩
  rcases Nat.lt_or_ge pre.length j with hlt | hle
  · rw [keyOf_of_not_begins]
    · rfl
    refine fun hbegins => hno (begins_mono ?_ hbegins)
    have hpre : pre ++ [ch] <+: pre ++ ch :: rest := ⟨rest, by simp⟩
    refine List.prefix_of_prefix_length_le hpre (List.take_prefix _ _) ?_
    rw [List.length_take, List.length_append, List.length_append, List.length_singleton,
      List.length_cons]
    omega
  · rw [hpart j hle]
    exact h.longest j hj hle

lemma lookupFrom_of_none {ch : UInt8} {rest : Bytes} {i len : ℕ} {key : Key}
    (hchild : (m.node n).getChild ch = none) :
    m.lookupFrom (ch :: rest) n i len key = (len, key, false) := by
  rw [lookupFrom, hchild]

lemma lookupFrom_of_some {ch : UInt8} {rest : Bytes} {i len : ℕ} {key : Key} {c : Addr}
    (hchild : (m.node n).getChild ch = some c) :
    m.lookupFrom (ch :: rest) n i len key =
      if (m.node c).key.isSet then m.lookupFrom rest c (i + 1) (i + 1) (m.node c).key
      else m.lookupFrom rest c (i + 1) len key := by
  rw [lookupFrom, hchild]
  rfl

lemma Holds.lookupFrom (h : m.Holds entries) (hn : walk m.child 0 pre = some n) {len : ℕ}
    {key : Key} (hbest : LongestMatch entries pre len key) (rest : Bytes) :
    LongestMatch entries (pre ++ rest) (m.lookupFrom rest n pre.length len key).1
        (m.lookupFrom rest n pre.length len key).2.1 ∧
      ((m.lookupFrom rest n pre.length len key).2.2 = true ↔
        ∃ e ∈ entries, pre ++ rest <+: e.1 ∧ pre ++ rest ≠ e.1) := by
  induction rest generalizing pre n len key with
  | nil =>
      rw [List.append_nil]
      exact ⟨hbest, decide_eq_true_iff.trans (h.childCount_pos_iff hn)⟩
  | cons ch rest ih =>
      cases hchild : (m.node n).getChild ch with
      | none =>
          have hno := (h.child_eq_none_iff hn ch).1 hchild
          rw [lookupFrom_of_none hchild]
          refine ⟨hbest.of_not_begins hno, ?_⟩
          constructor
          · intro hfalse
            cases hfalse
          · rintro ⟨e, he, hpre, -⟩
            have hch : pre ++ [ch] <+: pre ++ ch :: rest := ⟨rest, by simp⟩
            exact absurd ⟨e, he, hch.trans hpre⟩ hno
      | some c =>
          obtain ⟨hc, hkey⟩ := h.child_key hn hchild
          have hnext := hbest.concat ch
          have hpre : pre ++ ch :: rest = (pre ++ [ch]) ++ rest := by simp
          have hlength : pre.length + 1 = (pre ++ [ch]).length := by simp
          rw [lookupFrom_of_some hchild, hkey, hpre]
          split_ifs at hnext ⊢ with hset
          · rw [hlength] at hnext ⊢
            exact ih hc hnext
          · rw [hlength]
            exact ih hc hnext

/-- **A lookup finds the longest encoding that the input begins with**, and the key that was set
last for it.  It says that the input is incomplete when an encoding goes on after the input.  This
holds after every run of calls of `set`, in every order. -/
theorem lookupKey_longest (h : setAll entries = some m) (input : Bytes) :
    LongestMatch entries input (m.lookupKey input).1 (m.lookupKey input).2.1 ∧
      ((m.lookupKey input).2.2 = true ↔ ∃ e ∈ entries, input <+: e.1 ∧ input ≠ e.1) := by
  have hholds := holds_of_setAll h
  have hroot : walk m.child 0 [] = some 0 := walk_nil
  refine hholds.lookupFrom hroot ⟨le_rfl, ?_, .inl rfl, fun j hj hj' => ?_⟩ input
  · -- the empty encoding is never set
    have hnone : latest (fun e => if e.1 = [] then some e.2 else none) entries = none :=
      latest_eq_none.2 fun e he => if_neg (hholds.nonempty e he)
    show kKeyZero = (latest (fun e => if e.1 = [] then some e.2 else none) entries).getD kKeyZero
    rw [hnone]
    rfl
  · exact absurd hj (by simpa using hj')

/-- A lookup among three encodings, one of which is set twice. -/
theorem lookupKey_longest_arrow :
    ∃ m, setAll [([27], ⟨27, 27, 0⟩), ([27, 91, 65], ⟨38, 0, 0⟩), ([27], ⟨27, 0, 0⟩)] = some m ∧
      LongestMatch [([27], ⟨27, 27, 0⟩), ([27, 91, 65], ⟨38, 0, 0⟩), ([27], ⟨27, 0, 0⟩)]
        [27, 91, 66] (m.lookupKey [27, 91, 66]).1 (m.lookupKey [27, 91, 66]).2.1 :=
  ⟨_, rfl, (lookupKey_longest rfl [27, 91, 66]).1⟩

example : ∃ m,
    setAll [([27], ⟨27, 27, 0⟩), ([27, 91, 65], ⟨38, 0, 0⟩), ([27], ⟨27, 0, 0⟩)] = some m ∧
    m.lookupKey [27, 91, 66] = (1, ⟨27, 0, 0⟩, false) ∧ (m.lookupKey [27, 91]).2.2 = true :=
  ⟨_, rfl, by decide, by decide⟩

end InitialSetups.Winpty.InputMap
