import InitialSetups.Text.Trie
import InitialSetups.Winpty.InputMap
import Mathlib.Data.List.Pairwise
import Mathlib.Data.List.TakeWhile

/-!
# One node more

What `getOrCreateChild` does to the nodes: it answers with the child that there is, or it adds one
edge, to a node without children, and the small arrays stay sorted when an entry is put between
the others (`Sound.getOrCreateChild`).
-/

namespace InitialSetups.Winpty

open InitialSetups.Text

variable {m : InputMap} {node : Node} {ch ch' : UInt8} {ret n : Addr}

namespace Node

/-- A node is as `insert` leaves it. -/
structure Sound (node : Node) : Prop where
  length : node.childCount ≤ kTinyCount → node.tiny.length = node.childCount
  sorted : node.childCount ≤ kTinyCount → node.tiny.Pairwise fun e e' => e.1.toNat < e'.1.toNat
  nonempty : 0 < node.childCount → ∃ ch, node.getChild ch ≠ none

lemma getChild_of_tiny (h : node.Sound) (hcount : node.childCount ≤ kTinyCount) :
    node.getChild ch = (node.tiny.find? fun e => e.1 = ch).map (·.2) := by
  rw [getChild, if_pos hcount, ← h.length hcount, List.take_length]

lemma find?_insert {es : List (UInt8 × Addr)} (hno : ∀ e ∈ es, e.1 ≠ ch) (i : ℕ) :
    ((es.take i ++ (ch, ret) :: es.drop i).find? fun e => e.1 = ch').map (·.2) =
      if ch' = ch then some ret else (es.find? fun e => e.1 = ch').map (·.2) := by
  split_ifs with hch
  · subst hch
    have hnone : (es.take i).find? (fun e => e.1 = ch') = none :=
      List.find?_eq_none.2 fun e he => by simpa using hno e (List.mem_of_mem_take he)
    rw [List.find?_append, hnone, Option.none_or, List.find?_cons_of_pos (by simp)]
    rfl
  · rw [List.find?_append, List.find?_cons_of_neg (by simpa using Ne.symm hch),
      ← List.find?_append, List.take_append_drop]

lemma no_entry (h : node.Sound) (hcount : node.childCount ≤ kTinyCount)
    (hfree : node.getChild ch = none) : ∀ e ∈ node.tiny, e.1 ≠ ch := by
  intro e he
  rw [getChild_of_tiny h hcount, Option.map_eq_none_iff, List.find?_eq_none] at hfree
  simpa using hfree e he

lemma insertIndex_eq (h : node.Sound) (hcount : node.childCount ≤ kTinyCount) :
    node.insertIndex ch = node.tiny.findIdx fun e => ch < e.1 := by
  rw [insertIndex, ← h.length hcount, List.take_length]

/-- An entry put before the first greater one keeps the entries sorted. -/
lemma sorted_insert {es : List (UInt8 × Addr)}
    (hsorted : es.Pairwise fun e e' => e.1.toNat < e'.1.toNat) (hno : ∀ e ∈ es, e.1 ≠ ch) :
    (es.take (es.findIdx fun e => ch < e.1) ++ (ch, ret) ::
      es.drop (es.findIdx fun e => ch < e.1)).Pairwise fun e e' => e.1.toNat < e'.1.toNat := by
  induction es with
  | nil => simp
  | cons e es ih =>
      obtain ⟨hhead, htail⟩ := List.pairwise_cons.1 hsorted
      have hne : e.1.toNat ≠ ch.toNat := fun h => hno e (by simp) (UInt8.toNat_inj.1 h)
      by_cases hlt : ch < e.1
      · have hidx : (e :: es).findIdx (fun e => ch < e.1) = 0 := by
          rw [List.findIdx_cons]
          simp [hlt]
        rw [hidx]
        show ((ch, ret) :: e :: es).Pairwise _
        refine List.pairwise_cons.2 ⟨fun e' he' => ?_, hsorted⟩
        have hlt' := UInt8.lt_iff_toNat_lt.1 hlt
        rcases List.mem_cons.1 he' with rfl | he'
        · exact hlt'
        · exact hlt'.trans (hhead e' he')
      · have hidx : (e :: es).findIdx (fun e => ch < e.1) =
            es.findIdx (fun e => ch < e.1) + 1 := by
          rw [List.findIdx_cons]
          simp [hlt]
        rw [hidx]
        show (e :: (_ ++ _)).Pairwise _
        refine List.pairwise_cons.2 ⟨fun e' he' => ?_,
          ih htail fun e' he' => hno e' (List.mem_cons_of_mem e he')⟩
        rcases List.mem_append.1 he' with he' | he'
        · exact hhead e' (List.mem_of_mem_take he')
        rcases List.mem_cons.1 he' with rfl | he'
        · have hle := UInt8.le_iff_toNat_le.1 (UInt8.not_lt.1 hlt)
          show e.1.toNat < ch.toNat
          omega
        · exact hhead e' (List.mem_of_mem_drop he')

lemma getChild_insertTiny (h : node.Sound) (hcount : node.childCount < kTinyCount)
    (hfree : node.getChild ch = none) :
    (node.insertTiny ch ret).getChild ch' =
      if ch' = ch then some ret else node.getChild ch' := by
  have hle : node.childCount ≤ kTinyCount := hcount.le
  have hle' : (node.insertTiny ch ret).childCount ≤ kTinyCount := hcount
  rw [getChild, if_pos hle', List.take_of_length_le, getChild_of_tiny h hle]
  · exact find?_insert (no_entry h hle hfree) _
  · show (_ ++ (ch, ret) :: _).length ≤ node.childCount + 1
    rw [List.length_append, List.length_cons, ← h.length hle, List.length_take, List.length_drop]
    omega

lemma foldl_update {es : List (UInt8 × Addr)}
    (hsorted : es.Pairwise fun e e' => e.1.toNat < e'.1.toNat) (b : UInt8 → Option Addr) :
    es.foldl (fun (branch : UInt8 → Option Addr) e => Function.update branch e.1 (some e.2)) b ch =
      ((es.find? fun e => e.1 = ch).map (·.2)).or (b ch) := by
  induction es generalizing b with
  | nil => rfl
  | cons e es ih =>
      obtain ⟨hhead, htail⟩ := List.pairwise_cons.1 hsorted
      rw [List.foldl_cons, ih htail]
      by_cases he : e.1 = ch
      · have hnone : es.find? (fun e => e.1 = ch) = none := by
          refine List.find?_eq_none.2 fun e' he' => ?_
          have hlt := hhead e' he'
          simp only [decide_eq_true_eq]
          rintro rfl
          rw [he] at hlt
          omega
        rw [hnone, List.find?_cons_of_pos (by simpa using he), ← he, Function.update_self]
        rfl
      · rw [List.find?_cons_of_neg (by simpa using he), Function.update_of_ne (Ne.symm he)]

lemma branchOfTiny_eq (h : node.Sound) (hcount : node.childCount = kTinyCount) :
    node.branchOfTiny ch = node.getChild ch := by
  rw [branchOfTiny, ← h.length hcount.le, List.take_length, foldl_update (h.sorted hcount.le),
    getChild_of_tiny h hcount.le, Option.or_none]

lemma getChild_insertBranch (h : node.Sound) (hcount : ¬ node.childCount < kTinyCount) :
    (node.insertBranch ch ret).getChild ch' =
      if ch' = ch then some ret else node.getChild ch' := by
  have hgt : ¬ (node.insertBranch ch ret).childCount ≤ kTinyCount := by
    show ¬ node.childCount + 1 ≤ kTinyCount
    omega
  rw [getChild, if_neg hgt]
  show (Function.update _ ch (some ret) : UInt8 → Option Addr) ch' = _
  rw [Function.update_apply]
  split_ifs with hch h8
  · rfl
  · exact branchOfTiny_eq h h8
  · rw [getChild, if_neg (by omega)]

lemma getChild_insert (h : node.Sound) (hfree : node.getChild ch = none) :
    (node.insert ch ret).getChild ch' = if ch' = ch then some ret else node.getChild ch' := by
  by_cases hcount : node.childCount < kTinyCount
  · rw [insert, if_pos hcount]
    exact getChild_insertTiny h hcount hfree
  · rw [insert, if_neg hcount]
    exact getChild_insertBranch h hcount

@[simp] lemma insert_key : (node.insert ch ret).key = node.key := by
  rw [insert]
  split_ifs <;> rfl

lemma insert_childCount : (node.insert ch ret).childCount = node.childCount + 1 := by
  rw [insert]
  split_ifs <;> rfl

lemma Sound.insert (h : node.Sound) (hfree : node.getChild ch = none) :
    (node.insert ch ret).Sound := by
  refine ⟨fun hcount => ?_, fun hcount => ?_, fun _ => ⟨ch, ?_⟩⟩
  · rw [insert_childCount] at hcount ⊢
    have hlt : node.childCount < kTinyCount := by omega
    rw [Node.insert, if_pos hlt]
    show (_ ++ (ch, ret) :: _).length = _
    rw [List.length_append, List.length_cons, ← h.length hlt.le, List.length_take,
      List.length_drop]
    omega
  · rw [insert_childCount] at hcount
    have hlt : node.childCount < kTinyCount := by omega
    rw [Node.insert, if_pos hlt]
    show (node.tiny.take (node.insertIndex ch) ++ (ch, ret) ::
      node.tiny.drop (node.insertIndex ch)).Pairwise _
    rw [insertIndex_eq h hlt.le]
    exact sorted_insert (h.sorted hlt.le) (no_entry h hlt.le hfree)
  · rw [getChild_insert h hfree, if_pos rfl]
    simp

lemma sound_empty : Sound {} :=
  ⟨fun _ => rfl, fun _ => List.Pairwise.nil, fun h => absurd h (lt_irrefl 0)⟩

lemma getChild_empty : getChild {} ch = none := rfl

end Node

namespace InputMap

/-- The child a node leads to. -/
def child (m : InputMap) (a : Addr) (ch : UInt8) : Option Addr := (m.node a).getChild ch

/-- The nodes after a child is added to the node at `n`. -/
def grown (m : InputMap) (n : Addr) (ch : UInt8) : Addr → Node :=
  Function.update (Function.update m.node m.used {}) n
    ((Function.update m.node m.used {} n).insert ch m.used)

lemma grown_self (hn : n < m.used) : m.grown n ch n = (m.node n).insert ch m.used := by
  rw [grown, Function.update_self, Function.update_of_ne hn.ne]

lemma grown_used (hn : n < m.used) : m.grown n ch m.used = {} := by
  rw [grown, Function.update_of_ne hn.ne', Function.update_self]

lemma grown_of_ne {a : Addr} (ha : a ≠ n) (ha' : a ≠ m.used) : m.grown n ch a = m.node a := by
  rw [grown, Function.update_of_ne ha, Function.update_of_ne ha']

lemma getOrCreateChild_of_some (h : (m.node n).getChild ch = some ret) :
    m.getOrCreateChild n ch = (m, ret) := by
  rw [getOrCreateChild, h]

lemma getOrCreateChild_of_none (h : (m.node n).getChild ch = none) :
    m.getOrCreateChild n ch = (⟨m.grown n ch, m.used + 1⟩, m.used) := by
  rw [getOrCreateChild, h]
  rfl

/-- The nodes form a tree in the part of the pool that is handed out. -/
structure Sound (m : InputMap) : Prop where
  node : ∀ a, (m.node a).Sound
  tree : IsTree m.child 0
  used : ∀ p a, walk m.child 0 p = some a → a < m.used

/-- The key at the end of a path. -/
def contents (m : InputMap) (p : Bytes) : Option Key :=
  (walk m.child 0 p).map fun a => (m.node a).key

/-- What `getOrCreateChild` does at the node that the path `pre` leads to. -/
structure Created (m m' : InputMap) (pre : Bytes) (ch : UInt8) (ret : Addr) : Prop where
  sound : m'.Sound
  reached : walk m'.child 0 (pre ++ [ch]) = some ret
  contents_eq : ∀ q, m'.contents q =
    if q = pre ++ [ch] then some ((m.contents q).getD kKeyZero) else m.contents q

lemma Sound.grows (h : m.Sound) {pre : Bytes} (hn : walk m.child 0 pre = some n)
    (hfree : (m.node n).getChild ch = none) :
    Grows m.child (child ⟨m.grown n ch, m.used + 1⟩) 0 pre ch n m.used := by
  have hused : n < m.used := h.used pre n hn
  refine ⟨hn, hfree, ?_, fun p hp => (h.used p _ hp).false, fun y => ?_, fun p a y hp hay => ?_⟩
  · show (m.grown n ch n).getChild ch = _
    rw [grown_self hused, Node.getChild_insert (h.node n) hfree, if_pos rfl]
  · show (m.grown n ch m.used).getChild y = none
    rw [grown_used hused, Node.getChild_empty]
  · show (m.grown n ch a).getChild y = (m.node a).getChild y
    by_cases ha : a = n
    · subst ha
      rw [grown_self hused, Node.getChild_insert (h.node a) hfree, if_neg (hay rfl)]
    · rw [grown_of_ne ha (h.used p a hp).ne]

lemma Sound.grown (h : m.Sound) {pre : Bytes} (hn : walk m.child 0 pre = some n)
    (hfree : (m.node n).getChild ch = none) : Sound ⟨m.grown n ch, m.used + 1⟩ := by
  have hused : n < m.used := h.used pre n hn
  refine ⟨fun a => ?_, h.tree.grow (h.grows hn hfree), fun p a hp => ?_⟩
  · show (m.grown n ch a).Sound
    by_cases ha : a = n
    · rw [ha, grown_self hused]
      exact (h.node n).insert hfree
    by_cases ha' : a = m.used
    · rw [ha', grown_used hused]
      exact Node.sound_empty
    · rw [grown_of_ne ha ha']
      exact h.node a
  · rw [walk_grow h.tree (h.grows hn hfree)] at hp
    split_ifs at hp
    · rw [← Option.some.inj hp]
      exact Nat.lt_succ_self _
    · exact (h.used p a hp).trans (Nat.lt_succ_self _)

lemma Sound.contents_grown (h : m.Sound) {pre : Bytes} (hn : walk m.child 0 pre = some n)
    (hfree : (m.node n).getChild ch = none) (q : Bytes) :
    contents ⟨m.grown n ch, m.used + 1⟩ q =
      if q = pre ++ [ch] then some kKeyZero else m.contents q := by
  have hused : n < m.used := h.used pre n hn
  rw [contents, walk_grow h.tree (h.grows hn hfree)]
  split_ifs with hq
  · show some (m.grown n ch m.used).key = _
    rw [grown_used hused]
  · rw [contents]
    cases hwalk : walk m.child 0 q with
    | none => rfl
    | some a =>
        show some (m.grown n ch a).key = some (m.node a).key
        by_cases ha : a = n
        · rw [ha, grown_self hused, Node.insert_key]
        · rw [grown_of_ne ha (h.used q a hwalk).ne]

lemma Sound.created (h : m.Sound) {pre : Bytes} (hn : walk m.child 0 pre = some n) (ch : UInt8) :
    Created m (m.getOrCreateChild n ch).1 pre ch (m.getOrCreateChild n ch).2 := by
  have hwalk : walk m.child 0 (pre ++ [ch]) = (m.node n).getChild ch := by
    rw [walk_concat, hn]
    rfl
  cases hchild : (m.node n).getChild ch with
  | some ret =>
      rw [hchild] at hwalk
      rw [getOrCreateChild_of_some hchild]
      refine ⟨h, hwalk, fun q => ?_⟩
      split_ifs with hq
      · rw [hq, contents, hwalk]
        rfl
      · rfl
  | none =>
      rw [hchild] at hwalk
      rw [getOrCreateChild_of_none hchild]
      refine ⟨h.grown hn hchild, ?_, fun q => ?_⟩
      · rw [walk_grow h.tree (h.grows hn hchild), if_pos rfl]
      · rw [h.contents_grown hn hchild]
        split_ifs with hq
        · rw [hq, contents, hwalk]
          rfl
        · rfl

/-- The node at `n` with another key. -/
def withKey (m : InputMap) (n : Addr) (key : Key) : InputMap :=
  { m with node := Function.update m.node n { m.node n with key := key } }

lemma child_withKey {key : Key} : (m.withKey n key).child = m.child := by
  ext a ch : 2
  show (Function.update m.node n _ a).getChild ch = (m.node a).getChild ch
  by_cases ha : a = n
  · rw [ha, Function.update_self]
    rfl
  · rw [Function.update_of_ne ha]

lemma Sound.withKey (h : m.Sound) (n : Addr) (key : Key) : (m.withKey n key).Sound := by
  refine ⟨fun a => ?_, ?_, ?_⟩
  · show (Function.update m.node n _ a).Sound
    by_cases ha : a = n
    · rw [ha, Function.update_self]
      exact ⟨(h.node n).length, (h.node n).sorted, (h.node n).nonempty⟩
    · rw [Function.update_of_ne ha]
      exact h.node a
  · rw [child_withKey]
    exact h.tree
  · rw [child_withKey]
    exact h.used

lemma Sound.contents_withKey (h : m.Sound) {pre : Bytes} (hn : walk m.child 0 pre = some n)
    (key : Key) (q : Bytes) :
    (m.withKey n key).contents q = if q = pre then some key else m.contents q := by
  rw [contents, child_withKey, contents]
  split_ifs with hq
  · rw [hq, hn]
    show some (Function.update m.node n _ n).key = _
    rw [Function.update_self]
  · cases hwalk : walk m.child 0 q with
    | none => rfl
    | some a =>
        show some (Function.update m.node n _ a).key = some (m.node a).key
        rw [Function.update_of_ne]
        rintro rfl
        exact hq (h.tree q pre a hwalk hn)

/-- What a call of `set` does from the node that the path `pre` leads to. -/
lemma Sound.setHelper (h : m.Sound) {pre : Bytes} (hn : walk m.child 0 pre = some n)
    (encoding : Bytes) (key : Key) :
    (m.setHelper n encoding key).Sound ∧ ∀ q, (m.setHelper n encoding key).contents q =
      if q = pre ++ encoding then some key
      else if q <+: pre ++ encoding then some ((m.contents q).getD kKeyZero)
      else m.contents q := by
  induction encoding generalizing m n pre with
  | nil =>
      refine ⟨h.withKey n key, fun q => ?_⟩
      rw [List.append_nil]
      refine (h.contents_withKey hn key q).trans ?_
      split_ifs with hq hpre
      · rfl
      · -- a node above `n` is there already
        have hwalk := walk_ne_none hpre (by rw [hn]; simp)
        obtain ⟨a, ha⟩ := Option.ne_none_iff_exists'.1 hwalk
        rw [contents, ha]
        rfl
      · rfl
  | cons ch encoding ih =>
      have hcreated := h.created hn ch
      obtain ⟨hsound, hcontents⟩ := ih hcreated.sound hcreated.reached
      refine ⟨hsound, fun q => (hcontents q).trans ?_⟩
      rw [hcreated.contents_eq, List.append_assoc, List.singleton_append]
      split_ifs with hq hpre hch hch
      · rfl
      · rfl
      · rfl
      · exact absurd ⟨encoding, by rw [hch, List.append_assoc, List.singleton_append]⟩ hpre
      · rfl

lemma sound_empty : Sound {} := by
  have hwalk : ∀ p a, walk (child {}) 0 p = some a → p = [] ∧ a = 0 := by
    intro p a hp
    cases p with
    | nil => exact ⟨rfl, (Option.some.inj hp).symm⟩
    | cons ch p => cases hp
  refine ⟨fun _ => Node.sound_empty, fun p q a hp hq => ?_, fun p a hp => ?_⟩
  · rw [(hwalk p a hp).1, (hwalk q a hq).1]
  · rw [(hwalk p a hp).2]
    exact Nat.one_pos

end InputMap

end InitialSetups.Winpty
