import Mathlib.Data.List.Basic
import Mathlib.Data.List.Induction
import Mathlib.Order.Defs.Unbundled

/-!
# Reading a stream in pieces

A scanner looks at the bytes that have come in, and takes some of them off the front or waits for
more.  When more bytes never change what it does with those it has, it does not matter in which
pieces the bytes come in (`Incremental.feedAll_append`, `Incremental.feedAll_eq`).
-/

namespace InitialSetups.Text

variable {ε σ α : Type*} {scan : ε → σ → List α → Option (ℕ × σ)} {R : σ → σ → Prop} {e e' : ε}
  {s s' t t' : σ} {q r : List α} {k fuel : ℕ}

/-- Scan as long as the scanner takes something. -/
def drainFuel (scan : ε → σ → List α → Option (ℕ × σ)) (e : ε) : ℕ → σ → List α → σ × List α
  | 0, s, q => (s, q)
  | fuel + 1, s, q =>
      if q.isEmpty then (s, q)
      else
        match scan e s q with
        | none => (s, q)
        | some (k, s') => drainFuel scan e fuel s' (q.drop k)

/-- Scan as long as the scanner takes something; every step takes one byte at least. -/
def drain (scan : ε → σ → List α → Option (ℕ × σ)) (e : ε) (s : σ) (q : List α) : σ × List α :=
  drainFuel scan e q.length s q

/-- A scanner that more bytes do not make change its mind, up to what `R` does not see. -/
structure Incremental (scan : ε → σ → List α → Option (ℕ × σ)) (R : σ → σ → Prop) : Prop where
  equiv : Equivalence R
  advances : ∀ {e s q k s'}, q ≠ [] → scan e s q = some (k, s') → 0 < k ∧ k ≤ q.length
  stable : ∀ {e s q k s'} r, q ≠ [] → scan e s q = some (k, s') → scan e s (q ++ r) = some (k, s')
  congr : ∀ {e s t q k s'} e', R s t → q ≠ [] → scan e s q = some (k, s') →
    ∃ t', scan e' t q = some (k, t') ∧ R s' t'

namespace Incremental

lemma drainFuel_eq (h : Incremental scan R) (hfuel : q.length ≤ fuel) :
    drainFuel scan e fuel s q = drain scan e s q := by
  induction fuel using Nat.strongRecOn generalizing s q with
  | _ fuel ih =>
      rw [drain]
      cases q with
      | nil => cases fuel <;> rfl
      | cons x q =>
          obtain ⟨fuel, rfl⟩ : ∃ n, fuel = n + 1 := ⟨fuel - 1, by simp at hfuel; omega⟩
          show drainFuel scan e (fuel + 1) s (x :: q) = drainFuel scan e (q.length + 1) s (x :: q)
          rw [drainFuel, drainFuel, if_neg (by simp), if_neg (by simp)]
          cases hscan : scan e s (x :: q) with
          | none => rfl
          | some r =>
              obtain ⟨k, s'⟩ := r
              have hk := h.advances (by simp) hscan
              have hlen : ((x :: q).drop k).length ≤ q.length := by
                rw [List.length_drop, List.length_cons]
                omega
              rw [List.length_cons] at hfuel
              show drainFuel scan e fuel s' _ = drainFuel scan e q.length s' _
              rw [ih fuel (by omega) (by omega)]
              rcases Nat.lt_or_ge q.length (fuel + 1) with hlt | hge
              · exact (ih q.length hlt hlen).symm
              · omega

lemma drain_of_none (hq : scan e s q = none) : drain scan e s q = (s, q) := by
  cases q with
  | nil => rfl
  | cons x q =>
      rw [drain, List.length_cons, drainFuel, if_neg (by simp), hq]

lemma drain_of_some (h : Incremental scan R) (hne : q ≠ []) (hq : scan e s q = some (k, s')) :
    drain scan e s q = drain scan e s' (q.drop k) := by
  obtain ⟨n, hn⟩ : ∃ n, q.length = n + 1 := ⟨q.length - 1, by
    have := List.length_pos_iff.2 hne
    omega⟩
  have hk := h.advances hne hq
  rw [drain, hn, drainFuel, if_neg (by simpa using hne), hq]
  refine h.drainFuel_eq ?_
  rw [List.length_drop]
  omega

lemma none_congr (h : Incremental scan R) (hst : R s t) (hq : q ≠ []) (hnone : scan e s q = none) :
    scan e' t q = none := by
  cases hscan : scan e' t q with
  | none => rfl
  | some r =>
      obtain ⟨s', hs', -⟩ := h.congr e (h.equiv.symm hst) hq hscan
      rw [hnone] at hs'
      cases hs'

/-- What `R` does not see does not matter. -/
lemma drain_congr (h : Incremental scan R) (e e' : ε) (q : List α) (hst : R s t) :
    R (drain scan e s q).1 (drain scan e' t q).1 ∧
      (drain scan e s q).2 = (drain scan e' t q).2 := by
  induction hn : q.length using Nat.strongRecOn generalizing s t q with
  | _ n ih =>
      by_cases hne : q = []
      · rw [hne]
        exact ⟨hst, rfl⟩
      cases hscan : scan e s q with
      | none =>
          rw [drain_of_none hscan, drain_of_none (h.none_congr hst hne hscan)]
          exact ⟨hst, rfl⟩
      | some r =>
          obtain ⟨k, s'⟩ := r
          obtain ⟨t', ht', hst'⟩ := h.congr e' hst hne hscan
          have hk := h.advances hne hscan
          rw [h.drain_of_some hne hscan, h.drain_of_some hne ht']
          refine ih _ ?_ _ hst' rfl
          rw [List.length_drop]
          omega

/-- Bytes that come in later are scanned after the others. -/
lemma drain_append (h : Incremental scan R) (e e' : ε) (s : σ) (q r : List α) :
    R (drain scan e s (q ++ r)).1
        (drain scan e' (drain scan e s q).1 ((drain scan e s q).2 ++ r)).1 ∧
      (drain scan e s (q ++ r)).2 =
        (drain scan e' (drain scan e s q).1 ((drain scan e s q).2 ++ r)).2 := by
  induction hn : q.length using Nat.strongRecOn generalizing s q with
  | _ n ih =>
      cases hscan : scan e s q with
      | none =>
          rw [drain_of_none hscan]
          exact h.drain_congr e e' _ (h.equiv.refl s)
      | some r' =>
          obtain ⟨k, s'⟩ := r'
          by_cases hne : q = []
          · rw [hne]
            exact h.drain_congr e e' _ (h.equiv.refl s)
          have hk := h.advances hne hscan
          rw [h.drain_of_some hne hscan,
            h.drain_of_some (List.append_ne_nil_of_left_ne_nil hne r) (h.stable r hne hscan),
            List.drop_append_of_le_length hk.2]
          refine ih _ ?_ _ _ rfl
          rw [List.length_drop]
          omega

/-- What is left when the scanner stops. -/
lemma drain_stops (h : Incremental scan R) :
    (drain scan e s q).2 = [] ∨ scan e (drain scan e s q).1 (drain scan e s q).2 = none := by
  induction hn : q.length using Nat.strongRecOn generalizing s q with
  | _ n ih =>
      by_cases hne : q = []
      · rw [hne]
        exact .inl rfl
      cases hscan : scan e s q with
      | none =>
          rw [drain_of_none hscan]
          exact .inr hscan
      | some r =>
          obtain ⟨k, s'⟩ := r
          have hk := h.advances hne hscan
          rw [h.drain_of_some hne hscan]
          refine ih _ ?_ rfl
          rw [List.length_drop]
          omega

/-- The stream in pieces: scan what is there, then `finish`. -/
def feed (scan : ε → σ → List α → Option (ℕ × σ)) (finish : ε → σ → List α → σ)
    (st : σ × List α) (piece : ε × List α) : σ × List α :=
  let r := drain scan piece.1 st.1 (st.2 ++ piece.2)
  (finish piece.1 r.1 r.2, r.2)

variable {finish : ε → σ → List α → σ}

/-- The pieces do not matter. -/
theorem foldl_feed (h : Incremental scan R) (hfinish : ∀ e s q, R (finish e s q) s)
    (e : ε) (s : σ) (q : List α) (pieces : List (ε × List α)) :
    R (pieces.foldl (feed scan finish) (drain scan e s q)).1
        (drain scan e s (q ++ (pieces.map (·.2)).flatten)).1 ∧
      (pieces.foldl (feed scan finish) (drain scan e s q)).2 =
        (drain scan e s (q ++ (pieces.map (·.2)).flatten)).2 := by
  induction pieces using List.reverseRecOn with
  | nil =>
      rw [List.map_nil, List.flatten_nil, List.append_nil]
      exact ⟨h.equiv.refl _, rfl⟩
  | append_singleton pieces piece ih =>
      rw [List.foldl_append, List.map_append, List.flatten_append, ← List.append_assoc]
      set st := pieces.foldl (feed scan finish) (drain scan e s q) with hst
      set q' := q ++ (pieces.map (·.2)).flatten with hq'
      obtain ⟨hR, hqueue⟩ := ih
      have hsplit := h.drain_append e piece.1 s q' piece.2
      have hcongr := h.drain_congr piece.1 piece.1 (st.2 ++ piece.2) hR
      rw [hqueue] at hcongr
      have hflat : ([piece].map (·.2)).flatten = piece.2 := by simp
      rw [hflat]
      show R (finish _ (drain scan piece.1 st.1 (st.2 ++ piece.2)).1 _) _ ∧
        (drain scan piece.1 st.1 (st.2 ++ piece.2)).2 = _
      rw [hqueue]
      exact ⟨h.equiv.trans (hfinish _ _ _)
        (h.equiv.trans hcongr.1 (h.equiv.symm hsplit.1)), hcongr.2.trans hsplit.2.symm⟩

end Incremental

end InitialSetups.Text
