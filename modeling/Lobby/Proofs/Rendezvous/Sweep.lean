/-
Lobby/Proofs/Rendezvous/Sweep.lean

A sweep evicts exactly the parties that are overdue, in whatever order it goes about it.

`sweep` says at once what stays and who is told.  `sweepInOrder` goes about it in three passes, as it has
to in a table that is kept in no order: it looks through the entries, in some order, for the tokens where
somebody is overdue; it takes those tokens out one by one, each with what the second map has for it; and
it tells whom it has taken out.  Every order leaves the same table and tells the same parties
(`sweepInOrder_eq`), because what is forgotten of the second map depends on who is evicted and not on
when (`forget_eq_filter`).

Two sweeps with nothing in between are one at the later of the two times, whichever of them comes first
(`sweep_sweep`, `told_sweep_sweep`): to be overdue by the later time is to be overdue by one of them
(`overdue_max`).
-/
import Lobby.Proofs.Rendezvous.Scan

namespace Lobby

namespace Rendezvous

variable {γ π : Type}

/-! ### How long parties have waited -/

/-- A party is overdue if it has waited longer than the timeout; before it came it has not waited. -/
theorem overdue_iff (r : Rendezvous γ π) (now : Nat) (e : Entry γ π) :
    r.overdue now e = true ↔ (r.timeout : Int) < max ((now : Int) - e.since) 0 := by
  rw [overdue, decide_eq_true_iff]
  omega

/-- Who is overdue at the later of two times is so at one of them. -/
theorem overdue_max (r : Rendezvous γ π) (n m : Nat) (e : Entry γ π) :
    r.overdue (max n m) e = (r.overdue n e || r.overdue m e) := by
  rw [Bool.eq_iff_iff, Bool.or_eq_true]
  simp only [overdue, decide_eq_true_iff]
  omega

/-- The entries that are overdue at a time. -/
def stale (r : Rendezvous γ π) (now : Nat) : List (String × Entry γ π) :=
  r.entries.entries.filter fun e => r.overdue now e.2

/-- Whoever was evicted by one time, and whoever of the others is overdue at another one, is overdue at
the later of the two. -/
theorem stale_append_perm (r : Rendezvous γ π) (n m : Nat) :
    (r.stale n ++ (r.entries.entries.filter fun e => !r.overdue n e.2).filter
      fun e => r.overdue m e.2).Perm (r.stale (max n m)) := by
  -- the entries that are overdue at the later time, split by whether they are so at the first one
  have hsplit := List.filter_append_perm (fun e : String × Entry γ π => r.overdue n e.2)
    (r.stale (max n m))
  have hfirst : (r.stale (max n m)).filter (fun e => r.overdue n e.2) = r.stale n := by
    rw [stale, List.filter_filter]
    refine List.filter_congr fun e _ => ?_
    rw [overdue_max]
    cases r.overdue n e.2 <;> simp
  have hsecond : (r.stale (max n m)).filter (fun e => !r.overdue n e.2)
      = (r.entries.entries.filter fun e => !r.overdue n e.2).filter fun e => r.overdue m e.2 := by
    rw [stale, List.filter_filter, List.filter_filter]
    refine List.filter_congr fun e _ => ?_
    rw [overdue_max]
    cases r.overdue n e.2 <;> simp
  rwa [hfirst, hsecond] at hsplit

variable [DecidableEq γ]

/-! ### What is forgotten -/

/-- Of the second map the claimants of the evicted entries go. -/
theorem forget_eq_filter (claimants : KeyedList γ String) (evicted : List (String × Entry γ π)) :
    forget claimants evicted
      = claimants.filter fun k => !evicted.any fun e => e.2.isOf k.1 := by
  induction evicted generalizing claimants with
  | nil =>
    refine KeyedList.ext_entries (List.filter_eq_self.mpr ?_).symm
    intro k _
    rfl
  | cons e es ih =>
    obtain ⟨t, c | p, since⟩ := e
    · show forget (claimants.erase c) es = _
      rw [ih, KeyedList.erase, KeyedList.filter_filter]
      refine KeyedList.filter_congr fun k _ => ?_
      by_cases hk : k.1 = c
      · simp [Entry.isOf, hk]
      · simp [Entry.isOf, hk, Ne.symm hk]
    · show forget claimants es = _
      rw [ih]
      refine KeyedList.filter_congr fun k _ => ?_
      simp [Entry.isOf]

/-- What is forgotten does not depend on the order of the evictions. -/
theorem forget_of_perm (claimants : KeyedList γ String) {evicted evicted' : List (String × Entry γ π)}
    (h : evicted.Perm evicted') : forget claimants evicted = forget claimants evicted' := by
  rw [forget_eq_filter, forget_eq_filter]
  exact KeyedList.filter_congr fun k _ => by rw [h.any_eq]

theorem forget_append (claimants : KeyedList γ String) (evicted later : List (String × Entry γ π)) :
    forget (forget claimants evicted) later = forget claimants (evicted ++ later) :=
  List.foldl_append.symm

/-! ### Three passes -/

/-- The party that waits on a token is taken out, and is told after those before it. -/
def evict (swept : Rendezvous γ π × List (Expiry γ π)) (t : String) :
    Rendezvous γ π × List (Expiry γ π) :=
  match swept.1.entries.get? t with
  | none => swept
  | some e =>
    ({ swept.1 with
        entries := swept.1.entries.erase t
        claimants := forget swept.1.claimants [(t, e)] },
      swept.2 ++ [⟨t, e.waiting⟩])

/-- A sweep that finds the entries in a given order. -/
def sweepInOrder (r : Rendezvous γ π) (now : Nat) (order : List (String × Entry γ π)) :
    Rendezvous γ π × List (Expiry γ π) :=
  ((order.filter fun e => r.overdue now e.2).map Prod.fst).foldl evict (r, [])

/-- Tokens that are taken out one by one go with all that the table has for them. -/
theorem foldl_evict {evicted : List (String × Entry γ π)} (hn : (evicted.map Prod.fst).Nodup)
    {r : Rendezvous γ π} (hget : ∀ e ∈ evicted, r.entries.get? e.1 = some e.2)
    (told : List (Expiry γ π)) :
    (evicted.map Prod.fst).foldl evict (r, told)
      = ({ r with
            entries := r.entries.filter fun e => !(evicted.map Prod.fst).contains e.1
            claimants := forget r.claimants evicted },
          told ++ evicted.map fun e => ⟨e.1, e.2.waiting⟩) := by
  induction evicted generalizing r told with
  | nil =>
    have hkept : (r.entries.filter fun _ => true) = r.entries :=
      KeyedList.ext_entries (List.filter_eq_self.mpr fun _ _ => rfl)
    show (r, told) = ({ r with entries := r.entries.filter fun _ => true }, told ++ [])
    rw [hkept, List.append_nil]
  | cons e es ih =>
    obtain ⟨t, e⟩ := e
    rw [List.map_cons, List.nodup_cons] at hn
    rw [List.forall_mem_cons] at hget
    obtain ⟨ht, hes⟩ := hget
    have hevict : evict (r, told) t
        = ({ r with entries := r.entries.erase t, claimants := forget r.claimants [(t, e)] },
          told ++ [⟨t, e.waiting⟩]) := by simp only [evict, ht]
    -- the tokens that are still to be taken out are others
    have hleft : ∀ e' ∈ es, (r.entries.erase t).get? e'.1 = some e'.2 := by
      intro e' he'
      have hne : t ≠ e'.1 := fun heq => hn.1 (List.mem_map.mpr ⟨e', he', heq.symm⟩)
      rw [KeyedList.get?_erase, if_neg hne]
      exact hes e' he'
    have hkept : ((r.entries.erase t).filter fun e => !(es.map Prod.fst).contains e.1)
        = r.entries.filter fun e => !((t :: es.map Prod.fst).contains e.1) := by
      rw [KeyedList.erase, KeyedList.filter_filter]
      refine KeyedList.filter_congr fun e' _ => ?_
      by_cases he' : e'.1 = t <;> simp [he']
    rw [List.map_cons, List.foldl_cons, hevict, ih hn.2 hleft]
    dsimp only
    rw [hkept, forget_append, List.append_assoc]
    rfl

/-- **The order in which a sweep finds the entries does not matter.** -/
theorem sweepInOrder_eq (r : Rendezvous γ π) (now : Nat) {order : List (String × Entry γ π)}
    (horder : order.Perm r.entries.entries) :
    (r.sweepInOrder now order).1 = (r.sweep now).1 ∧
      (r.sweepInOrder now order).2.Perm (r.sweep now).2 := by
  have hperm : (order.filter fun e => r.overdue now e.2).Perm (r.stale now) := horder.filter _
  have hn : ((order.filter fun e => r.overdue now e.2).map Prod.fst).Nodup :=
    KeyedList.nodup_filter ((horder.map Prod.fst).nodup_iff.mpr r.entries.nodup_keys)
  have hget : ∀ e ∈ order.filter fun e => r.overdue now e.2, r.entries.get? e.1 = some e.2 :=
    fun e he => KeyedList.get?_eq_some_iff.mpr (horder.mem_iff.mp (List.mem_filter.mp he).1)
  -- a token is taken out exactly if its entry is overdue, as it has no other entry
  have hkept : (r.entries.filter fun e =>
        !((order.filter fun e => r.overdue now e.2).map Prod.fst).contains e.1)
      = r.entries.filter fun e => !r.overdue now e.2 := by
    refine KeyedList.filter_congr fun e he => congrArg _ (Bool.eq_iff_iff.mpr ?_)
    rw [List.contains_iff_mem, List.mem_map]
    constructor
    · rintro ⟨e', he', heq⟩
      have hsame : r.entries.get? e.1 = some e'.2 := heq ▸ hget e' he'
      rw [KeyedList.get?_eq_some_iff.mpr he, Option.some.injEq] at hsame
      rw [hsame]
      exact (List.mem_filter.mp he').2
    · intro hover
      exact ⟨e, List.mem_filter.mpr ⟨horder.mem_iff.mpr he, hover⟩, rfl⟩
  rw [sweepInOrder, foldl_evict hn hget, sweep_fst, hkept, forget_of_perm _ hperm]
  exact ⟨rfl, hperm.map _⟩

/-- The parties that stay and those that are told are all there were. -/
theorem length_told_add_size (r : Rendezvous γ π) (now : Nat) :
    (r.sweep now).2.length + (r.sweep now).1.size = r.size := by
  show ((r.stale now).map _).length + (r.entries.entries.filter fun e => !r.overdue now e.2).length
    = r.entries.entries.length
  rw [List.length_map, ← List.length_append]
  exact (List.filter_append_perm _ _).length_eq

/-! ### Two sweeps -/

/-- Two sweeps leave what one at the later time leaves. -/
theorem sweep_sweep (r : Rendezvous γ π) (n m : Nat) :
    ((r.sweep n).1.sweep m).1 = (r.sweep (max n m)).1 := by
  have hentries : ((r.entries.filter fun e => !r.overdue n e.2).filter fun e => !r.overdue m e.2)
      = r.entries.filter fun e => !r.overdue (max n m) e.2 := by
    rw [KeyedList.filter_filter]
    refine KeyedList.filter_congr fun e _ => ?_
    rw [overdue_max, Bool.not_or, Bool.and_comm]
  have hclaimants : forget (forget r.claimants (r.stale n))
        ((r.entries.entries.filter fun e => !r.overdue n e.2).filter fun e => r.overdue m e.2)
      = forget r.claimants (r.stale (max n m)) := by
    rw [forget_append]
    exact forget_of_perm _ (r.stale_append_perm n m)
  show Rendezvous.mk _ _ _ = Rendezvous.mk _ _ _
  exact congr (congrArg₂ Rendezvous.mk hentries hclaimants) rfl

/-- Two sweeps tell whom one at the later time tells. -/
theorem told_sweep_sweep (r : Rendezvous γ π) (n m : Nat) :
    ((r.sweep n).2 ++ ((r.sweep n).1.sweep m).2).Perm (r.sweep (max n m)).2 := by
  have hboth : (r.sweep n).2 ++ ((r.sweep n).1.sweep m).2
      = (r.stale n ++ (r.entries.entries.filter fun e => !r.overdue n e.2).filter
          fun e => r.overdue m e.2).map fun e => ⟨e.1, e.2.waiting⟩ := by
    rw [List.map_append]
    rfl
  rw [hboth]
  exact (r.stale_append_perm n m).map _

/-- A sweep after one at the same time or later finds nobody. -/
theorem sweep_swept (r : Rendezvous γ π) {n m : Nat} (h : m ≤ n) :
    (r.sweep n).1.sweep m = ((r.sweep n).1, []) := by
  have htold := r.told_sweep_sweep n m
  rw [Nat.max_eq_left h] at htold
  have hnobody : ((r.sweep n).1.sweep m).2 = [] := by
    have hlength := htold.length_eq
    rw [List.length_append] at hlength
    exact List.length_eq_zero_iff.mp (by omega)
  refine Prod.ext ?_ hnobody
  rw [sweep_sweep, Nat.max_eq_left h]

/-! ### The whole of a sweep -/

/-- **A sweep is exact, free of order, and composes.**  Of any table, at any time, be it earlier than when
some parties came:

* those entries stay, as they are, whose party has waited no longer than the timeout, where a party that
  comes later has not waited at all;
* as many are told as are gone;
* on a token the party that waits there is told once that its time is over, if it is gone, and nothing
  else is made known;
* in whatever order the entries are found, the same table is left and the same parties are told;
* two sweeps leave the table and tell the parties of one sweep at the later of their times;
* and so a sweep that is repeated, or comes after a later one, leaves the table and tells nobody. -/
theorem sweep_is_exact_and_composes (r : Rendezvous γ π) (now : Nat) :
    (∀ t e, (r.sweep now).1.entries.get? t = some e
      ↔ r.entries.get? t = some e ∧ ¬ (r.timeout : Int) < max ((now : Int) - e.since) 0) ∧
    (r.sweep now).2.length + (r.sweep now).1.size = r.size ∧
    (∀ t e, r.entries.get? t = some e → (r.timeout : Int) < max ((now : Int) - e.since) 0 →
      r.noticesOn (.sweep now) t = [.timedOut ⟨t, e.waiting⟩]) ∧
    (∀ t, (r.sweep now).1.entries.get? t = r.entries.get? t → r.noticesOn (.sweep now) t = []) ∧
    (∀ x ∈ (r.call (.sweep now)).2, ∀ m, x ≠ .matched m) ∧
    (∀ order : List (String × Entry γ π), order.Perm r.entries.entries →
      (r.sweepInOrder now order).1 = (r.sweep now).1 ∧
      (r.sweepInOrder now order).2.Perm (r.sweep now).2) ∧
    (∀ next, ((r.sweep now).1.sweep next).1 = (r.sweep (max now next)).1 ∧
      ((r.sweep now).2 ++ ((r.sweep now).1.sweep next).2).Perm (r.sweep (max now next)).2) ∧
    ∀ next ≤ now, (r.sweep now).1.sweep next = ((r.sweep now).1, []) := by
  refine ⟨?_, r.length_told_add_size now, ?_, ?_, ?_, fun order => r.sweepInOrder_eq now,
    fun next => ⟨r.sweep_sweep now next, r.told_sweep_sweep now next⟩,
    fun next => r.sweep_swept⟩
  · intro t e
    rw [get?_sweep, Option.filter_eq_some_iff, ← overdue_iff, Bool.not_eq_true', Bool.not_eq_true]
  · intro t e ht hover
    rw [noticesOn_sweep, ht, Option.filter_some, if_pos ((overdue_iff r now e).mpr hover)]
    rfl
  · intro t ht
    rw [get?_sweep] at ht
    rw [noticesOn_sweep]
    rcases he : r.entries.get? t with - | e
    · rfl
    · -- the entry is not gone, so it was not overdue
      rw [he, Option.filter_eq_some_iff] at ht
      rw [Option.filter_some, if_neg (by simpa using ht.2)]
      rfl
  · intro x hx m heq
    obtain ⟨y, -, hy⟩ := List.mem_map.mp hx
    rw [heq] at hy
    cases hy

/-- Of three parties one has waited too long, one for just the timeout, and one comes only after the time
of the sweep: the first one alone is told, in whatever order they are found, and a second sweep a moment
later tells the second one. -/
theorem sweep_on_the_verge :
    let r := tableAt 10 [.registerClaimant 0 "gate" 1, .registerPayload 5 "yard" "key",
      .registerClaimant 20 "hall" 2] 3
    r.entries.get? "gate" = some ⟨.claimant 1, 0⟩ ∧ (10 : Int) < max (((15 : Nat) : Int) - (0 : Nat)) 0 ∧
      r.noticesOn (.sweep 15) "gate" = [.timedOut ⟨"gate", .claimant (1 : Nat)⟩] ∧
      r.entries.entries.reverse.Perm r.entries.entries ∧
      (r.sweepInOrder 15 r.entries.entries.reverse).1 = (r.sweep 15).1 ∧
      ((r.sweep 15).1.sweep 16).2 = [⟨"yard", .payload "key"⟩] ∧
      ((r.sweep 15).2 ++ ((r.sweep 15).1.sweep 16).2).Perm (r.sweep 16).2 ∧
      (r.sweep 15).1.sweep 7 = ((r.sweep 15).1, []) := by
  intro r
  have hgate : r.entries.get? "gate" = some ⟨.claimant 1, 0⟩ := by decide
  have hover : (10 : Int) < max (((15 : Nat) : Int) - (0 : Nat)) 0 := by decide
  have hperm : r.entries.entries.reverse.Perm r.entries.entries := List.reverse_perm _
  have hyard : ((r.sweep 15).1.sweep 16).2 = [⟨"yard", .payload "key"⟩] := by decide
  obtain ⟨-, -, htold, -, -, horder, htwo, hagain⟩ := sweep_is_exact_and_composes r 15
  exact ⟨hgate, hover, htold "gate" _ hgate hover, hperm, (horder _ hperm).1, hyard, (htwo 16).2,
    hagain 7 (by decide)⟩

end Rendezvous

end Lobby
