/-
Lobby/Proofs/Service/Draws.lean

How often a token is drawn for a ticket.

A token is drawn again as long as somebody waits on it.  Each draw that is thrown away has a token of its
own, as different draws have different tokens, and on each of these tokens somebody waits.  So no more draws
are thrown away than tokens are waited on (`length_le_size`), whoever waits there and whatever the tokens
look like, and one draw more than that always has a fresh one among them.

Main result: `redrawing_ends`.
-/
import Lobby.Proofs.Rendezvous.Token
import Lobby.Proofs.Service.Tickets
import Mathlib.Data.List.Perm.Subperm

namespace Lobby

namespace Rendezvous

variable {γ π : Type} {r : Rendezvous γ π} {draw : Draw} {draws front : List Draw} {k : Nat} {token : String}

/-! ### Drawing again -/

theorem freshToken?_cons_of_waiting (h : r.contains draw.token = true) (draws : List Draw) :
    r.freshToken? (draw :: draws) = r.freshToken? draws := by
  rw [freshToken?, List.map_cons, List.find?_cons_of_neg (by simp [h]), freshToken?]

theorem freshToken?_cons_of_fresh (h : r.contains draw.token = false) (draws : List Draw) :
    r.freshToken? (draw :: draws) = some draw.token := by
  rw [freshToken?, List.map_cons, List.find?_cons_of_pos (by simp [h])]

/-- Draws whose tokens are waited on are thrown away. -/
theorem freshToken?_append_of_waiting (h : ∀ draw ∈ front, r.contains draw.token = true)
    (draws : List Draw) : r.freshToken? (front ++ draws) = r.freshToken? draws := by
  induction front with
  | nil => rfl
  | cons draw front ih =>
    obtain ⟨hdraw, hfront⟩ := List.forall_mem_cons.mp h
    rw [List.cons_append, freshToken?_cons_of_waiting hdraw, ih hfront]

/-- So many draws are thrown away, and the next one has this token, on which nobody waits. -/
structure FirstFresh (r : Rendezvous γ π) (draws : List Draw) (k : Nat) (token : String) : Prop where
  drawn : ∃ draw, draws[k]? = some draw ∧ draw.token = token
  fresh : r.contains token = false
  thrownAway : ∀ draw ∈ draws.take k, r.contains draw.token = true

/-- One draw more is thrown away. -/
theorem FirstFresh.cons (h : r.FirstFresh draws k token) (hdraw : r.contains draw.token = true) :
    r.FirstFresh (draw :: draws) (k + 1) token where
  drawn := h.drawn
  fresh := h.fresh
  thrownAway := List.forall_mem_cons.mpr ⟨hdraw, h.thrownAway⟩

/-- Some draw is the first fresh one, or all are thrown away. -/
theorem firstFresh_or_waiting (r : Rendezvous γ π) (draws : List Draw) :
    (∃ k token, r.FirstFresh draws k token) ∨ ∀ draw ∈ draws, r.contains draw.token = true := by
  induction draws with
  | nil => exact .inr nofun
  | cons draw draws ih =>
    rcases hdraw : r.contains draw.token with - | -
    · exact .inl ⟨0, draw.token, ⟨draw, rfl, rfl⟩, hdraw, nofun⟩
    · rcases ih with ⟨k, token, hfirst⟩ | hwaiting
      · exact .inl ⟨k + 1, token, hfirst.cons hdraw⟩
      · exact .inr (List.forall_mem_cons.mpr ⟨hdraw, hwaiting⟩)

/-- The first fresh token is found, and what is drawn behind it does not matter. -/
theorem FirstFresh.freshToken?_eq (h : r.FirstFresh draws k token) (later : List Draw) :
    r.freshToken? (draws.take (k + 1) ++ later) = some token := by
  obtain ⟨draw, hdraw, rfl⟩ := h.drawn
  rw [List.take_add_one, hdraw, Option.toList_some, List.append_assoc,
    freshToken?_append_of_waiting h.thrownAway]
  exact freshToken?_cons_of_fresh h.fresh later

/-! ### How often -/

/-- **Different draws that are thrown away are at most as many as the tokens that are waited on.** -/
theorem length_le_size (hdistinct : draws.Nodup)
    (hwaiting : ∀ draw ∈ draws, r.contains draw.token = true) : draws.length ≤ r.size := by
  have hnodup : (draws.map Draw.token).Nodup := hdistinct.map fun _ _ => Draw.token_injective
  have hsubset : draws.map Draw.token ⊆ r.entries.keys := by
    intro token htoken
    obtain ⟨draw, hdraw, rfl⟩ := List.mem_map.mp htoken
    have hsome : (r.entries.get? draw.token).isSome := hwaiting draw hdraw
    by_contra hfree
    rw [KeyedList.get?_eq_none_iff.mpr hfree] at hsome
    cases hsome
  have hle := (List.subperm_of_subset hnodup hsubset).length_le
  rwa [List.length_map, KeyedList.keys, List.length_map] at hle

theorem FirstFresh.le_size (h : r.FirstFresh draws k token) (hdistinct : draws.Nodup) :
    k ≤ r.size := by
  obtain ⟨draw, hdraw, -⟩ := h.drawn
  have hk : k < draws.length := (List.getElem?_eq_some_iff.mp hdraw).1
  have hle := length_le_size (hdistinct.sublist (List.take_sublist k draws)) h.thrownAway
  rwa [List.length_take, Nat.min_eq_left (Nat.le_of_lt hk)] at hle

/-- Of more draws than tokens are waited on some draw is the first fresh one. -/
theorem exists_firstFresh (hdistinct : draws.Nodup) (hmany : r.size < draws.length) :
    ∃ k token, r.FirstFresh draws k token :=
  (firstFresh_or_waiting r draws).resolve_right fun hwaiting =>
    Nat.not_lt_of_le (length_le_size hdistinct hwaiting) hmany

end Rendezvous

namespace Desk

variable {σ : Type} [Backend σ]

/-- **Drawing again ends.**  Whatever waits on however many tokens, and whatever is drawn, as long as no
draw is repeated and the draws do not run out before there is one more of them than tokens are waited on:

* at most as many draws are thrown away as tokens are waited on, all of them because somebody waits on
  their tokens, and the next draw has a token on which nobody waits;
* this is the fresh token, whatever is drawn later, and with no more draws than these a ticket with it is
  issued for every selection;
* every drawn token has 32 characters, which are digits of lower-case hexadecimal;
* and different draws have different tokens. -/
theorem redrawing_ends (d : Desk σ) (s : Sessions HandoffPayload) {draws : List Draw}
    (hdistinct : draws.Nodup) (hmany : s.rendezvous.size < draws.length) :
    (∃ k token, k ≤ s.rendezvous.size ∧ s.rendezvous.FirstFresh draws k token ∧
      ∀ later, s.rendezvous.freshToken? (draws.take (k + 1) ++ later) = some token ∧
        ∀ now wall c slot chosen, d.select s c slot = .ok chosen →
          ∃ sessions desk, d.issue now wall (draws.take (k + 1) ++ later) s c slot
            = .ok (⟨token, chosen.server, d.chatServer⟩, sessions, desk)) ∧
    (∀ draw : Draw, draw.token.length = 32 ∧ ∀ ch ∈ draw.token.toList, Text.Hex.Lower ch) ∧
    ∀ draw draw' : Draw, draw ≠ draw' → draw.token ≠ draw'.token := by
  obtain ⟨k, token, hfirst⟩ := Rendezvous.exists_firstFresh hdistinct hmany
  refine ⟨⟨k, token, hfirst.le_size hdistinct, hfirst, ?_⟩, ?_, ?_⟩
  · intro later
    have hfresh := hfirst.freshToken?_eq later
    refine ⟨hfresh, ?_⟩
    intro now wall c slot chosen hselect
    exact ⟨_, _, issue_eq_ok hselect hfresh now wall⟩
  · intro draw
    exact ⟨draw.length_token, draw.lower_of_mem_token⟩
  · intro draw draw' hne heq
    exact hne (Draw.token_injective heq)

/-- One payload waits on the token of a ticket, another one on a token that cannot be drawn, and a client on
a token that nobody has announced.  The third of four draws is the first fresh one. -/
theorem third_of_four_draws_is_taken :
    let dawn : Timestamp := ⟨0, 0, by decide, by decide⟩
    let kay : Character :=
      ⟨"Kay", 0, 1, 2, 3, 0, 0, 100, #v[10, 10, 10, 10, 10, 10], ⟨1⟩, ⟨512, 512⟩⟩
    let ann : Account := ⟨⟨0⟩, "ann", "", "", .normal, [kay], dawn, none⟩
    let servers := MapTable.empty.insert ⟨1⟩ ⟨"game", 9000⟩
    let draw : UInt8 → Draw := Vector.replicate 16
    let draws := [draw 7, draw 8, draw 9, draw 10]
    let s := (Service.create .standard .standard (Storage.ofEdits [.add ann]) servers).run
      [.connect ⟨5⟩, .announce ⟨1, dawn⟩ "gate" ⟨1⟩,
        .request ⟨2, dawn⟩ [] ⟨5⟩ (.reconnect "gate"),
        .request ⟨3, dawn⟩ [draw 7] ⟨5⟩ (.characterSelect 0),
        .announce ⟨4, dawn⟩ "日本" ⟨1⟩, .connect ⟨6⟩,
        .request ⟨5, dawn⟩ [] ⟨6⟩ (.reconnect (draw 8).token)]
    draws.Nodup ∧ s.sessions.rendezvous.size = 3 ∧
      (∃ k, k ≤ 3 ∧ s.sessions.rendezvous.FirstFresh draws k (draw 9).token) ∧
      ∃ server sessions desk, s.desk.issue 6 dawn draws s.sessions ⟨5⟩ 0
        = .ok (⟨(draw 9).token, server, s.desk.chatServer⟩, sessions, desk) := by
  intro dawn kay ann servers draw draws s
  have hdistinct : draws.Nodup := by decide
  have hsize : s.sessions.rendezvous.size = 3 := by decide
  have hthird : s.sessions.rendezvous.freshToken? draws = some (draw 9).token := by decide
  have hselects : (s.desk.select s.sessions ⟨5⟩ 0).toOption.isSome := by decide
  clear_value s
  obtain ⟨⟨k, token, hk, hfirst, htaken⟩, -⟩ :=
    redrawing_ends s.desk s.sessions hdistinct (by rw [hsize]; decide)
  obtain ⟨hfound, hissued⟩ := htaken (draws.drop (k + 1))
  rw [List.take_append_drop] at hfound hissued
  obtain rfl : token = (draw 9).token := Option.some.inj (hfound.symm.trans hthird)
  rcases hselect : s.desk.select s.sessions ⟨5⟩ 0 with e | chosen
  · rw [hselect] at hselects
    cases hselects
  · obtain ⟨sessions, desk, hissue⟩ := hissued 6 dawn ⟨5⟩ 0 chosen hselect
    exact ⟨hdistinct, hsize, ⟨k, hsize ▸ hk, hfirst⟩, chosen.server, sessions, desk, hissue⟩

end Desk

end Lobby
