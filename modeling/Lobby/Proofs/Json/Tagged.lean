/-
Lobby/Proofs/Json/Tagged.lean

Values with a tag, and what is none.

A value of a kind with a tag is read in two steps: the tag tells the kind, and the kind tells which
fields to look for in the rest (`readTagged`).  Whatever rewords a value with a tag fills the slots of the
fields of its kind (`readTagged_of_rewords`).

A value **misfits** if the tag is missing or there twice, if a field of its kind is there twice, or if one
is missing that may not be.  A value that misfits is read as nothing (`readTagged_of_misfits`): with a name
that is there twice no slot is filled (`Repeats.slots?_eq_none`), and a field that is missing has an empty
one (`Lacks.mem_slots?`).  From values both go over to all of their texts (`decode_of_rewords`,
`decode_of_misfits`).
-/
import Lobby.Proofs.Json.Rewording

namespace Lobby.Json

variable {α : Type} {fields : String → List String}
  (ofSlots? : String → List (Option Tree) → Option α)

/-- Reads a value whose tag tells its kind: the fields of the kind are put into slots, and from the slots
the value is made. -/
def readTagged (fields : String → List String) (ofSlots? : String → List (Option Tree) → Option α)
    (t : Tree) : Option α := do
  let (kind, body) ← t.tag?
  ofSlots? kind (← body.slots? ⟨fields kind, false, false⟩)

/-- A value is read from its items, the first of which tells its kind. -/
theorem readTagged_of_holds {t tag : Tree} {kind : String} {items : List Tree}
    (h : t.Holds ("type" :: fields kind) (tag :: items)) (htag : tag.text? = some kind)
    (hn : ("type" :: fields kind).Nodup) (hlength : items.length = (fields kind).length) :
    readTagged fields ofSlots? t = ofSlots? kind (items.map some) := by
  obtain ⟨body, hread, hbody⟩ := h.tag? hn
  have hslots : body.slots? ⟨fields kind, false, false⟩ = some (items.map some) :=
    hbody.slots? (List.nodup_cons.mp hn).2 hlength rfl
  rw [readTagged, hread, htag]
  show (body.slots? _).bind _ = _
  rw [hslots]
  rfl

/-- **What is written for a value with a tag is read from its values.** -/
theorem readTagged_tagged {kind : String} {values : List Tree} (hn : ("type" :: fields kind).Nodup)
    (hlength : values.length = (fields kind).length) :
    readTagged fields ofSlots? (.tagged kind (fields kind) values)
      = ofSlots? kind (values.map some) := by
  rw [tagged_eq_record]
  have hlength' : (Tree.ofText kind :: values).length = ("type" :: fields kind).length :=
    congrArg Nat.succ hlength
  have hholds := Tree.holds_record ⟨"type" :: fields kind, false, false⟩ hlength'
  exact readTagged_of_holds ofSlots? hholds (Tree.text?_ofText kind) hn hlength

/-- **What rewords a value with a tag fills the same slots.** -/
theorem readTagged_of_rewords {n : Nat} {t : Tree} {kind : String} {values : List Tree}
    (h : t.Rewords n (.tagged kind (fields kind) values)) (hn : ("type" :: fields kind).Nodup)
    (hlength : values.length = (fields kind).length) :
    ∃ d items, readTagged fields ofSlots? t = ofSlots? kind (items.map some) ∧
      List.Forall₂ (Tree.Rewords d) items values := by
  rw [tagged_eq_record] at h
  obtain ⟨d, all, hholds, hitems⟩ := h.holds (by simp [hlength])
  cases hitems with
  | @cons tag _ items _ htag hitems =>
    exact ⟨d, items, readTagged_of_holds ofSlots? hholds htag.text? hn
      (hitems.length_eq.trans hlength), hitems⟩

/-! ### Values that misfit -/

namespace Tree

/-- A value has a tag of a kind: a member `type`, or a first item. -/
inductive HasTag (kind : String) : Tree → Prop where
  | object {members : List (Literal × Tree)} {key l : Literal} :
      (key, .string l) ∈ members → key.Spells "type" → l.Spells kind → HasTag kind (.object members)
  | row {l : Literal} {items : List Tree} : l.Spells kind → HasTag kind (.array (.string l :: items))

/-- Two members of an object have a name. -/
inductive Repeats (name : String) : Tree → Prop where
  | intro {members : List (Literal × Tree)} {m m' : Literal × Tree} :
      [m, m'].Sublist members → m.1.Spells name → m'.1.Spells name → Repeats name (.object members)

/-- No member of an object has a name, or a row ends before the item that stands for it. -/
inductive Lacks (names : List String) (name : String) : Tree → Prop where
  | object {members : List (Literal × Tree)} :
      (∀ m ∈ members, ¬ m.1.Spells name) → Lacks names name (.object members)
  | row {items : List Tree} : name ∈ names.drop items.length → Lacks names name (.array items)

/-- A value has no tag or two, or has a field of its kind twice, or lacks one that it may not lack. -/
inductive Misfits (fields mayLack : String → List String) : Tree → Prop where
  | tagRepeated {t : Tree} : t.Repeats "type" → Misfits fields mayLack t
  | tagMissing {t : Tree} : t.Lacks ["type"] "type" → Misfits fields mayLack t
  | fieldRepeated {t : Tree} {kind f : String} :
      t.HasTag kind → f ∈ fields kind → t.Repeats f → Misfits fields mayLack t
  | fieldMissing {t : Tree} {kind f : String} :
      t.HasTag kind → f ∈ fields kind → f ∉ mayLack kind → t.Lacks ("type" :: fields kind) f →
      Misfits fields mayLack t

end Tree

/-! ### Names that are there twice, or not at all -/

theorem mapM_eq_none {β γ : Type} {g : β → Option γ} {as : List β} {a : β} (ha : a ∈ as)
    (h : g a = none) : as.mapM g = none := by
  induction as with
  | nil => cases ha
  | cons b as ih =>
    rw [List.mapM_cons]
    rcases List.mem_cons.mp ha with rfl | ha
    · rw [h]
      rfl
    · rw [ih ha]
      cases g b <;> rfl

theorem mem_zip_of_mapM {β γ : Type} {g : β → Option γ} {as : List β} {bs : List γ} {a : β} {b : γ}
    (h : as.mapM g = some bs) (ha : a ∈ as) (hb : g a = some b) : (a, b) ∈ as.zip bs := by
  induction as generalizing bs with
  | nil => cases ha
  | cons a' as ih =>
    rw [List.mapM_cons] at h
    obtain ⟨b', hb', h⟩ := Option.bind_eq_some_iff.mp h
    obtain ⟨bs', hbs', h⟩ := Option.bind_eq_some_iff.mp h
    cases h
    rw [List.zip_cons_cons]
    rcases List.mem_cons.mp ha with rfl | ha
    · rw [hb'] at hb
      cases hb
      exact List.mem_cons_self ..
    · exact List.mem_cons_of_mem _ (ih hbs' ha)

/-- Members have names if their literals denote texts, and then those. -/
theorem named?_eq_some {members : List (Literal × Tree)} {named : List (String × Tree)}
    (h : named? members = some named) :
    (∀ m ∈ members, m.1.text? = some (nameOf m)) ∧ named = members.map fun m => (nameOf m, m.2) := by
  induction members generalizing named with
  | nil =>
    cases h
    exact ⟨nofun, rfl⟩
  | cons m ms ih =>
    rw [named?, List.mapM_cons] at h
    obtain ⟨p, hp, h⟩ := Option.bind_eq_some_iff.mp h
    obtain ⟨ps, hps, h⟩ := Option.bind_eq_some_iff.mp h
    obtain ⟨s, hs, rfl⟩ := Option.map_eq_some_iff.mp hp
    obtain ⟨htexts, rfl⟩ := ih hps
    cases h
    have hname : nameOf m = s := by rw [nameOf, hs, Option.getD_some]
    exact ⟨List.forall_mem_cons.mpr ⟨hname ▸ hs, htexts⟩, by rw [List.map_cons, hname]⟩

/-- A name that is there twice is refused. -/
theorem slot?_of_sublist {members : List (String × Tree)} {name : String} {t t' : Tree}
    (h : [(name, t), (name, t')].Sublist members) : slot? members name = none := by
  have hfound := h.filter (·.1 = name)
  rw [List.filter_cons_of_pos (by simp), List.filter_cons_of_pos (by simp), List.filter_nil]
    at hfound
  unfold slot?
  generalize members.filter (·.1 = name) = found at hfound
  match found with
  | [] => cases hfound
  | [_] => exact absurd hfound.length_le (by simp)
  | _ :: _ :: _ => rfl

theorem slot?_of_not_mem {members : List (String × Tree)} {name : String}
    (h : ∀ m ∈ members, m.1 ≠ name) : slot? members name = some none := by
  have hnone : members.filter (·.1 = name) = [] :=
    List.filter_eq_nil_iff.mpr fun m hm => by simpa using h m hm
  rw [slot?, hnone]

namespace Tree

/-- What is read as the tag of an object, and what the rest of it is. -/
theorem tag?_object {members : List (Literal × Tree)} {kind : String} {body : Tree}
    (h : (object members).tag? = some (kind, body)) :
    (∀ m ∈ members, m.1.text? = some (nameOf m)) ∧
      (∃ tag, slot? (members.map fun m => (nameOf m, m.2)) "type" = some (some tag) ∧
        tag.text? = some kind) ∧
      body = .object (members.filter fun m => m.1.text? != some "type") := by
  rw [tag?] at h
  split at h
  · cases h
  · rename_i named hnamed
    obtain ⟨htexts, rfl⟩ := named?_eq_some hnamed
    split at h
    · rename_i tag htag
      obtain ⟨s, hs, heq⟩ := Option.map_eq_some_iff.mp h
      cases heq
      exact ⟨htexts, ⟨tag, htag, hs⟩, rfl⟩
    · cases h

/-- Two members of a name are two members under the text of the name. -/
theorem sublist_of_spells {members : List (Literal × Tree)} {m m' : Literal × Tree} {name : String}
    (h : [m, m'].Sublist members) (hm : m.1.Spells name) (hm' : m'.1.Spells name) :
    [(name, m.2), (name, m'.2)].Sublist (members.map fun m => (nameOf m, m.2)) := by
  have hmap := h.map fun m => (nameOf m, m.2)
  rwa [List.map_cons, List.map_cons, List.map_nil, nameOf_eq hm, nameOf_eq hm'] at hmap

/-- A tag that is there twice is none. -/
theorem Repeats.tag?_eq_none {t : Tree} (h : t.Repeats "type") : t.tag? = none := by
  obtain ⟨hsub, hm, hm'⟩ := h
  refine Option.eq_none_iff_forall_ne_some.mpr fun ⟨kind, body⟩ htag => ?_
  obtain ⟨-, ⟨tag, hslot, -⟩, -⟩ := tag?_object htag
  rw [slot?_of_sublist (sublist_of_spells hsub hm hm')] at hslot
  cases hslot

/-- The names of an object are closed literals, as those of every text are. -/
def NamesClosed (t : Tree) : Prop := ∀ l, Token.string l ∈ t.tokens → l.Closed

theorem name_mem_laterMemberTokens {m : Literal × Tree} {ms : List (Literal × Tree)} (h : m ∈ ms) :
    Token.string m.1 ∈ laterMemberTokens ms := by
  induction ms with
  | nil => cases h
  | cons m' ms ih =>
    rw [laterMemberTokens]
    rcases List.mem_cons.mp h with rfl | h
    · simp
    · simp [ih h]

/-- The names of an object are among its tokens. -/
theorem name_mem_tokens {m : Literal × Tree} {members : List (Literal × Tree)} (h : m ∈ members) :
    Token.string m.1 ∈ (object members).tokens := by
  rw [tokens]
  refine List.mem_cons_of_mem _ ?_
  cases members with
  | nil => cases h
  | cons m' ms =>
    -- the first member has no comma before it
    have hlater := name_mem_laterMemberTokens h
    rw [laterMemberTokens] at hlater
    exact (List.mem_cons.mp hlater).resolve_left fun h => by cases h

/-- No member of a closed name that is missing is read under it. -/
theorem nameOf_ne {members : List (Literal × Tree)} {name : String}
    (hclosed : (object members).NamesClosed) (htexts : ∀ m ∈ members, m.1.text? = some (nameOf m))
    (h : ∀ m ∈ members, ¬ m.1.Spells name) : ∀ m ∈ members, nameOf m ≠ name := by
  intro m hm heq
  refine h m hm ((hclosed _ (name_mem_tokens hm)).spells_iff.mpr ?_)
  rw [htexts m hm, heq]

/-- Without a tag nothing is read as one. -/
theorem Lacks.tag?_eq_none {t : Tree} (h : t.Lacks ["type"] "type") (hclosed : t.NamesClosed) :
    t.tag? = none := by
  refine Option.eq_none_iff_forall_ne_some.mpr fun ⟨kind, body⟩ htag => ?_
  cases h with
  | object hnames =>
    obtain ⟨htexts, ⟨tag, hslot, -⟩, -⟩ := tag?_object htag
    rw [slot?_of_not_mem (List.forall_mem_map.mpr (nameOf_ne hclosed htexts hnames))] at hslot
    cases hslot
  | @row items hmem =>
    cases items with
    | nil => cases htag
    | cons t ts => exact absurd hmem (by simp)

/-- The tag of a value tells its kind. -/
theorem HasTag.kind_eq {t body : Tree} {kind kind' : String} (h : t.HasTag kind)
    (htag : t.tag? = some (kind', body)) : kind' = kind := by
  cases h with
  | @object members key l hmem hkey hl =>
    obtain ⟨-, ⟨tag, hslot, htext⟩, -⟩ := tag?_object htag
    -- the member that is read is the only one of the name
    have hfound : ("type", Tree.string l)
        ∈ (members.map fun m => (nameOf m, m.2)).filter (·.1 = "type") :=
      List.mem_filter.mpr ⟨List.mem_map.mpr ⟨_, hmem, by rw [nameOf_eq hkey]⟩, by simp⟩
    unfold slot? at hslot
    split at hslot
    · cases hslot
    · rename_i m hone
      cases hslot
      rw [hone, List.mem_singleton] at hfound
      cases hfound
      exact Option.some.inj (htext.symm.trans hl.text?)
    · cases hslot
  | row hl =>
    obtain ⟨s, hs, heq⟩ := Option.map_eq_some_iff.mp htag
    cases heq
    exact Option.some.inj (hs.symm.trans hl.text?)

/-- A field that is there twice fills no slot. -/
theorem Repeats.slots?_eq_none {t body : Tree} {f kind : String} {names : List String}
    (h : t.Repeats f) (hf : f ∈ names) (hne : f ≠ "type") (htag : t.tag? = some (kind, body)) :
    body.slots? ⟨names, false, false⟩ = none := by
  obtain @⟨members, m, m', hsub, hm, hm'⟩ := h
  obtain ⟨-, -, rfl⟩ := tag?_object htag
  have hrest : [m, m'].Sublist (members.filter fun m => m.1.text? != some "type") := by
    have hfilter := hsub.filter fun m => m.1.text? != some "type"
    rwa [List.filter_cons_of_pos (by simpa [hm.text?] using hne),
      List.filter_cons_of_pos (by simpa [hm'.text?] using hne), List.filter_nil] at hfilter
  rw [Tree.slots?]
  split
  · rfl
  · rename_i named hnamed
    obtain ⟨-, rfl⟩ := named?_eq_some hnamed
    rw [Bool.false_and, if_neg Bool.false_ne_true]
    exact mapM_eq_none hf (slot?_of_sublist (sublist_of_spells hrest hm hm'))

/-- A field that is missing has an empty slot. -/
theorem Lacks.mem_slots? {t body : Tree} {f kind : String} {names : List String}
    {slots : List (Option Tree)} (h : t.Lacks ("type" :: names) f) (hclosed : t.NamesClosed)
    (hf : f ∈ names) (htag : t.tag? = some (kind, body))
    (hslots : body.slots? ⟨names, false, false⟩ = some slots) : (f, none) ∈ names.zip slots := by
  cases h with
  | @object members hnames =>
    obtain ⟨htexts, -, rfl⟩ := tag?_object htag
    rw [Tree.slots?] at hslots
    split at hslots
    · cases hslots
    · rename_i named hnamed
      obtain ⟨-, rfl⟩ := named?_eq_some hnamed
      rw [Bool.false_and, if_neg Bool.false_ne_true] at hslots
      refine mem_zip_of_mapM hslots hf (slot?_of_not_mem (List.forall_mem_map.mpr fun m hm => ?_))
      exact nameOf_ne hclosed htexts hnames m (List.mem_of_mem_filter hm)
  | @row items hmem =>
    cases items with
    | nil => cases htag
    | cons tag items =>
      obtain ⟨s, -, heq⟩ := Option.map_eq_some_iff.mp htag
      cases heq
      -- what a row lacks is behind its end, so that the row is too short
      have hshort : items.length < names.length := by
        by_contra hlong
        rw [List.length_cons, List.drop_succ_cons, List.drop_eq_nil_of_le (by omega)] at hmem
        cases hmem
      rw [Tree.slots?, if_neg (Nat.ne_of_lt hshort)] at hslots
      cases hslots

end Tree

/-! ### Refusal -/

/-- **A value that misfits is read as nothing**, if fields that may not be missing have to be there. -/
theorem readTagged_of_misfits {mayLack : String → List String}
    (hn : ∀ kind, ("type" :: fields kind).Nodup)
    (hneeded : ∀ kind slots a f, ofSlots? kind slots = some a → (f, none) ∈ (fields kind).zip slots →
      f ∈ mayLack kind)
    {t : Tree} {text : List UInt8} (htext : t.Layout text) (h : t.Misfits fields mayLack) :
    readTagged fields ofSlots? t = none := by
  have hclosed : t.NamesClosed := fun _ => htext.closed
  refine Option.eq_none_iff_forall_ne_some.mpr fun a hread => ?_
  obtain ⟨⟨kind, body⟩, htag, hread⟩ := Option.bind_eq_some_iff.mp hread
  obtain ⟨slots, hslots, ha⟩ := Option.bind_eq_some_iff.mp hread
  cases h with
  | tagRepeated hrepeats =>
    rw [hrepeats.tag?_eq_none] at htag
    cases htag
  | tagMissing hlacks =>
    rw [hlacks.tag?_eq_none hclosed] at htag
    cases htag
  | @fieldRepeated kind' f hkind hf hrepeats =>
    obtain rfl := hkind.kind_eq htag
    have hne : f ≠ "type" := fun heq => (List.nodup_cons.mp (hn kind)).1 (heq ▸ hf)
    rw [hrepeats.slots?_eq_none hf hne htag] at hslots
    cases hslots
  | @fieldMissing kind' f hkind hf hneed hlacks =>
    obtain rfl := hkind.kind_eq htag
    exact hneed (hneeded kind slots a f ha (hlacks.mem_slots? hclosed hf htag hslots))

/-! ### Texts -/

section

variable [Codec α] (hread : ∀ t, (read? t : Option α) = readTagged fields ofSlots? t)
include hread

/-- **Every text of what rewords a value with a tag is read as the value**, if the slots of its fields give
the value in all words. -/
theorem decode_of_rewords {t : Tree} {text : List UInt8} {kind : String} {values : List Tree} {a : α}
    {d : Nat} (hplain : (Tree.tagged kind (fields kind) values).Plain d)
    (hn : ("type" :: fields kind).Nodup) (hlength : values.length = (fields kind).length)
    (hslots : ∀ {n items}, List.Forall₂ (Tree.Rewords n) items values →
      ofSlots? kind (items.map some) = some a)
    (h : t.Rewords Token.maxNesting (.tagged kind (fields kind) values)) (htext : t.Layout text) :
    decode α text = some a := by
  obtain ⟨n, items, hfilled, hitems⟩ := readTagged_of_rewords ofSlots? h hn hlength
  rw [decode_of_layout htext (h.kept hplain.kept) (Nat.le_refl _), hread, hfilled, hslots hitems]

/-- **Every text of a value that misfits is refused.** -/
theorem decode_of_misfits {mayLack : String → List String}
    (hn : ∀ kind, ("type" :: fields kind).Nodup)
    (hneeded : ∀ kind slots a f, ofSlots? kind slots = some a → (f, none) ∈ (fields kind).zip slots →
      f ∈ mayLack kind)
    {t : Tree} {text : List UInt8} (htext : t.Layout text) (h : t.Misfits fields mayLack) :
    decode α text = none :=
  decode_eq_none_of_layout htext
    ((hread t).trans (readTagged_of_misfits ofSlots? hn hneeded htext h))

end

end Lobby.Json
