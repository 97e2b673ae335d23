/-
Lobby/Proofs/Json/Rewording.lean

One value in other words.

A value **rewords** another one if it differs from it only where no reader looks: strings and names are
spelled in other ways, the members of an object stand in another order and among members of other names,
and a record is a row of its values.  Numbers stay as they are, as another number is another value.

What rewords a record **holds** an item for each of its fields (`Rewords.holds`).  The members that belong
to the record are found wherever they stand (`slot?_of_perm`), and those of other names are not looked at
(`slot?_append`); so it fills the same slots (`Rewords.slots?`), and with a tag it has the same tag and a
rest that holds the other items (`Holds.tag?`).  A codec is **tolerant** if it reads what it wrote also in
other words.
-/
import Lobby.Proofs.Json.Codec
import Mathlib.Data.List.Forall2

namespace Lobby.Json

/-! ### Literals of one text -/

namespace Literal

/-- A literal spells one text at most. -/
theorem Spells.unique {l : Literal} {s s' : String} (h : l.Spells s) (h' : l.Spells s') : s = s' :=
  Option.some.inj (h.text?.symm.trans h'.text?)

/-- Two literals of one text. -/
def Alike (l k : Literal) : Prop := ∃ s, l.Spells s ∧ k.Spells s

theorem Alike.spells {l : Literal} {s : String} (h : l.Alike (ofText s)) : l.Spells s := by
  obtain ⟨s', hl, hk⟩ := h
  rwa [hk.unique (spells_ofText s)] at hl

end Literal

/-! ### Other words -/

namespace Tree

/-- A value in other words than another one, nesting no deeper than a bound. -/
inductive Rewords : Nat → Tree → Tree → Prop where
  | null {n : Nat} : Rewords n .null .null
  | bool {n : Nat} (b : Bool) : Rewords n (.bool b) (.bool b)
  | number {n : Nat} (m : Number) : Rewords n (.number m) (.number m)
  /-- Characters may be escaped or not. -/
  | string {n : Nat} {l k : Literal} : l.Alike k → Rewords n (.string l) (.string k)
  | array {n : Nat} {items values : List Tree} :
      items.length = values.length → (∀ p ∈ items.zip values, Rewords n p.1 p.2) →
      Rewords (n + 1) (.array items) (.array values)
  /-- The members of an object may stand in any order, and with others of other names. -/
  | object {n : Nat} {members own others written : List (Literal × Tree)} :
      members.Perm (own ++ others) → own.length = written.length →
      (∀ p ∈ own.zip written, p.1.1.Alike p.2.1) →
      (∀ p ∈ own.zip written, Rewords n p.1.2 p.2.2) →
      (∀ m ∈ others, ∃ s, m.1.Spells s ∧ ∀ w ∈ written, ¬ w.1.Spells s) →
      (∀ m ∈ others, m.2.Kept n) →
      Rewords (n + 1) (.object members) (.object written)
  /-- An object may be a row of its values. -/
  | row {n : Nat} {items : List Tree} {written : List (Literal × Tree)} :
      items.length = written.length → (∀ p ∈ items.zip written, Rewords n p.1 p.2.2) →
      Rewords (n + 1) (.array items) (.object written)

variable {n : Nat} {t : Tree}

theorem Rewords.eq_null (h : Rewords n t .null) : t = .null := by
  cases h
  rfl

theorem Rewords.null_eq {w : Tree} (h : Rewords n .null w) : w = .null := by
  cases h
  rfl

theorem Rewords.eq_ofInt {i : Int} (h : Rewords n t (.ofInt i)) : t = .ofInt i := by
  generalize hw : ofInt i = w at h
  cases h with
  | number m => exact hw ▸ rfl
  | _ => cases hw

theorem Rewords.text? {s : String} (h : Rewords n t (.ofText s)) : t.text? = some s := by
  generalize hw : ofText s = w at h
  cases h with
  | string hl =>
    cases hw
    exact hl.spells.text?
  | _ => cases hw

theorem Rewords.of_array {values : List Tree} (h : Rewords n t (.array values)) :
    ∃ d items, t = .array items ∧ List.Forall₂ (Rewords d) items values := by
  cases h with
  | array hlength hitems => exact ⟨_, _, rfl, List.forall₂_iff_zip.mpr ⟨hlength, hitems _⟩⟩

theorem exists_mem_zip {α β : Type} {as : List α} {bs : List β} (h : as.length = bs.length) {a : α}
    (ha : a ∈ as) : ∃ b, (a, b) ∈ as.zip bs := by
  rw [← List.map_fst_zip (Nat.le_of_eq h), List.mem_map] at ha
  obtain ⟨⟨a', b⟩, hp, rfl⟩ := ha
  exact ⟨b, hp⟩

/-- What rewords a value that may be kept may be kept. -/
theorem Rewords.kept {w : Tree} (h : Rewords n t w) {d : Nat} (hw : w.Kept d) : t.Kept n := by
  induction h generalizing d with
  | null => exact .null
  | bool b => exact .bool b
  | number m =>
    cases hw with
    | number hm => exact .number hm
  | string hl =>
    obtain ⟨s, hs, -⟩ := hl
    exact .string hs
  | array hlength _ ih =>
    cases hw with
    | array hvalues =>
      refine .array fun t ht => ?_
      obtain ⟨v, hp⟩ := exists_mem_zip hlength ht
      exact ih _ hp (hvalues v (List.of_mem_zip hp).2)
  | object hperm hlength hnames _ hothers hkept ih =>
    cases hw with
    | object _ hvalues =>
      refine .object (fun m hm => ?_) fun m hm => ?_
      · rcases List.mem_append.mp (hperm.subset hm) with hown | hother
        · obtain ⟨w, hp⟩ := exists_mem_zip hlength hown
          obtain ⟨s, hs, -⟩ := hnames _ hp
          exact ⟨s, hs⟩
        · obtain ⟨s, hs, -⟩ := hothers m hother
          exact ⟨s, hs⟩
      · rcases List.mem_append.mp (hperm.subset hm) with hown | hother
        · obtain ⟨w, hp⟩ := exists_mem_zip hlength hown
          exact ih _ hp (hvalues w (List.of_mem_zip hp).2)
        · exact hkept m hother
  | row hlength _ ih =>
    cases hw with
    | object _ hvalues =>
      refine .array fun t ht => ?_
      obtain ⟨w, hp⟩ := exists_mem_zip hlength ht
      exact ih _ hp (hvalues w (List.of_mem_zip hp).2)

end Tree

/-! ### Members -/

/-- The text of a member's name. -/
def nameOf (m : Literal × Tree) : String := m.1.text?.getD ""

theorem nameOf_eq {m : Literal × Tree} {s : String} (h : m.1.Spells s) : nameOf m = s := by
  rw [nameOf, h.text?, Option.getD_some]

theorem named?_eq {members : List (Literal × Tree)} (h : ∀ m ∈ members, ∃ s, m.1.Spells s) :
    named? members = some (members.map fun m => (nameOf m, m.2)) := by
  induction members with
  | nil => rfl
  | cons m ms ih =>
    rw [List.forall_mem_cons] at h
    obtain ⟨⟨s, hs⟩, hms⟩ := h
    have hrest : ms.mapM (fun m => m.1.text?.map (·, m.2)) = some _ := ih hms
    rw [named?, List.mapM_cons, hs.text?, hrest, List.map_cons, nameOf_eq hs]
    rfl

/-- What an object holds under a name does not depend on the order of its members. -/
theorem slot?_of_perm {members members' : List (String × Tree)} (h : members.Perm members')
    (name : String) : slot? members name = slot? members' name := by
  have hfilter := h.filter (·.1 = name)
  unfold slot?
  generalize members.filter (·.1 = name) = found at hfilter
  generalize members'.filter (·.1 = name) = found' at hfilter
  match found with
  | [] => rw [hfilter.nil_eq]
  | [m] => rw [List.singleton_perm.mp hfilter]
  | _ :: _ :: _ =>
    have hlength := hfilter.length_eq
    match found' with
    | [] => cases hlength
    | [_] => cases hlength
    | _ :: _ :: _ => rfl

/-- Members of other names are not looked at. -/
theorem slot?_append {own others : List (String × Tree)} {name : String}
    (h : ∀ m ∈ others, m.1 ≠ name) : slot? (own ++ others) name = slot? own name := by
  have hnone : others.filter (·.1 = name) = [] :=
    List.filter_eq_nil_iff.mpr fun m hm => by simpa using h m hm
  rw [slot?, slot?, List.filter_append, hnone, List.append_nil]

/-! ### Records -/

namespace Tree

/-- A value has an item for each field of a record: as a row of the items, or as an object with one
member of each field's name among members of other names. -/
inductive Holds : List String → List Tree → Tree → Prop where
  | row {fields : List String} {items : List Tree} : Holds fields items (.array items)
  | object {fields : List String} {members own others : List (Literal × Tree)} :
      members.Perm (own ++ others) → List.Forall₂ (fun m f => m.1.Spells f) own fields →
      (∀ m ∈ others, ∃ s, m.1.Spells s ∧ s ∉ fields) →
      Holds fields (own.map Prod.snd) (.object members)

theorem map_named_eq_zip {own : List (Literal × Tree)} {fields : List String}
    (h : List.Forall₂ (fun m f => m.1.Spells f) own fields) :
    own.map (fun m => (nameOf m, m.2)) = fields.zip (own.map Prod.snd) := by
  induction h with
  | nil => rfl
  | cons hf _ ih => rw [List.map_cons, List.map_cons, List.zip_cons_cons, ih, nameOf_eq hf]

/-- The members of a record are found wherever they stand, and whatever stands beside them. -/
theorem slot?_of_holds {fields : List String} {members own others : List (Literal × Tree)}
    (hn : fields.Nodup) (hperm : members.Perm (own ++ others))
    (hown : List.Forall₂ (fun m f => m.1.Spells f) own fields)
    (hothers : ∀ m ∈ others, ∃ s, m.1.Spells s ∧ s ∉ fields) :
    ∃ named, named? members = some named ∧
      ∀ p ∈ fields.zip (own.map Prod.snd), slot? named p.1 = some (some p.2) := by
  have hlength : (own.map Prod.snd).length = fields.length := by
    rw [List.length_map, hown.length_eq]
  refine ⟨_, named?_eq fun m hm => ?_, fun p hp => ?_⟩
  · rcases List.mem_append.mp (hperm.subset hm) with hm | hm
    · obtain ⟨f, hp⟩ := exists_mem_zip hown.length_eq hm
      exact ⟨f, (List.forall₂_iff_zip.mp hown).2 hp⟩
    · obtain ⟨s, hs, -⟩ := hothers m hm
      exact ⟨s, hs⟩
  · rw [slot?_of_perm (hperm.map _), List.map_append, slot?_append, map_named_eq_zip hown]
    · refine slot?_of_mem ?_ hp
      rwa [List.map_fst_zip (Nat.le_of_eq hlength.symm)]
    · intro m hm
      obtain ⟨m', hm', rfl⟩ := List.mem_map.mp hm
      obtain ⟨s, hs, hnot⟩ := hothers m' hm'
      intro heq
      have hname : s = p.1 := (nameOf_eq hs).symm.trans heq
      exact hnot (hname ▸ (List.of_mem_zip hp).1)

/-- The slots of a record are filled with its items. -/
theorem Holds.slots? {shape : Shape} {items : List Tree} {t : Tree}
    (h : t.Holds shape.fields items) (hn : shape.fields.Nodup)
    (hlength : items.length = shape.fields.length) (hothers : shape.refusesOthers = false) :
    t.slots? shape = some (items.map some) := by
  cases h with
  | row => rw [Tree.slots?, if_pos hlength]
  | object hperm hown hnames =>
    obtain ⟨named, hnamed, hslot⟩ := slot?_of_holds hn hperm hown hnames
    rw [Tree.slots?, hnamed]
    dsimp only
    rw [hothers, Bool.false_and, if_neg Bool.false_ne_true]
    exact mapM_slot? hlength hslot

/-- The tag of a value is its item of the name `type`, and the rest has the other items. -/
theorem Holds.tag? {fields : List String} {tag : Tree} {items : List Tree} {t : Tree}
    (h : t.Holds ("type" :: fields) (tag :: items)) (hn : ("type" :: fields).Nodup) :
    ∃ body : Tree, t.tag? = tag.text?.map (·, body) ∧ body.Holds fields items := by
  generalize hnames : "type" :: fields = names at h
  generalize hall : tag :: items = all at h
  cases h with
  | row =>
    subst hall
    exact ⟨.array items, rfl, .row⟩
  | @object members own others hperm hown hothers =>
    subst hnames
    cases hown with
    | @cons m _ own _ hm hown =>
      obtain ⟨rfl, rfl⟩ := List.cons.inj hall
      obtain ⟨named, hnamed, hslot⟩ := slot?_of_holds hn hperm (.cons hm hown) hothers
      have htag : slot? named "type" = some (some m.2) := hslot ("type", m.2) (List.mem_cons_self ..)
      refine ⟨.object (members.filter fun m => m.1.text? != some "type"), ?_, ?_⟩
      · rw [Tree.tag?, hnamed]
        dsimp only
        rw [htag]
      · have hkept : (m :: own ++ others).filter (fun m => m.1.text? != some "type")
            = own ++ others := by
          rw [List.cons_append, List.filter_cons_of_neg (by simp [hm.text?])]
          refine List.filter_eq_self.mpr fun m' hm' => ?_
          rcases List.mem_append.mp hm' with hm' | hm'
          · obtain ⟨f, hp⟩ := exists_mem_zip hown.length_eq hm'
            have hf : m'.1.Spells f := (List.forall₂_iff_zip.mp hown).2 hp
            have hne : f ≠ "type" := fun heq =>
              (List.nodup_cons.mp hn).1 (heq ▸ (List.of_mem_zip hp).2)
            simpa [hf.text?] using hne
          · obtain ⟨s, hs, hnot⟩ := hothers m' hm'
            have hne : s ≠ "type" := fun heq => hnot (heq ▸ List.mem_cons_self ..)
            simpa [hs.text?] using hne
        refine .object (hkept ▸ hperm.filter _) hown fun m' hm' => ?_
        obtain ⟨s, hs, hnot⟩ := hothers m' hm'
        exact ⟨s, hs, fun hmem => hnot (List.mem_cons_of_mem _ hmem)⟩

/-- A record holds its values. -/
theorem holds_record (shape : Shape) {values : List Tree}
    (hlength : values.length = shape.fields.length) :
    (record shape values).Holds shape.fields values := by
  have hnames : ∀ (fs : List String) (vs : List Tree), vs.length = fs.length →
      List.Forall₂ (fun m f => m.1.Spells f) ((fs.map Literal.ofText).zip vs) fs := by
    intro fs vs hlength
    induction fs generalizing vs with
    | nil => exact .nil
    | cons f fs ih =>
      obtain ⟨v, vs, rfl⟩ := List.exists_cons_of_length_eq_add_one hlength
      exact .cons (Literal.spells_ofText f) (ih vs (Nat.succ.inj hlength))
  have hsnd : ((shape.fields.map Literal.ofText).zip values).map Prod.snd = values :=
    List.map_snd_zip (by simp [hlength])
  have hholds := Holds.object (.of_eq (List.append_nil _).symm) (hnames _ _ hlength)
    (List.forall_mem_nil _)
  rwa [hsnd] at hholds

/-- What rewords a record holds items that reword its values. -/
theorem Rewords.holds {n : Nat} {t : Tree} {shape : Shape} {values : List Tree}
    (h : Rewords n t (.record shape values)) (hlength : values.length = shape.fields.length) :
    ∃ d items, t.Holds shape.fields items ∧ List.Forall₂ (Rewords d) items values := by
  have hfst : ((shape.fields.map Literal.ofText).zip values).map Prod.fst
      = shape.fields.map Literal.ofText := List.map_fst_zip (by simp [hlength])
  have hsnd : ((shape.fields.map Literal.ofText).zip values).map Prod.snd = values :=
    List.map_snd_zip (by simp [hlength])
  cases h with
  | @object d members own others _ hperm hlen hnames hvalues hothers _ =>
    refine ⟨d, own.map Prod.snd, .object hperm ?_ fun m hm => ?_, ?_⟩
    · have halike : List.Forall₂ (fun m w => m.1.Alike w.1) own
          ((shape.fields.map Literal.ofText).zip values) :=
        List.forall₂_iff_zip.mpr ⟨hlen, hnames _⟩
      have hfields : List.Forall₂ (fun m f => m.1.Alike (Literal.ofText f)) own shape.fields := by
        rw [← List.forall₂_map_right_iff (f := Literal.ofText), ← hfst, List.forall₂_map_right_iff]
        exact halike
      exact hfields.imp fun _ _ => Literal.Alike.spells
    · obtain ⟨s, hs, hnot⟩ := hothers m hm
      refine ⟨s, hs, fun hmem => ?_⟩
      have hname : Literal.ofText s ∈ ((shape.fields.map Literal.ofText).zip values).map Prod.fst :=
        hfst.symm ▸ List.mem_map_of_mem hmem
      obtain ⟨w, hw, hname⟩ := List.mem_map.mp hname
      exact hnot w hw (hname ▸ Literal.spells_ofText s)
    · rw [← hsnd, List.forall₂_map_left_iff, List.forall₂_map_right_iff]
      exact List.forall₂_iff_zip.mpr ⟨hlen, hvalues _⟩
  | @row d items _ hlen hitems =>
    refine ⟨d, items, .row, ?_⟩
    rw [← hsnd, List.forall₂_map_right_iff]
    exact List.forall₂_iff_zip.mpr ⟨hlen, hitems _⟩

/-- **What rewords a record fills the same slots.** -/
theorem Rewords.slots? {n : Nat} {t : Tree} {shape : Shape} {values : List Tree}
    (h : Rewords n t (.record shape values)) (hn : shape.fields.Nodup)
    (hlength : values.length = shape.fields.length) (hothers : shape.refusesOthers = false) :
    ∃ d items, t.slots? shape = some (items.map some) ∧ List.Forall₂ (Rewords d) items values := by
  obtain ⟨d, items, hholds, hitems⟩ := h.holds hlength
  exact ⟨d, items, hholds.slots? hn (hitems.length_eq.trans hlength) hothers, hitems⟩

end Tree

/-! ### Tolerant codecs -/

/-- A codec that reads what it wrote also in other words. -/
class Codec.Tolerant (α : Type) [Codec α] : Prop where
  read?_of_rewords {n : Nat} {t : Tree} {a : α} : t.Rewords n (write a) → read? t = some a

section

variable {n : Nat} {t : Tree}

instance : Codec.Tolerant String where
  read?_of_rewords h := h.text?

instance : Codec.Tolerant UInt8 where
  read?_of_rewords h := h.eq_ofInt ▸ read?_write _

instance : Codec.Tolerant UInt16 where
  read?_of_rewords h := h.eq_ofInt ▸ read?_write _

instance : Codec.Tolerant UInt32 where
  read?_of_rewords h := h.eq_ofInt ▸ read?_write _

variable {α : Type} [Codec α] [Codec.Tolerant α]

/-- Items that are read one by one come back from other words. -/
theorem mapM_read?_of_rewords {items : List Tree} {as : List α}
    (h : List.Forall₂ (Tree.Rewords n) items (as.map write)) :
    items.mapM (read? : Tree → Option α) = some as := by
  induction as generalizing items with
  | nil =>
    cases h
    rfl
  | cons a as ih =>
    cases h with
    | cons ht hts =>
      rw [List.mapM_cons, Codec.Tolerant.read?_of_rewords ht, ih hts]
      rfl

instance {k : Nat} : Codec.Tolerant (Vector α k) where
  read?_of_rewords {n t v} h := by
    obtain ⟨d, items, rfl, hitems⟩ := Tree.Rewords.of_array h
    show (items.mapM (read? : Tree → Option α)).bind _ = some v
    rw [mapM_read?_of_rewords hitems, Option.bind_some, dif_pos v.length_toList]
    rfl

/-- What is absent is a `null` in all words, so nothing that is present may be written as one. -/
theorem Codec.Tolerant.option (h : ∀ a : α, write a ≠ .null) : Codec.Tolerant (Option α) where
  read?_of_rewords {n t a} ht := by
    cases a with
    | none => exact ht.eq_null ▸ rfl
    | some a =>
      have ha : read? t = some a := read?_of_rewords ht
      cases t with
      | null => exact absurd (Tree.Rewords.null_eq ht) (h a)
      | _ => exact congrArg (Option.map some) ha

theorem required_of_rewords {a : α} (h : t.Rewords n (write a)) : required (some t) = some a :=
  Codec.Tolerant.read?_of_rewords h

omit [Codec.Tolerant α] in
theorem optional_of_rewords {a : Option α} [Codec.Tolerant (Option α)]
    (h : t.Rewords n (write a)) : optional (some t) = some a :=
  Codec.Tolerant.read?_of_rewords h

end

end Lobby.Json
