/-
Lobby/Proofs/Json/Codec.lean

Values come back from what is written for them.

A codec is **lawful** if it writes every value plainly, no deeper than a bound, and reads every
value back from what it wrote.  By `decode_encode` such values come back from their texts.

Lawfulness goes up through the format: from numbers and texts to optional values, lists and rows,
and to records, whose slots are exactly the values that were written (`slots?_record`), as no two
fields have one name.
-/
import Lobby.KeyedList
import Lobby.Proofs.Json.Text

namespace Lobby.Json

/-- A codec whose values all come back: they are written plainly, within a bound on how deep they
nest, and are read as what they were. -/
class Codec.Lawful (α : Type) [Codec α] where
  /-- How deep what is written nests at most. -/
  nesting : Nat
  plain (a : α) : (write a).Plain nesting
  read?_write (a : α) : read? (write a) = some a

export Codec.Lawful (read?_write)

attribute [simp] read?_write

section

variable {α : Type} [Codec α] [Codec.Lawful α]

/-- **The values of a lawful codec come back from their texts.** -/
theorem decode_encode_of_lawful (a : α) (h : Codec.Lawful.nesting α ≤ Token.maxNesting) :
    decode α (encode a) = some a := by
  rw [decode_encode (Codec.Lawful.plain a) h, read?_write]

end

/-! ### Nesting -/

namespace Tree

theorem Plain.mono {n m : Nat} {t : Tree} (h : t.Plain n) (hnm : n ≤ m) : t.Plain m := by
  induction h generalizing m with
  | null => exact .null
  | bool b => exact .bool b
  | int hi => exact .int hi
  | text s => exact .text s
  | @array n items _ ih =>
    obtain ⟨k, rfl⟩ : ∃ k, m = k + 1 := ⟨m - 1, by omega⟩
    exact .array fun t ht => ih t ht (by omega)
  | @object n members hnames _ ih =>
    obtain ⟨k, rfl⟩ : ∃ k, m = k + 1 := ⟨m - 1, by omega⟩
    exact .object hnames fun m hm => ih m hm (by omega)

end Tree

/-- What a lawful codec writes is plain within every bound that is not below its own. -/
theorem plain_write {α : Type} [Codec α] [Codec.Lawful α] (a : α) {n : Nat}
    (h : Codec.Lawful.nesting α ≤ n) : (write a).Plain n :=
  (Codec.Lawful.plain a).mono h

/-! ### Plain values -/

namespace Tree

@[simp] theorem text?_ofText (s : String) : (ofText s).text? = some s := Literal.text?_ofText s

/-- A natural number below the bound is read as itself. -/
theorem natBelow?_ofInt {bound n : Nat} (h : n < bound) : natBelow? bound (ofInt n) = some n := by
  have hbound : (0 : Int) ≤ n ∧ (n : Int) < bound := ⟨by omega, by omega⟩
  show (Number.ofInt n).int?.bind _ = some n
  rw [Number.int?_ofInt, Option.bind_some, if_pos hbound, Int.toNat_natCast]

theorem plain_ofInt_natCast {bound n : Nat} (h : n < bound) (hb : bound ≤ UInt64.size) {d : Nat} :
    (ofInt n).Plain d :=
  .int (by omega)

end Tree

instance : Codec.Lawful String where
  nesting := 0
  plain s := .text s
  read?_write := Tree.text?_ofText

instance : Codec.Lawful UInt8 where
  nesting := 0
  plain n := Tree.plain_ofInt_natCast n.toNat_lt (by decide)
  read?_write n := by
    show (Tree.natBelow? UInt8.size (.ofInt n.toNat)).map UInt8.ofNat = some n
    rw [Tree.natBelow?_ofInt n.toNat_lt, Option.map_some, UInt8.ofNat_toNat]

instance : Codec.Lawful UInt16 where
  nesting := 0
  plain n := Tree.plain_ofInt_natCast n.toNat_lt (by decide)
  read?_write n := by
    show (Tree.natBelow? UInt16.size (.ofInt n.toNat)).map UInt16.ofNat = some n
    rw [Tree.natBelow?_ofInt n.toNat_lt, Option.map_some, UInt16.ofNat_toNat]

instance : Codec.Lawful UInt32 where
  nesting := 0
  plain n := Tree.plain_ofInt_natCast n.toNat_lt (by decide)
  read?_write n := by
    show (Tree.natBelow? UInt32.size (.ofInt n.toNat)).map UInt32.ofNat = some n
    rw [Tree.natBelow?_ofInt n.toNat_lt, Option.map_some, UInt32.ofNat_toNat]

instance : Codec.Lawful UInt64 where
  nesting := 0
  plain n := Tree.plain_ofInt_natCast n.toNat_lt (Nat.le_refl _)
  read?_write n := by
    show (Tree.natBelow? UInt64.size (.ofInt n.toNat)).map UInt64.ofNat = some n
    rw [Tree.natBelow?_ofInt n.toNat_lt, Option.map_some, UInt64.ofNat_toNat]

instance : Codec.Lawful Int32 where
  nesting := 0
  plain i := by
    have hlower : -2 ^ 31 ≤ i.toInt := i.le_toInt
    have hupper : i.toInt < 2 ^ 31 := i.toInt_lt
    have hsize : UInt64.size = 2 ^ 64 := rfl
    exact .int (by omega)
  read?_write i := by
    have hlower : Int32.minValue.toInt ≤ i.toInt := i.minValue_le_toInt
    have hupper : i.toInt ≤ Int32.maxValue.toInt := i.toInt_le
    show (Number.ofInt i.toInt).int?.bind _ = some i
    rw [Number.int?_ofInt, Option.bind_some, if_pos ⟨hlower, hupper⟩, Int32.ofInt_toInt]

/-! ### Optional values, lists and rows -/

section

variable {α : Type} [Codec α] [Codec.Lawful α]

/-- What is absent is written as `null`, so nothing that is present may be. -/
@[reducible] def Codec.Lawful.option (h : ∀ a : α, write a ≠ .null) : Codec.Lawful (Option α) where
  nesting := Codec.Lawful.nesting α
  plain
    | none => .null
    | some a => Codec.Lawful.plain a
  read?_write
    | none => rfl
    | some a => by
      show (match write a with | .null => some none | t => (read? t).map some) = some (some a)
      -- a value that is written as `null` would be read as absent
      split
      · rename_i hnull
        exact absurd hnull (h a)
      · rw [read?_write, Option.map_some]

theorem plain_array_write (as : List α) :
    (Tree.array (as.map write)).Plain (Codec.Lawful.nesting α + 1) :=
  .array (List.forall_mem_map.mpr fun a _ => Codec.Lawful.plain a)

/-- Items that are read one by one come back. -/
theorem mapM_read?_write (as : List α) :
    (as.map write).mapM (read? : Tree → Option α) = some as := by
  induction as with
  | nil => rfl
  | cons a as ih =>
    rw [List.map_cons, List.mapM_cons, read?_write, ih]
    rfl

instance : Codec.Lawful (List α) where
  nesting := Codec.Lawful.nesting α + 1
  plain := plain_array_write
  read?_write := mapM_read?_write

instance {n : Nat} : Codec.Lawful (Vector α n) where
  nesting := Codec.Lawful.nesting α + 1
  plain v := plain_array_write v.toList
  read?_write v := by
    show ((v.toList.map write).mapM (read? : Tree → Option α)).bind _ = some v
    rw [mapM_read?_write, Option.bind_some, dif_pos v.length_toList]
    rfl

@[simp] theorem required_write (a : α) : required (some (write a)) = some a := read?_write a

@[simp] theorem defaulted_write (a default : α) : defaulted default (some (write a)) = some a :=
  read?_write a

end

@[simp] theorem optional_write {α : Type} [Codec α] [Codec.Lawful (Option α)] (a : Option α) :
    optional (some (write a)) = some a :=
  read?_write a

/-! ### Records -/

/-- The names of members come back. -/
theorem named?_zip (fields : List String) (values : List Tree) :
    named? ((fields.map Literal.ofText).zip values) = some (fields.zip values) := by
  induction fields generalizing values with
  | nil => rfl
  | cons f fs ih =>
    cases values with
    | nil => rfl
    | cons v vs =>
      have hrest : ((fs.map Literal.ofText).zip vs).mapM (fun m => m.1.text?.map (·, m.2))
          = some (fs.zip vs) := ih vs
      rw [List.map_cons, List.zip_cons_cons, named?, List.mapM_cons, hrest, Literal.text?_ofText]
      rfl

/-- An object holds under a name what it holds there once. -/
theorem slot?_of_mem {members : List (String × Tree)} {name : String} {t : Tree}
    (hn : (members.map Prod.fst).Nodup) (h : (name, t) ∈ members) :
    slot? members name = some (some t) := by
  rw [slot?, KeyedList.filter_key_eq_find hn, (KeyedList.find_eq_some_iff hn).mpr h]
  rfl

theorem mapM_slot? {members : List (String × Tree)} {fields : List String} {values : List Tree}
    (hlength : values.length = fields.length)
    (h : ∀ m ∈ fields.zip values, slot? members m.1 = some (some m.2)) :
    fields.mapM (slot? members) = some (values.map some) := by
  induction fields generalizing values with
  | nil =>
    rw [List.length_eq_zero_iff.mp hlength]
    rfl
  | cons f fs ih =>
    obtain ⟨v, vs, rfl⟩ := List.exists_cons_of_length_eq_add_one hlength
    rw [List.zip_cons_cons, List.forall_mem_cons] at h
    rw [List.mapM_cons, h.1, ih (Nat.succ.inj hlength) h.2]
    rfl

/-- **The slots of a record are the values that were written.** -/
theorem slots?_record {shape : Shape} {values : List Tree} (hn : shape.fields.Nodup)
    (hlength : values.length = shape.fields.length) :
    (Tree.record shape values).slots? shape = some (values.map some) := by
  have hnames : ((shape.fields.zip values).map Prod.fst).Nodup := by
    rw [List.map_fst_zip (Nat.le_of_eq hlength.symm)]
    exact hn
  -- a shape that refuses other members refuses none of its own
  have hknown : (shape.fields.zip values).any (fun m => !shape.fields.contains m.1) = false := by
    refine List.any_eq_false.mpr fun m hm => ?_
    simpa using (List.of_mem_zip hm).1
  rw [Tree.record, Tree.slots?, named?_zip]
  dsimp only
  rw [hknown, Bool.and_false, if_neg Bool.false_ne_true]
  exact mapM_slot? hlength fun m hm => slot?_of_mem hnames hm

/-- A record nests one deeper than its values. -/
theorem plain_record (shape : Shape) {values : List Tree} {n : Nat} (h : ∀ t ∈ values, t.Plain n) :
    (Tree.record shape values).Plain (n + 1) := by
  refine .object (fun m hm => ?_) fun m hm => h _ (List.of_mem_zip hm).2
  obtain ⟨s, -, hs⟩ := List.mem_map.mp (List.of_mem_zip hm).1
  exact ⟨s, hs.symm⟩

/-! ### Values with a tag -/

/-- A value with a tag is a record whose first field is the tag. -/
theorem tagged_eq_record (tag : String) (fields : List String) (values : List Tree) :
    Tree.tagged tag fields values
      = .record ⟨"type" :: fields, false, false⟩ (.ofText tag :: values) := rfl

theorem plain_tagged (tag : String) (fields : List String) {values : List Tree} {n : Nat}
    (h : ∀ t ∈ values, t.Plain n) : (Tree.tagged tag fields values).Plain (n + 1) := by
  rw [tagged_eq_record]
  exact plain_record _ (List.forall_mem_cons.mpr ⟨.text tag, h⟩)

end Lobby.Json
