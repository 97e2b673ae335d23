/-
Lobby/Proofs/RoundTrip.lean

Everything that is written as JSON comes back.

From the innermost types to the outermost, each codec is lawful because those of its fields are.
An account is the exception: its number may have any size, and it comes back if the number has 64
bits.  The members of a table of maps may be written in any order; reading puts them in one by one
and so keeps the order that it finds (`readMaps?_written`), and every order holds the same
(`get?_of_perm`).

Where the first field of a record is a number or a record itself, its reader is unfolded while the
value of that field is still open (`read?_of_slots`, `read?_record`), for on what is really written
there it would be run instead.
-/
import Lobby.Account
import Lobby.Config
import Lobby.Message
import Lobby.Proofs.Json.Tagged
import Lobby.Proofs.KeyedList
import Lobby.Request
import Mathlib.Data.List.Induction

namespace Lobby

open Json (Codec Literal Number Shape Tree decode decode_encode decode_encode_of_lawful defaulted
  defaulted_write encode plain_record plain_tagged plain_write read? read?_write readTagged
  readTagged_tagged required required_write slots?_record write)

/-! ### Times -/

namespace Seconds

variable {limit : Nat}

theorem plain_seconds (shape : Shape) (hlimit : limit ≤ UInt64.size) (s : Seconds limit) :
    (s.write shape).Plain 1 :=
  plain_record shape (by
    have hwhole : (Tree.ofInt s.whole).Plain 0 := Tree.plain_ofInt_natCast s.whole_lt hlimit
    have hnanos : (Tree.ofInt s.nanos).Plain 0 := Tree.plain_ofInt_natCast s.nanos_lt (by decide)
    simp [hwhole, hnanos])

/-- What is read from two numbers in the slots of a time. -/
theorem read?_of_slots {shape : Shape} {t whole nanos : Tree} {s : Seconds limit}
    (hslots : t.slots? shape = some [some whole, some nanos])
    (hwhole : whole.natBelow? UInt64.size = some s.whole)
    (hnanos : nanos.natBelow? UInt32.size = some s.nanos) : Seconds.read? shape t = some s := by
  rw [Seconds.read?, hslots]
  simp [hwhole, hnanos, carry?_eq_some]

/-- Times come back under every shape of two fields. -/
theorem read?_seconds {shape : Shape} (hn : shape.fields.Nodup) (hlength : 2 = shape.fields.length)
    (hlimit : limit ≤ UInt64.size) (s : Seconds limit) :
    Seconds.read? shape (s.write shape) = some s :=
  read?_of_slots (slots?_record hn hlength)
    (Tree.natBelow?_ofInt (Nat.lt_of_lt_of_le s.whole_lt hlimit))
    (Tree.natBelow?_ofInt (Nat.lt_trans s.nanos_lt (by decide)))

end Seconds

instance : Codec.Lawful Span where
  nesting := 1
  plain := Seconds.plain_seconds Span.shape (Nat.le_refl _)
  read?_write := Seconds.read?_seconds (by decide) rfl (Nat.le_refl _)

instance : Codec.Lawful Timestamp where
  nesting := 1
  plain := Seconds.plain_seconds Timestamp.shape (by decide)
  read?_write := Seconds.read?_seconds (by decide) rfl (by decide)

/-! ### Outcomes and access levels -/

theorem Status.ofTree?_write (keptWhole : Bool) (s : Status) :
    Status.ofTree? keptWhole (write s) = some s := by
  show ((Tree.ofText s.name).text?).bind Status.ofName? = some s
  rw [Tree.text?_ofText, Option.bind_some, Status.ofName?_name]

instance : Codec.Lawful Status where
  nesting := 0
  plain s := .text s.name
  read?_write := Status.ofTree?_write false

instance : Codec.Lawful AccessLevel where
  nesting := 0
  plain l := .text l.name
  read?_write l := by
    show ((Tree.ofText l.name).text?).bind AccessLevel.ofName? = some l
    rw [Tree.text?_ofText, Option.bind_some, AccessLevel.ofName?_name]

/-! ### Places -/

instance : Codec.Lawful MapId where
  nesting := 0
  plain m := plain_write m.val (Nat.le_refl 0)
  read?_write m := by
    show (read? (write m.val)).map MapId.mk = some m
    rw [read?_write, Option.map_some]

instance : Codec.Lawful Position where
  nesting := 1
  plain p := plain_record _ (by simp [plain_write, Codec.Lawful.nesting])
  read?_write p := by
    show ((Tree.record Position.shape _).slots? _).bind _ = some p
    rw [slots?_record (by decide) rfl]
    simp

instance : Codec.Lawful ServerAddress where
  nesting := 1
  plain a := plain_record _ (by simp [plain_write, Codec.Lawful.nesting])
  read?_write a := by
    show ((Tree.record ServerAddress.shape _).slots? _).bind _ = some a
    rw [slots?_record (by decide) rfl]
    simp

/-! ### Characters -/

instance : Codec.Lawful Character where
  nesting := 2
  plain c := plain_record _ (by simp [plain_write, Codec.Lawful.nesting])
  read?_write c := by
    show ((Tree.record Character.shape _).slots? _).bind _ = some c
    rw [slots?_record (by decide) rfl]
    simp

instance : Codec.Lawful CharacterSummary where
  nesting := 2
  plain c := plain_record _ (by simp [plain_write, Codec.Lawful.nesting])
  read?_write c := by
    show ((Tree.record CharacterSummary.shape _).slots? _).bind _ = some c
    rw [slots?_record (by decide) rfl]
    simp

/-! ### What may be absent -/

instance : Codec.Lawful (Option String) := .option nofun

instance : Codec.Lawful (Option Span) := .option nofun

instance : Codec.Lawful (Option Timestamp) := .option nofun

instance : Codec.Lawful (Option ServerAddress) := .option nofun

/-! ### Accounts -/

theorem AccountId.required_id {a : AccountId} (h : a.val < UInt64.size) :
    required (some (write a)) = some a := by
  rw [required, Option.bind_some]
  show (Tree.natBelow? UInt64.size (.ofInt a.val)).map AccountId.mk = some a
  rw [Tree.natBelow?_ofInt h, Option.map_some]

namespace Account

theorem plain_account {a : Account} (h : a.id.val < UInt64.size) : (write a).Plain 4 :=
  plain_record _ (by
    have hid : (write a.id).Plain 3 := Tree.plain_ofInt_natCast h (Nat.le_refl _)
    simp [plain_write, Codec.Lawful.nesting, hid])

/-- What is read from the values of an account, whatever is written for its number. -/
theorem read?_record {a : Account} {id : Tree} (hid : required (some id) = some a.id) :
    read? (Tree.record shape
      [id, write a.name, write a.passwordDigest, write a.emailDigest, write a.level,
        write a.characters, write a.registeredAt, write a.lastLogin]) = some a := by
  show ((Tree.record Account.shape _).slots? _).bind _ = some a
  rw [slots?_record (by decide) rfl]
  simp [hid]

/-- An account whose number has 64 bits comes back from its text. -/
theorem decode_account {a : Account} (h : a.id.val < UInt64.size) :
    decode Account (encode a) = some a := by
  rw [decode_encode (plain_account h) (by decide)]
  exact read?_record (AccountId.required_id h)

end Account

/-! ### Settings -/

/-- What is read from the values of account settings, whatever is written for the version. -/
theorem AccountConfig.read?_record {c : AccountConfig} {version : Tree}
    (hversion : defaulted standard.minClientVersion (some version) = some c.minClientVersion) :
    read? (Tree.record shape
      [version, write c.maxClients, write c.defaultMap, write c.startPosition, write c.chatServer])
      = some c := by
  show ((Tree.record AccountConfig.shape _).slots? _).bind _ = some c
  rw [slots?_record (by decide) rfl]
  simp [hversion]

instance : Codec.Lawful AccountConfig where
  nesting := 2
  plain c := plain_record _ (by simp [plain_write, Codec.Lawful.nesting])
  read?_write c := AccountConfig.read?_record (defaulted_write c.minClientVersion _)

/-- What is read from the value of rendezvous settings, whatever is written for the timeout. -/
theorem RendezvousConfig.read?_record {c : RendezvousConfig} {timeout : Tree}
    (htimeout : required (some timeout) = some c.timeout) :
    read? (Tree.record shape [timeout]) = some c := by
  show ((Tree.record RendezvousConfig.shape _).slots? _).bind _ = some c
  rw [slots?_record (by decide) rfl]
  simp [htimeout]

instance : Codec.Lawful RendezvousConfig where
  nesting := 2
  plain c := plain_record _ (by simp [plain_write, Codec.Lawful.nesting])
  read?_write c := RendezvousConfig.read?_record (required_write c.timeout)

instance : Codec.Lawful ServerConfig where
  nesting := 3
  plain c := plain_record _ (by simp [plain_write, Codec.Lawful.nesting])
  read?_write c := by
    show ((Tree.record ServerConfig.shape _).slots? _).bind _ = some c
    rw [slots?_record (by decide) rfl]
    simp

/-! ### Requests -/

namespace Request

/-- No two fields of a request have one name, and none is called like the tag. -/
theorem nodup_fields (kind : String) : ("type" :: fields kind).Nodup := by
  unfold fields
  split <;> decide

theorem length_values (r : Request) : r.values.length = (fields r.kind).length := by
  cases r <;> rfl

/-- The slots that a request fills give the request. -/
theorem ofSlots?_values (r : Request) : ofSlots? r.kind (r.values.map some) = some r := by
  cases r <;> simp [ofSlots?, values, kind]

end Request

instance : Codec.Lawful Request where
  nesting := 2
  plain r := plain_tagged _ _ (by
    cases r <;> simp [Request.values, plain_write, Codec.Lawful.nesting])
  read?_write r := by
    show readTagged Request.fields Request.ofSlots? _ = some r
    exact (readTagged_tagged _ (Request.nodup_fields _) r.length_values).trans r.ofSlots?_values

/-! ### Messages -/

instance : Codec.Lawful Ticket where
  nesting := 2
  plain t := plain_record _ (by simp [plain_write, Codec.Lawful.nesting])
  read?_write t := by
    show ((Tree.record Ticket.shape _).slots? _).bind _ = some t
    rw [slots?_record (by decide) rfl]
    simp

instance : Codec.Lawful (Option Ticket) := .option nofun

namespace Message

theorem nodup_fields (kind : String) : ("type" :: fields kind).Nodup := by
  unfold fields
  split <;> decide

theorem length_values (m : Message) : m.values.length = (fields m.kind).length := by
  cases m <;> rfl

@[simp] theorem status?_write (s : Status) : status? (some (write s)) = some s :=
  Status.ofTree?_write true s

/-- The slots that a message fills give the message. -/
theorem ofSlots?_values (m : Message) : ofSlots? m.kind (m.values.map some) = some m := by
  cases m <;> simp [ofSlots?, values, kind]

end Message

instance : Codec.Lawful Message where
  nesting := 3
  plain m := plain_tagged _ _ (by
    cases m <;> simp [Message.values, plain_write, Codec.Lawful.nesting])
  read?_write m := by
    show readTagged Message.fields Message.ofSlots? _ = some m
    exact (readTagged_tagged _ (Message.nodup_fields _) m.length_values).trans m.ofSlots?_values

/-! ### Tables of maps -/

namespace MapTable

/-- A map and its server as a member. -/
def written (e : MapId × ServerAddress) : Literal × Tree :=
  (Text.Decimal.digits e.1.val.toNat, write e.2)

/-- The number of a map is its name, which takes no escapes. -/
theorem mapOfName?_digits (m : MapId) : mapOfName? (Text.Decimal.digits m.val.toNat) = some m := by
  have hrender : (Number.ofInt m.val.toNat).render = Text.Decimal.digits m.val.toNat := by
    rw [Number.render_ofInt, if_neg (by omega)]
    rfl
  have hscan := (Number.spelled_ofInt m.val.toNat).scan Json.ends_nil
  rw [List.append_nil, hrender] at hscan
  have hnumber : (Tree.number (.ofInt m.val.toNat)).natBelow? UInt16.size = some m.val.toNat :=
    Tree.natBelow?_ofInt m.val.toNat_lt
  simp only [mapOfName?, hscan, hnumber]
  rw [Option.map_some, UInt16.ofNat_toNat]

theorem readMaps?_concat (members : List (Literal × Tree)) (e : MapId × ServerAddress) :
    readMaps? (members ++ [written e])
      = (readMaps? members).map fun maps => maps.insert e.1 e.2 := by
  have hname : mapOfName? (written e).1 = some e.1 := mapOfName?_digits e.1
  have hserver : read? (written e).2 = some e.2 := read?_write e.2
  rw [readMaps?, readMaps?, List.foldlM_append]
  -- whether the members before it spell maps or not
  cases List.foldlM (m := Option) _ _ members with
  | none => rfl
  | some maps => simp [hname, hserver]

/-- Reading puts the maps in one by one, and so finds them in the order in which they stand. -/
theorem readMaps?_written (m : KeyedList MapId ServerAddress) :
    readMaps? (m.entries.map written) = some m := by
  obtain ⟨es, hn⟩ := m
  -- by the last map, as a map that is read comes behind those that were read before it
  induction es using List.reverseRecOn with
  | nil => rfl
  | append_singleton es e ih =>
    rw [List.map_append, List.nodup_append] at hn
    have hnew : e.1 ∉ es.map Prod.fst := fun hm => hn.2.2 _ hm _ (List.mem_singleton_self _) rfl
    rw [List.map_append, List.map_singleton, readMaps?_concat, ih hn.1, Option.map_some]
    exact congrArg some (KeyedList.ext_entries (KeyedList.put_of_not_mem hnew))

theorem plain_maps (t : MapTable) : (Tree.object (t.maps.entries.map written)).Plain 2 := by
  refine .object (List.forall_mem_map.mpr fun e _ => ?_) (List.forall_mem_map.mpr fun e _ => ?_)
  · exact ⟨Text.Decimal.text e.1.val.toNat, (Literal.ofText_decimal _).symm⟩
  · exact plain_write e.2 (Nat.le_refl _)

end MapTable

instance : Codec.Lawful MapTable where
  nesting := 3
  plain t := plain_record _ (List.forall_mem_cons.mpr
    ⟨t.plain_maps, by simp [plain_write, Codec.Lawful.nesting]⟩)
  read?_write t := by
    show ((Tree.record MapTable.shape [.object (t.maps.entries.map MapTable.written), _]).slots?
      _).bind _ = some t
    rw [slots?_record (by decide) rfl]
    simp [MapTable.readMaps?_written]

/-! ### Everything -/

/-- **Decoding undoes encoding.**  Requests, messages, tickets, characters and what is shown of
them, and settings come back whatever they hold; an account does if its number has 64 bits; and a
table of maps, written in any order, comes back as a table that holds the same. -/
theorem decoding_undoes_encoding :
    (∀ r : Request, decode Request (encode r) = some r) ∧
    (∀ m : Message, decode Message (encode m) = some m) ∧
    (∀ t : Ticket, decode Ticket (encode t) = some t) ∧
    (∀ s : CharacterSummary, decode CharacterSummary (encode s) = some s) ∧
    (∀ c : Character, decode Character (encode c) = some c) ∧
    (∀ a : Account, a.id.val < UInt64.size → decode Account (encode a) = some a) ∧
    (∀ c : AccountConfig, decode AccountConfig (encode c) = some c) ∧
    (∀ c : ServerConfig, decode ServerConfig (encode c) = some c) ∧
    (∀ c : RendezvousConfig, decode RendezvousConfig (encode c) = some c) ∧
    (∀ t t' : MapTable, t'.maps.entries.Perm t.maps.entries → t'.fallback = t.fallback →
      ∃ u, decode MapTable (encode t') = some u ∧
        (∀ m, u.maps.get? m = t.maps.get? m) ∧ u.fallback = t.fallback) := by
  refine ⟨fun r => decode_encode_of_lawful r (by decide),
    fun m => decode_encode_of_lawful m (by decide), fun t => decode_encode_of_lawful t (by decide),
    fun s => decode_encode_of_lawful s (by decide), fun c => decode_encode_of_lawful c (by decide),
    fun a ha => Account.decode_account ha, fun c => decode_encode_of_lawful c (by decide),
    fun c => decode_encode_of_lawful c (by decide), fun c => decode_encode_of_lawful c (by decide),
    fun t t' hperm hfallback => ?_⟩
  exact ⟨t', decode_encode_of_lawful t' (by decide), KeyedList.get?_of_perm hperm, hfallback⟩

/-- An account with the largest number there is, and a table that is written in another order. -/
theorem largest_number_and_reordered_table_come_back :
    (decode Account (encode { Account.create "\"\\\n" "" "" ⟨0, 0, by decide, by decide⟩ with
        id := ⟨UInt64.size - 1⟩ })
      = some { Account.create "\"\\\n" "" "" ⟨0, 0, by decide, by decide⟩ with
        id := ⟨UInt64.size - 1⟩ }) ∧
    ∃ u, decode MapTable
        (encode ((MapTable.empty.insert ⟨2⟩ ⟨"two", 9602⟩).insert ⟨1⟩ ⟨"one", 9601⟩)) = some u ∧
      (∀ m, u.maps.get? m
        = ((MapTable.empty.insert ⟨1⟩ ⟨"one", 9601⟩).insert ⟨2⟩ ⟨"two", 9602⟩).maps.get? m) ∧
      u.fallback = none := by
  obtain ⟨-, -, -, -, -, haccount, -, -, -, htable⟩ := decoding_undoes_encoding
  exact ⟨haccount _ (by decide), htable _ _ (by decide +kernel) rfl⟩

end Lobby
