/-
Lobby/Proofs/Frames.lean

How a frame is laid out does not change what it says.

A frame is a text of a request or of a message.  What rewords the request that was written is read as that
request, from the innermost types to the outermost, because the codecs of its fields are tolerant; and any
text of it will do.  A value whose tag or one of whose fields is there twice, or that lacks one that it
has to have, is no request whatever else it holds.
-/
import Lobby.Message
import Lobby.Proofs.Json.Tagged
import Lobby.Proofs.RoundTrip
import Lobby.Request

namespace Lobby

open Json (Codec Literal Token Tree decode optional_of_rewords plain_record plain_tagged required
  required_of_rewords write)

variable {n : Nat} {t : Tree}

/-! ### What requests and messages hold -/

/-- A text is a name. -/
theorem name?_of_text? (keptWhole : Bool) {s : String} (h : t.text? = some s) :
    t.name? keptWhole = some s := by
  cases t with
  | string l => exact h
  | _ => cases h

/-- An outcome is read in all words, whether the text is kept whole or not. -/
theorem Status.ofTree?_of_rewords (keptWhole : Bool) {s : Status} (h : t.Rewords n (write s)) :
    Status.ofTree? keptWhole t = some s := by
  rw [Status.ofTree?, name?_of_text? keptWhole (Tree.Rewords.text? h), Option.bind_some,
    Status.ofName?_name]

instance : Codec.Tolerant ServerAddress where
  read?_of_rewords {n t a} h := by
    obtain ⟨d, items, hslots, hitems⟩ := Tree.Rewords.slots? h (by decide) rfl rfl
    obtain _ | ⟨hhost, _ | ⟨hport, _ | _⟩⟩ := hitems
    show ((t.slots? ServerAddress.shape).bind _) = some a
    rw [hslots]
    simp [required_of_rewords hhost, required_of_rewords hport]

instance : Codec.Tolerant Ticket where
  read?_of_rewords {n t a} h := by
    obtain ⟨d, items, hslots, hitems⟩ := Tree.Rewords.slots? h (by decide) rfl rfl
    obtain _ | ⟨htoken, _ | ⟨hgame, _ | ⟨hchat, _ | _⟩⟩⟩ := hitems
    show ((t.slots? Ticket.shape).bind _) = some a
    rw [hslots]
    simp [required_of_rewords htoken, required_of_rewords hgame, required_of_rewords hchat]

instance : Codec.Tolerant CharacterSummary where
  read?_of_rewords {n t a} h := by
    obtain ⟨d, items, hslots, hitems⟩ := Tree.Rewords.slots? h (by decide) rfl rfl
    obtain _ | ⟨hslot, _ | ⟨hname, _ | ⟨hgender, _ | ⟨hstyle, _ | ⟨hcolor, _ | ⟨hlevel, _ |
      ⟨hexperience, _ | ⟨hpoints, _ | ⟨hmoney, _ | ⟨hattributes, _ | _⟩⟩⟩⟩⟩⟩⟩⟩⟩⟩ := hitems
    show ((t.slots? CharacterSummary.shape).bind _) = some a
    rw [hslots]
    simp [required_of_rewords hslot, required_of_rewords hname, required_of_rewords hgender,
      required_of_rewords hstyle, required_of_rewords hcolor, required_of_rewords hlevel,
      required_of_rewords hexperience, required_of_rewords hpoints, required_of_rewords hmoney,
      required_of_rewords hattributes]

instance : Codec.Tolerant (Option String) := .option nofun

instance : Codec.Tolerant (Option Ticket) := .option nofun

/-! ### Requests -/

/-- A field that has to be there is not read from an empty slot. -/
theorem required_none {α : Type} [Codec α] : (required none : Option α) = none := rfl

namespace Request

/-- The slots that a request fills in other words give the request. -/
theorem ofSlots?_of_rewords {items : List Tree} {r : Request}
    (h : List.Forall₂ (Tree.Rewords n) items r.values) :
    ofSlots? r.kind (items.map some) = some r := by
  cases r with
  | login v u p =>
    obtain _ | ⟨hv, _ | ⟨hu, _ | ⟨hp, _ | _⟩⟩⟩ := h
    simp [ofSlots?, kind, required_of_rewords hv, required_of_rewords hu, required_of_rewords hp]
  | logout =>
    obtain _ | _ := h
    rfl
  | reconnect k =>
    obtain _ | ⟨hk, _ | _⟩ := h
    simp [ofSlots?, kind, required_of_rewords hk]
  | register v u p e =>
    obtain _ | ⟨hv, _ | ⟨hu, _ | ⟨hp, _ | ⟨he, _ | _⟩⟩⟩⟩ := h
    simp [ofSlots?, kind, required_of_rewords hv, required_of_rewords hu, required_of_rewords hp,
      required_of_rewords he]
  | unregister u p =>
    obtain _ | ⟨hu, _ | ⟨hp, _ | _⟩⟩ := h
    simp [ofSlots?, kind, required_of_rewords hu, required_of_rewords hp]
  | emailChange e =>
    obtain _ | ⟨he, _ | _⟩ := h
    simp [ofSlots?, kind, required_of_rewords he]
  | emailGet =>
    obtain _ | _ := h
    rfl
  | passwordChange o p =>
    obtain _ | ⟨ho, _ | ⟨hp, _ | _⟩⟩ := h
    simp [ofSlots?, kind, required_of_rewords ho, required_of_rewords hp]
  | characterCreate m s c g a =>
    obtain _ | ⟨hm, _ | ⟨hs, _ | ⟨hc, _ | ⟨hg, _ | ⟨ha, _ | _⟩⟩⟩⟩⟩ := h
    simp [ofSlots?, kind, required_of_rewords hm, required_of_rewords hs, required_of_rewords hc,
      required_of_rewords hg, required_of_rewords ha]
  | characterSelect s =>
    obtain _ | ⟨hs, _ | _⟩ := h
    simp [ofSlots?, kind, required_of_rewords hs]
  | characterDelete s =>
    obtain _ | ⟨hs, _ | _⟩ := h
    simp [ofSlots?, kind, required_of_rewords hs]

/-- A request has no field that may be missing. -/
theorem ofSlots?_eq_none {k : String} {slots : List (Option Tree)} (h : none ∈ slots) :
    ofSlots? k slots = none := by
  unfold ofSlots?
  split
  -- the kinds without fields, and what is no kind, come first
  case h_2 | h_7 => cases h
  case h_12 => rfl
  all_goals
    simp only [List.mem_cons, List.not_mem_nil, or_false] at h
    rcases h with rfl | rfl | rfl | rfl | rfl <;> simp [required_none]

end Request

/-! ### Messages -/

namespace Message

/-- The fields that a message of a kind may lack: what comes with success only. -/
def mayLack : String → List String
  | "EmailGetResponse" => ["email"]
  | "CharacterSelectResponse" => ["ticket"]
  | _ => []

theorem status?_of_rewords {s : Status} (h : t.Rewords n (write s)) : status? (some t) = some s :=
  Status.ofTree?_of_rewords true h

/-- The slots that a message fills in other words give the message. -/
theorem ofSlots?_of_rewords {items : List Tree} {m : Message}
    (h : List.Forall₂ (Tree.Rewords n) items m.values) :
    ofSlots? m.kind (items.map some) = some m := by
  cases m with
  | emailGetResponse s e =>
    obtain _ | ⟨hs, _ | ⟨he, _ | _⟩⟩ := h
    simp [ofSlots?, kind, status?_of_rewords hs, optional_of_rewords he]
  | characterSelectResponse s k =>
    obtain _ | ⟨hs, _ | ⟨hk, _ | _⟩⟩ := h
    simp [ofSlots?, kind, status?_of_rewords hs, optional_of_rewords hk]
  | characterInfo c =>
    obtain _ | ⟨hc, _ | _⟩ := h
    simp [ofSlots?, kind, required_of_rewords hc]
  | connectionTimedOut =>
    obtain _ | _ := h
    rfl
  | invalid =>
    obtain _ | _ := h
    rfl
  -- all others carry an outcome and nothing else
  | _ s =>
    obtain _ | ⟨hs, _ | _⟩ := h
    simp [ofSlots?, kind, status?_of_rewords hs]

/-- Every other field of a message has to be there. -/
theorem mem_mayLack_of_ofSlots? {k f : String} {slots : List (Option Tree)} {m : Message}
    (h : ofSlots? k slots = some m) (hf : (f, none) ∈ (fields k).zip slots) : f ∈ mayLack k := by
  unfold ofSlots? at h
  split at h
  -- the two kinds that may lack a field, those without fields, and what is no kind come first
  case h_7 | h_10 =>
    simp only [fields, List.zip_cons_cons, List.zip_nil_left, List.mem_cons, List.not_mem_nil,
      or_false, Prod.mk.injEq] at hf
    rcases hf with ⟨rfl, rfl⟩ | ⟨rfl, rfl⟩
    · cases h
    · exact List.mem_singleton_self _
  case h_13 | h_14 => cases hf
  case h_15 => cases h
  all_goals
    simp only [fields, List.zip_cons_cons, List.zip_nil_left, List.mem_singleton,
      Prod.mk.injEq] at hf
    obtain ⟨rfl, rfl⟩ := hf
    cases h

end Message

/-! ### Frames -/

/-- Every text of what rewords a request is read as the request. -/
theorem Request.decode_of_rewords {r : Request} {text : List UInt8}
    (h : t.Rewords Token.maxNesting (write r)) (htext : t.Layout text) :
    decode Request text = some r :=
  Json.decode_of_rewords ofSlots? (fun _ => rfl) (Codec.Lawful.plain r) (nodup_fields _)
    r.length_values ofSlots?_of_rewords h htext

/-- Every text of what rewords a message is read as the message. -/
theorem Message.decode_of_rewords {m : Message} {text : List UInt8}
    (h : t.Rewords Token.maxNesting (write m)) (htext : t.Layout text) :
    decode Message text = some m :=
  Json.decode_of_rewords ofSlots? (fun _ => rfl) (Codec.Lawful.plain m) (nodup_fields _)
    m.length_values ofSlots?_of_rewords h htext

/-- What misfits is no request. -/
theorem Request.decode_of_misfits {text : List UInt8} (htext : t.Layout text)
    (h : t.Misfits fields fun _ => []) : decode Request text = none := by
  refine Json.decode_of_misfits ofSlots? (fun _ => rfl) nodup_fields (fun kind slots r f hr hf => ?_)
    htext h
  rw [ofSlots?_eq_none (List.of_mem_zip hf).2] at hr
  cases hr

/-- What misfits is no message. -/
theorem Message.decode_of_misfits {text : List UInt8} (htext : t.Layout text)
    (h : t.Misfits fields mayLack) : decode Message text = none :=
  Json.decode_of_misfits ofSlots? (fun _ => rfl) nodup_fields
    (fun _ _ _ _ => mem_mayLack_of_ofSlots?) htext h

/-- **How a frame is laid out does not change what it says.**  Take any request or message, and any value
that rewords what is written for it: the members of its objects in any order and among others of other
names, its texts with any characters escaped, its objects as rows.  Every text of that value, with blanks
wherever they may stand, is read as that request or message.  And every text of a value without a tag or
with two, with a field of its kind there twice, or without a field that has to be there, is refused. -/
theorem layout_does_not_matter :
    (∀ (r : Request) (t : Tree) (text : List UInt8),
      t.Rewords Token.maxNesting (write r) → t.Layout text → decode Request text = some r) ∧
    (∀ (m : Message) (t : Tree) (text : List UInt8),
      t.Rewords Token.maxNesting (write m) → t.Layout text → decode Message text = some m) ∧
    (∀ (t : Tree) (text : List UInt8), t.Layout text →
      t.Misfits Request.fields (fun _ => []) → decode Request text = none) ∧
    ∀ (t : Tree) (text : List UInt8), t.Layout text →
      t.Misfits Message.fields Message.mayLack → decode Message text = none :=
  ⟨fun _ _ _ h htext => Request.decode_of_rewords h htext,
    fun _ _ _ h htext => Message.decode_of_rewords h htext,
    fun _ _ htext h => Request.decode_of_misfits htext h,
    fun _ _ htext h => Message.decode_of_misfits htext h⟩

/-- A request with its tag last, an escaped name, blanks and a member that it does not have; a message as a
row; a request with two tags; and a message without its outcome. -/
theorem reordered_request_is_read :
    decode Request (Text.Utf8.encode
        " \x7b\"x\": [null],\t\"\\u0065mail\":\"a\", \"type\" :\"EmailChange\"\x7d\n".toList)
      = some (.emailChange "a") ∧
    decode Message (Text.Utf8.encode "[\"EmailGetResponse\",\"Ok\",null]".toList)
      = some (.emailGetResponse .ok none) ∧
    decode Request (Text.Utf8.encode
        "\x7b\"type\":\"Logout\",\"type\":\"Logout\"\x7d".toList) = none ∧
    decode Message (Text.Utf8.encode "\x7b\"type\":\"LoginResponse\"\x7d".toList) = none := by
  obtain ⟨hrequest, hmessage, hnorequest, hnomessage⟩ := layout_does_not_matter
  -- strings and names of which no character is escaped
  have hplain : ∀ s, Literal.Spells (.ofText s) s := Literal.spells_ofText
  have halike : ∀ s, (Literal.ofText s).Alike (.ofText s) := fun s => ⟨s, hplain s, hplain s⟩
  refine ⟨?_, ?_, ?_, ?_⟩
  · let email : Literal := Text.Utf8.encode "\\u0065mail".toList
    have hname : email.Spells "email" := by
      show Literal.SpellsChars (Text.Utf8.encode "\\u0065".toList ++ .ofText "mail")
        ('e' :: "mail".toList)
      exact .cons (.digits (by decide)) (hplain "mail")
    refine hrequest _ (.object [(.ofText "x", .array [.null]), (email, .ofText "a"),
      (.ofText "type", .ofText "EmailChange")]) _ ?_ ?_
    · refine @Tree.Rewords.object 126 _
        [(.ofText "type", .ofText "EmailChange"), (email, .ofText "a")]
        [(.ofText "x", .array [.null])]
        [(.ofText "type", .ofText "EmailChange"), (.ofText "email", .ofText "a")]
        (List.reverse_perm _).symm rfl ?_ ?_ ?_ ?_
      · exact List.forall_mem_cons.mpr ⟨halike "type", List.forall_mem_singleton.mpr
          ⟨"email", hname, hplain "email"⟩⟩
      · exact List.forall_mem_cons.mpr ⟨.string (halike "EmailChange"),
          List.forall_mem_singleton.mpr (.string (halike "a"))⟩
      · refine List.forall_mem_singleton.mpr ⟨"x", hplain "x", ?_⟩
        exact List.forall_mem_cons.mpr ⟨fun h => absurd ((hplain "type").unique h) (by decide),
          List.forall_mem_singleton.mpr fun h => absurd ((hplain "email").unique h) (by decide)⟩
      · exact List.forall_mem_singleton.mpr (.array (List.forall_mem_singleton.mpr .null))
    · have hblank : ∀ b, Token.isBlank b = true → ∀ c ∈ [b], Token.isBlank c = true :=
        fun _ h => List.forall_mem_singleton.mpr h
      refine Eq.mp (congrArg _ ?_) <|
        Token.Spaced.cons [0x20] (hblank _ rfl) (.fixed rfl) <|
        .cons [] nofun (.string (hplain "x").closed) <|
        .cons [] nofun (.fixed rfl) <|
        .cons [0x20] (hblank _ rfl) (.fixed rfl) <|
        .cons [] nofun (.fixed rfl) <|
        .cons [] nofun (.fixed rfl) <|
        .cons [] nofun (.fixed rfl) <|
        .cons [0x09] (hblank _ rfl) (.string hname.closed) <|
        .cons [] nofun (.fixed rfl) <|
        .cons [] nofun (.string (hplain "a").closed) <|
        .cons [] nofun (.fixed rfl) <|
        .cons [0x20] (hblank _ rfl) (.string (hplain "type").closed) <|
        .cons [0x20] (hblank _ rfl) (.fixed rfl) <|
        .cons [] nofun (.string (hplain "EmailChange").closed) <|
        .cons [] nofun (.fixed rfl) <|
        .nil [0x0A] (hblank _ rfl)
      decide +kernel
  · refine hmessage _ (.array [.ofText "EmailGetResponse", .ofText "Ok", .null]) _ ?_ ?_
    · refine @Tree.Rewords.row 126 _
        [(.ofText "type", .ofText "EmailGetResponse"), (.ofText "status", .ofText "Ok"),
          (.ofText "email", .null)] rfl ?_
      exact List.forall_mem_cons.mpr ⟨.string (halike "EmailGetResponse"),
        List.forall_mem_cons.mpr ⟨.string (halike "Ok"), List.forall_mem_singleton.mpr .null⟩⟩
    · have hlayout := (@Tree.Plain.array 0 [.ofText "EmailGetResponse", .ofText "Ok", .null]
        (by simp [Tree.Plain.text, Tree.Plain.null])).layout_render
      exact Eq.mp (congrArg _ (by decide +kernel)) hlayout
  · have hlayout := (@plain_record ⟨["type", "type"], false, false⟩
      [.ofText "Logout", .ofText "Logout"] 0 (by simp [Tree.Plain.text])).layout_render
    exact hnorequest _ _ (Eq.mp (congrArg _ (by decide +kernel)) hlayout)
      (.tagRepeated (.intro (List.Sublist.refl _) (hplain "type") (hplain "type")))
  · have hlayout := (@plain_tagged "LoginResponse" [] [] 0 nofun).layout_render
    refine hnomessage _ _ (Eq.mp (congrArg _ (by decide +kernel)) hlayout)
      (.fieldMissing (f := "status") (.object (List.mem_singleton_self _) (hplain "type")
        (hplain "LoginResponse")) (by decide) (by decide) (.object ?_))
    exact List.forall_mem_singleton.mpr fun h => absurd ((hplain "type").unique h) (by decide)

end Lobby
