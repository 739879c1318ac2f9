import Gatehouse.Config.Basic
import Gatehouse.Identity.Claims
import Gatehouse.Identity.Token
import Gatehouse.Proofs.Schema.Read

/-!
# What is written is read back

Each kind of message and each part of a configuration is written in the form of its own schema. So
its text is read back as the same message.
-/

namespace Gatehouse

open Schema (Fits)

/-- Values of a type are written in the form of its schema, on so many levels, and known again. -/
class LawfulWire (α : Type) [Wire α] (levels : outParam Nat) : Prop where
  fits (d : Nat) (x : α) : (Wire.schema α).Fits (d + levels) (Wire.encode x)
  decode_encode (x : α) : Wire.decode (Wire.encode x) = x

namespace LawfulWire

variable {α : Type} [Wire α] {levels : Nat} [LawfulWire α levels]

include levels

theorem read_written (h : levels ≤ 127) (x : α) : Wire.ofText (Wire.toText x) = .ok x := by
  have hfits := fits (127 - levels) x
  rw [Nat.sub_add_cancel h] at hfits
  exact Wire.ofText_toText_of_fits hfits (decode_encode x)

theorem read_sent (h : levels ≤ 127) (x : α) :
    Wire.ofBytes (Utf8.encode (Wire.toText x)) = .ok x := by
  rw [Wire.ofBytes_of_decode? (Utf8.decode?_encode _), read_written h]

theorem fits_list (d : Nat) (xs : List α) :
    (Schema.list (Wire.schema α)).Fits (d + levels + 1) (.array (xs.map Wire.encode)) := by
  refine .list fun j hj => ?_
  obtain ⟨x, -, rfl⟩ := List.mem_map.mp hj
  exact fits d x

theorem map_decode_encode (xs : List α) : (xs.map Wire.encode).map Wire.decode = xs := by
  rw [List.map_map]
  exact List.map_id'' decode_encode xs

end LawfulWire

/-! ## Parts of messages -/

theorem fits_texts (d : Nat) (ss : List String) : Fits (d + 1) (.list .string) (.texts ss) := by
  refine .list fun j hj => ?_
  obtain ⟨s, -, rfl⟩ := List.mem_map.mp hj
  exact .text s

theorem fits_int64 (d : Nat) (n : Int64) : Fits d .integer (.int n.toInt) :=
  .integer n.le_toInt n.toInt_lt

theorem fits_word (d : Nat) (expected : String) (n : UInt64) :
    Fits d (.natural expected) (.word n) :=
  .natural n.toNat_lt

theorem Json.asText?_textOrNull (o : Option String) : (textOrNull o).asText? = o := by
  cases o <;> rfl

/-! ## Messages -/

instance : LawfulWire GroupRef 1 where
  fits _ g := .of_fields (by decide) <|
    .cons (.text g.id) <| .cons (.text g.displayName) <| .cons (.text g.unixName) .nil
  decode_encode _ := rfl

instance : LawfulWire RoleAssignment 1 where
  fits _ r := .of_fields (by decide) <| .cons (.text r.account) <| .cons (.text r.role) .nil
  decode_encode _ := rfl

instance : LawfulWire Claims 1 where
  fits _ c := .of_fields (by decide) <|
    .cons (.text c.email) <| .cons (.text c.preferredUsername) <| .cons (.text c.name) .nil
  decode_encode _ := rfl

/-- A member that is none of the fields may be damaged. -/
example : Wire.ofBytes (Utf8.encode "\x7b\"odd\":\"" ++ [0xFF] ++
      Utf8.encode "\",\"email\":\"a@x.com\"\x7d") =
    (.ok { email := "a@x.com" } : Except DecodeError Claims) := by
  decide +kernel

instance : LawfulWire Account 3 where
  fits d a := .of_fields (by decide) <|
    .cons (.text a.id) <| .cons (.text a.displayName) <| .cons (.text a.preferredName) <|
    .cons (.text a.unixName) <| .cons (.text a.mail) <| .cons (.flag a.enabled) <|
    .cons (.text a.externalState) <| .cons (.text a.creationType) <|
    .cons (LawfulWire.fits_list d a.memberOf) .nil
  decode_encode a := by
    change { a with memberOf := (a.memberOf.map Wire.encode).map Wire.decode } = a
    rw [LawfulWire.map_decode_encode]

instance : LawfulWire TokenPayload 2 where
  fits d t := .of_fields (by decide) <|
    .cons (.text t.issuer) <| .cons (.text t.subject) <| .cons (.text t.username) <|
    .cons (.text t.displayName) <| .cons (.text t.mail) <| .cons (.flag t.mailVerified) <|
    .cons (fits_texts d t.groups) <| .cons (fits_texts d t.roles) <|
    .cons (fits_int64 _ t.issuedAt) <| .cons (fits_int64 _ t.expires) .nil
  decode_encode t := by
    change ({ t with
      groups := (Json.texts t.groups).items.map Json.asText
      roles := (Json.texts t.roles).items.map Json.asText
      issuedAt := .ofInt (Json.int t.issuedAt.toInt).asInt
      expires := .ofInt (Json.int t.expires.toInt).asInt } : TokenPayload) = t
    simp only [Json.map_asText_items_texts, Json.asInt_int, Int64.ofInt_toInt]

/-! ## Configurations -/

instance : LawfulWire Route 1 where
  fits _ r := by
    have hname : r.kind.name ∈ ["prefix", "query", "regex"] := by
      cases r.kind <;> decide
    exact .of_fields (by decide) <|
      .cons (.choice hname) <| .cons (.text r.endpoint) <| .cons (.text r.backend) <|
      .cons (.flag r.virtualHost) .nil
  decode_encode r := by
    change { r with kind := .ofName r.kind.name } = r
    rw [RouteKind.ofName_name]

instance : LawfulWire Policy 3 where
  fits d p := .of_fields (by decide) <|
    .cons (.text p.name) <| .cons (LawfulWire.fits_list d p.routes) .nil
  decode_encode p := by
    change { p with routes := (p.routes.map Wire.encode).map Wire.decode } = p
    rw [LawfulWire.map_decode_encode]

instance : LawfulWire LogConfig 1 where
  fits _ l := .of_fields (by decide) <|
    .cons (.text l.level) <| .cons (.flag l.pretty) <| .cons (.flag l.color) .nil
  decode_encode _ := rfl

instance : LawfulWire HttpConfig 1 where
  fits _ h := .of_fields (by decide) <|
    .cons (.text h.address) <| .cons (.optionalText h.certificate) <|
    .cons (.optionalText h.key) .nil
  decode_encode h := by
    change (⟨h.address, (Json.textOrNull h.certificate).asText?,
      (Json.textOrNull h.key).asText?⟩ : HttpConfig) = h
    rw [Json.asText?_textOrNull, Json.asText?_textOrNull]

instance : LawfulWire TokenConfig 1 where
  fits _ t := .of_fields (by decide) <| .cons (.text t.secret) .nil
  decode_encode _ := rfl

instance : LawfulWire ServiceConfig 1 where
  fits _ s := .of_fields (by decide) <|
    .cons (.text s.url) <| .cons (fits_word _ _ s.timeoutSeconds) .nil
  decode_encode s := by
    change (⟨s.url, (Json.word s.timeoutSeconds).asWord⟩ : ServiceConfig) = s
    rw [Json.asWord_word]

instance : LawfulWire CacheConfig 1 where
  fits _ c := .of_fields (by decide) <|
    .cons (fits_word _ _ c.size) <| .cons (fits_word _ _ c.ttlSeconds) .nil
  decode_encode c := by
    change (⟨(Json.word c.size).asWord, (Json.word c.ttlSeconds).asWord⟩ : CacheConfig) = c
    rw [Json.asWord_word, Json.asWord_word]

instance : LawfulWire IdentityConfig 1 where
  fits _ i := .of_fields (by decide) <| .cons (.flag i.enabled) .nil
  decode_encode _ := rfl

theorem SelectorConfig.fits {d : Nat} {s : SelectorConfig} (h : s.params.Plain d) :
    (Wire.schema SelectorConfig).Fits (d + 1) (Wire.encode s) :=
  .of_fields (by decide) <| .cons (.text s.kind) <| .cons (.any h) .nil

theorem Config.fits {d : Nat} {c : Config} (h : c.selector.params.Plain (d + 3)) :
    (Wire.schema Config).Fits (d + 5) (Wire.encode c) :=
  .of_fields (by decide) <|
    .cons (LawfulWire.fits (d + 3) c.log) <| .cons (LawfulWire.fits (d + 3) c.http) <|
    .cons (LawfulWire.fits_list d c.policies) <| .cons (SelectorConfig.fits h) <|
    .cons (LawfulWire.fits (d + 3) c.token) <| .cons (LawfulWire.fits (d + 3) c.directory) <|
    .cons (LawfulWire.fits (d + 3) c.roles) <| .cons (LawfulWire.fits (d + 3) c.cache) <|
    .cons (LawfulWire.fits (d + 3) c.identity) .nil

theorem Config.decode_encode (c : Config) : Wire.decode (Wire.encode c) = c := by
  change (⟨Wire.decode (Wire.encode c.log), Wire.decode (Wire.encode c.http),
    (c.policies.map Wire.encode).map Wire.decode, c.selector, Wire.decode (Wire.encode c.token),
    Wire.decode (Wire.encode c.directory), Wire.decode (Wire.encode c.roles),
    Wire.decode (Wire.encode c.cache), Wire.decode (Wire.encode c.identity)⟩ : Config) = c
  simp only [LawfulWire.decode_encode, LawfulWire.map_decode_encode]

/-- The text of any message or configuration is read back as what it was written for. Parameters of
a strategy may be any value without fractions, as long as the text does not nest too deep. -/
theorem Wire.ofText_toText :
    (∀ a : Account, ofText (toText a) = .ok a) ∧
    (∀ g : GroupRef, ofText (toText g) = .ok g) ∧
    (∀ r : RoleAssignment, ofText (toText r) = .ok r) ∧
    (∀ c : Claims, ofText (toText c) = .ok c) ∧
    (∀ t : TokenPayload, ofText (toText t) = .ok t) ∧
    (∀ p : Policy, ofText (toText p) = .ok p) ∧
    (∀ r : Route, ofText (toText r) = .ok r) ∧
    (∀ s : SelectorConfig, s.params.Plain 126 → ofText (toText s) = .ok s) ∧
    (∀ c : Config, c.selector.params.Plain 125 → ofText (toText c) = .ok c) :=
  ⟨LawfulWire.read_written (by decide), LawfulWire.read_written (by decide),
    LawfulWire.read_written (by decide), LawfulWire.read_written (by decide),
    LawfulWire.read_written (by decide), LawfulWire.read_written (by decide),
    LawfulWire.read_written (by decide),
    fun _ h => ofText_toText_of_fits (SelectorConfig.fits h) rfl,
    fun c h => ofText_toText_of_fits (Config.fits h) c.decode_encode⟩

def nestedParams : Config :=
  { selector := ⟨"migration", .object [("\x00", .array [.int (-7), .null]), ("a", .object [])]⟩ }

theorem Wire.ofText_toText_of_nested :
    nestedParams.selector.params.Plain 125 ∧ ofText (toText nestedParams) = .ok nestedParams := by
  have hplain : nestedParams.selector.params.Plain 125 := by
    refine .object (by decide) (List.forall_mem_cons.mpr ⟨.array ?_, ?_⟩)
    · exact List.forall_mem_cons.mpr ⟨.number (.negative (by decide) (by decide)),
        List.forall_mem_singleton.mpr .null⟩
    · exact List.forall_mem_singleton.mpr (.object (by decide) nofun)
  obtain ⟨-, -, -, -, -, -, -, -, hconfig⟩ := ofText_toText
  exact ⟨hplain, hconfig nestedParams hplain⟩

end Gatehouse
