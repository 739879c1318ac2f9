import Gatehouse.Identity.Assertion
import Gatehouse.Proofs.Schema.RoundTrip
import Gatehouse.Proofs.Text.Base64Url
import Gatehouse.Proofs.Text.Utf8

/-!
# Tokens and their parts

A token is made of the digits of its parts and of the dots between them, so that it may stand in a
header whatever it says. Its payload is read back without the key.
-/

namespace Gatehouse

theorem HeaderValue.isPlain_encode {s : String}
    (h : ∀ c ∈ s.toList, 32 ≤ c.toNat ∧ c.toNat < 127) : isPlain (Utf8.encode s) = true := by
  rw [Utf8.encode, Utf8.encodeChars_of_ascii fun c hc => by have := h c hc; omega, isPlain,
    List.all_map, List.all_eq_true]
  intro c hc
  obtain ⟨hlow, hhigh⟩ := h c hc
  have hbyte : (UInt8.ofNat c.toNat).toNat = c.toNat := Utf8.toNat_ofNat_of_lt (by omega)
  simp only [Function.comp_apply, Bool.or_eq_true, Bool.and_eq_true, decide_eq_true_eq, ge_iff_le,
    UInt8.le_iff_toNat_le, UInt8.lt_iff_toNat_lt, hbyte]
  exact Or.inl ⟨hlow, hhigh⟩

namespace Token

variable (secret : String) (p : TokenPayload)

theorem visible_of_mem_sign : ∀ c ∈ (sign secret p).toList, 32 ≤ c.toNat ∧ c.toNat < 127 := by
  have hdot : 32 ≤ '.'.toNat ∧ '.'.toNat < 127 := by decide
  rw [sign, String.toList_ofList]
  simp only [signedPart, part, List.forall_mem_append, List.forall_mem_cons]
  exact ⟨⟨Base64Url.visible_of_mem_encode _, hdot, Base64Url.visible_of_mem_encode _⟩, hdot,
    Base64Url.visible_of_mem_encode _⟩

theorem isPlain_sign : HeaderValue.isPlain (Utf8.encode (sign secret p)) = true :=
  HeaderValue.isPlain_encode (visible_of_mem_sign secret p)

/-! ## Parts -/

theorem dot_notMem_encode (bs : Bytes) : '.' ∉ Base64Url.encode bs := fun h =>
  absurd (Base64Url.isDigit_of_mem_encode bs '.' h) (by decide)

theorem split?_sign :
    split? (sign secret p) = some (part header.print, part (Wire.toText p),
      Base64Url.encode (Hmac.sha256 (Utf8.encode secret) (Utf8.encodeChars (signedPart p)))) := by
  have hsplit : (sign secret p).toList.splitOn '.' = [part header.print, part (Wire.toText p),
      Base64Url.encode (Hmac.sha256 (Utf8.encode secret) (Utf8.encodeChars (signedPart p)))] := by
    rw [sign, String.toList_ofList, List.splitOn_append_cons_self, signedPart,
      List.splitOn_append_cons_self, part, part, List.splitOn_eq_singleton (dot_notMem_encode _),
      List.splitOn_eq_singleton (dot_notMem_encode _),
      List.splitOn_eq_singleton (dot_notMem_encode _)]
    rfl
  rw [split?, hsplit]

theorem partText?_part (s : String) : partText? (part s) = some s := by
  rw [partText?, part, Base64Url.decode?_encode, Option.bind_some, Utf8.decode?_encode]

/-- What a token says can be read without the key. -/
theorem payload?_sign : payload? (sign secret p) = some p := by
  have hread : Wire.ofText (Wire.toText p) = .ok p := LawfulWire.read_written (by decide) p
  simp only [payload?, split?_sign, partText?_part, hread, Option.bind_eq_bind, Option.bind_some]
  rfl

end Token

namespace Assertion

/-- A token that is minted may always stand in a header. -/
theorem headerValue_mint (m : TokenMinter) (a : Account) (groups roles : List String)
    (now : Int64) :
    headerValue (m.mint a groups roles now) = .ok (Utf8.encode (m.mint a groups roles now)) :=
  if_pos (Token.isPlain_sign m.secret _)

end Assertion

end Gatehouse
