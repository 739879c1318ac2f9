import Gatehouse.Text.Utf8
import Mathlib.Tactic

/-!
# Texts from their bytes

The bytes of a text are in order, and they are the bytes of no other text. The shortest form that
writing chooses is the one that reading insists on, and no character is a surrogate.
-/

namespace Gatehouse.Utf8

theorem toNat_ofNat_of_lt {n : Nat} (h : n < 256) : (UInt8.ofNat n).toNat = n := by
  rw [UInt8.toNat_ofNat']
  exact Nat.mod_eq_of_lt h

theorem follow_cons {bits low high more n : Nat} {rest : Bytes} (hlow : low ≤ n) (hhigh : n ≤ high)
    (hn : n < 256) :
    follow bits low high (more + 1) (UInt8.ofNat n :: rest) =
      follow (bits * 64 + n % 64) 0x80 0xBF more rest := by
  rw [follow, toNat_ofNat_of_lt hn, if_pos ⟨hlow, hhigh⟩]

theorem units_char (c : Char) (rest : Bytes) :
    units (String.utf8EncodeChar c ++ rest) = some c :: units rest := by
  have hc : Char.ofNat c.val.toNat = c := Char.ofNat_toNat c
  have hvalid : c.val.toNat < 0xD800 ∨ 0xDFFF < c.val.toNat ∧ c.val.toNat < 0x110000 := c.valid
  unfold String.utf8EncodeChar
  generalize c.val.toNat = v at hc hvalid
  dsimp only
  split_ifs with h1 h2 h3
  · have hlead : lead v = some ⟨v, 0, 0x80, 0xBF⟩ := by
      rw [lead, if_pos (by omega)]
    simp only [List.cons_append, List.nil_append]
    rw [units, toNat_ofNat_of_lt (by omega), hlead]
    simp only [follow, hc]
  · have hlead : lead (v / 64 % 32 + 192) = some ⟨v / 64, 1, 0x80, 0xBF⟩ := by
      have hmod : v / 64 % 32 = v / 64 := by omega
      rw [lead, if_neg (by omega), if_neg (by omega), if_pos (by omega), hmod,
        Nat.add_sub_cancel]
    have hbits : v / 64 * 64 + (v % 64 + 128) % 64 = v := by omega
    simp only [List.cons_append, List.nil_append]
    rw [units, toNat_ofNat_of_lt (by omega), hlead]
    simp only
    rw [follow_cons (by omega) (by omega) (by omega), hbits]
    simp only [follow, hc]
  · have hlead : lead (v / 4096 % 16 + 224) =
        some ⟨v / 4096, 2, if v / 4096 = 0 then 0xA0 else 0x80,
          if v / 4096 = 13 then 0x9F else 0xBF⟩ := by
      rw [lead, if_neg (by omega), if_neg (by omega), if_neg (by omega), if_pos (by omega)]
      have hmod : v / 4096 % 16 = v / 4096 := by omega
      simp only [hmod, Nat.add_eq_right, Nat.reduceEqDiff, Nat.add_sub_cancel]
    have hbits : (v / 4096 * 64 + (v / 64 % 64 + 128) % 64) * 64 + (v % 64 + 128) % 64 = v := by
      omega
    simp only [List.cons_append, List.nil_append]
    rw [units, toNat_ofNat_of_lt (by omega), hlead]
    simp only
    -- the bounds of the second byte keep out overlong forms and surrogates
    rw [follow_cons (by split_ifs <;> omega) (by split_ifs <;> omega) (by omega),
      follow_cons (by omega) (by omega) (by omega), hbits]
    simp only [follow, hc]
  · have hlead : lead (v / 262144 % 8 + 240) =
        some ⟨v / 262144, 3, if v / 262144 = 0 then 0x90 else 0x80,
          if v / 262144 = 4 then 0x8F else 0xBF⟩ := by
      rw [lead, if_neg (by omega), if_neg (by omega), if_neg (by omega), if_neg (by omega),
        if_pos (by omega)]
      have hmod : v / 262144 % 8 = v / 262144 := by omega
      simp only [hmod, Nat.add_eq_right, Nat.reduceEqDiff, Nat.add_sub_cancel]
    have hbits : ((v / 262144 * 64 + (v / 4096 % 64 + 128) % 64) * 64 +
        (v / 64 % 64 + 128) % 64) * 64 + (v % 64 + 128) % 64 = v := by omega
    simp only [List.cons_append, List.nil_append]
    rw [units, toNat_ofNat_of_lt (by omega), hlead]
    simp only
    rw [follow_cons (by split_ifs <;> omega) (by split_ifs <;> omega) (by omega),
      follow_cons (by omega) (by omega) (by omega), follow_cons (by omega) (by omega) (by omega),
      hbits]
    simp only [follow, hc]

theorem units_encodeChars (cs : List Char) : units (encodeChars cs) = cs.map some := by
  induction cs with
  | nil => rw [encodeChars_nil, units, List.map_nil]
  | cons c rest ih => rw [encodeChars_cons, units_char, ih, List.map_cons]

theorem mapM_id_eq_some_iff {us : List (Option Char)} {cs : List Char} :
    us.mapM id = some cs ↔ us = cs.map some := by
  induction us generalizing cs with
  | nil => cases cs <;> simp
  | cons u us ih =>
    cases u with
    | none => cases cs <;> simp
    | some c =>
      rw [List.mapM_cons]
      cases cs with
      | nil => simp [Option.bind_eq_some_iff]
      | cons d ds => simp [Option.bind_eq_some_iff, ih, and_comm]

/-- Bytes that are in order hold characters only. -/
theorem decode?_eq_some_iff {bs : Bytes} {s : String} :
    decode? bs = some s ↔ units bs = s.toList.map some := by
  rw [decode?, Option.map_eq_some_iff, ← mapM_id_eq_some_iff]
  constructor
  · rintro ⟨cs, hcs, rfl⟩
    rw [hcs, String.toList_ofList]
  · exact fun h => ⟨s.toList, h, String.ofList_toList⟩

theorem decode?_encode (s : String) : decode? (encode s) = some s := by
  rw [decode?_eq_some_iff, encode, units_encodeChars]

theorem encode_injective : Function.Injective encode := fun s t h =>
  Option.some.inj <| by rw [← decode?_encode s, h, decode?_encode]

theorem encodeChars_of_ascii {cs : List Char} (h : ∀ c ∈ cs, c.toNat < 128) :
    encodeChars cs = cs.map fun c => UInt8.ofNat c.toNat := by
  induction cs with
  | nil => rfl
  | cons c rest ih =>
    obtain ⟨hc, hrest⟩ := List.forall_mem_cons.mp h
    have hone : String.utf8EncodeChar c = [UInt8.ofNat c.toNat] := by
      unfold String.utf8EncodeChar
      exact if_pos (Nat.le_of_lt_succ hc)
    rw [encodeChars_cons, ih hrest, hone, List.singleton_append, List.map_cons]

end Gatehouse.Utf8
