import Gatehouse.Proofs.Url.Path
import Gatehouse.Url.Parse

/-!
# What hosts are written with

Whatever text a host is read from, it is written with characters of ASCII that neither end an
authority nor part it from a user. So a host can be put into an address and is found there again.
Colons and brackets occur in it only as in the written form of eight pieces.
-/

namespace Gatehouse

/-- A character that ends nothing in an address before its path. -/
def Url.isHostChar (c : Char) : Bool :=
  (0x20 < c.toNat && c.toNat < 0x7F) && !(['#', '/', '?', '@', '\\'].contains c)

theorem Url.isHostChar_iff {c : Char} : isHostChar c = true ↔
    (0x20 < c.toNat ∧ c.toNat < 0x7F) ∧ c ≠ '#' ∧ c ≠ '/' ∧ c ≠ '?' ∧ c ≠ '@' ∧ c ≠ '\\' := by
  simp [isHostChar]

/-- A character of a name, in which nothing is marked off by colons or brackets. -/
def Url.isNameChar (c : Char) : Bool := isHostChar c && !([':', '[', ']'].contains c)

theorem Url.isNameChar_iff {c : Char} :
    isNameChar c = true ↔ isHostChar c = true ∧ c ≠ ':' ∧ c ≠ '[' ∧ c ≠ ']' := by
  simp [isNameChar]

open Url (isHostChar isNameChar)

/-- A statement about the characters below a bound is one about finitely many numbers, which can be
decided. -/
theorem forall_char_of_lt {bound : Nat} {p : Char → Prop} (h : ∀ n < bound, p (Char.ofNat n)) :
    ∀ c : Char, c.toNat < bound → p c := by
  intro c hc
  have hp := h c.toNat hc
  rwa [Char.ofNat_toNat] at hp

theorem mem_or_mem_of_mem_intercalate {α : Type} {sep : List α} {ls : List (List α)} {a : α}
    (h : a ∈ List.intercalate sep ls) : a ∈ sep ∨ ∃ l ∈ ls, a ∈ l := by
  induction ls with
  | nil => cases h
  | cons l rest ih =>
    cases rest with
    | nil => exact Or.inr ⟨l, by simp, by simpa using h⟩
    | cons l' rest =>
      rw [List.intercalate_cons_cons, List.append_assoc] at h
      rcases List.mem_append.mp h with h | h
      · exact Or.inr ⟨l, by simp, h⟩
      · rcases List.mem_append.mp h with h | h
        · exact Or.inl h
        · obtain hsep | ⟨m, hm, ha⟩ := ih h
          · exact Or.inl hsep
          · exact Or.inr ⟨m, List.mem_cons_of_mem l hm, ha⟩

theorem exists_of_mem_mapM {α β : Type} {f : α → Option β} {xs : List α} {ys : List β} {y : β}
    (h : xs.mapM f = some ys) (hy : y ∈ ys) : ∃ x ∈ xs, f x = some y := by
  induction xs generalizing ys with
  | nil =>
    obtain rfl := Option.some.inj h
    cases hy
  | cons x rest ih =>
    simp only [List.mapM_cons, Option.bind_eq_bind, Option.bind_eq_some_iff] at h
    obtain ⟨z, hz, zs, hzs, h⟩ := h
    obtain rfl := Option.some.inj h
    rcases List.mem_cons.mp hy with rfl | hy
    · exact ⟨x, List.mem_cons_self, hz⟩
    · obtain ⟨x', hx', hread⟩ := ih hzs hy
      exact ⟨x', List.mem_cons_of_mem x hx', hread⟩

/-! ## Plain forms of labels -/

namespace Punycode

theorem isNameChar_digit : ∀ n < 36, isNameChar (digit n) = true := by decide

theorem threshold_le (k bias : Nat) : threshold k bias ≤ 26 := Nat.min_le_left ..

theorem isNameChar_digits (bias k n : Nat) : ∀ c ∈ digits bias k n, isNameChar c = true := by
  induction n using Nat.strong_induction_on generalizing k with
  | _ n ih =>
    have hpos := threshold_pos k bias
    have hle := threshold_le k bias
    intro c hc
    rw [digits] at hc
    split_ifs at hc with hn
    · rw [List.mem_singleton.mp hc]
      exact isNameChar_digit n (by omega)
    · rcases List.mem_cons.mp hc with rfl | hc
      · have hmod := Nat.mod_lt (n - threshold k bias) (show 0 < 36 - threshold k bias by omega)
        exact isNameChar_digit _ (by omega)
      · have hdiv := Nat.div_le_self (n - threshold k bias) (36 - threshold k bias)
        exact ih _ (by omega) _ c hc

theorem isNameChar_passOne {basic n : Nat} {p : Progress} (c : Nat)
    (h : ∀ c ∈ p.output, isNameChar c = true) :
    ∀ d ∈ (passOne basic n p c).output, isNameChar d = true := by
  intro d hd
  unfold passOne at hd
  split_ifs at hd
  · exact h d hd
  · rcases List.mem_append.mp hd with hd | hd
    · exact h d hd
    · exact isNameChar_digits _ _ _ d hd
  · exact h d hd

theorem isNameChar_placeAll {label : List Nat} {basic next : Nat} {others : List Nat} {p : Progress}
    (h : ∀ c ∈ p.output, isNameChar c = true) :
    ∀ c ∈ (placeAll label basic next others p).output, isNameChar c = true := by
  have hfold : ∀ (n : Nat) (cs : List Nat) (p : Progress), (∀ c ∈ p.output, isNameChar c = true) →
      ∀ c ∈ (cs.foldl (passOne basic n) p).output, isNameChar c = true := by
    intro n cs
    induction cs with
    | nil => exact fun _ h => h
    | cons d rest ih => exact fun p h => ih _ (isNameChar_passOne d h)
  induction others generalizing next p with
  | nil => exact h
  | cons n rest ih => exact ih (hfold n label _ h)

theorem isNameChar_encode {label : List Nat}
    (h : ∀ c ∈ label, c < 128 → isNameChar (Char.ofNat c) = true) :
    ∀ c ∈ encode label, isNameChar c = true := by
  refine isNameChar_placeAll fun c hc => ?_
  rcases List.mem_append.mp hc with hc | hc
  · obtain ⟨n, hn, rfl⟩ := List.mem_map.mp hc
    obtain ⟨hmem, hlt⟩ := List.mem_filter.mp hn
    exact h n hmem (by simpa using hlt)
  · split_ifs at hc
    · cases hc
    · rw [List.mem_singleton.mp hc]
      rfl

theorem isNameChar_of_value {c : Char} (h : (value c).isSome = true) : isNameChar c = true := by
  have hlt : c.toNat < 128 := by
    have hnat : ∀ d : Char, c ≤ d → c.toNat ≤ d.toNat := fun d hd => Fin.mk_le_mk.mp hd
    unfold value at h
    split_ifs at h with hlower hupper hdigit
    · exact (hnat _ hlower.2).trans_lt (by decide)
    · exact (hnat _ hupper.2).trans_lt (by decide)
    · exact (hnat _ hdigit.2).trans_lt (by decide)
    · cases h
  exact forall_char_of_lt (p := fun c => (value c).isSome = true → isNameChar c = true)
    (by decide +kernel) c hlt h

theorem readDigits_eq_some {bias k i w : Nat} {cs : List Char} {r : Nat × List Char}
    (h : readDigits bias k i w cs = some r) :
    ∃ used, cs = used ++ r.2 ∧ ∀ c ∈ used, (value c).isSome = true := by
  induction cs generalizing k i w with
  | nil => cases h
  | cons c rest ih =>
    rw [readDigits] at h
    cases hv : value c with
    | none =>
      rw [hv] at h
      cases h
    | some d =>
      simp only [hv] at h
      split_ifs at h
      · obtain rfl := Option.some.inj h
        exact ⟨[c], rfl, by simp [hv]⟩
      · obtain ⟨used, rfl, hused⟩ := ih h
        exact ⟨c :: used, rfl, by simpa [hv] using hused⟩

/-- All characters of the digits are digits, and no character that is placed already gets lost. -/
theorem decodeDigits_eq_some {n i bias : Nat} {label : List Nat} {cs : List Char} {out : List Nat}
    (h : decodeDigits n i bias label cs = some out) :
    (∀ c ∈ label, c ∈ out) ∧ ∀ c ∈ cs, (value c).isSome = true := by
  fun_induction decodeDigits n i bias label cs with
  | case1 n i bias label => 
    obtain rfl := Option.some.inj h
    exact ⟨fun _ hc => hc, nofun⟩
  | case2 => cases h
  | case3 => cases h
  | case4 n i bias label cs hcs j rest hread _ count c place hc ih =>
    obtain ⟨hlabel, hrest⟩ := ih h
    obtain ⟨used, rfl, hused⟩ := readDigits_eq_some hread
    constructor
    · intro d hd
      refine hlabel d ?_
      rw [← List.take_append_drop place label, List.mem_append] at hd
      rcases hd with hd | hd
      · exact List.mem_append_left _ hd
      · exact List.mem_append_right _ (List.mem_cons_of_mem c hd)
    · intro d hd
      rcases List.mem_append.mp hd with hd | hd
      · exact hused d hd
      · exact hrest d hd

theorem behind_hyphen (cs : List Char) :
    let tail := (cs.reverse.takeWhile (· ≠ '-')).reverse
    tail = cs ∨ ∃ plain, cs = plain ++ '-' :: tail := by
  intro tail
  have happend := List.takeWhile_append_dropWhile (p := (· ≠ '-')) (l := cs.reverse)
  have hcs := congrArg List.reverse happend
  rw [List.reverse_append, List.reverse_reverse] at hcs
  cases hdrop : cs.reverse.dropWhile (· ≠ '-') with
  | nil =>
    rw [hdrop] at hcs
    exact Or.inl hcs
  | cons d front =>
    have hd := List.head?_dropWhile_not (· ≠ '-') cs.reverse
    rw [hdrop] at hd hcs
    have hd : d = '-' := by simpa using hd
    refine Or.inr ⟨front.reverse, ?_⟩
    rw [← hcs, hd]
    simp [tail]

/-- A plain form that can be read is written with the plain characters of its label, hyphens and
digits. -/
theorem decode?_eq_some {cs : List Char} {out : List Nat} (h : decode? cs = some out) :
    ∀ c ∈ cs, c.toNat ∈ out ∨ isNameChar c = true := by
  intro c hc
  simp only [decode?] at h
  generalize htail : (cs.reverse.takeWhile (· ≠ '-')).reverse = tail at h
  have hbehind := behind_hyphen cs
  simp only [htail] at hbehind
  split_ifs at h with hplain hlength
  · obtain ⟨-, hdigits⟩ := decodeDigits_eq_some h
    exact Or.inr (isNameChar_of_value (hdigits c hc))
  · obtain ⟨hplaced, hdigits⟩ := decodeDigits_eq_some h
    rcases hbehind with rfl | ⟨plain, rfl⟩
    · exact absurd rfl hlength
    · have htake : (plain ++ '-' :: tail).take
          ((plain ++ '-' :: tail).length - tail.length - 1) = plain :=
        List.take_left' (by rw [List.length_append, List.length_cons]; omega)
      rw [htake] at hplaced
      rcases List.mem_append.mp hc with hc | hc
      · exact Or.inl (hplaced _ (List.mem_map_of_mem hc))
      · rcases List.mem_cons.mp hc with rfl | hc
        · exact Or.inr rfl
        · exact Or.inr (isNameChar_of_value (hdigits c hc))

end Punycode

/-! ## Names -/

namespace HostName

theorem isNameChar_ofNat : ∀ n < 128, isForbidden n = false → isNameChar (Char.ofNat n) = true := by
  decide +kernel

theorem isNameChar_of_isValidLabel {label : List Nat} (h : isValidLabel label = true) :
    ∀ n ∈ label, n < 128 → isNameChar (Char.ofNat n) = true := by
  intro n hn hlt
  simp only [isValidLabel, Bool.and_eq_true, List.all_eq_true] at h
  have hmem := h.1.1.2 n hn
  exact isNameChar_ofNat n hlt (by simpa using hmem.2)

theorem toNat_ofNat_lt : ∀ {n : Nat}, n < 128 → (Char.ofNat n).toNat < 128 := by
  decide

theorem isNameChar_marker : ∀ c ∈ marker.map Char.ofNat, isNameChar c = true :=
  List.all_eq_true.mp rfl

theorem isNameChar_readLabel {label : List Nat} {l : Label} (h : readLabel label = some l) :
    ∀ c ∈ l.written, isNameChar c = true := by
  unfold readLabel at h
  split at h
  · rename_i rest hmarker
    split_ifs at h with hplain
    cases hdecode : Punycode.decode? (rest.map Char.ofNat) with
    | none =>
      rw [hdecode] at h
      cases h
    | some decoded =>
      simp only [hdecode, Option.bind_eq_bind, Option.bind_some] at h
      split_ifs at h with hbad hvalid
      obtain rfl := Option.some.inj h
      obtain rfl := List.isPrefixOf?_eq_some_iff_append_eq.mp hmarker
      intro c hc
      rw [List.map_append] at hc
      rcases List.mem_append.mp hc with hc | hc
      · exact isNameChar_marker c hc
      · rcases Punycode.decode?_eq_some hdecode c hc with hout | hdigit
        · obtain ⟨n, hn, rfl⟩ := List.mem_map.mp hc
          have hlt : n < 128 := by simpa using List.all_eq_true.mp hplain n hn
          have hchar := isNameChar_of_isValidLabel hvalid _ hout
          rw [Char.ofNat_toNat] at hchar
          exact hchar (toNat_ofNat_lt hlt)
        · exact hdigit
  · split_ifs at h with hplain hforbidden hvalid
    · obtain rfl := Option.some.inj h
      intro c hc
      obtain ⟨n, hn, rfl⟩ := List.mem_map.mp hc
      have hlt : n < 128 := by simpa using List.all_eq_true.mp hplain n hn
      have hallowed : ¬ isForbidden n = true := fun hf =>
        hforbidden (List.any_eq_true.mpr ⟨n, hn, hf⟩)
      exact isNameChar_ofNat n hlt (by simpa using hallowed)
    · obtain rfl := Option.some.inj h
      intro c hc
      rcases List.mem_append.mp hc with hc | hc
      · exact isNameChar_marker c hc
      · exact Punycode.isNameChar_encode (isNameChar_of_isValidLabel hvalid) c hc

theorem isNameChar_toAscii? {host : Bytes} {name : String} (h : toAscii? host = some name) :
    ∀ c ∈ name.toList, isNameChar c = true := by
  simp only [toAscii?, Option.bind_eq_bind, Option.bind_eq_some_iff] at h
  obtain ⟨text, -, mapped, -, labels, hlabels, h⟩ := h
  split_ifs at h
  obtain rfl := Option.some.inj h
  intro c hc
  rw [String.toList_ofList] at hc
  rcases mem_or_mem_of_mem_intercalate hc with hc | ⟨l, hl, hc⟩
  · rw [List.mem_singleton.mp hc]
    rfl
  · obtain ⟨label, hlabel, rfl⟩ := List.mem_map.mp hl
    obtain ⟨text, -, hread⟩ := exists_of_mem_mapM hlabels hlabel
    exact isNameChar_readLabel hread c hc

end HostName

/-! ## Addresses of numbers -/

theorem isNameChar_of_isDigit {c : Char} (h : c.isDigit = true) : isNameChar c = true := by
  refine Punycode.isNameChar_of_value ?_
  have hval : 48 ≤ c.val ∧ c.val ≤ 57 := by simpa [Char.isDigit] using h
  have hdigit : '0' ≤ c ∧ c ≤ '9' := hval
  unfold Punycode.value
  split_ifs
  all_goals rfl

theorem isDigit_of_mem_toString {n : Nat} : ∀ c ∈ (toString n).toList, c.isDigit = true := by
  intro c hc
  rw [Nat.toString_eq_repr, Nat.toList_repr] at hc
  exact Nat.isDigit_of_mem_toDigits (by decide) (by decide) hc

theorem isNameChar_toString (n : Nat) : ∀ c ∈ (toString n).toList, isNameChar c = true :=
  fun c hc => isNameChar_of_isDigit (isDigit_of_mem_toString c hc)

theorem Ipv4.isNameChar_print (address : Nat) :
    ∀ c ∈ (Ipv4.print address).toList, isNameChar c = true := by
  intro c hc
  simp only [Ipv4.print, String.toList_append, List.mem_append] at hc
  have hdot : ∀ c ∈ ".".toList, isNameChar c = true := List.all_eq_true.mp rfl
  rcases hc with (((((hc | hc) | hc) | hc) | hc) | hc) | hc
  · exact isNameChar_toString _ c hc
  · exact hdot c hc
  · exact isNameChar_toString _ c hc
  · exact hdot c hc
  · exact isNameChar_toString _ c hc
  · exact hdot c hc
  · exact isNameChar_toString _ c hc

namespace Ipv6

def pieceChars : List Char :=
  ['0', '1', '2', '3', '4', '5', '6', '7', '8', '9', 'a', 'b', 'c', 'd', 'e', 'f', ':']

theorem digitChar_mem : ∀ n < 16, Nat.digitChar n ∈ pieceChars ∧ Nat.digitChar n ≠ ':' := by decide

theorem mem_toDigits (n : Nat) : ∀ c ∈ Nat.toDigits 16 n, c ∈ pieceChars ∧ c ≠ ':' := by
  induction n using Nat.strong_induction_on with
  | _ n ih =>
    intro c hc
    rw [Nat.toDigits_eq_if (by decide)] at hc
    split_ifs at hc with hn
    · rw [List.mem_singleton.mp hc]
      exact digitChar_mem n hn
    · rcases List.mem_append.mp hc with hc | hc
      · exact ih _ (by omega) c hc
      · rw [List.mem_singleton.mp hc]
        exact digitChar_mem _ (Nat.mod_lt n (by decide))

theorem mem_printPieces (ps : List Nat) : ∀ c ∈ printPieces ps, c ∈ pieceChars := by
  intro c hc
  rcases mem_or_mem_of_mem_intercalate hc with hc | ⟨l, hl, hc⟩
  · rw [List.mem_singleton.mp hc]
    decide
  · obtain ⟨n, -, rfl⟩ := List.mem_map.mp hl
    exact (mem_toDigits n c hc).1

/-- Between pieces there is one colon. -/
theorem count_printPieces (ps : List Nat) : (printPieces ps).count ':' ≤ ps.length := by
  have hdigits : ∀ n : Nat, (Nat.toDigits 16 n).count ':' = 0 := fun n =>
    List.count_eq_zero.mpr fun hmem => (mem_toDigits n ':' hmem).2 rfl
  unfold printPieces
  induction ps with
  | nil => rfl
  | cons n rest ih =>
    cases rest with
    | nil => simp [hdigits]
    | cons m rest =>
      rw [List.map_cons, List.map_cons, List.intercalate_cons_cons, List.count_append,
        List.count_append, hdigits, List.count_singleton_self, ← List.map_cons]
      simp only [List.length_cons] at ih ⊢
      omega

theorem longestGap_le (ps : List Nat) : (longestGap ps).1 + (longestGap ps).2 ≤ ps.length := by
  have hzeros : ∀ i, i ≤ ps.length → i + zeros (ps.drop i) ≤ ps.length := by
    intro i hi
    have hle : zeros (ps.drop i) ≤ (ps.drop i).length := (List.takeWhile_sublist _).length_le
    rw [List.length_drop] at hle
    omega
  have hfold : ∀ (is : List Nat) (best : Nat × Nat), (∀ i ∈ is, i ≤ ps.length) →
      best.1 + best.2 ≤ ps.length →
      let gap := is.foldl (fun (best : Nat × Nat) i =>
        let n := zeros (ps.drop i)
        if n > best.2 then (i, n) else best) best
      gap.1 + gap.2 ≤ ps.length := by
    intro is
    induction is with
    | nil => exact fun best _ h => h
    | cons i rest ih =>
      intro best his hbest
      refine ih _ (fun j hj => his j (List.mem_cons_of_mem i hj)) ?_
      dsimp only
      split_ifs
      · exact hzeros i (his i List.mem_cons_self)
      · exact hbest
  exact hfold _ _ (fun i hi => (List.mem_range.mp hi).le) (Nat.zero_le _)

theorem mem_print (ps : List Nat) : ∀ c ∈ (print ps).toList, c ∈ pieceChars := by
  intro c hc
  simp only [print, String.toList_ofList] at hc
  split_ifs at hc
  · exact mem_printPieces ps c hc
  · simp only [List.mem_append] at hc
    rcases hc with (hc | hc) | hc
    · exact mem_printPieces _ c hc
    · have hcolon : ∀ c ∈ [':', ':'], c ∈ pieceChars := by simp [pieceChars]
      exact hcolon c hc
    · exact mem_printPieces _ c hc

/-- Where pieces are left out there are two colons, but at least two pieces less. -/
theorem count_print (ps : List Nat) : (print ps).toList.count ':' ≤ ps.length := by
  have hgap := longestGap_le ps
  simp only [print, String.toList_ofList]
  split_ifs with hn
  · exact count_printPieces ps
  · have hfront := count_printPieces (ps.take (longestGap ps).1)
    have hback := count_printPieces (ps.drop ((longestGap ps).1 + (longestGap ps).2))
    have hcolons : [':', ':'].count ':' = 2 := rfl
    rw [List.length_take] at hfront
    rw [List.length_drop] at hback
    rw [List.count_append, List.count_append, hcolons]
    omega

theorem length_of_parse? {cs : List Char} {ps : List Nat} (h : parse? cs = some ps) :
    ps.length = 8 := by
  unfold parse? at h
  split at h
  · simpa using (Option.filter_eq_some_iff.mp h).2
  · simp only [Option.bind_eq_bind, Option.bind_eq_some_iff] at h
    obtain ⟨before, -, after, -, h⟩ := h
    split_ifs at h with hlt
    obtain rfl := Option.some.inj h
    simp only [List.length_append, List.length_replicate]
    omega

end Ipv6

/-! ## Hosts -/

namespace Url

/-- The forms in which hosts are written: a name, or pieces between brackets. -/
inductive HostForm : List Char → Prop
  | name {cs : List Char} (hne : cs ≠ []) (h : ∀ c ∈ cs, isNameChar c = true) : HostForm cs
  | pieces {cs : List Char} (h : ∀ c ∈ cs, c ∈ Ipv6.pieceChars) (hcolons : cs.count ':' ≤ 8) :
    HostForm ('[' :: (cs ++ [']']))

theorem HostForm.isHostChar {cs : List Char} (h : HostForm cs) : ∀ c ∈ cs, isHostChar c = true := by
  cases h with
  | name hne h => exact fun c hc => (isNameChar_iff.mp (h c hc)).1
  | pieces h hcolons =>
    have hpieces : ∀ c ∈ Ipv6.pieceChars, Url.isHostChar c = true :=
      List.all_eq_true.mp (by decide)
    intro c hc
    rcases List.mem_cons.mp hc with rfl | hc
    · rfl
    · rcases List.mem_append.mp hc with hc | hc
      · exact hpieces c (h c hc)
      · rw [List.mem_singleton.mp hc]
        rfl

theorem Escape.isNameChar_hexDigit : ∀ n < 16, isNameChar (hexDigit n) = true := by decide

theorem Escape.isNameChar_byte (b : UInt8) : ∀ c ∈ byte b, isNameChar c = true := by
  have hb := b.toNat_lt
  intro c hc
  simp only [byte, List.mem_cons, List.not_mem_nil, or_false] at hc
  rcases hc with rfl | rfl | rfl
  · rfl
  · exact isNameChar_hexDigit _ (by omega)
  · exact isNameChar_hexDigit _ (by omega)

theorem isNameChar_of_not_forbidden {c : Char} (hforbidden : isForbiddenInHost c = false)
    (hcontrol : Escape.control c = false) : isNameChar c = true := by
  have hrange : 0x20 ≤ c.toNat ∧ c.toNat < 0x7F := by simpa [Escape.control] using hcontrol
  exact forall_char_of_lt
    (p := fun c => 0x20 ≤ c.toNat → isForbiddenInHost c = false → isNameChar c = true)
    (by decide +kernel) c hrange.2 hrange.1 hforbidden

theorem hostForm_bracketHost {cs : List Char} {host : Host} (h : bracketHost cs = .ok host) :
    HostForm host.print.toList := by
  unfold bracketHost at h
  split_ifs at h
  split at h
  · rename_i ps hps
    obtain rfl := Except.ok.inj h
    have hcount := Ipv6.count_print ps
    rw [Ipv6.length_of_parse? hps] at hcount
    have hprint : (Host.ipv6 ps).print.toList = '[' :: ((Ipv6.print ps).toList ++ [']']) := by
      simp [Host.print]
    rw [hprint]
    exact .pieces (Ipv6.mem_print ps) hcount
  · cases h

theorem hostForm_plainHost {cs : List Char} {host : Host} (h : plainHost cs = .ok host)
    (hne : host ≠ .name "") : HostForm host.print.toList := by
  unfold plainHost at h
  split_ifs at h with hbracket hforbidden
  · exact hostForm_bracketHost h
  · obtain rfl := Except.ok.inj h
    refine .name (fun hnil => hne (congrArg Host.name (String.toList_eq_nil_iff.mp hnil)))
      fun c hc => ?_
    simp only [Host.print, String.toList_ofList, Escape.chars, List.mem_flatMap] at hc
    obtain ⟨d, hd, hc⟩ := hc
    rcases Escape.mem_char hc with ⟨b, hc⟩ | ⟨rfl, hcontrol⟩
    · exact Escape.isNameChar_byte b c hc
    · refine isNameChar_of_not_forbidden ?_ hcontrol
      simpa using fun hf => hforbidden (List.any_eq_true.mpr ⟨c, hd, hf⟩)

theorem hostForm_webHost {cs : List Char} {host : Host} (h : webHost cs = .ok host) :
    HostForm host.print.toList := by
  unfold webHost at h
  split_ifs at h with hbracket
  · exact hostForm_bracketHost h
  · split at h
    · cases h
    · rename_i name hname
      split_ifs at h with hempty
      · split at h
        · rename_i address _
          obtain rfl := Except.ok.inj h
          refine .name (fun hnil => ?_) (Ipv4.isNameChar_print address)
          simp [Host.print, Ipv4.print] at hnil
        · cases h
      · obtain rfl := Except.ok.inj h
        refine .name (fun hnil => hempty ?_) (HostName.isNameChar_toAscii? hname)
        exact String.toList_eq_nil_iff.mp hnil

/-- The forms in which authorities are written: a host, and perhaps a port. -/
inductive AuthorityForm : List Char → Prop
  | host {host : List Char} (h : HostForm host) : AuthorityForm host
  | hostPort {host port : List Char} (h : HostForm host) (hport : ∀ c ∈ port, c.isDigit = true) :
    AuthorityForm (host ++ ':' :: port)

theorem authorityForm_hostAndPort {u : Url} {authority : String}
    (hhost : ∀ host, u.host = some host → HostForm host.print.toList)
    (h : u.hostAndPort = some authority) : AuthorityForm authority.toList := by
  unfold hostAndPort at h
  obtain ⟨host, hsome, rfl⟩ := Option.map_eq_some_iff.mp h
  cases u.port with
  | none => exact .host (hhost host hsome)
  | some port =>
    have htext : (host.print ++ ":" ++ toString port).toList =
        host.print.toList ++ ':' :: (toString port).toList := by simp
    simp only [htext]
    exact .hostPort (hhost host hsome) isDigit_of_mem_toString

theorem AuthorityForm.isHostChar {cs : List Char} (h : AuthorityForm cs) :
    ∀ c ∈ cs, isHostChar c = true := by
  cases h with
  | host h => exact h.isHostChar
  | hostPort h hport =>
    intro c hc
    rcases List.mem_append.mp hc with hc | hc
    · exact h.isHostChar c hc
    · rcases List.mem_cons.mp hc with rfl | hc
      · rfl
      · exact (isNameChar_iff.mp (isNameChar_of_isDigit (hport c hc))).1

end Url

end Gatehouse
