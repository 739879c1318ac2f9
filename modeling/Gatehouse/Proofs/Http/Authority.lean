import Gatehouse.Proofs.Http.Uri
import Gatehouse.Proofs.Url.Parse

/-!
# Addresses that targets can have

The authority of an address may hold characters that no target can hold in its authority, and its
scheme may be longer than that of a target. Nothing else stands in the way: a text with a scheme and
an authority in the form that addresses have is read as a target exactly if the scheme is short enough
and each character of the authority may stand there.
-/

namespace Gatehouse.Uri

namespace Authority

variable {a b : Authority} {cs : List Char}

/-- A character of a name leaves no trace. -/
theorem step_of_isNameChar (hat : a.atEnd = false) {c : Char} (hname : Url.isNameChar c = true)
    (hc : isAuthorityChar c = true) : a.step c = .ok a := by
  obtain ⟨hhost, hcolon, hopen, hclose⟩ := Url.isNameChar_iff.mp hname
  obtain ⟨-, -, -, -, hsign, -⟩ := Url.isHostChar_iff.mp hhost
  have hpercent : c ≠ '%' := by
    rintro rfl
    exact absurd hc (by decide)
  obtain ⟨colons, opened, closed, percent, atEnd⟩ := a
  obtain rfl : atEnd = false := hat
  simp [step, hcolon, hopen, hclose, hsign, hpercent, hc]

theorem step_colon (hat : a.atEnd = false) (hroom : a.colons < maxColons) :
    a.step ':' = .ok { a with colons := a.colons + 1 } := by
  obtain ⟨colons, opened, closed, percent, atEnd⟩ := a
  obtain rfl : atEnd = false := hat
  have hroom : ¬ colons ≥ maxColons := Nat.not_le.mpr hroom
  simp [step, hroom]

theorem foldlM_step (hat : a.atEnd = false)
    (h : ∀ c ∈ cs, c = ':' ∨ (Url.isNameChar c = true ∧ isAuthorityChar c = true))
    (hroom : a.colons + cs.count ':' ≤ maxColons) :
    cs.foldlM step a = .ok { a with colons := a.colons + cs.count ':' } := by
  induction cs generalizing a with
  | nil => rfl
  | cons c rest ih =>
    have hrest := fun d hd => h d (List.mem_cons_of_mem c hd)
    rw [List.foldlM_cons]
    rcases h c List.mem_cons_self with rfl | ⟨hname, hc⟩
    · rw [List.count_cons_self] at hroom ⊢
      rw [step_colon hat (by omega)]
      have hcount : a.colons + 1 + rest.count ':' = a.colons + (rest.count ':' + 1) := by omega
      have hrec := @ih { a with colons := a.colons + 1 } hat hrest (by simp only; omega)
      rw [hcount] at hrec
      exact hrec
    · have hne : c ≠ ':' := (Url.isNameChar_iff.mp hname).2.1
      rw [List.count_cons_of_ne hne] at hroom ⊢
      rw [step_of_isNameChar hat hname hc]
      exact ih hat hrest hroom

/-- What has been seen of an authority that may end here. -/
def Complete (a : Authority) : Prop :=
  a.opened = a.closed ∧ a.colons ≤ 1 ∧ a.atEnd = false ∧ a.percent = false

theorem foldlM_host (h : Url.HostForm cs) (hchars : ∀ c ∈ cs, isAuthorityChar c = true) :
    ∃ a : Authority, cs.foldlM step {} = .ok a ∧ a.Complete ∧ a.colons = 0 := by
  cases h with
  | name hne h =>
    have hcount : cs.count ':' = 0 :=
      List.count_eq_zero.mpr fun hmem => (Url.isNameChar_iff.mp (h _ hmem)).2.1 rfl
    have hfold := foldlM_step (a := {}) rfl (fun c hc => Or.inr ⟨h c hc, hchars c hc⟩)
      (by rw [hcount]; exact Nat.zero_le _)
    exact ⟨_, hfold, ⟨rfl, by simp [hcount], rfl, rfl⟩, by simp [hcount]⟩
  | @pieces cs h hcolons =>
    have hall : ∀ c ∈ Ipv6.pieceChars,
        (c == ':' || (Url.isNameChar c && isAuthorityChar c)) = true :=
      List.all_eq_true.mp (by decide)
    have hpiece : ∀ c ∈ Ipv6.pieceChars,
        c = ':' ∨ (Url.isNameChar c = true ∧ isAuthorityChar c = true) := by simpa using hall
    have hfold := foldlM_step (a := { opened := true }) rfl (fun c hc => hpiece c (h c hc))
      (by rw [Nat.zero_add]; exact hcolons)
    refine ⟨{ opened := true, closed := true }, ?_, ⟨rfl, Nat.zero_le _, rfl, rfl⟩, rfl⟩
    rw [List.foldlM_cons]
    change (cs ++ [']']).foldlM step { opened := true } = _
    rw [List.foldlM_append, hfold]
    rfl

theorem foldlM_authority (h : Url.AuthorityForm cs) (hchars : ∀ c ∈ cs, isAuthorityChar c = true) :
    ∃ a : Authority, cs.foldlM step {} = .ok a ∧ a.Complete := by
  cases h with
  | host h =>
    obtain ⟨a, hfold, hcomplete, -⟩ := foldlM_host h hchars
    exact ⟨a, hfold, hcomplete⟩
  | @hostPort host port h hport =>
    obtain ⟨a, hfold, ⟨hbrackets, -, hat, hpercent⟩, hcolons⟩ :=
      foldlM_host h fun c hc => hchars c (List.mem_append_left _ hc)
    have hdigit : ∀ c ∈ port, Url.isNameChar c = true :=
      fun c hc => isNameChar_of_isDigit (hport c hc)
    have hcount : (':' :: port).count ':' = 1 := by
      rw [List.count_cons_self, List.count_eq_zero.mpr]
      exact fun hmem => (Url.isNameChar_iff.mp (hdigit _ hmem)).2.1 rfl
    have hmember : ∀ c ∈ ':' :: port,
        c = ':' ∨ (Url.isNameChar c = true ∧ isAuthorityChar c = true) :=
      fun c hc => (List.mem_cons.mp hc).imp id fun hc =>
        ⟨hdigit c hc, hchars c (List.mem_append_right _ (List.mem_cons_of_mem _ hc))⟩
    have hbehind := foldlM_step hat hmember (by rw [hcount, hcolons]; decide)
    rw [hcount, hcolons] at hbehind
    refine ⟨{ a with colons := 0 + 1 }, ?_, ⟨hbrackets, le_rfl, hat, hpercent⟩⟩
    rw [List.foldlM_append, hfold]
    exact hbehind

/-- A character that may not stand in an authority is refused, or it is a percent sign, which is not
forgotten. -/
theorem isAuthorityChar_of_foldlM (h : cs.foldlM step a = .ok b)
    (hcs : ∀ c ∈ cs, c ≠ '@' ∧ c ≠ ']') (hb : b.percent = false) :
    a.percent = false ∧ ∀ c ∈ cs, isAuthorityChar c = true := by
  induction cs generalizing a with
  | nil =>
    obtain rfl := Except.ok.inj h
    exact ⟨hb, List.forall_mem_nil _⟩
  | cons c rest ih =>
    rw [List.foldlM_cons] at h
    obtain ⟨a', hstep, h⟩ := Url.bind_eq_ok h
    obtain ⟨ha', hrest⟩ := ih h fun d hd => hcs d (List.mem_cons_of_mem c hd)
    obtain ⟨hat, hclose⟩ := hcs c List.mem_cons_self
    rw [List.forall_mem_cons]
    simp only [step] at hstep
    split_ifs at hstep with hcolon hfull hopen hbad hpercent hc
    · obtain rfl := Except.ok.inj hstep
      exact ⟨ha', by rw [hcolon]; rfl, hrest⟩
    · obtain rfl := Except.ok.inj hstep
      exact ⟨ha', by rw [hopen]; rfl, hrest⟩
    · obtain rfl := Except.ok.inj hstep
      cases ha'
    · obtain rfl := Except.ok.inj hstep
      exact ⟨ha', hc, hrest⟩

theorem isAuthorityChar_pieces (h : ∀ c ∈ cs, c ∈ Ipv6.pieceChars) :
    ∀ c ∈ '[' :: (cs ++ [']']), isAuthorityChar c = true := by
  have hpiece : ∀ c ∈ Ipv6.pieceChars, isAuthorityChar c = true :=
    List.all_eq_true.mp (by decide)
  intro c hc
  rcases List.mem_cons.mp hc with rfl | hc
  · rfl
  · rcases List.mem_append.mp hc with hc | hc
    · exact hpiece c (h c hc)
    · rw [List.mem_singleton.mp hc]
      rfl

theorem ne_of_isNameChar {c : Char} (h : Url.isNameChar c = true) : c ≠ '@' ∧ c ≠ ']' := by
  obtain ⟨hhost, -, -, hclose⟩ := Url.isNameChar_iff.mp h
  exact ⟨(Url.isHostChar_iff.mp hhost).2.2.2.2.1, hclose⟩

theorem isAuthorityChar_of_authority (h : Url.AuthorityForm cs) (hfold : cs.foldlM step {} = .ok b)
    (hb : b.percent = false) : ∀ c ∈ cs, isAuthorityChar c = true := by
  cases h with
  | host h =>
    cases h with
    | name hne h =>
      exact (isAuthorityChar_of_foldlM hfold (fun c hc => ne_of_isNameChar (h c hc)) hb).2
    | pieces h hcolons => exact isAuthorityChar_pieces h
  | @hostPort host port h hport =>
    have hdigit : ∀ c ∈ port, Url.isNameChar c = true :=
      fun c hc => isNameChar_of_isDigit (hport c hc)
    cases h with
    | name hne h =>
      refine (isAuthorityChar_of_foldlM hfold (fun c hc => ?_) hb).2
      rcases List.mem_append.mp hc with hc | hc
      · exact ne_of_isNameChar (h c hc)
      · rcases List.mem_cons.mp hc with rfl | hc
        · decide
        · exact ne_of_isNameChar (hdigit c hc)
    | pieces h hcolons =>
      intro c hc
      rcases List.mem_append.mp hc with hc | hc
      · exact isAuthorityChar_pieces h c hc
      · rcases List.mem_cons.mp hc with rfl | hc
        · rfl
        · simp [isAuthorityChar, Char.isAlphanum, hport c hc]

end Authority

variable {authority path : List Char}

theorem endsAuthority_of_mem (h : Url.AuthorityForm authority) :
    ∀ c ∈ authority, endsAuthority c = false := by
  intro c hc
  obtain ⟨-, hsign, hslash, hmark, -⟩ := Url.isHostChar_iff.mp (h.isHostChar c hc)
  simp [endsAuthority, hsign, hslash, hmark]

/-- An authority of an address is read as that of a target exactly if all its characters may stand
there. -/
theorem readAuthority_append_iff (h : Url.AuthorityForm authority) (hpath : path.head? = some '/') :
    readAuthority (authority ++ path) = .ok (authority, path) ↔
      ∀ c ∈ authority, isAuthorityChar c = true := by
  have hgoes : ∀ c ∈ authority, (!endsAuthority c) = true :=
    fun c hc => by rw [endsAuthority_of_mem h c hc]; rfl
  obtain ⟨tail, rfl⟩ := exists_tail hpath
  have htake : (authority ++ '/' :: tail).takeWhile (fun c => !endsAuthority c) = authority := by
    rw [List.takeWhile_append_of_pos hgoes]
    simp [endsAuthority]
  have hdrop : (authority ++ '/' :: tail).dropWhile (fun c => !endsAuthority c) = '/' :: tail := by
    rw [List.dropWhile_append_of_pos hgoes]
    simp [endsAuthority]
  unfold readAuthority
  rw [htake, hdrop]
  constructor
  · intro hread
    obtain ⟨a, hfold, hread⟩ := Url.bind_eq_ok hread
    split_ifs at hread with hbad
    have hpercent : a.percent = false := by
      by_contra hset
      exact hbad (by simp [hset])
    exact Authority.isAuthorityChar_of_authority h hfold hpercent
  · intro hchars
    obtain ⟨a, hfold, hbrackets, hcolons, hat, hpercent⟩ := Authority.foldlM_authority h hchars
    have hfine :
        ¬ (a.opened != a.closed || decide (a.colons > 1) || a.atEnd || a.percent) = true := by
      simp [hbrackets, hat, hpercent, hcolons]
    simp only [hfold, bind, Except.bind]
    rw [if_neg hfine]
    rfl

/-! ## Full addresses -/

variable {scheme : List Char}

theorem authority_ne_nil (h : Url.AuthorityForm authority) : authority ≠ [] := by
  have hhost : ∀ {host}, Url.HostForm host → host ≠ [] := by
    rintro host (⟨hne, -⟩ | -)
    · exact hne
    · exact List.cons_ne_nil _ _
  cases h with
  | host h => exact hhost h
  | hostPort h => exact List.append_ne_nil_of_left_ne_nil (hhost h) _

/-- A full address is a target exactly if its scheme and its authority can be those of a target. -/
theorem parse_absolute_iff (hscheme : ∀ c ∈ scheme, isSchemeChar c = true)
    (hlower : ∀ c ∈ scheme, c.toLower = c) (hauthority : Url.AuthorityForm authority)
    (hpath : path.head? = some '/') {read : String × Option String}
    (hread : readPath path = .ok read)
    (hlength : (String.ofList (absolute scheme authority path)).utf8ByteSize ≤ maxLength) :
    (∃ u, parse (String.ofList (absolute scheme authority path)) = .ok u) ↔
      SchemeFits (String.ofList scheme) ∧ ∀ c ∈ authority, isAuthorityChar c = true := by
  obtain ⟨tail, rfl⟩ := exists_tail hpath
  have hne : '/' :: tail ≠ [] := List.cons_ne_nil _ _
  rw [parse_absolute_eq hscheme, if_neg (Nat.not_lt.mpr hlength),
    ← readAuthority_append_iff hauthority hpath]
  have hgiven := @readScheme_absolute_eq _ authority _ hscheme hlower hne
  constructor
  · rintro ⟨u, hfull⟩
    rcases readFull_eq_ok hfull with ⟨hnone, -⟩ | ⟨_, _, _, _, hsome, hbehind, -⟩
    · rw [hgiven] at hnone
      split_ifs at hnone
      cases hnone
    · rw [hgiven] at hsome
      split_ifs at hsome with hfits
      obtain ⟨rfl, rfl⟩ := Prod.mk.inj (Option.some.inj (Except.ok.inj hsome))
      obtain rfl := readAuthority_absolute (endsAuthority_of_mem hauthority) hpath hbehind
      exact ⟨hfits, hbehind⟩
  · rintro ⟨hfits, hbehind⟩
    refine ⟨{ scheme := some (String.ofList scheme)
              authority := some (String.ofList authority)
              path := if read.1 = "" then "/" else read.1
              query := read.2 }, ?_⟩
    unfold readFull
    simp only [hgiven, if_pos hfits, hbehind, hread, bind, Except.bind,
      if_neg (authority_ne_nil hauthority)]
    rfl

end Gatehouse.Uri
