import Gatehouse.Proofs.Url.Host
import Gatehouse.Proofs.Url.Path

/-!
# What is known of an address that was read

The scheme is in lower case, the host has one of the forms in which hosts are written, and if there is
a host, then the path is empty or begins with a slash. In the schemes of the web the path is in normal
form. Nothing is left in the path behind a host and in the query that has to be escaped there.
-/

namespace Gatehouse.Url

/-- A character of a scheme in its usual form. -/
def IsSchemeChar (c : Char) : Prop :=
  (c.isAlphanum || c == '+' || c == '-' || c == '.') = true ∧ c.toLower = c

instance (c : Char) : Decidable (IsSchemeChar c) := inferInstanceAs (Decidable (_ ∧ _))

/-- A path that cannot run into what is written before it. -/
def SetsApart (path : List Char) : Prop := path = [] ∨ path.head? = some '/'

/-- What holds of every address that was read. -/
structure WellFormed (u : Url) : Prop where
  scheme : ∀ c ∈ u.scheme.toList, IsSchemeChar c
  host : ∀ host, u.host = some host → HostForm host.print.toList
  path : u.host.isSome → SetsApart u.path.toList
  web : SchemeKind.ofName u.scheme = .web → Path.IsNormal u.path.toList
  escapedPath : u.host.isSome → Path.Escaped u.path.toList
  escapedQuery : ∀ q, u.query = some q → ∀ c ∈ q.toList, Escape.query c = false

/-! ## Schemes -/

theorem isSchemeChar_toLower {c : Char}
    (h : (c.isAlphanum || c == '+' || c == '-' || c == '.') = true) : IsSchemeChar c.toLower := by
  have hlt : c.toNat < 128 := by
    have hletter : c.isAlphanum = ((decide (c.val ≥ 65 ∧ c.val ≤ 90) ||
      (decide (c.val ≥ 97) && decide (c.val ≤ 122))) ||
      (decide (c.val ≥ 48) && decide (c.val ≤ 57))) := rfl
    simp only [hletter, Bool.or_eq_true, beq_iff_eq, Bool.and_eq_true, decide_eq_true_eq,
      UInt32.le_iff_toNat_le] at h
    rcases h with ((((⟨-, h⟩ | ⟨-, h⟩) | ⟨-, h⟩) | rfl) | rfl) | rfl
    · exact h.trans_lt (by decide)
    · exact h.trans_lt (by decide)
    · exact h.trans_lt (by decide)
    · decide
    · decide
    · decide
  exact forall_char_of_lt
    (p := fun c => (c.isAlphanum || c == '+' || c == '-' || c == '.') = true →
      IsSchemeChar c.toLower) (by decide +kernel) c hlt h

theorem readScheme_eq_some {cs rest : List Char} {scheme : String}
    (h : readScheme cs = some (scheme, rest)) : ∀ c ∈ scheme.toList, IsSchemeChar c := by
  simp only [readScheme] at h
  split at h
  · split_ifs at h
    obtain ⟨rfl, -⟩ := Prod.mk.inj (Option.some.inj h)
    intro c hc
    rw [String.toList_ofList] at hc
    obtain ⟨d, hd, rfl⟩ := List.mem_map.mp hc
    exact isSchemeChar_toLower (List.all_eq_true.mp List.all_takeWhile d hd)
  · cases h

theorem isSchemeChar_file : ∀ c ∈ "file".toList, IsSchemeChar c := by
  have hall : "file".toList.all (fun c => decide (IsSchemeChar c)) = true := rfl
  exact fun c hc => of_decide_eq_true (List.all_eq_true.mp hall c hc)

/-! ## Paths behind an authority -/

theorem setsApart_finish {kind : SchemeKind} {d : Path.Draft} (h : d.Rooted) :
    SetsApart (d.finish kind) := by
  unfold Path.Draft.finish
  refine Or.inr ?_
  split_ifs
  · rfl
  · rw [List.head?_reverse]
    exact h

theorem setsApart_readAuthorityPath (kind : SchemeKind) (hasHost : Bool) (cs : List Char) :
    SetsApart ((readAuthorityPath kind hasHost cs).1.finish kind) := by
  have hroot : Path.Draft.Rooted ⟨['/'], false⟩ := rfl
  unfold readAuthorityPath
  cases cs with
  | nil =>
    simp only
    split_ifs with hspecial
    · exact setsApart_finish (Path.rooted_read hasHost [] hroot [])
    · obtain rfl : kind = .other := by simpa [SchemeKind.isSpecial] using hspecial
      exact Or.inl rfl
  | cons c rest =>
    simp only
    split_ifs with hspecial hsep hend hslash
    · exact setsApart_finish (Path.rooted_read hasHost [] hroot _)
    · exact setsApart_finish (Path.rooted_read hasHost [] hroot _)
    · obtain rfl : kind = .other := by simpa [SchemeKind.isSpecial] using hspecial
      exact Or.inl rfl
    · obtain rfl : kind = .other := by simpa [SchemeKind.isSpecial] using hspecial
      subst hslash
      rw [Path.read, if_pos (Or.inl rfl)]
      exact setsApart_finish (Path.rooted_read hasHost [] (Path.Draft.rooted_first hasHost) rest)
    · exact setsApart_finish (Path.rooted_read hasHost [] hroot _)

theorem escaped_readAuthorityPath (kind : SchemeKind) (hasHost : Bool) (cs : List Char) :
    Path.Escaped ((readAuthorityPath kind hasHost cs).1.finish kind) := by
  have hnil : Path.Escaped [] := List.forall_mem_nil _
  have hroot : Path.Escaped ['/'] := Path.escaped_cons.mpr ⟨rfl, hnil⟩
  refine Path.Draft.escaped_finish kind ?_
  unfold readAuthorityPath
  cases cs with
  | nil =>
    simp only
    split_ifs
    · exact Path.escaped_read hasHost hroot hnil []
    · exact hnil
  | cons c rest =>
    simp only
    split_ifs
    · exact Path.escaped_read hasHost hroot hnil _
    · exact Path.escaped_read hasHost hroot hnil _
    · exact hnil
    · exact Path.escaped_read hasHost hnil hnil _
    · exact Path.escaped_read hasHost hroot hnil _

theorem isNormal_readAuthorityPath (hasHost : Bool) (cs : List Char) :
    Path.IsNormal ((readAuthorityPath .web hasHost cs).1.finish .web) := by
  have hready : Path.Draft.Ready ⟨['/'], false⟩ := ⟨[], rfl, Path.isNormal_nil⟩
  unfold readAuthorityPath
  cases cs with
  | nil => exact Path.isNormal_read hasHost hready (List.forall_mem_nil _) []
  | cons c rest => exact Path.isNormal_read hasHost hready (List.forall_mem_nil _) _

theorem readTail_eq (kind : SchemeKind) (u : Url) (cs : List Char) :
    ∃ query fragment, readTail kind u cs = { u with query, fragment } := by
  unfold readTail
  split
  · simp only
    split
    · exact ⟨_, _, rfl⟩
    · exact ⟨_, _, rfl⟩
  · exact ⟨_, _, rfl⟩
  · exact ⟨_, _, rfl⟩

theorem escaped_query {set : Char → Bool} (hset : ∀ c, set c = false → Escape.query c = false)
    (cs : List Char) : ∀ c ∈ Escape.chars set cs, Escape.query c = false := by
  have hbyte : ∀ b : UInt8, ∀ c ∈ Escape.byte b, Escape.query c = false := by
    have hdigit : ∀ n < 16, Escape.query (Escape.hexDigit n) = false := by decide
    intro b c hc
    have hb := b.toNat_lt
    simp only [Escape.byte, List.mem_cons, List.not_mem_nil, or_false] at hc
    rcases hc with rfl | rfl | rfl
    · rfl
    · exact hdigit _ (by omega)
    · exact hdigit _ (by omega)
  intro c hc
  obtain ⟨d, -, hc⟩ := List.mem_flatMap.mp hc
  rcases Escape.mem_char hc with ⟨b, hc⟩ | ⟨rfl, hd⟩
  · exact hbyte b c hc
  · exact hset c hd

theorem query_readTail (kind : SchemeKind) (u : Url) (cs : List Char) :
    (readTail kind u cs).query = u.query ∨
      ∃ q, (readTail kind u cs).query = some q ∧ ∀ c ∈ q.toList, Escape.query c = false := by
  have hset : ∀ c, (if kind.isSpecial then Escape.specialQuery else Escape.query) c = false →
      Escape.query c = false := by
    intro c hc
    split_ifs at hc
    · exact (Bool.or_eq_false_iff.mp hc).1
    · exact hc
  unfold readTail
  split
  · simp only
    split
    · exact Or.inr ⟨_, rfl, by simpa using escaped_query hset _⟩
    · exact Or.inr ⟨_, rfl, by simpa using escaped_query hset _⟩
  · exact Or.inl rfl
  · exact Or.inl rfl

theorem WellFormed.readTail {u : Url} (h : u.WellFormed) (kind : SchemeKind) (cs : List Char) :
    (readTail kind u cs).WellFormed := by
  have hquery : ∀ q, (Url.readTail kind u cs).query = some q →
      ∀ c ∈ q.toList, Escape.query c = false := by
    intro q hq
    rcases query_readTail kind u cs with hsame | ⟨q', hq', hescaped⟩
    · exact h.escapedQuery q (hsame ▸ hq)
    · rw [hq'] at hq
      exact Option.some.inj hq ▸ hescaped
  obtain ⟨query, fragment, heq⟩ := readTail_eq kind u cs
  rw [heq] at hquery ⊢
  exact ⟨h.scheme, h.host, h.path, h.web, h.escapedPath, hquery⟩

/-! ## Authorities -/

theorem bind_eq_ok {ε α β : Type} {x : Except ε α} {f : α → Except ε β} {b : β}
    (h : x >>= f = .ok b) : ∃ a, x = .ok a ∧ f a = .ok b := by
  cases x with
  | error e => cases h
  | ok a => exact ⟨a, rfl, h⟩

/-- The host of a text, by the rules of its kind of scheme. -/
def readHost (kind : SchemeKind) (text : List Char) : Except ParseError Host :=
  if kind.isSpecial then if text = [] then .error .emptyHost else webHost text
  else plainHost text

def portBehind : List Char → Except ParseError (Option Nat × List Char)
  | ':' :: rest => readPort 0 false rest
  | rest => .ok (none, rest)

/-- The parts that an address with an authority is made of. -/
theorem readAuthority_eq_ok {scheme : String} {kind : SchemeKind} {cs : List Char} {u : Url}
    (h : readAuthority scheme kind cs = .ok u) :
    ∃ username password text host port rest,
      readUserinfo kind cs = .ok (username, password, text) ∧
      readHost kind (spanHost kind false text).1 = .ok host ∧
      portBehind (spanHost kind false text).2 = .ok (port, rest) ∧
      u = readTail kind
        { scheme, slashes := true, username, password
          host := if host == .name "" then none else some host
          port := if port = defaultPort scheme then none else port
          path := String.ofList ((readAuthorityPath kind true rest).1.finish kind) }
        (readAuthorityPath kind true rest).2 := by
  unfold readAuthority at h
  obtain ⟨⟨username, password, text⟩, huser, h⟩ := bind_eq_ok h
  dsimp -zeta only at h
  extract_lets afterHost at h
  have hhost : readHost kind (spanHost kind false text).1 >>= afterHost = .ok u := by
    unfold readHost
    by_cases hspecial : kind.isSpecial
    · simpa only [hspecial, ↓reduceIte] using h
    · simpa only [hspecial, Bool.false_eq_true, ↓reduceIte] using h
  obtain ⟨host, hhost, h⟩ := bind_eq_ok hhost
  simp -zeta only [afterHost] at h
  extract_lets unnamed afterPort afterCheck at h
  split_ifs at h with hcheck
  · cases h
  · simp -zeta only [afterCheck] at h
    have hport : portBehind (spanHost kind false text).2 >>= afterPort = .ok u := by
      generalize (spanHost kind false text).2 = after at h ⊢
      split at h
      · exact h
      · rename_i hcolon
        rw [portBehind.eq_2 _ hcolon]
        exact h
    obtain ⟨⟨port, rest⟩, hport, h⟩ := bind_eq_ok hport
    simp -zeta only [afterPort] at h
    extract_lets built at h
    split_ifs at h
    · cases h
    · exact ⟨username, password, text, host, port, rest, huser, hhost, hport,
        (Except.ok.inj h).symm⟩

theorem hostForm_readHost {kind : SchemeKind} {text : List Char} {host : Host}
    (h : readHost kind text = .ok host) (hne : host ≠ .name "") : HostForm host.print.toList := by
  unfold readHost at h
  split_ifs at h
  · exact hostForm_webHost h
  · exact hostForm_plainHost h hne

theorem wellFormed_readAuthority {scheme : String} {cs : List Char} {u : Url}
    (hscheme : ∀ c ∈ scheme.toList, IsSchemeChar c)
    (h : readAuthority scheme (SchemeKind.ofName scheme) cs = .ok u) : u.WellFormed := by
  obtain ⟨username, password, text, host, port, rest, -, hhost, -, rfl⟩ := readAuthority_eq_ok h
  refine WellFormed.readTail
    ⟨hscheme, ?_, fun _ => ?_, fun hweb => ?_, fun _ => ?_, fun q hq => by cases hq⟩ _ _
  · intro host' hsome
    simp only at hsome
    split_ifs at hsome with hunnamed
    obtain rfl := Option.some.inj hsome
    exact hostForm_readHost hhost (by simpa using hunnamed)
  · simp only [String.toList_ofList]
    exact setsApart_readAuthorityPath _ true rest
  · simp only at hweb ⊢
    rw [hweb, String.toList_ofList]
    exact isNormal_readAuthorityPath true rest
  · simp only [String.toList_ofList]
    exact escaped_readAuthorityPath _ true rest

/-! ## Files and other schemes -/

theorem wellFormed_fileUrl {host : Option Host} {d : Path.Draft}
    (hhost : ∀ h, host = some h → HostForm h.print.toList)
    (hd : host.isSome → Path.Escaped (d.finish .file)) (rest : List Char) :
    (fileUrl host d rest).WellFormed := by
  refine WellFormed.readTail
    ⟨isSchemeChar_file, ?_, fun _ => ?_, fun hweb => ?_, fun hsome => ?_, fun q hq => by cases hq⟩
    _ _
  · intro h hsome
    simp only at hsome
    split_ifs at hsome
    exact hhost h hsome
  · simp only [String.toList_ofList]
    exact Or.inr rfl
  · have hfile : SchemeKind.ofName "file" ≠ .web := by decide
    exact absurd hweb hfile
  · simp only [String.toList_ofList] at hsome ⊢
    split_ifs at hsome
    · cases hsome
    · exact hd hsome

theorem wellFormed_readFile {cs : List Char} {u : Url} (h : readFile cs = .ok u) :
    u.WellFormed := by
  have hnone : ∀ (d : Path.Draft) rest, (fileUrl none d rest).WellFormed :=
    fun d rest => wellFormed_fileUrl (fun h hsome => by cases hsome) (fun h => by cases h) rest
  unfold readFile at h
  split at h
  · rename_i a b rest
    dsimp only at h
    split_ifs at h with hslashes hdrive hempty
    · obtain rfl := Except.ok.inj h
      exact hnone _ _
    · obtain ⟨host, hhost, h⟩ := bind_eq_ok h
      obtain rfl := Except.ok.inj hhost
      obtain rfl := Except.ok.inj h
      exact hnone _ _
    · obtain ⟨host, hhost, h⟩ := bind_eq_ok h
      obtain rfl := Except.ok.inj h
      refine wellFormed_fileUrl (fun named hsome => ?_)
        (fun _ => escaped_readAuthorityPath .file _ _) _
      cases hweb : webHost (rest.takeWhile fun c => !endsAuthority .file c) with
      | error e =>
        rw [hweb] at hhost
        cases hhost
      | ok found =>
        rw [hweb] at hhost
        obtain rfl := Except.ok.inj hhost
        simp only at hsome
        split_ifs at hsome
        obtain rfl := Option.some.inj hsome
        exact hostForm_webHost hweb
    · obtain rfl := Except.ok.inj h
      exact hnone _ _
    · obtain rfl := Except.ok.inj h
      exact hnone _ _
  · obtain rfl := Except.ok.inj h
    exact hnone _ _

theorem wellFormed_readOther {scheme : String} {cs : List Char} {u : Url}
    (hscheme : ∀ c ∈ scheme.toList, IsSchemeChar c) (hkind : SchemeKind.ofName scheme = .other)
    (h : readOther scheme cs = .ok u) : u.WellFormed := by
  have hplain : ∀ path rest,
      (readTail .other { scheme, slashes := false, path } rest).WellFormed := by
    intro path rest
    refine WellFormed.readTail
      ⟨hscheme, fun host h => ?_, fun h => ?_, fun h => ?_, fun h => ?_, fun q h => ?_⟩ _ _
    · cases h
    · cases h
    · rw [hkind] at h
      cases h
    · cases h
    · cases h
  unfold readOther at h
  split at h
  · rw [← hkind] at h
    exact wellFormed_readAuthority hscheme h
  · obtain rfl := Except.ok.inj h
    exact hplain _ _
  · obtain rfl := Except.ok.inj h
    exact hplain _ _

theorem wellFormed_parse {s : String} {u : Url} (h : parse s = .ok u) : u.WellFormed := by
  unfold parse at h
  split at h
  · cases h
  · rename_i scheme rest hread
    have hscheme := readScheme_eq_some hread
    split at h
    · exact wellFormed_readFile h
    · rename_i hkind
      rw [← hkind] at h
      exact wellFormed_readAuthority hscheme h
    · rename_i hkind
      exact wellFormed_readOther hscheme hkind h

end Gatehouse.Url
