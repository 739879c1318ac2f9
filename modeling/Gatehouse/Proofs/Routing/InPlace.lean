import Gatehouse.Proofs.Routing.Director
import Gatehouse.Proofs.Routing.Target
import Gatehouse.Proofs.Text.Utf8

/-!
# Rewriting in place

A director writes the target into a request before it knows whether the headers can be written, and
it takes nothing back. A request is nevertheless pointed at the backend altogether or left as it was:
whatever address a backend has, its authority holds characters only that may stand in a header, so once
the target is written nothing fails any more.
-/

namespace Gatehouse

theorem HeaderValue.isAllowed_ofNat {n : Nat} (hlow : 32 ≤ n) (hhigh : n < 127) :
    isAllowed (UInt8.ofNat n) = true := by
  have hbyte := Utf8.toNat_ofNat_of_lt (n := n) (by omega)
  have hne : UInt8.ofNat n ≠ 127 := by
    intro heq
    rw [heq] at hbyte
    have hdelete : (127 : UInt8).toNat = 127 := rfl
    omega
  simp [isAllowed, UInt8.le_iff_toNat_le, hbyte, hlow, hne]

/-- A text that can be the host of an address can be the value of a header. -/
theorem HeaderValue.all_isAllowed_encode {s : String} (h : ∀ c ∈ s.toList, Url.isHostChar c = true) :
    (Utf8.encode s).all isAllowed = true := by
  have hrange : ∀ c ∈ s.toList, 32 < c.toNat ∧ c.toNat < 127 :=
    fun c hc => (Url.isHostChar_iff.mp (h c hc)).1
  rw [Utf8.encode, Utf8.encodeChars_of_ascii fun c hc => (hrange c hc).2.trans (by decide),
    List.all_map, List.all_eq_true]
  intro c hc
  exact isAllowed_ofNat (hrange c hc).1.le (hrange c hc).2

namespace Headers

def besides (hs : Headers) (names : List HeaderName) : Headers := hs.filter (·.1 ∉ names)

theorem besides_set (hs : Headers) {name : HeaderName} {names : List HeaderName}
    (h : name ∈ names) (value : Bytes) : (hs.set name value).besides names = hs.besides names := by
  have hlast : besides [(name, value)] names = [] := by simp [besides, h]
  have hkept : (hs.remove name).besides names = hs.besides names := by
    simp only [besides, remove, List.filter_filter]
    apply List.filter_congr
    intro header _
    by_cases hname : header.1 = name
    · simp [hname, h]
    · simp [hname]
  calc (hs.set name value).besides names
      = (hs.remove name).besides names ++ besides [(name, value)] names := List.filter_append ..
    _ = hs.besides names := by rw [hkept, hlast, List.append_nil]

end Headers

namespace Director

variable {d : Director} {r : Request}

/-- What a request is that points at the backend, as the request was before. -/
structure Pointed (d : Director) (r q : Request) : Prop where
  uri : d.target r.uri.path (r.uri.query.getD "") = .ok q.uri
  host : q.headers.values .host =
    if d.virtualHost then [Utf8.encode d.authority] else r.headers.values .host
  userAgent : q.headers.values .userAgent =
    if r.headers.values .userAgent = [] then [[]] else r.headers.values .userAgent
  others : q.headers.besides [.host, .userAgent] = r.headers.besides [.host, .userAgent]
  method : q.method = r.method
  body : q.body = r.body

theorem besides_headers {hs ks : Headers} (h : d.headers hs = .ok ks) :
    ks.besides [.host, .userAgent] = hs.besides [.host, .userAgent] := by
  have hnamed : (d.named hs).besides [.host, .userAgent] = hs.besides [.host, .userAgent] := by
    unfold named
    split_ifs
    · exact hs.besides_set (by simp) _
    · rfl
  rw [headers_eq h]
  split_ifs
  · exact hnamed
  · rw [Headers.besides_set _ (by simp), hnamed]

theorem exists_headers (hd : d.WellFormed) (hs : Headers) : ∃ ks, d.headers hs = .ok ks := by
  have hname := HeaderValue.all_isAllowed_encode hd.authority.isHostChar
  simp only [headers, hname, ↓reduceIte]
  split_ifs
  · exact ⟨_, rfl⟩
  · exact ⟨_, rfl⟩

theorem pointed_of_headers {u : Uri} {ks : Headers}
    (htarget : d.target r.uri.path (r.uri.query.getD "") = .ok u)
    (hheaders : d.headers r.headers = .ok ks) : d.Pointed r { r with uri := u, headers := ks } where
  uri := htarget
  host := by
    have hne : HeaderName.host ≠ HeaderName.userAgent := by decide
    have hvalues := values_headers hheaders .host
    simpa [hne] using hvalues
  userAgent := by
    have hne : HeaderName.userAgent ≠ HeaderName.host := by decide
    have hvalues := values_headers hheaders .userAgent
    simpa [hne] using hvalues
  others := besides_headers hheaders
  method := rfl
  body := rfl

/-- A director that was made points a request at its backend and touches nothing else of it, or it
fails, as the request has no target, and touches nothing at all. -/
theorem point_all_or_nothing {backend : String} {virtualHost : Bool}
    (hnew : new backend virtualHost = .ok d) (r : Request) :
    (∃ q, d.point r = (.ok (), q) ∧ d.Pointed r q) ∨
      ∃ e, d.point r = (.error e, r) ∧ d.target r.uri.path (r.uri.query.getD "") = .error e := by
  rw [point_eq]
  cases htarget : d.target r.uri.path (r.uri.query.getD "") with
  | error e => exact Or.inr ⟨e, rfl, rfl⟩
  | ok uri =>
    obtain ⟨ks, hheaders⟩ := exists_headers (wellFormed_new hnew) r.headers
    rw [hheaders]
    exact Or.inl ⟨_, rfl, pointed_of_headers htarget hheaders⟩

/-- The director of a backend with a path and a query that is told its own name. -/
def loopback : Director where
  backend := "http://[::1]:8080/api?key=1"
  scheme := "http"
  authority := "[::1]:8080"
  basePath := "/api"
  baseQuery := "key=1"
  virtualHost := true

/-- A request with two values of one name around the host, and with no name of a program. -/
def visit : Request where
  method := .post
  uri := { path := "/items", query := some "page=2" }
  headers := [(⟨"accept"⟩, [97]), (.host, [98]), (⟨"accept"⟩, [99])]
  body := [123]

theorem point_all_or_nothing_of_loopback : new "http://[::1]:8080/api?key=1" true = .ok loopback ∧
    ∃ q, loopback.point visit = (.ok (), q) ∧ loopback.Pointed visit q := by
  have hnew : new "http://[::1]:8080/api?key=1" true = .ok loopback := rfl
  refine ⟨hnew, (point_all_or_nothing hnew visit).resolve_right ?_⟩
  rintro ⟨e, -, hfails⟩
  have hgoes : ∃ u, loopback.target visit.uri.path (visit.uri.query.getD "") = .ok u := ⟨_, rfl⟩
  obtain ⟨u, hu⟩ := hgoes
  cases hu.symm.trans hfails

end Director

end Gatehouse
