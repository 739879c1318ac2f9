import Gatehouse.Proofs.Http.HopByHop
import Gatehouse.Routing.Director

/-!
# What a director does to headers

A director touches the headers `Host` and `User-Agent` and no others: the first if it has to tell
the backend its own name, the second if the client sent none.
-/

namespace Gatehouse.Director

/-- The headers with the name of the backend, if it is to be told its own. -/
def named (d : Director) (hs : Headers) : Headers :=
  if d.virtualHost then hs.set .host (Utf8.encode d.authority) else hs

theorem headers_eq {d : Director} {hs ks : Headers} (h : d.headers hs = .ok ks) :
    ks = if (d.named hs).has .userAgent then d.named hs else (d.named hs).set .userAgent [] := by
  unfold headers at h
  by_cases hv : d.virtualHost
  · by_cases ha : (Utf8.encode d.authority).all HeaderValue.isAllowed
    · simp only [hv, ha, ↓reduceIte, named] at h ⊢
      exact (Except.ok.inj h).symm
    · simp only [hv, ha, ↓reduceIte] at h
      cases h
  · simp only [hv, named] at h ⊢
    exact (Except.ok.inj h).symm

theorem values_named (d : Director) (hs : Headers) (name : HeaderName) :
    (d.named hs).values name =
      if d.virtualHost ∧ name = .host then [Utf8.encode d.authority] else hs.values name := by
  unfold named
  by_cases hv : d.virtualHost
  · by_cases hn : name = .host
    · simp [hv, hn, Headers.values_set]
    · simp [hv, hn, Headers.values_set, Ne.symm hn]
  · simp [hv]

theorem values_headers {d : Director} {hs ks : Headers} (h : d.headers hs = .ok ks)
    (name : HeaderName) :
    ks.values name =
      if d.virtualHost ∧ name = .host then [Utf8.encode d.authority]
      else if name = .userAgent ∧ hs.values .userAgent = [] then [[]]
      else hs.values name := by
  have hagent : (d.named hs).values .userAgent = hs.values .userAgent := by
    rw [values_named, if_neg (by simp [HeaderName.host, HeaderName.userAgent])]
  have hhost : HeaderName.userAgent ≠ HeaderName.host := by decide
  rw [headers_eq h]
  by_cases hempty : hs.values .userAgent = []
  · have hnone : ¬ (d.named hs).has .userAgent = true := by
      rw [Headers.has_eq_true, hagent]
      exact not_not.mpr hempty
    rw [if_neg hnone, Headers.values_set]
    by_cases hn : name = .userAgent
    · simp [hn, hempty, hhost]
    · simp [hn, Ne.symm hn, values_named]
  · have hsome : (d.named hs).has .userAgent = true := by
      rw [Headers.has_eq_true, hagent]
      exact hempty
    rw [if_pos hsome, values_named]
    simp [hempty]

theorem point_eq (d : Director) (r : Request) :
    d.point r =
      match d.target r.uri.path (r.uri.query.getD "") with
      | .error e => (.error e, r)
      | .ok uri =>
        match d.headers r.headers with
        | .error e => (.error e, { r with uri })
        | .ok headers => (.ok (), { r with uri, headers }) := by
  simp only [point, bind, StateT.bind, get, getThe, MonadStateOf.get, StateT.get, pure]
  cases d.target r.uri.path (r.uri.query.getD "") with
  | error e => rfl
  | ok uri => cases d.headers r.headers <;> rfl

theorem apply_eq_bind (d : Director) (r : Request) :
    d.apply r = do
      let uri ← d.target r.uri.path (r.uri.query.getD "")
      let headers ← d.headers r.headers
      return { r with uri, headers } := by
  simp only [apply, point_eq]
  cases d.target r.uri.path (r.uri.query.getD "") with
  | error e => rfl
  | ok uri => cases d.headers r.headers <;> rfl

theorem apply_eq {d : Director} {r q : Request} (h : d.apply r = .ok q) :
    ∃ uri ks, d.target r.uri.path (r.uri.query.getD "") = .ok uri ∧ d.headers r.headers = .ok ks ∧
      q = { r with uri, headers := ks } := by
  rw [apply_eq_bind] at h
  cases ht : d.target r.uri.path (r.uri.query.getD "") with
  | error e =>
    rw [ht] at h
    cases h
  | ok uri =>
    cases hk : d.headers r.headers with
    | error e =>
      rw [ht, hk] at h
      cases h
    | ok ks =>
      rw [ht, hk] at h
      exact ⟨uri, ks, rfl, rfl, (Except.ok.inj h).symm⟩

theorem values_apply {d : Director} {r q : Request} (h : d.apply r = .ok q) (name : HeaderName) :
    q.headers.values name =
      if d.virtualHost ∧ name = .host then [Utf8.encode d.authority]
      else if name = .userAgent ∧ r.headers.values .userAgent = [] then [[]]
      else r.headers.values name := by
  obtain ⟨uri, ks, -, hk, rfl⟩ := apply_eq h
  exact values_headers hk name

theorem values_apply_of_ne {d : Director} {r q : Request} (h : d.apply r = .ok q)
    {name : HeaderName} (hhost : name ≠ .host) (hagent : name ≠ .userAgent) :
    q.headers.values name = r.headers.values name := by
  rw [values_apply h, if_neg fun hn => hhost hn.2, if_neg fun hn => hagent hn.1]

end Gatehouse.Director
