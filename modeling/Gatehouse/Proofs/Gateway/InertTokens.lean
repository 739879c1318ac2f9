import Gatehouse.Proofs.Gateway.OwnHeaders

/-!
# Tokens that clients bring along

A token that a client brings along is taken off before anything else is done. Two requests that differ
in such tokens only therefore fare alike: the same calls are made, the same state is reached, and
either the same fault comes of both or two requests that no backend can tell apart.
-/

namespace Gatehouse

variable {σ : Type} {α ε : Type}

/-- The same values under each name. Only the values of one name are in an order. -/
def Headers.Alike (hs ks : Headers) : Prop := ∀ name, hs.values name = ks.values name

namespace Request

/-- Requests that nobody who receives them can tell apart. -/
structure Alike (q r : Request) : Prop where
  method : q.method = r.method
  uri : q.uri = r.uri
  headers : q.headers.Alike r.headers
  body : q.body = r.body

/-- Requests that are alike, apart from the tokens they bring along. -/
structure AlikeButTokens (q r : Request) : Prop where
  method : q.method = r.method
  uri : q.uri = r.uri
  headers : ∀ name, name ≠ .accessToken → q.headers.values name = r.headers.values name
  body : q.body = r.body

end Request

/-- Two runs that end in the same state, with the same fault or with related results. -/
inductive Agree (related : α → α → Prop) :
    Except ε α × RunState σ → Except ε α × RunState σ → Prop
  | fault (e : ε) (t : RunState σ) : Agree related (.error e, t) (.error e, t)
  | result {a b : α} (h : related a b) (t : RunState σ) : Agree related (.ok a, t) (.ok b, t)

namespace Headers

variable {hs ks : Headers}

theorem Alike.set (h : hs.Alike ks) (name : HeaderName) (value : Bytes) :
    (hs.set name value).Alike (ks.set name value) := by
  intro other
  rw [values_set, values_set, h other]

theorem alike_remove {name : HeaderName}
    (h : ∀ other, other ≠ name → hs.values other = ks.values other) :
    (hs.remove name).Alike (ks.remove name) := by
  intro other
  rw [values_remove, values_remove]
  split_ifs with hname
  · rfl
  · exact h other (Ne.symm hname)

end Headers

/-- Whether headers can be rewritten is up to the director, and not to the headers. -/
theorem Director.headers_fails_or_not (d : Director) :
    (∃ fault, ∀ hs, d.headers hs = .error fault) ∨ ∀ hs, ∃ ks, d.headers hs = .ok ks := by
  by_cases hbad : d.virtualHost = true ∧
      ¬ (Utf8.encode d.authority).all HeaderValue.isAllowed = true
  · obtain ⟨hvirtual, hbad⟩ := hbad
    refine Or.inl ⟨.invalidTarget d.authority Headers.Fault.badValue.message, fun hs => ?_⟩
    simp only [headers, hvirtual, hbad, ↓reduceIte]
    rfl
  · refine Or.inr fun hs => ?_
    by_cases hvirtual : d.virtualHost = true
    · have hgood := not_not.mp fun hnot => hbad ⟨hvirtual, hnot⟩
      simp only [headers, hvirtual, hgood, ↓reduceIte]
      exact ⟨_, rfl⟩
    · simp only [headers, hvirtual]
      exact ⟨_, rfl⟩

namespace Engine

variable (dir : Directory σ) (e : Engine) (claims : Option Claims) {q r : Request}

theorem agree_apply (d : Director) (h : q.Alike r) (t : RunState σ) :
    Agree Request.Alike ((d.apply q).mapError RoutingError.toGateway, t)
      ((d.apply r).mapError RoutingError.toGateway, t) := by
  have htarget : d.target q.uri.path (q.uri.query.getD "") =
      d.target r.uri.path (r.uri.query.getD "") := by rw [h.uri]
  simp only [Director.apply_eq_bind, bind, Except.bind, htarget]
  cases d.target r.uri.path (r.uri.query.getD "") with
  | error fault => exact .fault _ t
  | ok uri =>
    rcases d.headers_fails_or_not with ⟨fault, hfails⟩ | hgoes
    · simp only [hfails]
      exact .fault _ t
    · obtain ⟨hs, hhs⟩ := hgoes q.headers
      obtain ⟨ks, hks⟩ := hgoes r.headers
      simp only [hhs, hks]
      refine .result ⟨h.method, rfl, fun name => ?_, h.body⟩ t
      rw [Director.values_headers hhs, Director.values_headers hks, h.headers name,
        h.headers .userAgent]

theorem agree_direct (h : q.Alike r) (s : RunState σ) :
    Agree Request.Alike (e.direct dir claims q s) (e.direct dir claims r s) := by
  rw [direct_eq, direct_eq, h.uri]
  rcases e.router.select dir claims r.uri s with ⟨⟨policy, _ | d⟩, t⟩
  · exact .fault _ t
  · exact agree_apply d h t

theorem agree_assertIdentity {hs ks : Headers}
    (h : ∀ name, name ≠ .accessToken → hs.values name = ks.values name) (s : RunState σ) :
    Agree Headers.Alike (e.assertIdentity dir claims hs s) (e.assertIdentity dir claims ks s) := by
  have hclean := Headers.alike_remove h
  cases hm : e.minter with
  | none =>
    rw [assertIdentity_of_none dir e claims hm, assertIdentity_of_none dir e claims hm]
    exact .result hclean s
  | some m =>
    rw [assertIdentity_of_minter dir e claims hm, assertIdentity_of_minter dir e claims hm]
    cases claims with
    | none => exact .result hclean s
    | some c =>
      simp only [Assertion.attach_some]
      rcases Assertion.tokenFor dir m c s with ⟨fault | token, t⟩
      · exact .fault _ t
      · exact .result (hclean.set _ _) t

theorem agree_prepare (h : q.AlikeButTokens r) (s : RunState σ) :
    Agree Request.Alike (e.prepare dir claims q s) (e.prepare dir claims r s) := by
  rw [prepare_eq, prepare_eq]
  generalize hq : e.assertIdentity dir claims q.headers s = x
  generalize hr : e.assertIdentity dir claims r.headers s = y
  have hagree := agree_assertIdentity dir e claims h.headers s
  rw [hq, hr] at hagree
  cases hagree with
  | fault fault t => exact .fault fault t
  | @result hs ks halike t =>
    have hclean : Request.Alike { q with headers := hs } { r with headers := ks } :=
      ⟨h.method, h.uri, halike, h.body⟩
    exact agree_direct dir e claims hclean t

/-- Nothing is left of tokens that clients bring along: where the other headers are the same, in the
same order, so is everything else. -/
theorem prepare_congr (h : q.AlikeButTokens r)
    (hclean : q.headers.remove .accessToken = r.headers.remove .accessToken) (s : RunState σ) :
    e.prepare dir claims q s = e.prepare dir claims r s := by
  have hassert : e.assertIdentity dir claims q.headers = e.assertIdentity dir claims r.headers := by
    unfold assertIdentity
    rw [hclean]
  have hrequest : ∀ headers, { q with headers } = { r with headers } := by
    obtain ⟨method, uri, hs, body⟩ := q
    obtain ⟨rfl, rfl, -, rfl⟩ := h
    exact fun _ => rfl
  simp only [prepare_eq, hassert, hrequest]

theorem values_accessToken_of_none (hm : e.minter = none) {s : RunState σ}
    (h : (e.prepare dir claims r s).1 = .ok q) : q.headers.values .accessToken = [] := by
  obtain ⟨headers, policy, d, hassert, -, happly⟩ := prepare_eq_ok dir e claims h
  rw [assertIdentity_of_none dir e claims hm] at hassert
  obtain rfl := Except.ok.inj hassert
  rw [Director.values_apply_of_ne happly (by decide) (by decide), Headers.values_remove,
    if_pos rfl]

/-- Requests that are alike apart from the tokens they bring along fare alike: with the same fault, or
sent on alike, and in either case in the same state. If tokens are not minted, what is sent on has
none. -/
theorem tokens_inert (h : q.AlikeButTokens r) (s : RunState σ) :
    (∃ fault t, ∀ backends, e.handle dir backends claims q s = (.error fault, t) ∧
        e.handle dir backends claims r s = (.error fault, t)) ∨
      ∃ q' r' t, q'.Alike r' ∧
        (∀ backends, e.handle dir backends claims q s = RunState.exchange t (backends q') ∧
          e.handle dir backends claims r s = t.exchange (backends r')) ∧
        (q.headers.remove .accessToken = r.headers.remove .accessToken → q' = r') ∧
        (e.minter = none →
          q'.headers.values .accessToken = [] ∧ r'.headers.values .accessToken = []) := by
  simp only [handle_eq]
  generalize hq : e.prepare dir claims q s = x
  generalize hr : e.prepare dir claims r s = y
  have hagree := agree_prepare dir e claims h s
  rw [hq, hr] at hagree
  cases hagree with
  | fault fault t => exact Or.inl ⟨fault, t, fun _ => ⟨rfl, rfl⟩⟩
  | @result q' r' halike t =>
    have hq := congrArg Prod.fst hq
    have hr := congrArg Prod.fst hr
    refine Or.inr ⟨q', r', t, halike, fun _ => ⟨rfl, rfl⟩, fun hclean => ?_, fun hm => ?_⟩
    · rw [prepare_congr dir e claims h hclean, hr] at hq
      exact (Except.ok.inj hq).symm
    · exact ⟨values_accessToken_of_none dir e claims hm hq,
        values_accessToken_of_none dir e claims hm hr⟩

/-- A request with tokens of the client's own making. -/
def forgedRequest : Request where
  method := .get
  uri := { path := "/" }
  headers := [(.accessToken, Utf8.encode "forged"), (.accessToken, Utf8.encode "again")]

def honestRequest : Request := { forgedRequest with headers := [] }

/-- Both requests are sent on, and they are one request by then. -/
theorem tokens_inert_of_forged :
    forgedRequest.AlikeButTokens honestRequest ∧
      ∃ (q : Request) (t : RunState Unit), ∀ backends,
        Server.signingEngine.handle Server.oneUser backends (some Server.userClaims) forgedRequest
            Server.freshState = t.exchange (backends q) ∧
          Server.signingEngine.handle Server.oneUser backends (some Server.userClaims) honestRequest
            Server.freshState = t.exchange (backends q) := by
  have halike : forgedRequest.AlikeButTokens honestRequest := by
    refine ⟨rfl, rfl, fun name hname => ?_, rfl⟩
    simp [forgedRequest, honestRequest, Headers.values, Ne.symm hname]
  obtain ⟨fault, t, hfault⟩ | ⟨q, q', t, -, hsent, hsame, -⟩ :=
    tokens_inert Server.oneUser Server.signingEngine (some Server.userClaims) halike
      Server.freshState
  · -- a backend that always answers is heard
    have hheard : ∃ a, (Server.signingEngine.handle Server.oneUser
        (fun _ => pure (.ok { status := 200 })) (some Server.userClaims) forgedRequest
        Server.freshState).1 = .ok a := by
      obtain ⟨q, hq⟩ := Server.exists_prepare_signingEngine forgedRequest.headers
      exact ⟨_, congrArg Prod.fst (handle_of_prepare _ _ _ _ hq)⟩
    obtain ⟨a, ha⟩ := hheard
    rw [(hfault _).1] at ha
    cases ha
  · obtain rfl := hsame rfl
    exact ⟨halike, q, t, hsent⟩

end Engine

end Gatehouse
