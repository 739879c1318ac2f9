import Gatehouse.Gateway.Server
import Gatehouse.Proofs.Gateway.Engine
import Gatehouse.Proofs.Routing.Director

/-!
# The gateway's own headers on their way out

The token, the name of the backend and the empty name of the client's program are set before the
headers of the connection are taken off. So what the client lists in a `Connection` header goes, even
if the gateway has set it, and nothing but that goes.
-/

namespace Gatehouse

variable {σ : Type}

/-- Identities have to do with one header only. -/
theorem Engine.values_assertIdentity (dir : Directory σ) (e : Engine) (claims : Option Claims)
    {headers hs : Headers} {s : RunState σ} (h : (e.assertIdentity dir claims headers s).1 = .ok hs) :
    (∀ name, name ≠ .accessToken → hs.values name = headers.values name) ∧
      ∀ m c, e.minter = some m → claims = some c →
        ∃ token, (Assertion.tokenFor dir m c s).1 = .ok token ∧
          hs.values .accessToken = [Utf8.encode token] := by
  cases hm : e.minter with
  | none =>
    rw [assertIdentity_of_none dir e claims hm] at h
    obtain rfl := Except.ok.inj h
    exact ⟨fun name hn => by rw [Headers.values_remove, if_neg (Ne.symm hn)], nofun⟩
  | some m =>
    rw [assertIdentity_of_minter dir e claims hm] at h
    cases claims with
    | none =>
      obtain rfl := Except.ok.inj h
      exact ⟨fun name hn => by rw [Headers.values_remove, if_neg (Ne.symm hn)], nofun⟩
    | some c =>
      rw [Assertion.attach_some] at h
      cases ht : (Assertion.tokenFor dir m c s).1 with
      | error fault =>
        rw [ht] at h
        cases h
      | ok token =>
        rw [ht] at h
        obtain rfl := Except.ok.inj h
        constructor
        · intro name hn
          rw [Headers.values_set, if_neg (Ne.symm hn), Headers.values_remove, if_neg (Ne.symm hn)]
        · rintro m' c' hm' hc'
          cases hm'
          cases hc'
          exact ⟨token, ht, by rw [Headers.values_set, if_pos rfl]⟩

namespace Server

theorem values_outgoing (hs : Headers) {name : HeaderName} (hname : name ≠ ⟨"accept"⟩) :
    (outgoing hs).values name =
      if name ∈ HopByHop.listed hs ∨ name ∈ HopByHop.fixedNames then [] else hs.values name := by
  rw [← HopByHop.values_strip]
  unfold outgoing
  by_cases haccept : (HopByHop.strip hs).has ⟨"accept"⟩
  · simp only [haccept, ↓reduceIte]
  · simp only [haccept, Bool.false_eq_true, ↓reduceIte]
    rw [Headers.values_set, if_neg (Ne.symm hname)]

/-- A header that was set for a request is given to the client, unless the request lists it. -/
def Passes (r : Request) (given : Headers) (name : HeaderName) (values : List Bytes) : Prop :=
  given.values name = if name ∈ HopByHop.listed r.headers then [] else values

/-- Each header that the gateway sets itself is given to the client with its one value, unless the
request lists it; then it is not given at all. -/
theorem own_headers_passed (net : Network σ) (dir : Directory σ) (e : Engine)
    (claims : Option Claims) (r : Request) (s : RunState σ) {q : Request}
    (h : (e.prepare dir claims r s).1 = .ok q) :
    let given := outgoing q.headers
    e.handle dir (forward net) claims r s =
        (e.prepare dir claims r s).2.exchange (relay net { q with headers := given }) ∧
      (∀ m c, e.minter = some m → claims = some c →
        ∃ token, (Assertion.tokenFor dir m c s).1 = .ok token ∧
          Passes r given .accessToken [Utf8.encode token]) ∧
      (∃ policy d, (e.router.select dir claims r.uri
          (e.assertIdentity dir claims r.headers s).2).1 = (policy, some d) ∧
        (d.virtualHost = true → Passes r given .host [Utf8.encode d.authority])) ∧
      (r.headers.values .userAgent = [] → Passes r given .userAgent [[]]) := by
  intro given
  obtain ⟨headers, policy, d, hassert, hselect, happly⟩ := Engine.prepare_eq_ok dir e claims h
  obtain ⟨hothers, htoken⟩ := Engine.values_assertIdentity dir e claims hassert
  -- neither signing nor directing has to do with what the request lists
  have hlisted : HopByHop.listed q.headers = HopByHop.listed r.headers := by
    refine HopByHop.listed_congr ?_
    rw [Director.values_apply_of_ne happly (by decide) (by decide)]
    exact hothers _ (by decide)
  have hpasses : ∀ (name : HeaderName) (values : List Bytes), name ≠ ⟨"accept"⟩ →
      name ∉ HopByHop.fixedNames → q.headers.values name = values → Passes r given name values := by
    intro name values haccept hfixed hq
    rw [Passes, values_outgoing _ haccept, hlisted, hq]
    simp only [hfixed, or_false]
  refine ⟨Engine.handle_of_prepare dir e claims (forward net) h, fun m c hm hc => ?_,
    ⟨policy, d, hselect, fun hvirtual => ?_⟩, fun hnone => ?_⟩
  · obtain ⟨token, ht, hone⟩ := htoken m c hm hc
    refine ⟨token, ht, hpasses _ _ (by decide) (by decide) ?_⟩
    rw [Director.values_apply_of_ne happly (by decide) (by decide)]
    exact hone
  · refine hpasses _ _ (by decide) (by decide) ?_
    rw [Director.values_apply happly, if_pos ⟨hvirtual, rfl⟩]
  · refine hpasses _ _ (by decide) (by decide) ?_
    have hagent : headers.values .userAgent = [] := (hothers _ (by decide)).trans hnone
    have hne : HeaderName.userAgent ≠ HeaderName.host := by decide
    rw [Director.values_apply happly, if_neg fun hn => hne hn.2, if_pos ⟨rfl, hagent⟩]

def oneUser : Directory Unit where
  list _ _ := pure (.ok [{ id := "1", mail := "a@x.com", enabled := true }])
  create _ := pure (.error (.undecodable ""))
  get _ := pure (.ok none)
  roles _ := pure (.ok [])

def userClaims : Claims := { email := "a@x.com" }

/-- A backend that is told its own name. -/
def namedBackend : Director where
  backend := "http://b"
  scheme := "http"
  authority := "b"
  basePath := "/"
  baseQuery := ""
  virtualHost := true

/-- An engine that signs requests and sends all of them to one backend. -/
def signingEngine : Engine where
  router := ⟨⟨[("default", { root := some namedBackend })]⟩, .fixed "default"⟩
  minter := some ⟨"s3cr3t", by decide⟩

/-- A request that lists what the gateway sets. -/
def listingRequest : Request where
  method := .get
  uri := { path := "/" }
  headers := [(.connection, Utf8.encode "X-Access-Token, Host, User-Agent")]

def freshState : RunState Unit := { cache := .empty 16 60000, outside := () }

theorem exists_prepare_signingEngine (headers : Headers) :
    ∃ q, (signingEngine.prepare oneUser (some userClaims)
      { method := .get, uri := { path := "/" }, headers } freshState).1 = .ok q := by
  obtain ⟨token, t, htoken⟩ : ∃ token t,
      Assertion.tokenFor oneUser ⟨"s3cr3t", by decide⟩ userClaims freshState = (.ok token, t) :=
    ⟨_, _, rfl⟩
  obtain ⟨ks, hks⟩ : ∃ ks, namedBackend.headers
      ((headers.remove .accessToken).set .accessToken (Utf8.encode token)) = .ok ks := ⟨_, rfl⟩
  obtain ⟨uri, huri⟩ : ∃ uri, namedBackend.target "/" "" = .ok uri := ⟨_, rfl⟩
  rw [Engine.prepare_eq, Engine.assertIdentity_of_minter _ _ _ rfl, Assertion.attach_some, htoken]
  simp only [Except.map, Except.mapError, Engine.direct_eq, Router.select_eq]
  change ∃ q, (namedBackend.apply _).mapError _ = .ok q
  simp only [Director.apply_eq_bind, Option.getD_none, huri, hks]
  exact ⟨_, rfl⟩

/-- A request leaves without the token that was minted for it, and without the other headers that
were set, only because the client listed them. -/
theorem own_headers_not_passed :
    ∃ q token,
      (signingEngine.prepare oneUser (some userClaims) listingRequest freshState).1 = .ok q ∧
      (Assertion.tokenFor oneUser ⟨"s3cr3t", by decide⟩ userClaims freshState).1 = .ok token ∧
      (outgoing q.headers).values .accessToken = [] ∧ (outgoing q.headers).values .host = [] ∧
      (outgoing q.headers).values .userAgent = [] := by
  obtain ⟨q, hq⟩ : ∃ q,
      (signingEngine.prepare oneUser (some userClaims) listingRequest freshState).1 = .ok q :=
    exists_prepare_signingEngine _
  obtain ⟨-, htoken, ⟨policy, d, hselect, hhost⟩, hagent⟩ :=
    own_headers_passed .unreachable oneUser signingEngine (some userClaims) listingRequest
      freshState hq
  have hlisted : HopByHop.listed listingRequest.headers =
      [.accessToken, .host, .userAgent] := by decide +kernel
  obtain ⟨token, htoken, haccess⟩ := htoken _ _ rfl rfl
  have hd : d = namedBackend := by
    have hsome : some namedBackend = some d := congrArg Prod.snd hselect
    exact (Option.some.inj hsome).symm
  have hhost := hhost (by rw [hd]; rfl)
  have hagent := hagent rfl
  simp only [Passes, hlisted] at haccess hhost hagent
  exact ⟨q, token, hq, htoken, haccess, hhost, hagent⟩

end Server

end Gatehouse
