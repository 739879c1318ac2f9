import Gatehouse.Proofs.Gateway.Engine
import Gatehouse.Proofs.Identity.Provenance
import Gatehouse.Proofs.Routing.Director

/-!
# Requests that are signed

In every run, a request that is sent on for a user carries one token, for an enabled account that
the directory gave for the user's address, with the roles that this account has now. A request
without a user carries none. What the client sent in that place plays no part.
-/

namespace Gatehouse

variable {σ : Type}

/-! ## Runs of the gateway -/

inductive Act (σ : Type)
  | request (claims : Option Claims) (r : Request)
  | invalidate (email : String)
  /-- Milliseconds go by. -/
  | advance (elapsed : Nat)
  /-- The clock that shows the time of day is set. -/
  | setTime (seconds : Int64)
  /-- The services change by themselves. -/
  | alter (change : σ → σ)

namespace RunState

/-- Before anything has happened, with an empty cache. -/
def begin (size ttl : Nat) (services : σ) (clock : Nat) (seconds : Int64) : RunState (Journal σ) where
  cache := .empty size ttl
  clock
  seconds
  outside := { services, clock, seconds }

variable (dir : Directory σ) (backends : Backends σ) (e : Engine)

def act (s : RunState (Journal σ)) : Act σ → RunState (Journal σ)
  | .request claims r => (e.handle (Journal.directory dir) (Journal.backends backends) claims r s).2
  | .invalidate email => { s with cache := s.cache.invalidate email }
  | .advance elapsed =>
    { s with
      clock := s.clock + elapsed
      outside := { s.outside with clock := s.outside.clock + elapsed } }
  | .setTime seconds => { s with seconds, outside := { s.outside with seconds } }
  | .alter change =>
    { s with outside := { s.outside with services := change s.outside.services } }

def acts (s : RunState (Journal σ)) (as : List (Act σ)) : RunState (Journal σ) :=
  as.foldl (act dir backends e) s

end RunState

/-! ## What a token stands for -/

/-- A token is signed, and says that it is for an enabled account that the directory gave for an
address, with the roles that the account was granted meanwhile and the time of day at which they
were. -/
def Vouches (m : TokenMinter) (s : RunState (Journal σ)) (log : List Entry) (email : String)
    (token : String) : Prop :=
  ∃ a granted entry,
    let payload := TokenPayload.forAccount a a.unixGroups (granted.map RoleAssignment.role)
      entry.seconds
    token = Token.sign m.secret payload ∧ Token.payload? token = some payload ∧
    entry ∈ log ∧ entry.event = .granted a.id (.ok granted) ∧
    a.enabled = true ∧ Resolver.isBlank email = false ∧ GivenBy s log email a

/-- The headers have one token, which stands for the user, or none if there is no user. -/
def Signed (m : TokenMinter) (s : RunState (Journal σ)) (log : List Entry)
    (claims : Option Claims) (headers : Headers) : Prop :=
  match claims with
  | none => headers.values .accessToken = []
  | some c => ∃ token, headers.values .accessToken = [Utf8.encode token] ∧
      Vouches m s log c.email token

theorem GivenBy.mono {s : RunState (Journal σ)} {log : List Entry} {email : String} {a : Account}
    (h : GivenBy s log email a) (more : List Entry) : GivenBy s (log ++ more) email a := by
  rcases h with ⟨entry, hmem, hg⟩ | h
  · exact Or.inl ⟨entry, List.mem_append_left _ hmem, hg⟩
  · exact Or.inr h

theorem Signed.mono {m : TokenMinter} {s : RunState (Journal σ)} {log : List Entry}
    {claims : Option Claims} {headers : Headers} (h : Signed m s log claims headers)
    (more : List Entry) : Signed m s (log ++ more) claims headers := by
  cases claims with
  | none => exact h
  | some c =>
    obtain ⟨token, hvalues, a, granted, entry, htoken, hpayload, hmem, hevent, henabled, hblank,
      hgiven⟩ := h
    exact ⟨token, hvalues, a, granted, entry, htoken, hpayload, List.mem_append_left _ hmem, hevent,
      henabled, hblank, hgiven.mono more⟩

theorem Signed.congr {m : TokenMinter} {s : RunState (Journal σ)} {log : List Entry}
    {claims : Option Claims} {headers other : Headers} (h : Signed m s log claims headers)
    (hvalues : other.values .accessToken = headers.values .accessToken) :
    Signed m s log claims other := by
  cases claims with
  | none => exact hvalues.trans h
  | some c =>
    obtain ⟨token, hone, hvouches⟩ := h
    exact ⟨token, hvalues.trans hone, hvouches⟩

/-! ## The stages of the engine -/

namespace Faithful

variable {s : RunState (Journal σ)} (h : Faithful s) (dir : Directory σ)
include h

theorem token (m : TokenMinter) (claims : Claims) :
    ∃ log, Quiet s (Assertion.tokenFor (Journal.directory dir) m claims s).2 log ∧
      ∀ t, (Assertion.tokenFor (Journal.directory dir) m claims s).1 = .ok t →
        Vouches m s log claims.email t := by
  obtain ⟨log, hquiet, hresolved⟩ := h.resolve dir claims
  rw [Assertion.tokenFor_eq]
  rcases hr : Resolver.resolve (Journal.directory dir) claims s with ⟨e | a, t⟩
  · rw [hr] at hquiet
    exact ⟨log, hquiet, fun b hb => by cases hb⟩
  · rw [hr] at hquiet hresolved
    obtain ⟨hblank, henabled, hgiven⟩ := hresolved a rfl
    have htoken := Assertion.token_eq (Journal.directory dir) m a t
    rcases hroles : Run.call (Journal.directory dir) (.roles a.id)
      ((Journal.directory dir).roles a.id) t with ⟨reply, u⟩
    have hcall := hquiet.faithful.call dir _ _ (.granted a.id) (fun _ => rfl) hroles
    rw [hroles] at htoken
    rcases reply with e | granted
    · simp only [htoken]
      exact ⟨_, hquiet.trans hcall, fun b hb => by cases hb⟩
    · simp only [htoken]
      refine ⟨_, hquiet.trans hcall, fun b hb => ?_⟩
      obtain rfl := Except.ok.inj hb
      exact ⟨a, granted, ⟨.granted a.id (.ok granted), u.clock, u.seconds⟩, rfl,
        Token.payload?_sign m.secret _, List.mem_append_right _ (List.mem_singleton_self _), rfl,
        henabled, hblank, hgiven.mono _⟩

theorem assertIdentity (router : Router) (m : TokenMinter) (claims : Option Claims)
    (headers : Headers) :
    let r := Engine.assertIdentity (Journal.directory dir) ⟨router, some m⟩ claims headers s
    ∃ log, Quiet s r.2 log ∧ ∀ hs, r.1 = .ok hs → Signed m s log claims hs := by
  intro r
  have hm : (⟨router, some m⟩ : Engine).minter = some m := rfl
  have hr : r = _ := Engine.assertIdentity_of_minter (Journal.directory dir) _ claims hm headers s
  cases claims with
  | none =>
    refine ⟨[], hr ▸ .refl h, fun hs hok => ?_⟩
    rw [hr] at hok
    obtain rfl := Except.ok.inj hok
    simp [Signed, Headers.values_remove]
  | some c =>
    obtain ⟨log, hquiet, htoken⟩ := h.token dir m c
    rw [hr, Assertion.attach_some]
    refine ⟨log, hquiet, fun hs hok => ?_⟩
    cases ht : (Assertion.tokenFor (Journal.directory dir) m c s).1 with
    | error e =>
      simp only [ht, Except.map, Except.mapError] at hok
      cases hok
    | ok t =>
      simp only [ht, Except.map, Except.mapError] at hok
      obtain rfl := Except.ok.inj hok
      exact ⟨t, by simp [Headers.values_set], htoken t ht⟩

theorem policy (strategy : Strategy) (user : Option String) :
    ∃ log, Quiet s (strategy.policy (Journal.directory dir) user s).2 log := by
  cases strategy with
  | fixed policy => exact ⟨[], .refl h⟩
  | migration params =>
    unfold Strategy.policy
    cases user.filter (· ≠ "") with
    | none => exact ⟨[], .refl h⟩
    | some id =>
      simp only [bind, StateT.bind]
      rcases hr : Run.call (Journal.directory dir) (.get id) ((Journal.directory dir).get id) s
        with ⟨e | _ | a, t⟩
      all_goals exact ⟨_, h.call dir _ _ (.found id) (fun _ => rfl) hr⟩

theorem prepare (router : Router) (m : TokenMinter) (claims : Option Claims) (r : Request) :
    let p := Engine.prepare (Journal.directory dir) ⟨router, some m⟩ claims r s
    ∃ log, Quiet s p.2 log ∧ ∀ q, p.1 = .ok q → Signed m s log claims q.headers := by
  intro p
  obtain ⟨log, hquiet, hsigned⟩ := h.assertIdentity dir router m claims r.headers
  have hp : p = _ := Engine.prepare_eq (Journal.directory dir) _ claims r s
  rcases ha : Engine.assertIdentity (Journal.directory dir) ⟨router, some m⟩ claims r.headers s
    with ⟨fault | headers, t⟩
  · rw [ha] at hquiet hp
    exact ⟨log, hp ▸ hquiet, fun q hq => by rw [hp] at hq; cases hq⟩
  · rw [ha] at hquiet hsigned hp
    obtain ⟨more, hpolicy⟩ := hquiet.faithful.policy dir router.strategy
      (claims.map Claims.preferredUsername)
    refine ⟨log ++ more, ?_, fun q hq => ?_⟩
    · rw [hp]
      simp only [Engine.direct_snd]
      exact hquiet.trans hpolicy
    · rw [hp] at hq
      obtain ⟨policy, d, -, happly⟩ := Engine.direct_eq_ok (Journal.directory dir) _ claims hq
      have hvalues : q.headers.values .accessToken = headers.values .accessToken :=
        Director.values_apply_of_ne happly (by decide) (by decide)
      exact ((hsigned headers rfl).congr hvalues).mono more

theorem forward (backends : Backends σ) (q : Request) :
    let t := (s.exchange (Journal.backends backends q)).2
    Leads s t [⟨.forwarded q, s.clock, s.seconds⟩] ∧ Faithful t := by
  intro t
  have hentries : t.outside.entries = s.outside.entries ++ [⟨.forwarded q, s.clock, s.seconds⟩] := by
    rw [← h.clock, ← h.seconds]
    rfl
  refine ⟨⟨hentries, le_rfl, rfl⟩, ⟨h.clock, h.seconds, ?_⟩, ?_⟩
  · intro e he
    rw [hentries] at he
    rcases List.mem_append.mp he with he | he
    · exact h.past e he
    · rw [List.mem_singleton.mp he]
      exact le_rfl
  · intro c hc
    obtain ⟨e, he, hg⟩ := h.vouched c hc
    exact ⟨e, by rw [hentries]; exact List.mem_append_left _ he, hg⟩

/-- A request is sent on at most once, and as it was prepared. -/
theorem handle (backends : Backends σ) (router : Router) (m : TokenMinter) (claims : Option Claims)
    (r : Request) :
    let t := (Engine.handle (Journal.directory dir) (Journal.backends backends) ⟨router, some m⟩
      claims r s).2
    ∃ log, Leads s t log ∧ Faithful t ∧ ∀ q ∈ sentOn log, Signed m s log claims q.headers := by
  intro t
  obtain ⟨log, hquiet, hsigned⟩ := h.prepare dir router m claims r
  have ht : t = _ := congrArg Prod.snd
    (Engine.handle_eq (Journal.directory dir) _ claims (Journal.backends backends) r s)
  rcases hp : Engine.prepare (Journal.directory dir) ⟨router, some m⟩ claims r s with ⟨fault | q, u⟩
  · rw [hp] at hquiet ht
    refine ⟨log, ht ▸ hquiet.toLeads, ht ▸ hquiet.faithful, fun q hq => ?_⟩
    rw [hquiet.silent] at hq
    cases hq
  · rw [hp] at hquiet hsigned ht
    obtain ⟨hleads, hfaithful⟩ := hquiet.faithful.forward backends q
    refine ⟨_, ht ▸ hquiet.toLeads.trans hleads, ht ▸ hfaithful, fun q' hq' => ?_⟩
    have honly : q' ∈ sentOn log ∨ q' = q := by
      simpa [sentOn, List.filterMap_append, Event.forwarded?] using hq'
    rcases honly with hsent | rfl
    · rw [hquiet.silent] at hsent
      cases hsent
    · exact (hsigned q' rfl).mono _

end Faithful

/-! ## Whole runs -/

namespace RunState

theorem faithful_begin (size ttl : Nat) (services : σ) (clock : Nat) (seconds : Int64) :
    Faithful (begin size ttl services clock seconds) where
  clock := rfl
  seconds := rfl
  past e he := by cases he
  vouched c hc := by cases hc

variable (dir : Directory σ) (backends : Backends σ) (router : Router) (m : TokenMinter)

/-- No act makes the journal vouch for less than the cache holds. -/
theorem faithful_act {s : RunState (Journal σ)} (h : Faithful s) (a : Act σ) :
    Faithful (s.act dir backends ⟨router, some m⟩ a) ∧
      (s.act dir backends ⟨router, some m⟩ a).cache.ttl = s.cache.ttl := by
  cases a with
  | request claims r =>
    obtain ⟨log, hleads, hfaithful, -⟩ := h.handle dir backends router m claims r
    exact ⟨hfaithful, hleads.ttl⟩
  | invalidate email =>
    exact ⟨h.with_cache fun c hc => Or.inl ((AccountCache.mem_invalidate _ _ _).mp hc).1, rfl⟩
  | advance elapsed =>
    refine ⟨⟨⟨?_, h.seconds, ?_⟩, h.vouched⟩, rfl⟩
    · exact congrArg (· + elapsed) h.clock
    · exact fun e he => (h.past e he).trans (Nat.le_add_right _ _)
  | setTime seconds => exact ⟨⟨⟨h.clock, rfl, h.past⟩, h.vouched⟩, rfl⟩
  | alter change => exact ⟨⟨⟨h.clock, h.seconds, h.past⟩, h.vouched⟩, rfl⟩

theorem faithful_acts {s : RunState (Journal σ)} (h : Faithful s) (as : List (Act σ)) :
    Faithful (s.acts dir backends ⟨router, some m⟩ as) ∧
      (s.acts dir backends ⟨router, some m⟩ as).cache.ttl = s.cache.ttl := by
  induction as generalizing s with
  | nil => exact ⟨h, rfl⟩
  | cons a rest ih =>
    obtain ⟨hact, httl⟩ := faithful_act dir backends router m h a
    obtain ⟨hrest, hsame⟩ := ih hact
    exact ⟨hrest, hsame.trans httl⟩

end RunState

/-- After any run from an empty cache, every request that is sent on is signed for its user and for
nobody else. -/
theorem sentOn_signed (dir : Directory σ) (backends : Backends σ) (router : Router)
    (m : TokenMinter) (size ttl : Nat) (services : σ) (clock : Nat) (seconds : Int64)
    (past : List (Act σ)) (claims : Option Claims) (r : Request) :
    let e : Engine := ⟨router, some m⟩
    let s := (RunState.begin size ttl services clock seconds).acts dir backends e past
    let t := s.act dir backends e (.request claims r)
    s.cache.ttl = ttl ∧ ∃ log, t.outside.entries = s.outside.entries ++ log ∧
      ∀ q ∈ sentOn log, Signed m s log claims q.headers := by
  intro e s t
  obtain ⟨hfaithful, httl⟩ := RunState.faithful_acts dir backends router m
    (RunState.faithful_begin size ttl services clock seconds) past
  obtain ⟨log, hleads, -, hsigned⟩ := hfaithful.handle dir backends router m claims r
  exact ⟨httl, log, hleads.entries, hsigned⟩

end Gatehouse
