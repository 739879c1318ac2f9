import Gatehouse.Gateway.Engine
import Gatehouse.Proofs.Identity.Token
import Mathlib.Tactic

/-!
# Serving a request, stage by stage

What each stage of the engine does to the state, as a function of the state. A request is sent on
only if all stages before have gone well, and then exactly as they have prepared it.
-/

namespace Gatehouse

variable {σ : Type} (dir : Directory σ)

namespace Assertion

variable (minter : TokenMinter)

theorem token_eq (account : Account) (s : RunState σ) :
    token dir minter account s =
      match Run.call dir (.roles account.id) (dir.roles account.id) s with
      | (.error e, t) => (.error (.roleLookupFailed account.id e.message), t)
      | (.ok granted, t) =>
        (.ok (minter.mint account account.unixGroups (granted.map RoleAssignment.role) t.seconds),
          t) := by
  unfold token
  simp only [bind, StateT.bind]
  rcases Run.call dir (.roles account.id) (dir.roles account.id) s with ⟨e | granted, t⟩
  · rfl
  · rfl

theorem tokenFor_eq (claims : Claims) (s : RunState σ) :
    tokenFor dir minter claims s =
      match Resolver.resolve dir claims s with
      | (.error e, t) => (.error e, t)
      | (.ok account, t) => token dir minter account t := by
  unfold tokenFor
  simp only [bind, StateT.bind]
  rcases Resolver.resolve dir claims s with ⟨e | account, t⟩
  · rfl
  · rfl

theorem tokenFor_eq_ok {claims : Claims} {s : RunState σ} {t : String}
    (h : (tokenFor dir minter claims s).1 = .ok t) :
    ∃ a roles now, t = minter.mint a a.unixGroups roles now := by
  rw [tokenFor_eq] at h
  rcases hresolve : Resolver.resolve dir claims s with ⟨e | a, u⟩
  · rw [hresolve] at h
    cases h
  · simp only [hresolve, token_eq] at h
    rcases hroles : Run.call dir (.roles a.id) (dir.roles a.id) u with ⟨e | granted, v⟩
    · rw [hroles] at h
      cases h
    · rw [hroles] at h
      obtain rfl := Except.ok.inj h
      exact ⟨a, _, _, rfl⟩

theorem apply_some (claims : Claims) (headers : Headers) (s : RunState σ) :
    apply dir minter (some claims) headers s =
      match tokenFor dir minter claims s with
      | (.error fault, t) => ((.error fault, headers), t)
      | (.ok token, t) => ((.ok (), headers.set .accessToken (Utf8.encode token)), t) := by
  unfold apply
  simp only [bind, StateT.bind, liftM, monadLift, MonadLift.monadLift, StateT.lift]
  rcases htoken : tokenFor dir minter claims s with ⟨fault | token, t⟩
  · rfl
  · obtain ⟨a, roles, now, rfl⟩ := tokenFor_eq_ok dir minter (congrArg Prod.fst htoken)
    have hpure (x : Except IdentityError String × Headers) : (pure x : Run σ _) t = (x, t) := rfl
    simp only [hpure, headerValue_mint]
    rfl

theorem attach_eq (claims : Option Claims) (headers : Headers) (s : RunState σ) :
    attach dir minter claims headers s =
      let applied := apply dir minter claims headers s
      (applied.1.1.map fun _ => applied.1.2, applied.2) := rfl

theorem attach_some (claims : Claims) (headers : Headers) (s : RunState σ) :
    attach dir minter (some claims) headers s =
      ((tokenFor dir minter claims s).1.map fun t => headers.set .accessToken (Utf8.encode t),
        (tokenFor dir minter claims s).2) := by
  rw [attach_eq, apply_some]
  rcases tokenFor dir minter claims s with ⟨fault | token, t⟩
  · rfl
  · rfl

theorem attach_some_eq_bind (claims : Claims) (headers : Headers) :
    attach dir minter (some claims) headers =
      tokenFor dir minter claims >>= fun signed =>
        pure (signed.map fun t => headers.set .accessToken (Utf8.encode t)) :=
  funext (attach_some dir minter claims headers)

end Assertion

namespace Router

theorem select_eq (r : Router) (claims : Option Claims) (uri : Uri) (s : RunState σ) :
    r.select dir claims uri s =
      let policy := r.strategy.policy dir (claims.map Claims.preferredUsername) s
      ((policy.1, r.table.select policy.1 uri.path (uri.query.getD "")), policy.2) := rfl

end Router

namespace Engine

variable (e : Engine) (claims : Option Claims)

theorem assertIdentity_of_minter {minter : TokenMinter} (hm : e.minter = some minter)
    (headers : Headers) (s : RunState σ) :
    e.assertIdentity dir claims headers s =
      let attached := Assertion.attach dir minter claims (headers.remove .accessToken) s
      (attached.1.mapError IdentityError.toGateway, attached.2) := by
  unfold assertIdentity
  rw [hm]
  rfl

theorem assertIdentity_of_none (hm : e.minter = none) (headers : Headers) (s : RunState σ) :
    e.assertIdentity dir claims headers s = (.ok (headers.remove .accessToken), s) := by
  unfold assertIdentity
  rw [hm]
  rfl

theorem direct_eq (r : Request) (s : RunState σ) :
    e.direct dir claims r s =
      match e.router.select dir claims r.uri s with
      | ((policy, none), t) =>
        (.error ⟨.noRoute, "no director for " ++ r.uri.path ++ " in policy " ++ policy⟩, t)
      | ((_, some d), t) => ((d.apply r).mapError RoutingError.toGateway, t) := by
  unfold direct
  simp only [bind, StateT.bind]
  rcases e.router.select dir claims r.uri s with ⟨⟨policy, _ | d⟩, t⟩
  · rfl
  · rfl

theorem direct_snd (r : Request) (s : RunState σ) :
    (e.direct dir claims r s).2 =
      (e.router.strategy.policy dir (claims.map Claims.preferredUsername) s).2 := by
  rw [direct_eq, Router.select_eq]
  split
  · rename_i h
    exact (congrArg Prod.snd h).symm
  · rename_i h
    exact (congrArg Prod.snd h).symm

theorem direct_eq_ok {r q : Request} {s : RunState σ} (h : (e.direct dir claims r s).1 = .ok q) :
    ∃ policy d, (e.router.select dir claims r.uri s).1 = (policy, some d) ∧ d.apply r = .ok q := by
  rw [direct_eq] at h
  rcases hs : e.router.select dir claims r.uri s with ⟨⟨policy, _ | d⟩, t⟩
  · simp only [hs] at h
    cases h
  · simp only [hs] at h
    refine ⟨policy, d, rfl, ?_⟩
    cases hd : d.apply r with
    | error fault =>
      rw [hd] at h
      cases h
    | ok q' =>
      rw [hd] at h
      exact congrArg _ (Except.ok.inj h)

theorem prepare_eq (r : Request) (s : RunState σ) :
    e.prepare dir claims r s =
      match e.assertIdentity dir claims r.headers s with
      | (.error fault, t) => (.error fault, t)
      | (.ok headers, t) => e.direct dir claims { r with headers } t := by
  unfold prepare
  simp only [bind, StateT.bind]
  rcases e.assertIdentity dir claims r.headers s with ⟨fault | headers, t⟩
  · rfl
  · rfl

theorem handle_eq (backends : Backends σ) (r : Request) (s : RunState σ) :
    e.handle dir backends claims r s =
      match e.prepare dir claims r s with
      | (.error fault, t) => (.error fault, t)
      | (.ok q, t) => t.exchange (backends q) := by
  unfold handle
  simp only [bind, StateT.bind]
  rcases e.prepare dir claims r s with ⟨fault | q, t⟩
  · rfl
  · rfl

theorem handle_of_prepare (backends : Backends σ) {r q : Request} {s : RunState σ}
    (h : (e.prepare dir claims r s).1 = .ok q) :
    e.handle dir backends claims r s = (e.prepare dir claims r s).2.exchange (backends q) := by
  rw [handle_eq]
  rcases hp : e.prepare dir claims r s with ⟨fault | q', t⟩
  · rw [hp] at h
    cases h
  · rw [hp] at h
    obtain rfl := Except.ok.inj h
    rfl

theorem prepare_eq_ok {r q : Request} {s : RunState σ} (h : (e.prepare dir claims r s).1 = .ok q) :
    ∃ headers policy d,
      (e.assertIdentity dir claims r.headers s).1 = .ok headers ∧
      (e.router.select dir claims r.uri (e.assertIdentity dir claims r.headers s).2).1 =
        (policy, some d) ∧
      d.apply { r with headers } = .ok q := by
  rw [prepare_eq] at h
  rcases ha : e.assertIdentity dir claims r.headers s with ⟨fault | headers, t⟩
  · rw [ha] at h
    cases h
  · simp only [ha] at h
    obtain ⟨policy, d, hselect, happly⟩ := direct_eq_ok dir e claims h
    exact ⟨headers, policy, d, rfl, hselect, happly⟩

end Engine

end Gatehouse
