import Gatehouse.Proofs.Directory.Registry
import Gatehouse.Proofs.Identity.Cache
import Gatehouse.Proofs.Identity.Resolver

/-!
# The cache changes nothing

Users are resolved as if nothing was ever remembered. An account that is remembered under an address
is the only one that the registry has under it, and it stays that, since an account is created only
where there is none. So it does not matter how much is remembered, nor for how long.
-/

namespace Gatehouse

variable {σ : Type}

/-- A directory that never fails and keeps a registry, which nothing changes but the creation of
accounts. What is created depends on the registry and on what was asked for. -/
structure Directory.Keeps (dir : Directory σ) (registry : σ → Registry)
    (make : Registry → Account → Account) : Prop where
  list : ∀ query pageSize s, ∃ page t, dir.list query pageSize s = (.ok page, t) ∧
    (registry s).Lists query pageSize page ∧ registry t = registry s
  create : ∀ request s, ∃ t, dir.create request s = (.ok (make (registry s) request), t) ∧
    registry t = (registry s).store (make (registry s) request)
  mail : ∀ r request, (make r request).mail = request.mail

inductive ResolverAct
  | resolve (claims : Claims)
  /-- Milliseconds go by. -/
  | advance (elapsed : Nat)
  | invalidate (email : String)

def DirectoryCall.creation? : DirectoryCall → Option Account
  | create account => some account
  | _ => none

def creations (calls : List DirectoryCall) : List Account := calls.filterMap DirectoryCall.creation?

namespace RunState

variable (dir : Directory σ)

def serve (s : RunState σ) : ResolverAct → Option (Except IdentityError Account) × RunState σ
  | .resolve claims =>
    let (result, t) := Resolver.resolve dir claims s
    (some result, t)
  | .advance elapsed => (none, { s with clock := s.clock + elapsed })
  | .invalidate email => (none, { s with cache := s.cache.invalidate email })

/-- What the users are resolved to, one after the other. -/
def serveAll : RunState σ → List ResolverAct → List (Except IdentityError Account) × RunState σ
  | s, [] => ([], s)
  | s, act :: rest =>
    let (result, t) := serve dir s act
    let (results, u) := serveAll t rest
    (result.toList ++ results, u)

end RunState

/-! ## Resolving without a cache -/

/-- What a user is resolved to, the accounts that are created for it, and the registry after that.
-/
def Registry.resolve (make : Registry → Account → Account) (r : Registry) (claims : Claims) :
    Except IdentityError Account × List Account × Registry :=
  if Resolver.isBlank claims.email then (.error (.missingEmail claims.preferredUsername), [], r)
  else
    match r.under claims.email with
    | [] =>
      let account := make r (Resolver.newAccount claims)
      (Resolver.ifEnabled account, [Resolver.newAccount claims], r.store account)
    | [account] => (Resolver.ifEnabled account, [], r)
    | _ => (.error (.ambiguousAccount claims.email), [], r)

variable {dir : Directory σ} {registry : σ → Registry} {make : Registry → Account → Account}
  {s t u : RunState σ} {email : String}

/-- Every account that is remembered is the only one that the registry has under its address. -/
def Coherent (registry : σ → Registry) (s : RunState σ) : Prop :=
  ∀ e ∈ s.cache.entries, (registry s.outside).under e.email = [e.account]

/-- From one state to another, with the registry there and the accounts created on the way. -/
structure Reaches (registry : σ → Registry) (s t : RunState σ) (r : Registry)
    (created : List Account) : Prop where
  coherent : Coherent registry t
  registry : registry t.outside = r
  created : creations t.calls = creations s.calls ++ created

namespace Reaches

theorem refl (h : Coherent registry s) : Reaches registry s s (registry s.outside) [] :=
  ⟨h, rfl, (List.append_nil _).symm⟩

theorem trans {r : Registry} {created more : List Account}
    (h : Reaches registry s t (registry t.outside) created) (k : Reaches registry t u r more) :
    Reaches registry s u r (created ++ more) where
  coherent := k.coherent
  registry := k.registry
  created := by rw [k.created, h.created, List.append_assoc]

end Reaches

theorem Registry.Lists.judge_eq {r : Registry} {page : List Account}
    (h : r.Lists (MailFilter.filter email) Resolver.pageSize page) :
    Resolver.judge email (.ok page) = Resolver.judge email (.ok (r.under email)) := by
  obtain ⟨found, hperm, rfl⟩ := h.exists_perm
  rcases found with _ | ⟨a, _ | ⟨b, rest⟩⟩
  · rw [← hperm.nil_eq]
    rfl
  · rw [← List.singleton_perm.mp hperm]
    rfl
  · have hlength := hperm.length_eq
    generalize r.under email = under at hlength
    rcases under with _ | ⟨c, _ | ⟨d, more⟩⟩
    · simp at hlength
    · simp at hlength
    · rfl

theorem judge_under_eq_ok {r : Registry} {a : Account} :
    Resolver.judge email (.ok (r.under email)) = .ok a ↔ r.under email = [a] := by
  rw [Resolver.judge_eq_ok, Except.ok.injEq]

theorem Run.exists_call_eq (dir : Directory σ) {α : Type} {act : StateM σ α} {reply : α}
    {after : σ} (c : DirectoryCall) (hact : act s.outside = (reply, after)) :
    ∃ t, Run.call dir c act s = (reply, t) ∧ t.outside = after ∧ t.cache = s.cache ∧
      t.calls = s.calls ++ [c] := by
  refine ⟨(Run.call dir c act s).2, ?_⟩
  simp [Run.call, RunState.answer, RunState.exchange, RunState.note, RunState.await, hact]

namespace Coherent

theorem keep {ε : Type} (h : Coherent registry s) (found : Except ε Account)
    (hfound : ∀ a, found = .ok a → (registry s.outside).under email = [a]) :
    Reaches registry s (s.keep email found) (registry s.outside) [] := by
  cases found with
  | error e => exact .refl h
  | ok a =>
    refine ⟨fun e he => ?_, rfl, (List.append_nil _).symm⟩
    rcases AccountCache.mem_of_mem_insert he with ⟨hold, -⟩ | rfl
    · exact h e hold
    · exact hfound a rfl

theorem remembered (h : Coherent registry s) (email : String) :
    Reaches registry s (s.remembered email).2 (registry s.outside) [] ∧
      ∀ a, (s.remembered email).1 = some a → (registry s.outside).under email = [a] := by
  refine ⟨⟨fun e he => h e (AccountCache.mem_of_mem_get he), rfl, (List.append_nil _).symm⟩, ?_⟩
  intro a ha
  obtain ⟨e, he, rfl, rfl, -⟩ := AccountCache.exists_of_get_eq_some ha
  exact h e he

variable (h : Coherent registry s) (hdir : dir.Keeps registry make)
include h hdir

theorem ask (email : String) :
    (Resolver.ask dir email s).1 =
        Resolver.judge email (.ok ((registry s.outside).under email)) ∧
      Reaches registry s (Resolver.ask dir email s).2 (registry s.outside) [] := by
  obtain ⟨page, after, hlist, hpage, hsame⟩ :=
    hdir.list (MailFilter.filter email) Resolver.pageSize s.outside
  obtain ⟨t, hcall, houtside, hcache, hcalls⟩ := Run.exists_call_eq dir
    (.list (MailFilter.filter email) Resolver.pageSize) hlist
  have hregistry : registry t.outside = registry s.outside := by rw [houtside, hsame]
  have hcoherent : Coherent registry t := by
    intro e he
    rw [hregistry]
    exact h e (by rwa [hcache] at he)
  have hjudge : Resolver.judge email (.ok page) =
      Resolver.judge email (.ok ((registry t.outside).under email)) := by
    rw [hregistry]
    exact hpage.judge_eq
  have hask : Resolver.ask dir email s = (Resolver.judge email (.ok page),
      t.keep email (Resolver.judge email (.ok page))) := by
    simp only [Resolver.ask, hcall]
  have hreach : Reaches registry s t (registry t.outside) [] := by
    refine ⟨hcoherent, rfl, ?_⟩
    rw [hcalls, creations, List.filterMap_append]
    rfl
  rw [hask, hjudge, ← hregistry]
  exact ⟨rfl, hreach.trans (hcoherent.keep _ fun a => judge_under_eq_ok.mp)⟩

/-- An account is looked up as all accounts under the address would be judged. -/
theorem lookup (email : String) :
    (Resolver.lookup dir email s).1 =
        Resolver.judge email (.ok ((registry s.outside).under email)) ∧
      Reaches registry s (Resolver.lookup dir email s).2 (registry s.outside) [] := by
  obtain ⟨hreach, hfound⟩ := h.remembered email
  rw [Resolver.lookup_eq]
  rcases hr : s.remembered email with ⟨_ | a, t⟩ <;> rw [hr] at hreach hfound
  · have hsame : registry t.outside = registry s.outside := hreach.registry
    rw [← hsame] at hreach ⊢
    obtain ⟨hresult, hask⟩ := hreach.coherent.ask hdir email
    exact ⟨hresult, hreach.trans hask⟩
  · exact ⟨(judge_under_eq_ok.mpr (hfound a rfl)).symm, hreach⟩

theorem create (claims : Claims) (hnone : (registry s.outside).under claims.email = []) :
    let account := make (registry s.outside) (Resolver.newAccount claims)
    (Resolver.create dir claims s).1 = .ok account ∧
      Reaches registry s (Resolver.create dir claims s).2 ((registry s.outside).store account)
        [Resolver.newAccount claims] := by
  intro account
  obtain ⟨after, hcreate, hstored⟩ := hdir.create (Resolver.newAccount claims) s.outside
  obtain ⟨t, hcall, houtside, hcache, hcalls⟩ := Run.exists_call_eq dir
    (.create (Resolver.newAccount claims)) hcreate
  have hmail : account.mail = claims.email := hdir.mail ..
  have hregistry : registry t.outside = (registry s.outside).store account := by
    rw [houtside, hstored]
  have hcoherent : Coherent registry t := by
    intro e he
    rw [hregistry]
    refine Registry.under_store_eq_singleton (by rwa [hmail]) (h e ?_)
    rwa [hcache] at he
  have hreach : Reaches registry s t (registry t.outside) [Resolver.newAccount claims] := by
    refine ⟨hcoherent, rfl, ?_⟩
    rw [hcalls, creations, List.filterMap_append]
    rfl
  have hnew : (registry t.outside).under claims.email = [account] := by
    rw [hregistry, ← hmail, Registry.under_store_self, hmail, hnone, List.nil_append]
  rw [Resolver.create_eq]
  simp only [hcall]
  rw [← hregistry]
  refine ⟨rfl, hreach.trans (hcoherent.keep _ fun a ha => ?_)⟩
  have hsame : account = a := Except.ok.inj (Resolver.judgeCreated_eq_ok.mp ha)
  rw [hnew, hsame]

/-- Under the lock the directory is asked again, but nothing has changed. -/
theorem provision (claims : Claims) (hnone : (registry s.outside).under claims.email = []) :
    let account := make (registry s.outside) (Resolver.newAccount claims)
    (Resolver.provision dir claims s).1 = .ok account ∧
      Reaches registry s (Resolver.provision dir claims s).2 ((registry s.outside).store account)
        [Resolver.newAccount claims] := by
  obtain ⟨hfound, hreach⟩ := h.lookup hdir claims.email
  rw [Resolver.provision_eq]
  generalize Resolver.lookup dir claims.email s = looked at hfound hreach ⊢
  obtain ⟨found, t⟩ := looked
  have hsame : registry t.outside = registry s.outside := hreach.registry
  rw [hnone] at hfound
  obtain rfl : found = .error (.accountNotFound claims.email) := hfound
  rw [← hsame] at hreach hnone ⊢
  obtain ⟨hcreated, hcreate⟩ := hreach.coherent.create hdir claims hnone
  exact ⟨hcreated, hreach.trans hcreate⟩

theorem resolve (claims : Claims) :
    (Resolver.resolve dir claims s).1 = ((registry s.outside).resolve make claims).1 ∧
      Reaches registry s (Resolver.resolve dir claims s).2
        ((registry s.outside).resolve make claims).2.2
        ((registry s.outside).resolve make claims).2.1 := by
  rw [Resolver.resolve_eq, Registry.resolve]
  split_ifs with hblank
  · exact ⟨rfl, .refl h⟩
  · obtain ⟨hfound, hreach⟩ := h.lookup hdir claims.email
    generalize Resolver.lookup dir claims.email s = looked at hfound hreach ⊢
    obtain ⟨found, t⟩ := looked
    have hsame : registry t.outside = registry s.outside := hreach.registry
    rcases hunder : (registry s.outside).under claims.email with _ | ⟨a, _ | ⟨b, rest⟩⟩ <;>
      rw [hunder] at hfound
    · obtain rfl : found = .error (.accountNotFound claims.email) := hfound
      rw [← hsame] at hreach hunder ⊢
      obtain ⟨hprovisioned, hprovision⟩ := hreach.coherent.provision hdir claims hunder
      refine ⟨?_, hreach.trans hprovision⟩
      exact congrArg (fun found : Except _ _ => found.bind Resolver.ifEnabled) hprovisioned
    · obtain rfl : found = .ok a := hfound
      exact ⟨rfl, hreach⟩
    · obtain rfl : found = .error (.ambiguousAccount claims.email) := hfound
      exact ⟨rfl, hreach⟩

end Coherent

/-! ## Whole runs -/

/-- What users are resolved to by a registry alone, one after the other, with the accounts that are
created. Neither time nor the cache plays a part. -/
def Registry.resolveAll (make : Registry → Account → Account) :
    Registry → List ResolverAct → List (Except IdentityError Account) × List Account
  | _, [] => ([], [])
  | r, .resolve claims :: rest =>
    let (result, created, r) := r.resolve make claims
    let (results, more) := resolveAll make r rest
    (result :: results, created ++ more)
  | r, _ :: rest => resolveAll make r rest

theorem Coherent.serveAll (hdir : dir.Keeps registry make) (acts : List ResolverAct)
    (h : Coherent registry s) :
    (s.serveAll dir acts).1 = ((registry s.outside).resolveAll make acts).1 ∧
      creations (s.serveAll dir acts).2.calls =
        creations s.calls ++ ((registry s.outside).resolveAll make acts).2 := by
  induction acts generalizing s with
  | nil => exact ⟨rfl, (List.append_nil _).symm⟩
  | cons act rest ih =>
    cases act with
    | resolve claims =>
      obtain ⟨hresult, hreach⟩ := h.resolve hdir claims
      obtain ⟨hresults, hcreated⟩ := ih hreach.coherent
      rw [hreach.registry] at hresults hcreated
      constructor
      · exact congrArg₂ List.cons hresult hresults
      · refine hcreated.trans ?_
        rw [hreach.created, List.append_assoc]
        rfl
    | advance elapsed => exact ih (s := { s with clock := s.clock + elapsed }) h
    | invalidate email =>
      refine ih (s := { s with cache := s.cache.invalidate email }) fun e he => h e ?_
      exact ((AccountCache.mem_invalidate _ _ _).mp he).1

/-- Two resolvers with one directory, which remember as much and as long as each of them may, come
to the same results and create the same accounts. -/
theorem RunState.cache_transparent (hdir : dir.Keeps registry make) (outside : σ)
    (acts : List ResolverAct) (size ttl size' ttl' : Nat) :
    let run := serveAll dir { cache := .empty size ttl, outside } acts
    let run' := serveAll dir { cache := .empty size' ttl', outside } acts
    run.1 = run'.1 ∧ creations run.2.calls = creations run'.2.calls := by
  have hempty : ∀ size ttl, Coherent registry
      { cache := .empty size ttl, outside : RunState σ } := fun _ _ => nofun
  obtain ⟨hresults, hcreated⟩ := (hempty size ttl).serveAll hdir acts
  obtain ⟨hresults', hcreated'⟩ := (hempty size' ttl').serveAll hdir acts
  exact ⟨hresults.trans hresults'.symm, hcreated.trans hcreated'.symm⟩

/-- An account as it is stored by a directory that numbers its accounts. -/
def numbered (r : Registry) (request : Account) : Account :=
  { request with id := toString r.accounts.length }

def registryDirectory : Directory Registry where
  list query pageSize r :=
    (.ok ((r.accounts.filter fun a => MailFilter.filter a.mail == query).take pageSize), r)
  create request r := (.ok (numbered r request), r.store (numbered r request))
  get _ := pure (.ok none)
  roles _ := pure (.ok [])

theorem keeps_registryDirectory : registryDirectory.Keeps id numbered where
  list _ _ r := ⟨_, r, rfl, ⟨r.accounts, .rfl, rfl⟩, rfl⟩
  create _ _ := ⟨_, rfl, rfl⟩
  mail _ _ := rfl

/-- Two users, the first of whom comes again. -/
def sampleActs : List ResolverAct :=
  [.resolve { email := "a@x.com" }, .resolve { email := "b@x.com" }, .advance 5,
    .resolve { email := "a@x.com" }]

/-- A resolver that remembers nothing makes other calls than one with a large cache, but creates the
same two accounts. -/
theorem RunState.cache_transparent_of_two_users :
    let forgetful :=
      serveAll registryDirectory { cache := .empty 1 0, outside := ⟨[], []⟩ } sampleActs
    let mindful :=
      serveAll registryDirectory { cache := .empty 16 60000, outside := ⟨[], []⟩ } sampleActs
    registryDirectory.Keeps id numbered ∧ forgetful.2.calls ≠ mindful.2.calls ∧
      forgetful.1 = mindful.1 ∧ creations forgetful.2.calls = creations mindful.2.calls ∧
      (creations mindful.2.calls).map Account.mail = ["a@x.com", "b@x.com"] := by
  obtain ⟨hresults, hcreated⟩ :=
    cache_transparent keeps_registryDirectory ⟨[], []⟩ sampleActs 1 0 16 60000
  exact ⟨keeps_registryDirectory, by decide +kernel, hresults, hcreated, by decide +kernel⟩

end Gatehouse
