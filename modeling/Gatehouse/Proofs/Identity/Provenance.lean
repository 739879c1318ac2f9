import Gatehouse.Proofs.Identity.Cache
import Gatehouse.Proofs.Identity.Resolver
import Gatehouse.Proofs.Journal

/-!
# Where accounts come from

The account that a user is resolved to was given by the directory for exactly the user's address:
while the request was served, or earlier, but less than the time to live of the cache before. The
invariant is that the journal vouches for every entry of the cache, with the time of the entry.
-/

namespace Gatehouse

/-- The directory gave an account for an address: it was the only one in a listing for the address,
or the answer to the creation of an account for it. -/
def Event.Gives (email : String) (a : Account) : Event → Prop
  | .listed query _ reply => query = MailFilter.filter email ∧ reply = .ok [a]
  | .created request reply =>
    (∃ c : Claims, c.email = email ∧ request = Resolver.newAccount c) ∧ reply = .ok a
  | _ => False

variable {σ α : Type}

/-- The journal keeps step with the run and vouches for all that the cache holds. -/
structure Faithful (s : RunState (Journal σ)) : Prop extends InStep s where
  vouched : ∀ c ∈ s.cache.entries, ∃ e ∈ s.outside.entries,
    e.event.Gives c.email c.account ∧ e.clock = c.insertedAt

/-- A part of a run in which nothing is sent on. -/
structure Quiet (s t : RunState (Journal σ)) (log : List Entry) : Prop extends Leads s t log where
  faithful : Faithful t
  silent : sentOn log = []

/-- The directory gave an account for an address after the state `s`, or not too long before. -/
def GivenBy (s : RunState (Journal σ)) (log : List Entry) (email : String) (a : Account) : Prop :=
  (∃ e ∈ log, e.event.Gives email a) ∨
    ∃ e ∈ s.outside.entries, e.event.Gives email a ∧ e.clock ≤ s.clock ∧
      s.clock < e.clock + s.cache.ttl

theorem Quiet.refl {s : RunState (Journal σ)} (h : Faithful s) : Quiet s s [] where
  toLeads := .refl s
  faithful := h
  silent := rfl

theorem Quiet.trans {s t u : RunState (Journal σ)} {log more : List Entry}
    (h : Quiet s t log) (k : Quiet t u more) : Quiet s u (log ++ more) where
  toLeads := h.toLeads.trans k.toLeads
  faithful := k.faithful
  silent := by rw [sentOn, List.filterMap_append, ← sentOn, ← sentOn, h.silent, k.silent]; rfl

theorem GivenBy.after {s t : RunState (Journal σ)} {log more : List Entry} {email : String}
    {a : Account} (hs : InStep s) (h : Leads s t log) (k : GivenBy t more email a) :
    GivenBy s (log ++ more) email a := by
  rcases k with ⟨e, he, hg⟩ | ⟨e, he, hg, -, hlt⟩
  · exact Or.inl ⟨e, List.mem_append_right _ he, hg⟩
  · rw [h.entries] at he
    rcases List.mem_append.mp he with he | he
    · have hclock := h.clock
      rw [h.ttl] at hlt
      exact Or.inr ⟨e, he, hg, hs.past e he, by omega⟩
    · exact Or.inl ⟨e, List.mem_append_left _ he, hg⟩

namespace Faithful

variable {s : RunState (Journal σ)}

/-- A change of the cache that puts in nothing but what the journal vouches for now. -/
theorem with_cache (h : Faithful s) {cache : AccountCache}
    (hc : ∀ c ∈ cache.entries, c ∈ s.cache.entries ∨
      ∃ e ∈ s.outside.entries, e.event.Gives c.email c.account ∧ e.clock = c.insertedAt) :
    Faithful { s with cache } where
  clock := h.clock
  seconds := h.seconds
  past := h.past
  vouched c hmem := by
    rcases hc c hmem with hold | hnew
    · exact h.vouched c hold
    · exact hnew

theorem remembered (h : Faithful s) (email : String) :
    Quiet s (s.remembered email).2 [] ∧
      ∀ a, (s.remembered email).1 = some a → GivenBy s [] email a := by
  refine ⟨⟨⟨by simp [RunState.remembered], le_rfl, ?_⟩, ?_, rfl⟩, ?_⟩
  · simp [RunState.remembered]
  · exact h.with_cache fun c hc => Or.inl (AccountCache.mem_of_mem_get hc)
  · intro a ha
    obtain ⟨c, hc, rfl, rfl, hfresh⟩ := AccountCache.exists_of_get_eq_some ha
    obtain ⟨e, he, hg, hclock⟩ := h.vouched c hc
    have hpast := h.past e he
    exact Or.inr ⟨e, he, hg, hpast, by omega⟩

theorem keep {ε : Type} (h : Faithful s) (email : String) (found : Except ε Account)
    (hfound : ∀ a, found = .ok a → ∃ e ∈ s.outside.entries,
      e.event.Gives email a ∧ e.clock = s.clock) :
    Quiet s (s.keep email found) [] := by
  cases found with
  | error e => exact .refl h
  | ok a =>
    refine ⟨⟨by simp [RunState.keep, RunState.remember], le_rfl, ?_⟩, ?_, rfl⟩
    · simp [RunState.keep, RunState.remember]
    · refine h.with_cache fun c hc => ?_
      rcases AccountCache.mem_of_mem_insert hc with ⟨hold, -⟩ | rfl
      · exact Or.inl hold
      · exact Or.inr (hfound a rfl)

theorem call (h : Faithful s) (dir : Directory σ) (c : DirectoryCall) (act : StateM σ α)
    (event : α → Event) (hevent : ∀ a, (event a).forwarded? = none)
    {reply : α} {t : RunState (Journal σ)}
    (hr : Run.call (Journal.directory dir) c (Journal.call dir act event) s = (reply, t)) :
    Quiet s t [⟨event reply, t.clock, t.seconds⟩] := by
  obtain ⟨rfl, rfl⟩ := Prod.ext_iff.mp hr.symm
  generalize hr : Run.call (Journal.directory dir) c (Journal.call dir act event) s = r
  have hclock : r.2.clock = s.clock + dir.elapsed (act s.outside.services).2 := by rw [← hr]; rfl
  have hclocks : r.2.outside.clock = r.2.clock := by
    rw [hclock, ← h.clock, ← hr]
    rfl
  have hseconds : r.2.outside.seconds = r.2.seconds := by
    rw [← hr]
    exact congrArg (dir.timeOfDay (act s.outside.services).2) h.seconds
  have hentries : r.2.outside.entries = s.outside.entries ++
      [⟨event r.1, r.2.clock, r.2.seconds⟩] := by
    rw [← hclocks, ← hseconds, ← hr]
    rfl
  have hcache : r.2.cache = s.cache := by rw [← hr]; rfl
  refine ⟨⟨hentries, by omega, by rw [hcache]⟩, ⟨⟨hclocks, hseconds, ?_⟩, ?_⟩, ?_⟩
  · intro e he
    rw [hentries] at he
    rcases List.mem_append.mp he with he | he
    · exact (h.past e he).trans (by omega)
    · rw [List.mem_singleton.mp he]
  · intro c hc
    rw [hcache] at hc
    obtain ⟨e, he, hg⟩ := h.vouched c hc
    exact ⟨e, by rw [hentries]; exact List.mem_append_left _ he, hg⟩
  · simp [sentOn, hevent]

end Faithful

/-! ## The actions of the resolver -/

/-- What an action of the resolver promises of the account that it comes to. -/
def Resolves (s : RunState (Journal σ)) (email : String)
    (r : Except IdentityError Account × RunState (Journal σ)) : Prop :=
  ∃ log, Quiet s r.2 log ∧ ∀ a, r.1 = .ok a → GivenBy s log email a

theorem Resolves.after {s t : RunState (Journal σ)} {log : List Entry} {email : String}
    {r : Except IdentityError Account × RunState (Journal σ)} (hs : InStep s) (h : Quiet s t log)
    (k : Resolves t email r) : Resolves s email r := by
  obtain ⟨more, hquiet, hgiven⟩ := k
  exact ⟨log ++ more, h.trans hquiet, fun a ha => (hgiven a ha).after hs h.toLeads⟩

namespace Faithful

variable {s : RunState (Journal σ)} (h : Faithful s) (dir : Directory σ)
include h

theorem call_keep (email : String) (c : DirectoryCall) (act : StateM σ (Reply α))
    (event : Reply α → Event) (hevent : ∀ reply, (event reply).forwarded? = none)
    (judge : Reply α → Except IdentityError Account)
    (hjudge : ∀ reply a, judge reply = .ok a → (event reply).Gives email a)
    {reply : Reply α} {t : RunState (Journal σ)}
    (hr : Run.call (Journal.directory dir) c (Journal.call dir act event) s = (reply, t)) :
    Resolves s email (judge reply, t.keep email (judge reply)) := by
  have hcall := h.call dir c act event hevent hr
  have hkeep : Quiet t (t.keep email (judge reply)) [] := by
    refine hcall.faithful.keep email (judge reply) fun a ha => ?_
    refine ⟨⟨event reply, t.clock, t.seconds⟩, ?_, hjudge reply a ha, rfl⟩
    rw [hcall.entries]
    exact List.mem_append_right _ (List.mem_singleton_self _)
  refine ⟨_, hcall.trans hkeep, fun a ha => Or.inl ?_⟩
  refine ⟨⟨event reply, t.clock, t.seconds⟩, ?_, hjudge reply a ha⟩
  exact List.mem_append_left _ (List.mem_singleton_self _)

theorem lookup (email : String) :
    Resolves s email (Resolver.lookup (Journal.directory dir) email s) := by
  obtain ⟨hquiet, hgiven⟩ := h.remembered email
  rw [Resolver.lookup_eq]
  rcases hr : s.remembered email with ⟨_ | a, t⟩ <;> rw [hr] at hquiet hgiven
  · refine Resolves.after h.toInStep hquiet ?_
    exact hquiet.faithful.call_keep dir email _ _ (.listed (MailFilter.filter email) _)
      (fun _ => rfl) (Resolver.judge email) (fun _ _ ha => ⟨rfl, Resolver.judge_eq_ok.mp ha⟩) rfl
  · exact ⟨[], hquiet, fun b hb => hgiven b (by cases hb; rfl)⟩

theorem create (claims : Claims) :
    Resolves s claims.email (Resolver.create (Journal.directory dir) claims s) := by
  rw [Resolver.create_eq]
  exact h.call_keep dir claims.email _ _ (.created (Resolver.newAccount claims)) (fun _ => rfl)
    (Resolver.judgeCreated claims.email)
    (fun _ _ ha => ⟨⟨claims, rfl, rfl⟩, Resolver.judgeCreated_eq_ok.mp ha⟩) rfl

theorem provision (claims : Claims) :
    Resolves s claims.email (Resolver.provision (Journal.directory dir) claims s) := by
  have hlookup := h.lookup dir claims.email
  rw [Resolver.provision_eq]
  split
  · rename_i t hr
    rw [hr] at hlookup
    obtain ⟨log, hquiet, -⟩ := hlookup
    exact Resolves.after h.toInStep hquiet (hquiet.faithful.create dir claims)
  · rename_i found t _ hr
    rwa [hr] at hlookup

/-- A user is resolved to an enabled account that the directory gave for the user's address. -/
theorem resolve (claims : Claims) :
    ∃ log, Quiet s (Resolver.resolve (Journal.directory dir) claims s).2 log ∧
      ∀ a, (Resolver.resolve (Journal.directory dir) claims s).1 = .ok a →
        Resolver.isBlank claims.email = false ∧ a.enabled = true ∧ GivenBy s log claims.email a := by
  rw [Resolver.resolve_eq]
  split_ifs with hblank
  · exact ⟨[], .refl h, fun a ha => by cases ha⟩
  · have hlookup := h.lookup dir claims.email
    split
    · rename_i t hr
      rw [hr] at hlookup
      obtain ⟨log, hquiet, -⟩ := hlookup
      obtain ⟨log, hquiet, hgiven⟩ :=
        Resolves.after h.toInStep hquiet (hquiet.faithful.provision dir claims)
      refine ⟨log, hquiet, fun a ha => ?_⟩
      obtain ⟨hfound, henabled⟩ := Resolver.bind_ifEnabled_eq_ok.mp ha
      exact ⟨by simpa using hblank, henabled, hgiven a hfound⟩
    · rename_i found t _ hr
      rw [hr] at hlookup
      obtain ⟨log, hquiet, hgiven⟩ := hlookup
      refine ⟨log, hquiet, fun a ha => ?_⟩
      obtain ⟨hfound, henabled⟩ := Resolver.bind_ifEnabled_eq_ok.mp ha
      exact ⟨by simpa using hblank, henabled, hgiven a hfound⟩

end Faithful

end Gatehouse
