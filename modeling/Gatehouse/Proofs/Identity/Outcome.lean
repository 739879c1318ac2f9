import Gatehouse.Proofs.Identity.Provisioning

/-!
# What a user is resolved to

The directory may answer every call as it likes, whatever it has answered before. The first listing
decides, unless it is empty; then the second one decides, unless it is empty as well; then an account
is created, or it cannot be. What has been decided is remembered if it is an account, and only then.
-/

namespace Gatehouse

variable {σ : Type}

/-- What the answers of the directory come to: the calls that were made, and what was found. -/
structure Verdict where
  calls : List DirectoryCall
  found : Except IdentityError Account

namespace Verdict

/-- The answer to a listing decides, unless it is empty. -/
def ofListing (c : Claims) (reply : Reply (List Account)) (otherwise : Verdict) : Verdict :=
  let call := .list (MailFilter.filter c.email) 2
  match reply with
  | .error e => ⟨[call], .error (.directoryUnavailable c.email e.message)⟩
  | .ok [] => ⟨call :: otherwise.calls, otherwise.found⟩
  | .ok [a] => ⟨[call], .ok a⟩
  | .ok (_ :: _ :: _) => ⟨[call], .error (.ambiguousAccount c.email)⟩

/-- The account that is asked for. It has no id yet. -/
def request (c : Claims) : Account where
  id := ""
  displayName := c.name
  preferredName := c.preferredUsername
  unixName := c.preferredUsername
  mail := c.email
  enabled := true
  externalState := ""
  creationType := "LocalAccount"
  memberOf := []

/-- The answer to the creation of an account decides in any case. -/
def ofCreation (c : Claims) (reply : Reply Account) : Verdict :=
  match reply with
  | .error e => ⟨[.create (request c)], .error (.provisioningFailed c.email e.message)⟩
  | .ok a => ⟨[.create (request c)], .ok a⟩

/-- Two listings and a creation, as far as it comes to them. -/
def ofReplies (c : Claims) (first second : Reply (List Account)) (third : Reply Account) : Verdict :=
  ofListing c first (ofListing c second (ofCreation c third))

/-- What a directory in some state says to a listing, to one more, and to a creation after both. -/
def ofDirectory (dir : Directory σ) (c : Claims) (w : σ) : Verdict :=
  let first := dir.list (MailFilter.filter c.email) 2 w
  let second := dir.list (MailFilter.filter c.email) 2 first.2
  ofReplies c first.1 second.1 (dir.create (request c) second.2).1

/-- What the user is told: a disabled account is of no use. -/
def result (v : Verdict) : Except IdentityError Account :=
  match v.found with
  | .error e => .error e
  | .ok a => if a.enabled then .ok a else .error (.accountDisabled a.id)

variable {c : Claims} {v : Verdict}

theorem request_eq (c : Claims) : request c = Resolver.newAccount c := rfl

theorem result_eq (v : Verdict) : v.result = v.found.bind Resolver.ifEnabled := by
  cases h : v.found <;> simp [result, h, Except.bind, Resolver.ifEnabled]

theorem ofListing_nil (c : Claims) (v : Verdict) :
    ofListing c (.ok []) v = ⟨Resolver.askFor c :: v.calls, v.found⟩ := rfl

theorem ofListing_of_ne {reply : Reply (List Account)} (h : reply ≠ .ok []) (v : Verdict) :
    ofListing c reply v = ⟨[Resolver.askFor c], Resolver.judge c.email reply⟩ := by
  rcases reply with e | _ | ⟨a, _ | ⟨b, rest⟩⟩
  · rfl
  · exact absurd rfl h
  · rfl
  · rfl

theorem ofCreation_eq (c : Claims) (reply : Reply Account) :
    ofCreation c reply =
      ⟨[.create (Resolver.newAccount c)], Resolver.judgeCreated c.email reply⟩ := by
  cases reply <;> rfl

/-! That no account was found is never the last word. -/

theorem found_ofCreation (reply : Reply Account) (email : String) :
    (ofCreation c reply).found ≠ .error (.accountNotFound email) := by
  cases reply <;> simp [ofCreation]

theorem found_ofListing (reply : Reply (List Account)) {email : String}
    (h : v.found ≠ .error (.accountNotFound email)) :
    (ofListing c reply v).found ≠ .error (.accountNotFound email) := by
  by_cases hreply : reply = .ok []
  · rw [hreply, ofListing_nil]
    exact h
  · rw [ofListing_of_ne hreply]
    exact Resolver.judge_ne_accountNotFound hreply email

theorem found_ofReplies (first second : Reply (List Account)) (third : Reply Account)
    (email : String) : (ofReplies c first second third).found ≠ .error (.accountNotFound email) :=
  found_ofListing first (found_ofListing second (found_ofCreation third email))

theorem result_ne_accountNotFound {email : String}
    (h : v.found ≠ .error (.accountNotFound email)) :
    v.result ≠ .error (.accountNotFound email) := by
  intro hresult
  unfold result at hresult
  split at hresult
  · rename_i e hfound
    apply h
    rw [hfound, hresult]
  · split_ifs at hresult
    cases hresult

/-- A run comes to what a verdict says, and keeps what was found. -/
structure Rules (v : Verdict) (c : Claims) (s : RunState σ)
    (run : Except IdentityError Account × RunState σ) : Prop where
  result : run.1 = v.result
  calls : run.2.calls = s.calls ++ v.calls
  kept : ∃ t : RunState σ, t.cache = s.cache ∧ run.2 = t.keep c.email v.found

theorem rules_keep {s t : RunState σ} (hcache : t.cache = s.cache)
    (hcalls : t.calls = s.calls ++ v.calls) :
    v.Rules c s (v.found.bind Resolver.ifEnabled, t.keep c.email v.found) where
  result := v.result_eq.symm
  calls := by
    have hkeep : (t.keep c.email v.found).calls = t.calls := by cases v.found <;> rfl
    rw [hkeep, hcalls]
  kept := ⟨t, hcache, rfl⟩

end Verdict

namespace Resolver

variable {dir : Directory σ} {c : Claims} {s t : RunState σ}

theorem listed_eq {reply : Reply (List Account)} (h : listed dir c s = (reply, t)) :
    dir.list (MailFilter.filter c.email) 2 s.outside = (reply, t.outside) ∧ t.cache = s.cache ∧
      t.calls = s.calls ++ [askFor c] := Run.call_eq_mk h

theorem Search.ruled {run : Except IdentityError Account × RunState σ} (h : Search dir c s run) :
    (Verdict.ofDirectory dir c s.outside).Rules c s run := by
  cases h with
  | @one reply t h hreply =>
    obtain ⟨hact, hcache, hcalls⟩ := listed_eq h
    have hverdict : Verdict.ofDirectory dir c s.outside =
        ⟨[askFor c], judge c.email reply⟩ := by
      simp only [Verdict.ofDirectory, Verdict.ofReplies, hact]
      exact Verdict.ofListing_of_ne hreply _
    rw [hverdict]
    exact Verdict.rules_keep hcache hcalls
  | @two reply t u hempty h hreply =>
    obtain ⟨hact, hcache, hcalls⟩ := listed_eq hempty
    obtain ⟨hact', hcache', hcalls'⟩ := listed_eq h
    have hverdict : Verdict.ofDirectory dir c s.outside =
        ⟨[askFor c, askFor c], judge c.email reply⟩ := by
      simp only [Verdict.ofDirectory, Verdict.ofReplies, hact, hact', Verdict.ofListing_nil,
        Verdict.ofListing_of_ne hreply]
    rw [hverdict]
    apply Verdict.rules_keep (hcache'.trans hcache)
    rw [hcalls', hcalls, List.append_assoc]
    rfl
  | @created reply t u v hempty hagain h =>
    obtain ⟨hact, hcache, hcalls⟩ := listed_eq hempty
    obtain ⟨hact', hcache', hcalls'⟩ := listed_eq hagain
    obtain ⟨hact'', hcache'', hcalls''⟩ := Run.call_eq_mk h
    have hverdict : Verdict.ofDirectory dir c s.outside =
        ⟨[askFor c, askFor c, .create (newAccount c)], judgeCreated c.email reply⟩ := by
      simp only [Verdict.ofDirectory, Verdict.ofReplies, hact, hact', hact'',
        Verdict.ofListing_nil, Verdict.request_eq, Verdict.ofCreation_eq]
    rw [hverdict]
    apply Verdict.rules_keep (hcache''.trans (hcache'.trans hcache))
    rw [hcalls'', hcalls', hcalls, List.append_assoc, List.append_assoc]
    rfl

/-- Whatever the directory says and however often it changes its mind, a user is told what its
answers come to, or what is remembered. An account that it came up with is remembered, enabled or
not; in any other case nothing that is remembered and fresh is changed. Of the cache nothing is asked
but that it holds each address once. -/
theorem resolve_ruled (dir : Directory σ) (c : Claims)
    (hdistinct : (s.cache.entries.map CacheEntry.email).Nodup) :
    let run := resolve dir c s
    (isBlank c.email = true → run = (.error (.missingEmail c.preferredUsername), s)) ∧
    (isBlank c.email = false →
      (∀ e ∈ s.cache.fresh s.clock, e.email = c.email →
        run = (Verdict.result ⟨[], .ok e.account⟩, s)) ∧
      ((∀ e ∈ s.cache.fresh s.clock, e.email ≠ c.email) →
        let verdict := Verdict.ofDirectory dir c s.outside
        run.1 = verdict.result ∧ run.2.calls = s.calls ++ verdict.calls ∧
        (∀ a, verdict.found = .ok a → run.2.cache = s.cache.insert run.2.clock c.email a) ∧
        ∀ fault, verdict.found = .error fault →
          ∀ now, s.clock ≤ now → run.2.cache.fresh now = s.cache.fresh now)) ∧
    ∀ email, run.1 ≠ .error (.accountNotFound email) := by
  intro run
  have hblank : isBlank c.email = true →
      run = (.error (.missingEmail c.preferredUsername), s) := by
    intro h
    simp only [run]
    rw [resolve_eq, if_pos h]
  have hknown : isBlank c.email = false → ∀ e ∈ s.cache.fresh s.clock, e.email = c.email →
      run = (Verdict.result ⟨[], .ok e.account⟩, s) := by
    intro h e he hemail
    obtain ⟨hmem, hfresh⟩ := List.mem_filter.mp he
    have hget : (s.cache.get s.clock c.email).1 = some e.account := by
      rw [← hemail]
      exact AccountCache.get_of_mem hdistinct hmem (of_decide_eq_true hfresh)
    exact (resolve_of_remembered dir h (remembered_of_get hget)).trans
      (Prod.ext (Verdict.result_eq ⟨[], .ok e.account⟩).symm rfl)
  have hsearch : isBlank c.email = false → (∀ e ∈ s.cache.fresh s.clock, e.email ≠ c.email) →
      (Verdict.ofDirectory dir c s.outside).Rules c (s.remembered c.email).2 run := by
    intro h hmissing
    have hnone : (s.remembered c.email).1 = none := AccountCache.get_of_not_fresh hmissing
    exact (search_resolve dir h hnone).ruled
  refine ⟨hblank, fun h => ⟨hknown h, fun hmissing => ?_⟩, fun email => ?_⟩
  · obtain ⟨hresult, hcalls, t, hcache, hkept⟩ := hsearch h hmissing
    refine ⟨hresult, hcalls, fun a ha => ?_, fun fault hfault now hnow => ?_⟩
    · rw [ha] at hkept
      rw [hkept]
      change t.cache.insert t.clock c.email a = s.cache.insert t.clock c.email a
      rw [hcache]
      exact s.cache.insert_get s.clock t.clock c.email a
    · rw [hfault] at hkept
      rw [hkept]
      change t.cache.fresh now = s.cache.fresh now
      rw [hcache]
      exact AccountCache.fresh_get hmissing hnow
  · cases h : isBlank c.email with
    | true => simp [hblank h]
    | false =>
      by_cases hmissing : ∀ e ∈ s.cache.fresh s.clock, e.email ≠ c.email
      · rw [(hsearch h hmissing).result]
        exact Verdict.result_ne_accountNotFound (Verdict.found_ofReplies _ _ _ email)
      · simp only [not_forall, not_not] at hmissing
        obtain ⟨e, he, hemail⟩ := hmissing
        rw [hknown h e he hemail]
        apply Verdict.result_ne_accountNotFound (v := ⟨[], .ok e.account⟩)
        simp

/-- The account of a user who may not sign in. -/
def suspended : Account := { id := "7", mail := "a@x.com" }

/-- A directory that has no account when it is asked first, and one from then on. -/
def fickle : Directory Nat where
  list _ _ := fun times => (.ok (if times = 0 then [] else [suspended]), times + 1)
  create _ := pure (.error (.transport "refused"))
  get _ := pure (.ok none)
  roles _ := pure (.ok [])

/-- What is remembered of the user has become too old; what is remembered of another one has not. -/
def outdated : RunState Nat where
  cache := ⟨2, 100, [⟨"a@x.com", { id := "1" }, 0⟩, ⟨"b@x.com", { id := "2" }, 50⟩]⟩
  clock := 100
  outside := 0

/-- The account that the second listing has is remembered in place of the outdated one, although it
is disabled. -/
theorem resolve_ruled_of_fickle :
    let c : Claims := { email := "a@x.com" }
    let run := resolve fickle c outdated
    (outdated.cache.entries.map CacheEntry.email).Nodup ∧ isBlank c.email = false ∧
      (∀ e ∈ outdated.cache.fresh outdated.clock, e.email ≠ c.email) ∧
      run.1 = .error (.accountDisabled "7") ∧ run.2.calls = [askFor c, askFor c] ∧
      run.2.cache.entries = [⟨"b@x.com", { id := "2" }, 50⟩, ⟨"a@x.com", suspended, 100⟩] := by
  intro c run
  have hdistinct : (outdated.cache.entries.map CacheEntry.email).Nodup := by decide
  have hblank : isBlank c.email = false := by decide +kernel
  have hmissing : ∀ e ∈ outdated.cache.fresh outdated.clock, e.email ≠ c.email := by decide +kernel
  obtain ⟨-, hruled, -⟩ := resolve_ruled fickle c hdistinct
  obtain ⟨hresult, hcalls, hcache, -⟩ := (hruled hblank).2 hmissing
  refine ⟨hdistinct, hblank, hmissing, hresult, hcalls, ?_⟩
  have hcache : run.2.cache = outdated.cache.insert run.2.clock c.email suspended := hcache _ rfl
  rw [hcache]
  decide +kernel

end Resolver

end Gatehouse
