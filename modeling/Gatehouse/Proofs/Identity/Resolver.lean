import Gatehouse.Identity.Resolver
import Gatehouse.Proofs.Identity.Cache
import Mathlib.Tactic

/-!
# Resolving, action by action

What each action of the resolver does to the state, as a function of the state. An account that is
not found never leaves the resolver: it is what makes it create one.
-/

namespace Gatehouse

variable {σ : Type}

/-- A call changes nothing but what is outside, the clocks, and the list of calls. -/
theorem Run.call_eq_mk {dir : Directory σ} {call : DirectoryCall} {α : Type} {act : StateM σ α}
    {s t : RunState σ} {reply : α} (h : Run.call dir call act s = (reply, t)) :
    act s.outside = (reply, t.outside) ∧ t.cache = s.cache ∧ t.calls = s.calls ++ [call] := by
  obtain ⟨rfl, rfl⟩ := Prod.mk.inj h
  exact ⟨rfl, rfl, rfl⟩

namespace Resolver

variable (dir : Directory σ)

def ask (email : String) (s : RunState σ) : Except IdentityError Account × RunState σ :=
  let query := MailFilter.filter email
  let (reply, t) := Run.call dir (.list query pageSize) (dir.list query pageSize) s
  (judge email reply, t.keep email (judge email reply))

theorem lookup_eq (email : String) (s : RunState σ) :
    lookup dir email s =
      match s.remembered email with
      | (some account, t) => (.ok account, t)
      | (none, t) => ask dir email t := by
  unfold lookup
  simp only [bind, StateT.bind, Run.remembered]
  rcases s.remembered email with ⟨_ | account, t⟩
  · rfl
  · rfl

theorem create_eq (claims : Claims) (s : RunState σ) :
    create dir claims s =
      let account := newAccount claims
      let (reply, t) := Run.call dir (.create account) (dir.create account) s
      let created := judgeCreated claims.email reply
      (created, t.keep claims.email created) := rfl

theorem provision_eq (claims : Claims) (s : RunState σ) :
    provision dir claims s =
      match lookup dir claims.email s with
      | (.error (.accountNotFound _), t) => create dir claims t
      | (found, t) => (found, t) := by
  unfold provision
  simp only [bind, StateT.bind]
  rcases lookup dir claims.email s with ⟨e | a, t⟩
  · cases e <;> rfl
  · rfl

theorem resolve_eq (claims : Claims) (s : RunState σ) :
    resolve dir claims s =
      if isBlank claims.email then (.error (.missingEmail claims.preferredUsername), s)
      else
        match lookup dir claims.email s with
        | (.error (.accountNotFound _), t) =>
          let (found, u) := provision dir claims t
          (found.bind ifEnabled, u)
        | (found, t) => (found.bind ifEnabled, t) := by
  unfold resolve
  split_ifs
  · rfl
  · simp only [bind, StateT.bind]
    rcases lookup dir claims.email s with ⟨e | a, t⟩
    · cases e <;> rfl
    · rfl

theorem judge_eq_ok {email : String} {reply : Reply (List Account)} {a : Account} :
    judge email reply = .ok a ↔ reply = .ok [a] := by
  rcases reply with e | _ | ⟨b, _ | ⟨c, rest⟩⟩ <;> simp [judge]

theorem judge_eq_accountNotFound {email other : String} {reply : Reply (List Account)} :
    judge email reply = .error (.accountNotFound other) ↔ reply = .ok [] ∧ email = other := by
  rcases reply with e | _ | ⟨b, _ | ⟨c, rest⟩⟩ <;> simp [judge]

theorem judgeCreated_eq_ok {email : String} {reply : Reply Account} {a : Account} :
    judgeCreated email reply = .ok a ↔ reply = .ok a := by
  cases reply <;> simp [judgeCreated, Except.mapError]

theorem bind_ifEnabled_eq_ok {found : Except IdentityError Account} {a : Account} :
    found.bind ifEnabled = .ok a ↔ found = .ok a ∧ a.enabled = true := by
  cases found with
  | error e => simp [Except.bind]
  | ok b =>
    simp only [Except.bind, ifEnabled]
    split_ifs with hb
    · constructor
      · intro h
        obtain rfl := Except.ok.inj h
        exact ⟨rfl, hb⟩
      · exact And.left
    · constructor
      · intro h
        cases h
      · rintro ⟨h, ha⟩
        obtain rfl := Except.ok.inj h
        exact absurd ha hb

/-! ## One action after the other -/

variable {dir} {c : Claims} {s t : RunState σ} {email : String}
  {found : Except IdentityError Account}

theorem remembered_of_lacks (h : s.cache.Lacks email) : s.remembered email = (none, s) := by
  simp [RunState.remembered, h.get_eq]

theorem remembered_of_get {a : Account}
    (h : (s.cache.get s.clock email).1 = some a) : s.remembered email = (some a, s) := by
  unfold RunState.remembered
  rw [AccountCache.get_of_eq_some h]

theorem remembered_of_accountNotFound {other : String}
    (h : lookup dir email s = (.error (.accountNotFound other), t)) :
    t.remembered email = (none, t) := by
  have hlacks : (s.remembered email).1 = none → (s.remembered email).2.cache.Lacks email :=
    AccountCache.lacks_get
  rw [lookup_eq] at h
  rcases hr : s.remembered email with ⟨_ | account, u⟩ <;> rw [hr] at h hlacks
  · obtain ⟨hjudge, rfl⟩ := Prod.mk.inj h
    rw [hjudge]
    exact remembered_of_lacks (hlacks rfl)
  · cases h

theorem provision_of_lookup (h : lookup dir c.email s = (found, t))
    (hfound : ∀ other, found ≠ .error (.accountNotFound other)) :
    provision dir c s = (found, t) := by
  rw [provision_eq, h]
  split
  · rename_i heq
    exact absurd (congrArg Prod.fst heq) (hfound _)
  · rename_i heq
    exact heq.symm

theorem provision_of_accountNotFound
    (h : lookup dir c.email s = (.error (.accountNotFound email), t)) :
    provision dir c s = create dir c t := by
  rw [provision_eq, h]

theorem resolve_of_lookup (hblank : isBlank c.email = false) (h : lookup dir c.email s = (found, t))
    (hfound : ∀ other, found ≠ .error (.accountNotFound other)) :
    resolve dir c s = (found.bind ifEnabled, t) := by
  rw [resolve_eq, hblank, if_neg Bool.false_ne_true, h]
  split
  · rename_i heq
    exact absurd (congrArg Prod.fst heq) (hfound _)
  · rename_i heq
    obtain ⟨rfl, rfl⟩ := Prod.mk.inj heq
    rfl

theorem resolve_of_accountNotFound (hblank : isBlank c.email = false)
    (h : lookup dir c.email s = (.error (.accountNotFound email), t)) {u : RunState σ}
    (hprovision : provision dir c t = (found, u)) :
    resolve dir c s = (found.bind ifEnabled, u) := by
  rw [resolve_eq, hblank, if_neg Bool.false_ne_true, h]
  simp only [hprovision]

variable (dir)

def askFor (c : Claims) : DirectoryCall := .list (MailFilter.filter c.email) pageSize

def listed (c : Claims) : Run σ (Reply (List Account)) :=
  Run.call dir (askFor c) (dir.list (MailFilter.filter c.email) pageSize)

def created (c : Claims) : Run σ (Reply Account) :=
  Run.call dir (.create (newAccount c)) (dir.create (newAccount c))

theorem lookup_of_missing {reply : Reply (List Account)} (hnone : (s.remembered c.email).1 = none)
    (h : listed dir c (s.remembered c.email).2 = (reply, t)) :
    lookup dir c.email s = (judge c.email reply, t.keep c.email (judge c.email reply)) := by
  have hask : ask dir c.email (s.remembered c.email).2 =
      (judge c.email reply, t.keep c.email (judge c.email reply)) := by
    unfold listed askFor at h
    simp only [ask, h]
  rw [lookup_eq]
  rcases hr : s.remembered c.email with ⟨_ | account, u⟩ <;> rw [hr] at hnone hask
  · exact hask
  · cases hnone

theorem judge_ne_accountNotFound {reply : Reply (List Account)} (h : reply ≠ .ok [])
    (other : String) : judge email reply ≠ .error (.accountNotFound other) :=
  fun hjudge => h (judge_eq_accountNotFound.mp hjudge).1

/-- The search for an account that is not remembered: it is over with the first listing that is not
empty, and behind two empty ones an account is created. -/
inductive Search (c : Claims) (s : RunState σ) : Except IdentityError Account × RunState σ → Prop
  | one {reply : Reply (List Account)} {t : RunState σ} (h : listed dir c s = (reply, t))
      (hreply : reply ≠ .ok []) :
      Search c s ((judge c.email reply).bind ifEnabled, t.keep c.email (judge c.email reply))
  | two {reply : Reply (List Account)} {t u : RunState σ} (hempty : listed dir c s = (.ok [], t))
      (h : listed dir c t = (reply, u)) (hreply : reply ≠ .ok []) :
      Search c s ((judge c.email reply).bind ifEnabled, u.keep c.email (judge c.email reply))
  | created {reply : Reply Account} {t u v : RunState σ} (hempty : listed dir c s = (.ok [], t))
      (hagain : listed dir c t = (.ok [], u)) (h : created dir c u = (reply, v)) :
      Search c s
        ((judgeCreated c.email reply).bind ifEnabled, v.keep c.email (judgeCreated c.email reply))

theorem search_resolve (hblank : isBlank c.email = false)
    (hnone : (s.remembered c.email).1 = none) :
    Search dir c (s.remembered c.email).2 (resolve dir c s) := by
  rcases hfirst : listed dir c (s.remembered c.email).2 with ⟨reply, t⟩
  have hlookup := lookup_of_missing dir hnone hfirst
  by_cases hreply : reply = .ok []
  · subst hreply
    have hagain : t.remembered c.email = (none, t) := remembered_of_accountNotFound hlookup
    rcases hsecond : listed dir c t with ⟨reply, u⟩
    have hlookup' := lookup_of_missing dir (congrArg Prod.fst hagain)
      ((congrArg (listed dir c) (congrArg Prod.snd hagain)).trans hsecond)
    by_cases hreply : reply = .ok []
    · subst hreply
      rcases hcreated : Resolver.created dir c u with ⟨reply, v⟩
      have hprovision : provision dir c t =
          (judgeCreated c.email reply, v.keep c.email (judgeCreated c.email reply)) := by
        have hkeep : u.keep c.email (judge c.email (.ok [])) = u := rfl
        unfold Resolver.created at hcreated
        rw [provision_of_accountNotFound hlookup', hkeep, create_eq]
        simp only [hcreated]
      rw [resolve_of_accountNotFound hblank hlookup hprovision]
      exact .created hfirst hsecond hcreated
    · have hprovision := provision_of_lookup hlookup' (judge_ne_accountNotFound hreply)
      rw [resolve_of_accountNotFound hblank hlookup hprovision]
      exact .two hfirst hsecond hreply
  · rw [resolve_of_lookup hblank hlookup (judge_ne_accountNotFound hreply)]
    exact .one hfirst hreply

theorem resolve_of_remembered {a : Account} (hblank : isBlank c.email = false)
    (h : s.remembered c.email = (some a, t)) : resolve dir c s = (ifEnabled a, t) := by
  have hlookup : lookup dir c.email s = (.ok a, t) := by rw [lookup_eq, h]
  rw [resolve_of_lookup hblank hlookup nofun]
  rfl

/-- A listing that failed ends the search, and nothing is remembered of it. -/
theorem judge_of_failed (email : String) {reply : Reply (List Account)}
    (h : ∀ accounts, reply ≠ .ok accounts) (t : RunState σ) :
    (∃ reason, (judge email reply).bind ifEnabled = .error (.directoryUnavailable email reason)) ∧
      t.keep email (judge email reply) = t := by
  cases reply with
  | error e => exact ⟨⟨e.message, rfl⟩, rfl⟩
  | ok accounts => exact absurd rfl (h accounts)

end Resolver

end Gatehouse
