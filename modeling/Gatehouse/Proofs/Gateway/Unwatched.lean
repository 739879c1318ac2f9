import Gatehouse.Proofs.Gateway.SignedRequests

/-!
# A journal does not interfere

Whatever the gateway does under the eyes of a journal it does without one, with the same results
and in the same state. So what is proved of all runs with a journal is true of all runs.
-/

namespace Gatehouse

variable {σ α β : Type}

/-- The state of a run without the journal. -/
def RunState.unwatched (s : RunState (Journal σ)) : RunState σ where
  cache := s.cache
  clock := s.clock
  seconds := s.seconds
  calls := s.calls
  outside := s.outside.services

/-- An action under the eyes of a journal does what it does without one. -/
def Unaffected (watched : Run (Journal σ) α) (act : Run σ α) : Prop :=
  ∀ s : RunState (Journal σ), act s.unwatched = ((watched s).1, (watched s).2.unwatched)

namespace Unaffected

theorem pure (a : α) : Unaffected (Pure.pure a : Run (Journal σ) α) (Pure.pure a : Run σ α) :=
  fun _ => rfl

theorem bind {watched : Run (Journal σ) α} {act : Run σ α} {watchedNext : α → Run (Journal σ) β}
    {next : α → Run σ β} (h : Unaffected watched act)
    (k : ∀ a, Unaffected (watchedNext a) (next a)) :
    Unaffected (watched >>= watchedNext) (act >>= next) := by
  intro s
  change next (act s.unwatched).1 (act s.unwatched).2 = _
  rw [h s]
  exact k _ _

theorem remembered (email : String) :
    Unaffected (Run.remembered email : Run (Journal σ) _) (Run.remembered email : Run σ _) :=
  fun _ => rfl

theorem keep {ε : Type} (email : String) (found : Except ε Account) :
    Unaffected (Run.keep email found : Run (Journal σ) _) (Run.keep email found : Run σ _) := by
  intro s
  cases found with
  | error e => rfl
  | ok account => rfl

variable (dir : Directory σ)

theorem call (c : DirectoryCall) (act : StateM σ α) (event : α → Event) :
    Unaffected (Run.call (Journal.directory dir) c (Journal.call dir act event))
      (Run.call dir c act) := fun _ => rfl

theorem forward (backends : Backends σ) (r : Request) :
    Unaffected (Run.exchange (Journal.backends backends r)) (Run.exchange (backends r)) :=
  fun _ => rfl

theorem lookup (email : String) :
    Unaffected (Resolver.lookup (Journal.directory dir) email) (Resolver.lookup dir email) := by
  refine bind (remembered email) fun account => ?_
  cases account with
  | some account => exact pure _
  | none => exact bind (call dir _ _ _) fun reply => bind (keep email _) fun _ => pure _

theorem create (claims : Claims) :
    Unaffected (Resolver.create (Journal.directory dir) claims) (Resolver.create dir claims) :=
  bind (call dir _ _ _) fun _ => bind (keep claims.email _) fun _ => pure _

theorem provision (claims : Claims) :
    Unaffected (Resolver.provision (Journal.directory dir) claims)
      (Resolver.provision dir claims) := by
  refine bind (lookup dir claims.email) fun found => ?_
  rcases found with e | account
  · cases e
    case accountNotFound email => exact create dir claims
    all_goals exact pure _
  · exact pure _

theorem resolve (claims : Claims) :
    Unaffected (Resolver.resolve (Journal.directory dir) claims) (Resolver.resolve dir claims) := by
  unfold Resolver.resolve
  split_ifs
  · exact pure _
  · refine bind (lookup dir claims.email) fun found => ?_
    rcases found with e | account
    · cases e
      case accountNotFound email => exact bind (provision dir claims) fun _ => pure _
      all_goals exact pure _
    · exact pure _

theorem token (minter : TokenMinter) (account : Account) :
    Unaffected (Assertion.token (Journal.directory dir) minter account)
      (Assertion.token dir minter account) := by
  refine bind (call dir _ _ _) fun reply => ?_
  cases reply with
  | error e => exact pure _
  | ok granted => exact fun _ => rfl

theorem tokenFor (minter : TokenMinter) (claims : Claims) :
    Unaffected (Assertion.tokenFor (Journal.directory dir) minter claims)
      (Assertion.tokenFor dir minter claims) := by
  refine bind (resolve dir claims) fun found => ?_
  cases found with
  | error e => exact pure _
  | ok account => exact token dir minter account

theorem attach (minter : TokenMinter) (claims : Option Claims) (headers : Headers) :
    Unaffected (Assertion.attach (Journal.directory dir) minter claims headers)
      (Assertion.attach dir minter claims headers) := by
  cases claims with
  | none => exact pure _
  | some c =>
    rw [Assertion.attach_some_eq_bind, Assertion.attach_some_eq_bind]
    exact bind (tokenFor dir minter c) fun _ => pure _

theorem policy (strategy : Strategy) (user : Option String) :
    Unaffected (strategy.policy (Journal.directory dir) user) (strategy.policy dir user) := by
  cases strategy with
  | fixed policy => exact pure _
  | migration params =>
    unfold Strategy.policy
    cases user.filter (· ≠ "") with
    | none => exact pure _
    | some id =>
      refine bind (call dir _ _ _) fun reply => ?_
      rcases reply with e | _ | account
      all_goals exact pure _

variable (e : Engine) (claims : Option Claims)

theorem assertIdentity (headers : Headers) :
    Unaffected (e.assertIdentity (Journal.directory dir) claims headers)
      (e.assertIdentity dir claims headers) := by
  unfold Engine.assertIdentity
  cases e.minter with
  | none => exact pure _
  | some minter => exact bind (attach dir minter claims _) fun _ => pure _

theorem direct (r : Request) :
    Unaffected (e.direct (Journal.directory dir) claims r) (e.direct dir claims r) := by
  refine bind (bind (policy dir e.router.strategy _) fun _ => pure _) fun selected => ?_
  rcases selected with ⟨policy, _ | d⟩
  · exact pure _
  · exact pure _

theorem prepare (r : Request) :
    Unaffected (e.prepare (Journal.directory dir) claims r) (e.prepare dir claims r) := by
  refine bind (assertIdentity dir e claims r.headers) fun asserted => ?_
  cases asserted with
  | error fault => exact pure _
  | ok headers => exact direct dir e claims { r with headers }

theorem handle (backends : Backends σ) (r : Request) :
    Unaffected (e.handle (Journal.directory dir) (Journal.backends backends) claims r)
      (e.handle dir backends claims r) := by
  refine bind (prepare dir e claims r) fun prepared => ?_
  cases prepared with
  | error fault => exact pure _
  | ok q => exact forward backends q

end Unaffected

namespace RunState

variable (dir : Directory σ) (backends : Backends σ) (e : Engine)

/-- What one act makes of the state when nobody keeps a journal. -/
def plainAct (s : RunState σ) : Act σ → RunState σ
  | .request claims r => (e.handle dir backends claims r s).2
  | .invalidate email => { s with cache := s.cache.invalidate email }
  | .advance elapsed => { s with clock := s.clock + elapsed }
  | .setTime seconds => { s with seconds }
  | .alter change => { s with outside := change s.outside }

theorem unwatched_act (s : RunState (Journal σ)) (a : Act σ) :
    (s.act dir backends e a).unwatched = s.unwatched.plainAct dir backends e a := by
  cases a with
  | request claims r =>
    exact (congrArg Prod.snd (Unaffected.handle dir e claims backends r s)).symm
  | invalidate email => rfl
  | advance elapsed => rfl
  | setTime seconds => rfl
  | alter change => rfl

/-- A whole run comes to the state that it comes to without a journal. -/
theorem unwatched_acts (s : RunState (Journal σ)) (as : List (Act σ)) :
    (s.acts dir backends e as).unwatched = as.foldl (plainAct dir backends e) s.unwatched := by
  induction as generalizing s with
  | nil => rfl
  | cons a rest ih =>
    rw [List.foldl_cons, ← unwatched_act]
    exact ih _

end RunState

end Gatehouse
