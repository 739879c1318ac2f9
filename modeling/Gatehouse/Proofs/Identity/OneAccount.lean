import Gatehouse.Proofs.Identity.Cache
import Gatehouse.Proofs.Identity.Interleaving
import Gatehouse.Proofs.Identity.Locks
import Gatehouse.Proofs.Identity.Resolver

/-!
# One account for one address

However requests get in each other's way, no second account is created for an address. While a
request looks for an account with the lock, and as long as it creates one, nobody else creates one
for this address; so what it hears is still true then. An answer that shows an account stays true
for ever.
-/

namespace Gatehouse

/-- The id of the account that a request came to, enabled or not. -/
def accountId? : Except IdentityError Account → Option String
  | .ok a => some a.id
  | .error (.accountDisabled id) => some id
  | .error _ => none

theorem accountId?_bind_ifEnabled (found : Except IdentityError Account) :
    accountId? (found.bind Resolver.ifEnabled) = accountId? found := by
  cases found with
  | error e => rfl
  | ok a =>
    simp only [Except.bind, Resolver.ifEnabled]
    split_ifs <;> rfl

namespace Registry

variable {r : Registry} {email : String} {a : Account}

/-- A result that comes with the only account under an address, if with any. -/
def Bears (r : Registry) (email : String) (found : Except IdentityError Account) : Prop :=
  ∀ id, accountId? found = some id → ∃ a, r.under email = [a] ∧ a.id = id

theorem Bears.finished {found : Except IdentityError Account} (h : r.Bears email found) :
    r.Bears email (found.bind Resolver.ifEnabled) := by
  intro id hid
  rw [accountId?_bind_ifEnabled] at hid
  exact h id hid

theorem bears_ok (h : r.under email = [a]) : r.Bears email (.ok a) := by
  intro id hid
  exact ⟨a, h, Option.some.inj hid⟩

theorem bears_judge {reply : Reply (List Account)}
    (h : ∀ a, reply = .ok [a] → r.under email = [a]) : r.Bears email (Resolver.judge email reply) := by
  rcases reply with e | _ | ⟨a, _ | ⟨b, rest⟩⟩
  · intro id hid
    cases hid
  · intro id hid
    cases hid
  · exact bears_ok (h a rfl)
  · intro id hid
    cases hid

theorem bears_judgeCreated {reply : Reply Account} (h : ∀ a, reply = .ok a → r.under email = [a]) :
    r.Bears email (Resolver.judgeCreated email reply) := by
  cases reply with
  | error e =>
    intro id hid
    cases hid
  | ok a => exact bears_ok (h a rfl)

theorem Bears.store {found : Except IdentityError Account} (h : r.Bears email found)
    (hnone : r.under a.mail = []) : (r.store a).Bears email found := by
  intro id hid
  obtain ⟨b, hb, rfl⟩ := h id hid
  exact ⟨b, under_store_eq_singleton hnone hb, rfl⟩

end Registry

/-! ## What is true of each stage -/

/-- What is true of a request at a stage, given the answer that it has not heard yet. -/
def Stage.Sound (r : Registry) (ls : Locks) (i : Nat) (email : String) (answer : Option Answer) :
    Stage → Prop
  | .started => answer = none
  | .searching => ∀ a, answer = some (.listed [a]) → r.under email = [a]
  | .waiting lock => answer = none ∧ ls.Queued email lock i
  | .rechecking lock => ls.Held email lock i ∧
      (∀ a, answer = some (.listed [a]) → r.under email = [a]) ∧
      (answer = some (.listed []) → r.under email = [])
  | .creating lock => ls.Held email lock i ∧
      (∀ a, answer = some (.created a) → r.under email = [a]) ∧
      ((∀ a, answer ≠ some (.created a)) → r.under email = [])
  | .finished result => answer = none ∧ r.Bears email result

namespace Stage

variable {r : Registry} {ls ls' : Locks} {i : Nat} {email : String} {answer : Option Answer}
  {stage : Stage}

/-- What others do at the locks does not matter as long as they leave the own place alone. -/
theorem Sound.congr (h : stage.Sound r ls i email answer)
    (hqueued : ∀ lock, ls.Queued email lock i → ls'.Queued email lock i)
    (hheld : ∀ lock, ls.Held email lock i → ls'.Held email lock i) :
    stage.Sound r ls' i email answer := by
  cases stage with
  | started => exact h
  | searching => exact h
  | waiting lock => exact ⟨h.1, hqueued lock h.2⟩
  | rechecking lock => exact ⟨hheld lock h.1, h.2⟩
  | creating lock => exact ⟨hheld lock h.1, h.2⟩
  | finished result => exact h

/-- Nothing that is true of others becomes false when an account is created: none of them has the
lock for its address. -/
theorem Sound.store {a : Account} (h : stage.Sound r ls i email answer)
    (hnone : r.under a.mail = []) (hother : ∀ lock, ¬ ls.Held a.mail lock i) :
    stage.Sound (r.store a) ls i email answer := by
  have hsame : ∀ lock, ls.Held email lock i → (r.store a).under email = r.under email := by
    intro lock hheld
    refine Registry.under_store_of_ne ?_
    rintro rfl
    exact hother lock hheld
  cases stage with
  | started => exact h
  | searching => exact fun b hb => Registry.under_store_eq_singleton hnone (h b hb)
  | waiting lock => exact h
  | rechecking lock =>
    -- that there is no account stays true only because the own address is another one
    obtain ⟨hheld, hlisted, hempty⟩ := h
    refine ⟨hheld, ?_⟩
    rw [hsame lock hheld]
    exact ⟨hlisted, hempty⟩
  | creating lock =>
    obtain ⟨hheld, hcreated, hempty⟩ := h
    refine ⟨hheld, ?_⟩
    rw [hsame lock hheld]
    exact ⟨hcreated, hempty⟩
  | finished result => exact ⟨h.1, h.2.store hnone⟩

end Stage

/-! ## What is true of all requests together -/

/-- What is true between two moves. Of a request that is being taken up, nothing is said. -/
structure Pool.Sound (r : Registry) (answers : Nat → Option Answer) (moving : Option Nat)
    (p : Pool Unit) : Prop where
  locks : p.locks.WellFormed
  cached : ∀ e ∈ p.run.cache.entries, r.under e.email = [e.account]
  called : ∀ request, .create request ∈ p.run.calls → withMail r.initial request.mail = []
  tasks : ∀ j t, moving ≠ some j → p.tasks[j]? = some t →
    t.stage.Sound r p.locks j t.claims.email (answers j)

namespace Pool.Sound

variable {r : Registry} {answers : Nat → Option Answer} {moving : Option Nat} {p : Pool Unit}
  {i lock : Nat} {t : ResolveTask}

theorem taken (h : p.Sound r answers none) (i : Nat) : p.Sound r answers (some i) :=
  { h with tasks := fun j t _ => h.tasks j t nofun }

theorem with_run (h : p.Sound r answers moving) {run : RunState Unit}
    (hcached : ∀ e ∈ run.cache.entries, r.under e.email = [e.account])
    (hcalled : ∀ request, .create request ∈ run.calls → withMail r.initial request.mail = []) :
    Pool.Sound r answers moving { p with run } :=
  ⟨h.locks, hcached, hcalled, h.tasks⟩

theorem enter (h : p.Sound r answers (some i)) (ht : p.tasks[i]? = some t) {stage : Stage}
    (hs : stage.Sound r p.locks i t.claims.email none) :
    (p.enter i stage).Sound r (Function.update answers i none) none where
  locks := h.locks
  cached := h.cached
  called := h.called
  tasks j u _ hu := by
    by_cases hj : j = i
    · subst hj
      simp only [Pool.enter, List.getElem?_modify_eq, ht, Option.map_eq_map, Option.map_some,
        Option.some.injEq] at hu
      rw [← hu, Function.update_self]
      exact hs
    · simp only [Pool.enter, List.getElem?_modify_ne _ _ (Ne.symm hj)] at hu
      rw [Function.update_of_ne hj]
      exact h.tasks j u (fun heq => hj (Option.some.inj heq).symm) hu

theorem finish (h : p.Sound r answers (some i)) (ht : p.tasks[i]? = some t)
    {found : Except IdentityError Account} (hfound : r.Bears t.claims.email found) :
    (p.finish i found).Sound r (Function.update answers i none) none :=
  h.enter ht ⟨rfl, hfound.finished⟩

theorem release (h : p.Sound r answers (some i)) {email : String}
    (hi : p.locks.Queued email lock i) :
    Pool.Sound r answers (some i) { p with locks := p.locks.release email lock i } where
  locks := h.locks.release email lock i
  cached := h.cached
  called := h.called
  tasks j u hj hu := by
    have hne : j ≠ i := fun heq => hj (congrArg some heq.symm)
    exact (h.tasks j u hj hu).congr (fun _ hq => hq.release h.locks hne hi)
      fun _ hq => hq.release h.locks hne hi

theorem finishFirst (h : p.Sound r answers (some i)) (ht : p.tasks[i]? = some t)
    (hi : p.locks.Queued t.claims.email lock i) {found : Except IdentityError Account}
    (hfound : r.Bears t.claims.email found) :
    (p.finishFirst i t.claims.email lock found).Sound r (Function.update answers i none) none :=
  (h.release hi).finish ht hfound

theorem acquire (h : p.Sound r answers (some i)) (email : String) :
    Pool.Sound r answers (some i) { p with locks := (p.locks.acquire email i).2 } where
  locks := h.locks.acquire email i
  cached := h.cached
  called := h.called
  tasks j u hj hu := (h.tasks j u hj hu).congr (fun _ hq => hq.acquire h.locks email i)
    fun _ hq => hq.acquire h.locks email i

theorem ask (h : p.Sound r answers (some i)) (ht : p.tasks[i]? = some t) {stage : Stage}
    (hs : stage.Sound r p.locks i t.claims.email none) :
    (p.ask i t.claims.email stage).Sound r (Function.update answers i none) none := by
  have hnoted : Pool.Sound r answers (some i) { p with
      run := p.run.note (.list (MailFilter.filter t.claims.email) Resolver.pageSize) } :=
    h.with_run h.cached fun request hmem => h.called request (by simpa [RunState.note] using hmem)
  exact hnoted.enter ht hs

theorem remembered (h : p.Sound r answers moving) (email : String) :
    Pool.Sound r answers moving { p with run := (p.run.remembered email).2 } ∧
      ∀ a, (p.run.remembered email).1 = some a → r.under email = [a] := by
  constructor
  · exact h.with_run (fun e he => h.cached e (AccountCache.mem_of_mem_get he)) h.called
  · intro a ha
    obtain ⟨e, he, rfl, rfl, -⟩ := AccountCache.exists_of_get_eq_some ha
    exact h.cached e he

theorem keep (h : p.Sound r answers moving) {email : String} {found : Except IdentityError Account}
    (hfound : ∀ a, found = .ok a → r.under email = [a]) :
    Pool.Sound r answers moving { p with run := p.run.keep email found } := by
  cases found with
  | error e => exact h
  | ok a =>
    refine h.with_run (fun e he => ?_) h.called
    rcases AccountCache.mem_of_mem_insert he with ⟨hold, -⟩ | rfl
    · exact h.cached e hold
    · exact hfound a rfl

theorem takeTurn (h : p.Sound r answers (some i)) (ht : p.tasks[i]? = some t)
    (hi : p.locks.Queued t.claims.email lock i) :
    (p.takeTurn i t.claims.email lock).Sound r (Function.update answers i none) none := by
  unfold Pool.takeTurn
  split_ifs with hhas
  · obtain ⟨hsound, hshown⟩ := h.remembered t.claims.email
    rcases hr : p.run.remembered t.claims.email with ⟨_ | a, run⟩ <;> rw [hr] at hsound hshown
    · exact hsound.ask ht ⟨⟨hi, hhas⟩, nofun, nofun⟩
    · exact hsound.finishFirst ht hi (Registry.bears_ok (hshown a rfl))
  · exact h.enter ht ⟨rfl, hi⟩

theorem answered (h : p.Sound r answers moving) {answer : Answer} {email : String}
    (hlisted : ∀ a, answer = .listed [a] → r.under email = [a]) :
    (p.answered answer.desk email).2.Sound r answers moving ∧
      r.Bears email (p.answered answer.desk email).1 := by
  have hfound : ∀ a, answer.listing = .ok [a] → r.under email = [a] := by
    intro a ha
    cases answer <;> cases ha
    exact hlisted a rfl
  exact ⟨h.keep fun a ha => hfound a (Resolver.judge_eq_ok.mp ha), Registry.bears_judge hfound⟩

theorem created (h : p.Sound r answers (some i)) (ht : p.tasks[i]? = some t)
    (hi : p.locks.Queued t.claims.email lock i) {answer : Answer}
    (hcreated : ∀ a, answer = .created a → r.under t.claims.email = [a]) :
    (p.resume answer.desk i t.claims (.creating lock)).Sound r (Function.update answers i none)
      none := by
  have hfound : ∀ a, answer.creation = .ok a → r.under t.claims.email = [a] := by
    intro a ha
    cases answer <;> cases ha
    exact hcreated a rfl
  have hkept : Pool.Sound r answers (some i) { p with
      run := p.run.keep t.claims.email (Resolver.judgeCreated t.claims.email answer.creation) } :=
    h.keep fun a ha => hfound a (Resolver.judgeCreated_eq_ok.mp ha)
  exact hkept.finishFirst ht hi (Registry.bears_judgeCreated hfound)

/-- A request creates an account right after it has heard that there is none. -/
theorem create (h : p.Sound r answers (some i)) (ht : p.tasks[i]? = some t)
    (hi : p.locks.Held t.claims.email lock i) (hnone : r.under t.claims.email = []) :
    Pool.Sound r (Function.update answers i none) none (Pool.enter { p with
      run := p.run.note (.create (Resolver.newAccount t.claims)) } i (.creating lock)) := by
  have hnoted : Pool.Sound r answers (some i) { p with
      run := p.run.note (.create (Resolver.newAccount t.claims)) } := by
    refine h.with_run h.cached fun request hmem => ?_
    rcases List.mem_append.mp hmem with hmem | hmem
    · exact h.called request hmem
    · obtain rfl : request = Resolver.newAccount t.claims := by simpa using hmem
      rw [Registry.under_eq] at hnone
      exact (List.append_eq_nil_iff.mp hnone).1
  exact hnoted.enter ht ⟨hi, nofun, fun _ => hnone⟩

theorem searched (h : p.Sound r answers (some i)) {claims : Claims}
    (ht : p.tasks[i]? = some ⟨claims, .searching⟩) {answer : Answer}
    (hlisted : ∀ a, answer = .listed [a] → r.under claims.email = [a]) :
    (p.resume answer.desk i claims .searching).Sound r (Function.update answers i none) none := by
  obtain ⟨hsound, hbears⟩ := h.answered hlisted
  simp only [Pool.resume]
  split
  · rename_i hr
    obtain ⟨-, rfl⟩ := Prod.ext_iff.mp hr
    exact (hsound.acquire claims.email).takeTurn ht (Locks.queued_acquire h.locks _ i)
  · rename_i hr
    obtain ⟨rfl, rfl⟩ := Prod.ext_iff.mp hr
    exact hsound.finish ht hbears

theorem rechecked (h : p.Sound r answers (some i)) {claims : Claims}
    (ht : p.tasks[i]? = some ⟨claims, .rechecking lock⟩) (hi : p.locks.Held claims.email lock i)
    {answer : Answer} (hlisted : ∀ a, answer = .listed [a] → r.under claims.email = [a])
    (hempty : answer = .listed [] → r.under claims.email = []) :
    (p.resume answer.desk i claims (.rechecking lock)).Sound r (Function.update answers i none)
      none := by
  obtain ⟨hsound, hbears⟩ := h.answered hlisted
  simp only [Pool.resume]
  split
  · rename_i hr
    obtain ⟨hfound, rfl⟩ := Prod.ext_iff.mp hr
    -- only the empty list is judged to show no account, a failure is not
    obtain ⟨hreply, -⟩ := Resolver.judge_eq_accountNotFound.mp hfound
    cases answer <;> cases hreply
    exact hsound.create ht hi (hempty rfl)
  · rename_i hr
    obtain ⟨rfl, rfl⟩ := Prod.ext_iff.mp hr
    exact hsound.finishFirst ht hi.1 hbears

theorem hear (h : p.Sound r answers none) {answer : Answer} (hanswer : answers i = some answer) :
    (p.poll answer.desk i).Sound r (Function.update answers i none) none := by
  unfold Pool.poll
  cases ht : p.tasks[i]? with
  | none =>
    refine { h with tasks := fun j u _ hu => ?_ }
    have hj : j ≠ i := by
      rintro rfl
      rw [ht] at hu
      cases hu
    rw [Function.update_of_ne hj]
    exact h.tasks j u nofun hu
  | some t =>
    have hstage := h.tasks i t nofun ht
    have hmoving := h.taken i
    rw [hanswer] at hstage
    obtain ⟨claims, stage⟩ := t
    cases stage with
    | started => cases hstage
    | searching => exact hmoving.searched ht fun a ha => hstage a (congrArg some ha)
    | waiting lock => cases hstage.1
    | rechecking lock =>
      obtain ⟨hheld, hlisted, hempty⟩ := hstage
      exact hmoving.rechecked ht hheld (fun a ha => hlisted a (congrArg some ha))
        fun ha => hempty (congrArg some ha)
    | creating lock =>
      obtain ⟨hheld, hcreated, -⟩ := hstage
      exact hmoving.created ht hheld.1 fun a ha => hcreated a (congrArg some ha)
    | finished result => cases hstage.1

/-- A request that waits for no answer goes on, or stays where it is. -/
theorem goOn (h : p.Sound r answers none) (dir : Directory Unit) (ht : p.tasks[i]? = some t)
    (hlists : ¬ t.stage.Lists) (hcreates : ¬ t.stage.Creates) :
    (p.poll dir i).Sound r answers none := by
  have hstage := h.tasks i t nofun ht
  have hmoving := h.taken i
  have hsame : answers i = none → Function.update answers i none = answers := by
    intro hnone
    rw [← hnone, Function.update_eq_self]
  unfold Pool.poll
  rw [ht]
  obtain ⟨claims, stage⟩ := t
  cases stage with
  | started =>
    rw [← hsame hstage]
    simp only [Pool.resume]
    split_ifs
    · exact hmoving.enter ht ⟨rfl, nofun⟩
    · obtain ⟨hsound, hshown⟩ := hmoving.remembered claims.email
      rcases hr : p.run.remembered claims.email with ⟨_ | a, run⟩ <;> rw [hr] at hsound hshown
      · exact hsound.ask ht nofun
      · exact hsound.finish ht (Registry.bears_ok (hshown a rfl))
  | searching => exact absurd trivial hlists
  | waiting lock =>
    rw [← hsame hstage.1]
    exact hmoving.takeTurn ht hstage.2
  | rechecking lock => exact absurd trivial hlists
  | creating lock => exact absurd trivial hcreates
  | finished result => exact h

theorem reply (h : p.Sound r answers none) (ht : p.tasks[i]? = some t) {answer : Answer}
    (hs : t.stage.Sound r p.locks i t.claims.email (some answer)) :
    p.Sound r (Function.update answers i (some answer)) none := by
  refine { h with tasks := fun j u _ hu => ?_ }
  by_cases hj : j = i
  · subst hj
    obtain rfl : t = u := Option.some.inj (ht.symm.trans hu)
    rw [Function.update_self]
    exact hs
  · rw [Function.update_of_ne hj]
    exact h.tasks j u nofun hu

theorem list (h : p.Sound r answers none) (ht : p.tasks[i]? = some t) (hstage : t.stage.Lists)
    (hanswer : answers i = none) {page : List Account}
    (hpage : r.Lists (MailFilter.filter t.claims.email) Resolver.pageSize page) :
    p.Sound r (Function.update answers i (some (.listed page))) none := by
  refine h.reply ht ?_
  have hi := h.tasks i t nofun ht
  rw [hanswer] at hi
  obtain ⟨claims, stage⟩ := t
  have hone : ∀ a, some (Answer.listed page) = some (.listed [a]) →
      r.under claims.email = [a] := by
    intro a ha
    cases ha
    exact hpage.under_eq_singleton
  cases stage <;> try cases hstage
  case searching => exact hone
  case rechecking =>
    refine ⟨hi.1, hone, fun hempty => ?_⟩
    cases hempty
    exact hpage.under_eq_nil

/-- A call fails. A creation that has failed has left the address without an account. -/
theorem fail (h : p.Sound r answers none) (ht : p.tasks[i]? = some t)
    (hstage : t.stage.Lists ∨ t.stage.Creates) (hanswer : answers i = none) (e : DirectoryError) :
    p.Sound r (Function.update answers i (some (.failed e))) none := by
  refine h.reply ht ?_
  have hi := h.tasks i t nofun ht
  rw [hanswer] at hi
  obtain ⟨claims, stage⟩ := t
  have hlisted : ∀ page, some (Answer.failed e) ≠ some (.listed page) := by simp
  have hcreated : ∀ a, some (Answer.failed e) ≠ some (.created a) := by simp
  cases stage
  case searching => exact fun a ha => absurd ha (hlisted [a])
  case rechecking =>
    exact ⟨hi.1, fun a ha => absurd ha (hlisted [a]), fun ha => absurd ha (hlisted [])⟩
  case creating =>
    have hnone : ∀ a, none ≠ some (Answer.created a) := by simp
    exact ⟨hi.1, fun a ha => absurd ha (hcreated a), fun _ => hi.2.2 hnone⟩
  all_goals exact hstage.elim False.elim False.elim

theorem store (h : p.Sound r answers none) (ht : p.tasks[i]? = some t) {a : Account}
    (hstage : t.stage.Creates) (hanswer : answers i = none) (hmail : a.mail = t.claims.email) :
    r.under a.mail = [] ∧
      p.Sound (r.store a) (Function.update answers i (some (.created a))) none := by
  have hi := h.tasks i t nofun ht
  rw [hanswer] at hi
  obtain ⟨claims, stage⟩ := t
  cases stage <;> try cases hstage
  rename_i lock
  obtain ⟨hheld, -, hnone⟩ := hi
  rw [← hmail] at hheld hnone
  have hnone := hnone nofun
  refine ⟨hnone, h.locks, fun e he => Registry.under_store_eq_singleton hnone (h.cached e he),
    h.called, fun j u _ hu => ?_⟩
  by_cases hj : j = i
  · subst hj
    obtain rfl := Option.some.inj (ht.symm.trans hu)
    rw [Function.update_self]
    refine ⟨hmail ▸ hheld, fun b hb => ?_, fun hb => absurd rfl (hb a)⟩
    cases hb
    rw [← hmail, Registry.under_store_self, hnone]
    rfl
  · -- who has the lock is the only one to count on there being no account
    rw [Function.update_of_ne hj]
    exact (h.tasks j u nofun hu).store hnone fun _ hother => hj (hother.unique hheld)

end Pool.Sound

/-! ## Whole runs -/

/-- The id of the account that a request came to, if it is finished and came to one. -/
def ResolveTask.accountId? (t : ResolveTask) : Option String :=
  match t.stage with
  | .finished result => Gatehouse.accountId? result
  | _ => none

namespace Scene

/-- What is true at any time, if the registry held the given accounts at the start. -/
structure Sound (initial : List Account) (s : Scene) : Prop where
  pool : s.pool.Sound s.registry s.answers none
  initial : s.registry.initial = initial
  once : ∀ email, withMail s.registry.created email ≠ [] → ∃ a, s.registry.under email = [a]

variable {initial : List Account} {s t : Scene}

theorem sound_begin (size ttl : Nat) (initial : List Account) (users : List Claims) :
    (begin size ttl initial users).Sound initial where
  pool :=
    { locks := ⟨nofun, nofun⟩
      cached := nofun
      called := nofun
      tasks := fun j u _ hu => by
        have hmem := List.mem_of_getElem? hu
        obtain ⟨claims, -, rfl⟩ := List.mem_map.mp hmem
        rfl }
  initial := rfl
  once email h := absurd rfl h

theorem Sound.step (h : s.Sound initial) (hstep : Step s t) : t.Sound initial := by
  cases hstep with
  | list hu hstage hanswer hpage => exact { h with pool := h.pool.list hu hstage hanswer hpage }
  | @create i u a hu hstage hanswer hmail hfresh =>
    obtain ⟨hnone, hpool⟩ := h.pool.store hu hstage hanswer hmail
    refine ⟨hpool, h.initial, fun email hcreated => ?_⟩
    by_cases hemail : a.mail = email
    · -- there was none, so the new account is the only one
      subst hemail
      exact ⟨a, by rw [reply, Registry.under_store_self, hnone]; rfl⟩
    · have hsame : withMail (s.registry.store a).created email =
          withMail s.registry.created email := by
        simp [Registry.store, withMail, hemail]
      obtain ⟨b, hb⟩ := h.once email (hsame ▸ hcreated)
      exact ⟨b, Registry.under_store_eq_singleton hnone hb⟩
  | fail e hu hstage hanswer => exact { h with pool := h.pool.fail hu hstage hanswer e }
  | hear hanswer => exact { h with pool := h.pool.hear hanswer }
  | goOn dir hu hlists hcreates => exact { h with pool := h.pool.goOn dir hu hlists hcreates }
  | advance elapsed => exact { h with pool := h.pool.with_run h.pool.cached h.pool.called }
  | forget hentries =>
    have hcached := fun e he => h.pool.cached e (hentries.subset he)
    exact { h with pool := h.pool.with_run hcached h.pool.called }

theorem Sound.leads (h : s.Sound initial) (hleads : Leads s t) : t.Sound initial := by
  induction hleads with
  | refl => exact h
  | tail _ hstep ih => exact ih.step hstep

/-- However the requests run side by side: for an address that had no account at most one is
created, for one that had any none is tried to be, and all requests that come to an account for one
address come to the same. -/
theorem Leads.one_account {size ttl : Nat} {users : List Claims}
    (h : Leads (begin size ttl initial users) s) (email : String) :
    (withMail initial email = [] → (withMail s.registry.created email).length ≤ 1) ∧
    (withMail initial email ≠ [] →
      ∀ request, .create request ∈ s.pool.run.calls → request.mail ≠ email) ∧
    ∀ t ∈ s.pool.tasks, ∀ u ∈ s.pool.tasks, t.claims.email = email → u.claims.email = email →
      ∀ id id', t.accountId? = some id → u.accountId? = some id' → id = id' := by
  obtain ⟨hpool, hinitial, honce⟩ := (sound_begin size ttl initial users).leads h
  refine ⟨fun _ => ?_, fun hsome request hcall hmail => ?_, ?_⟩
  · by_cases hcreated : withMail s.registry.created email = []
    · simp [hcreated]
    · obtain ⟨a, ha⟩ := honce email hcreated
      have hlength := congrArg List.length (s.registry.under_eq email)
      rw [ha, List.length_append, List.length_singleton] at hlength
      omega
  · have hnone := hpool.called request hcall
    rw [hinitial, hmail] at hnone
    exact hsome hnone
  · have hbears : ∀ t ∈ s.pool.tasks, t.claims.email = email → ∀ id, t.accountId? = some id →
        ∃ a, s.registry.under email = [a] ∧ a.id = id := by
      rintro t ht rfl id hid
      obtain ⟨j, hj⟩ := List.getElem?_of_mem ht
      have hstage := hpool.tasks j t nofun hj
      obtain ⟨claims, stage⟩ := t
      cases stage <;> try cases hid
      exact hstage.2 id hid
    intro t ht u hu htmail humail id id' hid hid'
    obtain ⟨a, ha, rfl⟩ := hbears t ht htmail id hid
    obtain ⟨b, hb, rfl⟩ := hbears u hu humail id' hid'
    rw [ha] at hb
    cases hb
    rfl

def newcomer : Claims := { email := "a@x.com", preferredUsername := "a" }

def newcomerAccount : Account := { Resolver.newAccount newcomer with id := "1" }

/-- Two requests of a newcomer. The second waits for the first, and then the cache has forgotten the
account again, so that it is found in the directory. -/
theorem Leads.one_account_of_two_logins :
    ∃ s, Leads (begin 16 60000 [] [newcomer, newcomer]) s ∧
      s.pool.tasks = [⟨newcomer, .finished (.ok newcomerAccount)⟩,
        ⟨newcomer, .finished (.ok newcomerAccount)⟩] ∧
      (withMail s.registry.created newcomer.email).length ≤ 1 := by
  have hempty : ∀ r : Registry, r.accounts = [] →
      r.Lists (MailFilter.filter newcomer.email) Resolver.pageSize [] :=
    fun r hr => ⟨[], hr ▸ .refl _, rfl⟩
  have hstored : ∀ r : Registry, r.accounts = [newcomerAccount] →
      r.Lists (MailFilter.filter newcomer.email) Resolver.pageSize [newcomerAccount] :=
    fun r hr => ⟨[newcomerAccount], hr ▸ .refl _, rfl⟩
  have h : Leads (begin 16 60000 [] [newcomer, newcomer]) _ :=
    Relation.ReflTransGen.refl
      |>.tail (.goOn (i := 0) (t := ⟨newcomer, .started⟩) (Answer.listed []).desk rfl id id)
      |>.tail (.goOn (i := 1) (t := ⟨newcomer, .started⟩) (Answer.listed []).desk rfl id id)
      |>.tail (.list (i := 0) (t := ⟨newcomer, .searching⟩) rfl trivial rfl (hempty _ rfl))
      |>.tail (.list (i := 1) (t := ⟨newcomer, .searching⟩) rfl trivial rfl (hempty _ rfl))
      |>.tail (.hear (i := 0) rfl)
      |>.tail (.hear (i := 1) rfl)
      |>.tail (.list (i := 0) (t := ⟨newcomer, .rechecking 0⟩) rfl trivial rfl (hempty _ rfl))
      |>.tail (.hear (i := 0) rfl)
      |>.tail (.create (i := 0) (t := ⟨newcomer, .creating 0⟩) (a := newcomerAccount) rfl trivial
        rfl rfl nofun)
      |>.tail (.hear (i := 0) rfl)
      |>.tail (.forget (List.nil_sublist _))
      |>.tail (.goOn (i := 1) (t := ⟨newcomer, .waiting 0⟩) (Answer.listed []).desk rfl id id)
      |>.tail (.list (i := 1) (t := ⟨newcomer, .rechecking 0⟩) rfl trivial rfl (hstored _ rfl))
      |>.tail (.hear (i := 1) rfl)
  exact ⟨_, h, rfl, (Leads.one_account h newcomer.email).1 rfl⟩

end Scene

end Gatehouse
