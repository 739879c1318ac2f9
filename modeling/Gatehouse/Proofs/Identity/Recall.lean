import Gatehouse.Proofs.Identity.Interleaving
import Gatehouse.Proofs.Identity.Resolver
import Gatehouse.Proofs.Identity.Retention
import Gatehouse.Proofs.Identity.Traffic

/-!
# Users who come again

Once the account of a user is in the cache, the user is resolved without the directory until the time
of the entry is over, whatever other users do meanwhile and whatever has become of the directory. What
the requests do to the cache is a run of operations on it: each move puts in one entry at most, as the
last thing that it does, and nothing is taken out that is not invalidated or stale.
-/

namespace Gatehouse

variable {σ : Type}

/-- Whether an operation neither puts anything in nor takes out what is fresh. -/
def CacheOp.IsQuiet : CacheOp → Prop
  | get _ | advance _ => True
  | insert _ _ | invalidate _ => False

def CacheEntry.insertion (e : CacheEntry) : CacheOp := .insert e.email e.account

namespace RunState

variable {s t u : RunState σ} {put : Option CacheEntry}

def timed (s : RunState σ) : TimedCache := ⟨s.cache, s.clock⟩

/-- The entry for the only account that the directory lists under an address. -/
def listed? (s : RunState σ) (dir : Directory σ) (email : String) : Option CacheEntry :=
  match s.answer dir (dir.list (MailFilter.filter email) Resolver.pageSize) with
  | (.ok [account], t) => some ⟨email, account, t.clock⟩
  | _ => none

/-- The entry for the account that the directory creates for a user. -/
def created? (s : RunState σ) (dir : Directory σ) (claims : Claims) : Option CacheEntry :=
  match s.answer dir (dir.create (Resolver.newAccount claims)) with
  | (.ok account, t) => some ⟨claims.email, account, t.clock⟩
  | _ => none

/-- Time goes by and what is stale is dropped. Then an entry is put in, if one. -/
def Takes (s t : RunState σ) (put : Option CacheEntry) : Prop :=
  ∃ ops, (∀ op ∈ ops, op.IsQuiet) ∧
    t.timed = s.timed.performAll (ops ++ put.toList.map CacheEntry.insertion) ∧
    ∀ e, put = some e → e.insertedAt = t.clock

namespace Takes

theorem of_timed (h : t.timed = s.timed) : s.Takes t none := ⟨[], nofun, h, nofun⟩

theorem trans (h : s.Takes t none) (k : t.Takes u put) : s.Takes u put := by
  obtain ⟨ops, hquiet, htimed, -⟩ := h
  obtain ⟨more, hquiet', htimed', hput⟩ := k
  refine ⟨ops ++ more, ?_, ?_, hput⟩
  · intro op hop
    rcases List.mem_append.mp hop with hop | hop
    · exact hquiet op hop
    · exact hquiet' op hop
  · simp only [Option.toList_none, List.map_nil, List.append_nil] at htimed
    rw [htimed', htimed, List.append_assoc, TimedCache.performAll_append s.timed ops]

theorem remembered {email : String} {found : Option Account} (h : s.remembered email = (found, t)) :
    s.Takes t none := by
  obtain ⟨-, rfl⟩ := Prod.ext_iff.mp h
  exact ⟨[.get email], by simp [CacheOp.IsQuiet], rfl, nofun⟩

theorem answer {α : Type} {dir : Directory σ} {act : StateM σ α} {reply : α}
    (h : s.answer dir act = (reply, t)) : s.Takes t none := by
  obtain ⟨-, rfl⟩ := Prod.ext_iff.mp h
  exact ⟨[.advance (dir.elapsed (act s.outside).2)], by simp [CacheOp.IsQuiet], rfl, nofun⟩

theorem remember (s : RunState σ) (email : String) (a : Account) :
    s.Takes (s.remember email a) (some ⟨email, a, s.clock⟩) := by
  refine ⟨[], nofun, rfl, ?_⟩
  rintro e ⟨⟩
  rfl

theorem listed {dir : Directory σ} {email : String} {reply : Reply (List Account)}
    (h : s.answer dir (dir.list (MailFilter.filter email) Resolver.pageSize) = (reply, t)) :
    s.Takes (t.keep email (Resolver.judge email reply)) (s.listed? dir email) := by
  have hanswer := answer h
  unfold listed?
  rw [h]
  rcases reply with e | _ | ⟨a, _ | ⟨b, rest⟩⟩
  · exact hanswer
  · exact hanswer
  · exact hanswer.trans (remember t email a)
  · exact hanswer

theorem created {dir : Directory σ} {claims : Claims} {reply : Reply Account}
    (h : s.answer dir (dir.create (Resolver.newAccount claims)) = (reply, t)) :
    s.Takes (t.keep claims.email (Resolver.judgeCreated claims.email reply))
      (s.created? dir claims) := by
  have hanswer := answer h
  unfold created?
  rw [h]
  cases reply with
  | error e => exact hanswer
  | ok a => exact hanswer.trans (remember t claims.email a)

end Takes

end RunState

namespace Pool

open RunState (Takes)

variable {p : Pool σ}

/-! ## What is put into the cache -/

/-- The entry that a request puts into the cache when it goes on from a stage, if one. -/
def entryFrom (run : RunState σ) (dir : Directory σ) (claims : Claims) : Stage → Option CacheEntry
  | .searching | .rechecking _ => run.listed? dir claims.email
  | .creating _ => run.created? dir claims
  | .started | .waiting _ | .finished _ => none

def put? (p : Pool σ) : PoolMove σ → Option CacheEntry
  | .goOn dir i => p.tasks[i]?.bind fun t => entryFrom p.run dir t.claims t.stage
  | .hear dir email => p.run.listed? dir email
  | .resolve _ | .provision _ | .drop _ | .look _ | .invalidate _ | .advance _ => none

/-- The entries that moves put into the cache. -/
def puts (p : Pool σ) : List (PoolMove σ) → List CacheEntry
  | [] => []
  | m :: rest => (p.put? m).toList ++ (p.move m).puts rest

theorem takes_takeTurn (p : Pool σ) (i : Nat) (email : String) (lock : Nat) :
    p.run.Takes (p.takeTurn i email lock).run none := by
  unfold takeTurn
  split_ifs
  · rcases hr : p.run.remembered email with ⟨_ | account, run⟩
    · exact (Takes.remembered hr).trans (.of_timed rfl)
    · exact Takes.remembered hr
  · exact .of_timed rfl

theorem takes_look (p : Pool σ) (email : String) : p.run.Takes (p.look email).run none := by
  unfold look
  rcases hr : p.run.remembered email with ⟨_ | account, run⟩
  · exact (Takes.remembered hr).trans (.of_timed rfl)
  · exact Takes.remembered hr

theorem run_drop (p : Pool σ) (i : Nat) : (p.drop i).run = p.run := by
  unfold drop
  cases p.tasks[i]? with
  | none => rfl
  | some t =>
    simp only [leave, enter]
    cases t.stage.lock? <;> rfl

/-- An answer that shows no account puts nothing into the cache. -/
theorem takes_answered (p : Pool σ) (dir : Directory σ) (email : String) :
    p.run.Takes (p.answered dir email).2.run (p.run.listed? dir email) ∧
      ∀ other, (p.answered dir email).1 = .error (.accountNotFound other) →
        p.run.listed? dir email = none := by
  unfold answered
  rcases hr : p.run.answer dir (dir.list (MailFilter.filter email) Resolver.pageSize) with ⟨reply, t⟩
  refine ⟨Takes.listed hr, fun other hnone => ?_⟩
  obtain rfl := (Resolver.judge_eq_accountNotFound.mp hnone).1
  rw [RunState.listed?, hr]

theorem takes_resume (p : Pool σ) (dir : Directory σ) (i : Nat) (claims : Claims) (stage : Stage) :
    p.run.Takes (p.resume dir i claims stage).run (entryFrom p.run dir claims stage) := by
  obtain ⟨hanswered, hmissing⟩ := takes_answered p dir claims.email
  cases stage with
  | started =>
    simp only [resume]
    split_ifs
    · exact .of_timed rfl
    · rcases hr : p.run.remembered claims.email with ⟨_ | account, run⟩
      · exact (Takes.remembered hr).trans (.of_timed rfl)
      · exact Takes.remembered hr
  | searching =>
    simp only [resume, entryFrom]
    split
    · rename_i hr
      obtain ⟨hfound, rfl⟩ := Prod.ext_iff.mp hr
      rw [hmissing _ hfound] at hanswered ⊢
      exact hanswered.trans (takes_takeTurn _ i claims.email _)
    · rename_i hr
      obtain ⟨-, rfl⟩ := Prod.ext_iff.mp hr
      exact hanswered
  | waiting lock => exact takes_takeTurn p i claims.email lock
  | rechecking lock =>
    simp only [resume, entryFrom]
    split
    · rename_i hr
      obtain ⟨hfound, rfl⟩ := Prod.ext_iff.mp hr
      rw [hmissing _ hfound] at hanswered ⊢
      exact hanswered.trans (.of_timed rfl)
    · rename_i hr
      obtain ⟨-, rfl⟩ := Prod.ext_iff.mp hr
      exact hanswered
  | creating lock => exact Takes.created rfl
  | finished result => exact .of_timed rfl

theorem takes_poll (p : Pool σ) (dir : Directory σ) (i : Nat) :
    p.run.Takes (p.poll dir i).run (p.put? (.goOn dir i)) := by
  cases ht : p.tasks[i]? with
  | none =>
    simp only [poll, put?, ht]
    exact .of_timed rfl
  | some t =>
    simp only [poll, put?, ht]
    exact takes_resume p dir i t.claims t.stage

/-- One move: an address is invalidated, or no more than the entry is put in. -/
theorem takes_move (p : Pool σ) (m : PoolMove σ) :
    (∃ email, m = .invalidate email ∧
      (p.move m).run.timed = p.run.timed.perform (.invalidate email)) ∨
    p.run.Takes (p.move m).run (p.put? m) := by
  cases m with
  | resolve claims => exact Or.inr (.of_timed rfl)
  | provision claims => exact Or.inr (takes_takeTurn _ _ claims.email _)
  | goOn dir i => exact Or.inr (takes_poll p dir i)
  | drop i => exact Or.inr (.of_timed (congrArg RunState.timed (run_drop p i)))
  | look email => exact Or.inr (takes_look p email)
  | hear dir email => exact Or.inr (takes_answered p dir email).1
  | invalidate email => exact Or.inl ⟨email, rfl, rfl⟩
  | advance elapsed => exact Or.inr ⟨[.advance elapsed], by simp [CacheOp.IsQuiet], rfl, nofun⟩

/-- What an operation on the cache may come from during some moves. -/
inductive Explains (p : Pool σ) (ms : List (PoolMove σ)) : CacheOp → Prop
  | quiet {op : CacheOp} : op.IsQuiet → Explains p ms op
  | put {e : CacheEntry} : e ∈ p.puts ms → Explains p ms e.insertion
  | invalidated {email : String} : .invalidate email ∈ ms → Explains p ms (.invalidate email)

namespace Explains

variable {m : PoolMove σ} {ms rest : List (PoolMove σ)} {op : CacheOp} {ops : List CacheOp}
  {email : String}

theorem cons (h : (p.move m).Explains rest op) : p.Explains (m :: rest) op := by
  cases h with
  | quiet h => exact .quiet h
  | put he => exact .put (List.mem_append_right _ he)
  | invalidated hmem => exact .invalidated (List.mem_cons_of_mem m hmem)

theorem not_sets (h : p.Explains ms op) (hkept : .invalidate email ∉ ms)
    (hother : ∀ f ∈ p.puts ms, f.email ≠ email) : ¬ op.Sets email := by
  intro hsets
  cases h with
  | quiet h =>
    cases op with
    | get other => exact hsets
    | advance elapsed => exact hsets
    | insert other a => exact h
    | invalidate other => exact h
  | put he => exact hother _ he hsets
  | invalidated hmem =>
    obtain rfl := hsets
    exact hkept hmem

/-- No more addresses stand than there are among the entries that were put in. -/
theorem length_standing_le (h : ∀ op ∈ ops, p.Explains ms op) :
    (CacheOp.standing ops).length ≤ ((p.puts ms).map CacheEntry.email).toFinset.card := by
  rw [← List.toFinset_card_of_nodup (CacheOp.nodup_standing ops)]
  apply Finset.card_le_card
  intro email hemail
  rw [List.mem_toFinset, CacheOp.mem_standing] at hemail
  obtain ⟨before, a, behind, rfl, -⟩ := hemail
  have hinsert := h (.insert email a) (by simp)
  generalize hop : CacheOp.insert email a = op at hinsert
  cases hinsert with
  | quiet hquiet =>
    subst hop
    cases hquiet
  | put he =>
    obtain ⟨rfl, -⟩ := CacheOp.insert.inj hop
    exact List.mem_toFinset.mpr (List.mem_map_of_mem he)
  | invalidated hmem => cases hop

end Explains

/-- A run of moves is a run of operations on the cache, each of which comes from a move. -/
theorem exists_ops (p : Pool σ) (ms : List (PoolMove σ)) :
    ∃ ops, (p.moves ms).run.timed = p.run.timed.performAll ops ∧ ∀ op ∈ ops, p.Explains ms op := by
  induction ms generalizing p with
  | nil => exact ⟨[], rfl, nofun⟩
  | cons m rest ih =>
    obtain ⟨later, hlater, hrest⟩ := ih (p.move m)
    rcases takes_move p m with ⟨email, rfl, hfirst⟩ | ⟨first, hquiet, hfirst, -⟩
    · refine ⟨.invalidate email :: later, ?_, ?_⟩
      · rw [moves_cons, hlater, hfirst]
        rfl
      · intro op hop
        rcases List.mem_cons.mp hop with rfl | hop
        · exact .invalidated List.mem_cons_self
        · exact (hrest op hop).cons
    · refine ⟨(first ++ (p.put? m).toList.map CacheEntry.insertion) ++ later, ?_, ?_⟩
      · rw [moves_cons, hlater, hfirst, ← TimedCache.performAll_append]
      · intro op hop
        simp only [List.mem_append, List.mem_map] at hop
        rcases hop with (hop | ⟨e, he, rfl⟩) | hop
        · exact .quiet (hquiet op hop)
        · exact .put (List.mem_append_left _ he)
        · exact (hrest op hop).cons

/-! ## What is remembered -/

/-- What a user is told who has an account, without a look into the directory. -/
def told (claims : Claims) (account : Account) : Except IdentityError Account :=
  if Resolver.isBlank claims.email then .error (.missingEmail claims.preferredUsername)
  else if account.enabled then .ok account
  else .error (.accountDisabled account.id)

/-- What may have become of the requests and of a cache that was empty when they came. -/
def Reached (size ttl : Nat) (p : Pool σ) : Prop :=
  ∃ (run : RunState σ) (users : List Claims) (ms : List (PoolMove σ)),
    p = (start { run with cache := .empty size ttl } users).moves ms

variable {size ttl : Nat} {m : PoolMove σ} {e : CacheEntry} {after : List (PoolMove σ)}

/-- An entry that was put into the cache is found until its time is over. -/
theorem get_moves (hp : p.Reached size ttl) (hput : p.put? m = some e)
    (hkept : .invalidate e.email ∉ after)
    (hother : ∀ f ∈ (p.move m).puts after, f.email ≠ e.email)
    (hroom : (((p.move m).puts after).map CacheEntry.email).toFinset.card < max size 1)
    (hlive : ((p.move m).moves after).run.clock < e.insertedAt + ttl) :
    let s := ((p.move m).moves after).run
    (s.cache.get s.clock e.email).1 = some e.account := by
  intro s
  obtain ⟨run, users, ms, rfl⟩ := hp
  obtain ⟨before, hbefore, -⟩ := exists_ops (start { run with cache := .empty size ttl } users) ms
  obtain ⟨since, hsince, hexplained⟩ := exists_ops (Pool.move _ m) after
  rcases takes_move _ m with ⟨email, rfl, -⟩ | ⟨ops, -, hmove, hclock⟩
  · cases hput
  rw [hput, Option.toList_some, List.map_singleton] at hmove
  have htimed : s.timed = (TimedCache.begin size ttl run.clock).performAll
      ((before ++ ops) ++ .insert e.email e.account :: since) := by
    rw [hsince, hmove, hbefore, ← TimedCache.performAll_append, ← TimedCache.performAll_append]
    simp [CacheEntry.insertion, start, RunState.timed, TimedCache.begin]
  have hget := TimedCache.get_last_insert_eq_some_iff size ttl run.clock (before ++ ops)
    (a := e.account) (b := e.account) fun op hop => (hexplained op hop).not_sets hkept hother
  rw [← htimed] at hget
  apply hget.mpr
  refine ⟨rfl, ?_, ?_⟩
  · have helapsed := congrArg TimedCache.clock hsince
    rw [TimedCache.clock_performAll] at helapsed
    have hbegun := hclock e hput
    simp only [RunState.timed] at helapsed
    omega
  · intro seen hseen
    have hstanding := Explains.length_standing_le fun op hop => hexplained op (hseen.subset hop)
    exact lt_of_le_of_lt hstanding hroom

/-- Whoever's account was put into the cache is told so until its time is over, and nobody asks the
directory, be it still the same or not, as long as the address is not invalidated and not put in again
and there is room for the other addresses that are put in. -/
theorem resolve_recalls (hp : p.Reached size ttl) (hput : p.put? m = some e)
    (hkept : .invalidate e.email ∉ after)
    (hother : ∀ f ∈ (p.move m).puts after, f.email ≠ e.email)
    (hroom : (((p.move m).puts after).map CacheEntry.email).toFinset.card < max size 1)
    (hlive : ((p.move m).moves after).run.clock < e.insertedAt + ttl)
    (dir : Directory σ) (c : Claims) (hc : c.email = e.email) :
    let q := (p.move m).moves after
    Resolver.resolve dir c q.run = (told c e.account, q.run) ∧
      ∀ i, q.tasks[i]? = some { claims := c } →
        q.poll dir i = q.enter i (.finished (told c e.account)) := by
  intro q
  have hremembered : q.run.remembered c.email = (some e.account, q.run) := by
    apply Resolver.remembered_of_get
    rw [hc]
    exact get_moves hp hput hkept hother hroom hlive
  cases hblank : Resolver.isBlank c.email with
  | true =>
    have htold : told c e.account = .error (.missingEmail c.preferredUsername) := if_pos hblank
    rw [htold]
    refine ⟨?_, fun i hi => ?_⟩
    · rw [Resolver.resolve_eq, if_pos hblank]
    · simp only [poll, hi, resume, if_pos hblank]
  | false =>
    have htold : told c e.account = Resolver.ifEnabled e.account := by
      rw [told, if_neg (by simp [hblank])]
      rfl
    rw [htold]
    refine ⟨Resolver.resolve_of_remembered dir hblank hremembered, fun i hi => ?_⟩
    simp only [poll, hi, resume, hblank, hremembered]
    rfl

def guest : Claims := { email := "a@x.com", preferredUsername := "a" }

def guestAccount : Account := { Resolver.newAccount guest with id := "1" }

def otherAccount : Account := { Resolver.newAccount { email := "b@x.com" } with id := "2" }

def outage : Directory Unit := (Answer.failed (.undecodable "")).desk

/-- A guest who has been found in the directory comes again. Meanwhile another user is put into the
cache and the directory fails. -/
theorem resolve_recalls_of_guest :
    let p := (start { cache := .empty 2 1000, outside := () } [guest]).moves [.goOn outage 0]
    let found := p.move (.goOn (Answer.listed [guestAccount]).desk 0)
    let q := found.moves [.provision { email := "c@x.com" }, .goOn outage 1, .look "b@x.com",
      .hear (Answer.listed [otherAccount]).desk "b@x.com", .advance 999, .resolve guest]
    Resolver.resolve outage guest q.run = (.ok guestAccount, q.run) ∧
      q.poll outage 2 = q.enter 2 (.finished (.ok guestAccount)) := by
  intro p found q
  have hp : p.Reached 2 1000 := ⟨{ cache := .empty 2 1000, outside := () }, [guest], _, rfl⟩
  have hput : p.put? (.goOn (Answer.listed [guestAccount]).desk 0) =
      some ⟨"a@x.com", guestAccount, 0⟩ := rfl
  let after : List (PoolMove Unit) := [.provision { email := "c@x.com" }, .goOn outage 1,
    .look "b@x.com", .hear (Answer.listed [otherAccount]).desk "b@x.com", .advance 999,
    .resolve guest]
  have hputs : found.puts after = [⟨"b@x.com", otherAccount, 0⟩] := rfl
  have hkept : .invalidate "a@x.com" ∉ after := by simp [after]
  have hrecalls := resolve_recalls hp hput hkept (by rw [hputs]; simp) (by rw [hputs]; decide)
    (by decide) outage guest rfl
  exact ⟨hrecalls.1, hrecalls.2 2 rfl⟩

def blank : Claims := { email := " " }

def blankAccount : Account := { Resolver.newAccount blank with id := "1" }

/-- Whoever looks for a blank address has the account under it put into the cache. But its user is
turned down at once. -/
theorem resolve_blank :
    let p := (start { cache := .empty 2 1000, outside := () } []).moves [.look " "]
    let m := .hear (Answer.listed [blankAccount]).desk " "
    p.put? m = some ⟨" ", blankAccount, 0⟩ ∧ blankAccount.enabled = true ∧
      (p.move m).run.clock < 0 + 1000 ∧
      ((p.move m).run.cache.get (p.move m).run.clock " ").1 = some blankAccount ∧
      Resolver.resolve outage blank (p.move m).run =
        (.error (.missingEmail ""), (p.move m).run) := by
  have hblank : Resolver.isBlank blank.email = true := rfl
  refine ⟨rfl, rfl, by decide, rfl, ?_⟩
  rw [Resolver.resolve_eq, if_pos hblank]
  rfl

end Pool

end Gatehouse
