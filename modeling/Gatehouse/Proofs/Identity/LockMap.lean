import Gatehouse.Proofs.Identity.Locks
import Gatehouse.Proofs.Identity.Traffic

/-!
# The locks that are kept

Whatever happens to the requests, a lock is kept for an address exactly as long as requests for it have
a place at a lock, and that is where all of them are. One of them has it, and the others wait for that
one only. The invariant that carries the proof is that the queues of the locks that are kept are the
places of the requests; it says of each request where it is, so nobody can be at a lock unknown to it.
-/

namespace Gatehouse

variable {σ : Type}

inductive Stage.Past (lock : Nat) : Stage → Prop
  | rechecking : Past lock (.rechecking lock)
  | creating : Past lock (.creating lock)

theorem Stage.Past.lock? {lock : Nat} {stage : Stage} (h : stage.Past lock) :
    stage.lock? = some lock := by
  cases h with
  | rechecking => rfl
  | creating => rfl

/-- The address and the lock at which a request has a place, if at one. -/
def ResolveTask.place (t : ResolveTask) : Option (String × Nat) :=
  t.stage.lock?.map fun lock => (t.claims.email, lock)

theorem ResolveTask.place_eq_some {t : ResolveTask} {email : String} {lock : Nat} :
    t.place = some (email, lock) ↔ t.claims.email = email ∧ t.stage.lock? = some lock := by
  simp [place, and_comm]

namespace Pool

variable {p : Pool σ} {i lock : Nat} {t : ResolveTask} {stage : Stage} {email : String}

def place (p : Pool σ) (i : Nat) : Option (String × Nat) := p.tasks[i]?.bind ResolveTask.place

theorem place_of_task (ht : p.tasks[i]? = some t) : p.place i = t.place := by
  rw [place, ht]
  rfl

theorem tasks_enter_self (ht : p.tasks[i]? = some t) (stage : Stage) :
    (p.enter i stage).tasks[i]? = some { t with stage } := by
  simp [enter, ht]

theorem tasks_enter_of_ne (p : Pool σ) {i j : Nat} (h : j ≠ i) (stage : Stage) :
    (p.enter i stage).tasks[j]? = p.tasks[j]? := by
  simp [enter, Ne.symm h]

theorem place_enter (ht : p.tasks[i]? = some t) (stage : Stage) :
    (p.enter i stage).place = Function.update p.place i ({ t with stage } : ResolveTask).place := by
  funext j
  by_cases hj : j = i
  · subst hj
    rw [Function.update_self, place_of_task (tasks_enter_self ht stage)]
  · rw [Function.update_of_ne hj, place, tasks_enter_of_ne p hj, place]

theorem place_join (p : Pool σ) (claims : Claims) : (p.join claims).place = p.place := by
  funext j
  rcases Nat.lt_trichotomy j p.tasks.length with hj | rfl | hj
  · simp [place, join, List.getElem?_append_left hj]
  · simp [place, join, ResolveTask.place, Stage.lock?]
  · have hlong : (p.join claims).tasks.length ≤ j := by simpa [join] using hj
    rw [place, place, List.getElem?_eq_none hlong, List.getElem?_eq_none hj.le]

/-! ## What every move preserves -/

/-- The locks are for the requests that have a place, and who is past a lock has it. -/
structure Orderly (p : Pool σ) : Prop where
  serve : p.locks.Serve p.place
  past : ∀ i t lock, p.tasks[i]? = some t → t.stage.Past lock → p.locks.has lock i = true

namespace Orderly

theorem start (run : RunState σ) (users : List Claims) : (start run users).Orderly := by
  have hstage : ∀ (i : Nat) (t : ResolveTask), (Pool.start run users).tasks[i]? = some t →
      t.stage = .started := by
    intro i t ht
    obtain ⟨claims, -, rfl⟩ := List.mem_map.mp (List.mem_of_getElem? ht)
    rfl
  have hplace : (Pool.start run users).place = fun _ => none := by
    funext i
    cases ht : (Pool.start run users).tasks[i]? with
    | none => rw [place, ht]; rfl
    | some t => rw [place_of_task ht, ResolveTask.place, hstage i t ht]; rfl
  refine ⟨hplace ▸ Locks.Serve.empty, fun i t lock ht hpast => ?_⟩
  rw [hstage i t ht] at hpast
  cases hpast

theorem with_run (h : p.Orderly) (run : RunState σ) : Orderly { p with run } := ⟨h.serve, h.past⟩

theorem join (h : p.Orderly) (claims : Claims) : (p.join claims).Orderly := by
  refine ⟨by rw [place_join]; exact h.serve, fun i t lock ht hpast => ?_⟩
  rcases List.mem_append.mp (List.mem_of_getElem? ht) with - | hnew
  · rcases Nat.lt_or_ge i p.tasks.length with hi | hi
    · rw [Pool.join, List.getElem?_append_left hi] at ht
      exact h.past i t lock ht hpast
    · rw [Pool.join, List.getElem?_append_right hi] at ht
      obtain rfl := List.mem_singleton.mp (List.mem_of_getElem? ht)
      cases hpast
  · obtain rfl := List.mem_singleton.mp hnew
    cases hpast

theorem enter {locks : Locks} (ht : p.tasks[i]? = some t)
    (hserve : locks.Serve (Function.update p.place i ({ t with stage } : ResolveTask).place))
    (hpast : ∀ lock, stage.Past lock → locks.has lock i = true)
    (hothers : ∀ j u lock, j ≠ i → p.tasks[j]? = some u → u.stage.Past lock →
      locks.has lock j = true) : Orderly (Pool.enter { p with locks } i stage) where
  serve := by
    have hplace : Pool.place { p with locks } = p.place := rfl
    rw [place_enter (p := { p with locks }) ht, hplace]
    exact hserve
  past j u lock hu hlock := by
    by_cases hj : j = i
    · subst hj
      rw [tasks_enter_self (p := { p with locks }) ht] at hu
      obtain rfl := Option.some.inj hu
      exact hpast lock hlock
    · rw [tasks_enter_of_ne _ hj] at hu
      exact hothers j u lock hj hu hlock

theorem stay (h : p.Orderly) (ht : p.tasks[i]? = some t) (hlock : stage.lock? = t.stage.lock?)
    (hpast : ∀ lock, stage.Past lock → p.locks.has lock i = true) : (p.enter i stage).Orderly := by
  have hplace : ({ t with stage } : ResolveTask).place = p.place i := by
    rw [place_of_task ht, ResolveTask.place, hlock, ResolveTask.place]
  change Orderly (Pool.enter { p with locks := p.locks } i stage)
  apply enter ht
  · rw [hplace, Function.update_eq_self]
    exact h.serve
  · exact hpast
  · intro j u lock _ hu hlock
    exact h.past j u lock hu hlock

theorem held (h : p.Orderly) (ht : p.tasks[i]? = some t) (hpast : t.stage.Past lock) :
    p.locks.Held t.claims.email lock i := by
  have hplace : p.place i = some (t.claims.email, lock) := by
    rw [place_of_task ht, ResolveTask.place_eq_some]
    exact ⟨rfl, hpast.lock?⟩
  exact ⟨(h.serve.queued_iff ..).mpr hplace, h.past i t lock ht hpast⟩

theorem leave (h : p.Orderly) (ht : p.tasks[i]? = some t) (hstage : stage.lock? = none) :
    ((p.leave i t).enter i stage).Orderly := by
  have hnotpast : ∀ lock, ¬ stage.Past lock := by
    intro lock hpast
    rw [hpast.lock?] at hstage
    cases hstage
  have hplace : ({ t with stage } : ResolveTask).place = none := by
    simp [ResolveTask.place, hstage]
  cases hlock : t.stage.lock? with
  | none =>
    rw [Pool.leave, hlock]
    exact h.stay ht (hstage.trans hlock.symm) fun lock hpast => absurd hpast (hnotpast lock)
  | some lock =>
    rw [Pool.leave, hlock]
    have hi : p.place i = some (t.claims.email, lock) := by
      rw [place_of_task ht, ResolveTask.place_eq_some]
      exact ⟨rfl, hlock⟩
    apply enter ht
    · rw [hplace]
      exact h.serve.release hi
    · intro other hpast
      exact absurd hpast (hnotpast other)
    · intro j u other hj hu hpast
      have hqueued := (h.serve.queued_iff ..).mpr hi
      exact ((h.held hu hpast).release h.serve.wellFormed hj hqueued).2

theorem come (h : p.Orderly) (ht : p.tasks[i]? = some t) (hlock : t.stage.lock? = none) :
    Orderly (Pool.enter { p with locks := (p.locks.acquire t.claims.email i).2 } i
      (.waiting (p.locks.acquire t.claims.email i).1)) := by
  have hi : p.place i = none := by
    rw [place_of_task ht, ResolveTask.place, hlock]
    rfl
  apply enter ht (h.serve.acquire hi t.claims.email)
  · intro lock hpast
    cases hpast
  · intro j u lock _ hu hpast
    exact ((h.held hu hpast).acquire h.serve.wellFormed _ i).2

theorem finishFirst (h : p.Orderly) (ht : p.tasks[i]? = some t) (hlock : t.stage.lock? = some lock)
    (found : Except IdentityError Account) :
    (p.finishFirst i t.claims.email lock found).Orderly := by
  have hleave : ((p.leave i t).enter i (.finished (found.bind Resolver.ifEnabled))).Orderly :=
    h.leave ht rfl
  rw [Pool.leave, hlock] at hleave
  exact hleave

theorem takeTurn (h : p.Orderly) (ht : p.tasks[i]? = some t) (hlock : t.stage.lock? = some lock) :
    (p.takeTurn i t.claims.email lock).Orderly := by
  unfold Pool.takeTurn
  split_ifs with hhas
  · rcases p.run.remembered t.claims.email with ⟨_ | account, run⟩
    · refine (h.with_run _).stay ht hlock.symm fun other hpast => ?_
      obtain rfl : lock = other := Option.some.inj hpast.lock?
      exact hhas
    · exact (h.with_run run).finishFirst ht hlock _
  · exact h.stay ht hlock.symm nofun

end Orderly

/-- Where a request paused before does not matter to it when it takes its turn. -/
theorem takeTurn_enter (p : Pool σ) (i : Nat) (stage : Stage) (email : String) (lock : Nat) :
    (p.enter i stage).takeTurn i email lock = p.takeTurn i email lock := by
  have henter : ∀ (q : Pool σ) (second : Stage), (q.enter i stage).enter i second =
      q.enter i second := by
    intro q second
    simp only [enter, List.modify_modify_eq]
    rfl
  unfold takeTurn
  have hlocks : (p.enter i stage).locks = p.locks := rfl
  have hrun : (p.enter i stage).run = p.run := rfl
  rw [hlocks, hrun]
  split_ifs
  · rcases p.run.remembered email with ⟨_ | account, run⟩
    · exact henter { p with run := _ } _
    · exact henter { p with run, locks := p.locks.release email lock i } _
  · exact henter p _

namespace Orderly

theorem queueUp (h : p.Orderly) (ht : p.tasks[i]? = some t) (hlock : t.stage.lock? = none) :
    (p.queueUp i t.claims.email).Orderly := by
  rw [Pool.queueUp, ← takeTurn_enter _ i (.waiting (p.locks.acquire t.claims.email i).1)]
  have hcome := h.come ht hlock
  exact hcome.takeTurn (t := { t with stage := .waiting _ })
    (tasks_enter_self (p := { p with locks := _ }) ht _) rfl

theorem drop (h : p.Orderly) (i : Nat) : (p.drop i).Orderly := by
  unfold Pool.drop
  cases ht : p.tasks[i]? with
  | none => exact h
  | some t => exact h.leave ht rfl

theorem poll (h : p.Orderly) (dir : Directory σ) (i : Nat) : (p.poll dir i).Orderly := by
  unfold Pool.poll
  cases ht : p.tasks[i]? with
  | none => exact h
  | some t =>
    obtain ⟨claims, stage⟩ := t
    have hanswered := h.with_run (p.answered dir claims.email).2.run
    cases stage with
    | started =>
      simp only [resume]
      split_ifs
      · exact h.stay ht rfl nofun
      · rcases p.run.remembered claims.email with ⟨_ | account, run⟩
        · exact (h.with_run _).stay ht rfl nofun
        · exact (h.with_run run).stay ht rfl nofun
    | searching =>
      simp only [resume]
      split
      · rename_i hr
        obtain ⟨-, rfl⟩ := Prod.ext_iff.mp hr
        exact hanswered.queueUp ht rfl
      · rename_i hr
        obtain ⟨rfl, rfl⟩ := Prod.ext_iff.mp hr
        exact hanswered.stay ht rfl nofun
    | waiting lock => exact h.takeTurn ht rfl
    | rechecking lock =>
      have hhas := h.past i _ lock ht .rechecking
      simp only [resume]
      split
      · rename_i hr
        obtain ⟨-, rfl⟩ := Prod.ext_iff.mp hr
        refine (hanswered.with_run _).stay ht rfl fun other hpast => ?_
        obtain rfl : lock = other := Option.some.inj hpast.lock?
        exact hhas
      · rename_i hr
        obtain ⟨rfl, rfl⟩ := Prod.ext_iff.mp hr
        exact hanswered.finishFirst ht rfl _
    | creating lock =>
      simp only [resume]
      exact (h.with_run (RunState.keep _ _ _)).finishFirst ht rfl _
    | finished result => exact h

theorem move (h : p.Orderly) (m : PoolMove σ) : (p.move m).Orderly := by
  cases m with
  | resolve claims => exact h.join claims
  | provision claims =>
    have hnew : (p.join claims).tasks[p.tasks.length]? = some { claims } := by simp [Pool.join]
    exact (h.join claims).queueUp hnew rfl
  | goOn dir i => exact h.poll dir i
  | drop i => exact h.drop i
  | look email =>
    simp only [Pool.move, look]
    rcases p.run.remembered email with ⟨_ | account, run⟩
    · exact h.with_run _
    · exact h.with_run run
  | hear dir email => exact h.with_run (p.answered dir email).2.run
  | invalidate email => exact h.with_run _
  | advance elapsed => exact h.with_run _

theorem moves (h : p.Orderly) (ms : List (PoolMove σ)) : (p.moves ms).Orderly := by
  induction ms generalizing p with
  | nil => exact h
  | cons m rest ih => exact ih (h.move m)

end Orderly

/-! ## The locks at any time -/

/-- A request has the lock at which it has a place: it is past it, or nothing keeps it from getting
past it. -/
def Owns (p : Pool σ) (email : String) (i : Nat) : Prop :=
  ∃ lock, p.place i = some (email, lock) ∧ p.locks.has lock i = true

/-- What is known of the locks. -/
structure Locking (p : Pool σ) : Prop where
  /-- There is one lock at most for an address. -/
  distinct : (p.locks.kept.map Prod.fst).Nodup
  /-- A lock is kept for an address exactly if a request for it has a place. -/
  kept_iff : ∀ email,
    (p.locks.kept.lookup email).isSome = true ↔ ∃ i lock, p.place i = some (email, lock)
  /-- All requests for an address are at the lock that is kept for it. -/
  shared : ∀ email lock i, p.place i = some (email, lock) → p.locks.kept.lookup email = some lock
  /-- Who is past a lock has it. -/
  past : ∀ i t lock, p.tasks[i]? = some t → t.stage.Past lock → p.Owns t.claims.email i
  /-- No two requests have the lock for an address. -/
  one : ∀ email i j, p.Owns email i → p.Owns email j → i = j
  /-- A request that waits goes on, unless another one has the lock. -/
  waits : ∀ (dir : Directory σ) i t lock, p.tasks[i]? = some t → t.stage = .waiting lock →
    ((p.poll dir i).tasks[i]? = some t ↔ ∃ j, j ≠ i ∧ p.Owns t.claims.email j)
  /-- When no request has a place, no lock is kept. -/
  idle : (∀ t ∈ p.tasks, t.stage.lock? = none) → p.locks.kept = []

theorem stays_iff (ht : p.tasks[i]? = some t) (hstage : t.stage = .waiting lock)
    (dir : Directory σ) : (p.poll dir i).tasks[i]? = some t ↔ p.locks.has lock i = false := by
  obtain ⟨claims, stage⟩ := t
  obtain rfl : stage = .waiting lock := hstage
  have hother : ∀ {run : RunState σ} {locks : Locks} {stage : Stage}, stage ≠ .waiting lock →
      (Pool.enter { p with run, locks } i stage).tasks[i]? ≠ some ⟨claims, .waiting lock⟩ := by
    intro run locks stage hne heq
    rw [tasks_enter_self (p := { p with run, locks }) ht, Option.some.injEq] at heq
    exact hne (congrArg ResolveTask.stage heq)
  simp only [Pool.poll, ht, resume, Pool.takeTurn]
  split_ifs with hhas
  · refine iff_of_false ?_ (by simp [hhas])
    rcases p.run.remembered claims.email with ⟨_ | account, run⟩
    · exact hother nofun
    · exact hother nofun
  · refine iff_of_true ?_ (by simpa using hhas)
    exact tasks_enter_self ht _

namespace Orderly

theorem owns_unique (h : p.Orderly) {j : Nat} (hi : p.Owns email i) (hj : p.Owns email j) :
    i = j := by
  obtain ⟨lock, hplace, hhas⟩ := hi
  obtain ⟨lock', hplace', hhas'⟩ := hj
  have hheld : p.locks.Held email lock i := ⟨(h.serve.queued_iff ..).mpr hplace, hhas⟩
  have hheld' : p.locks.Held email lock' j := ⟨(h.serve.queued_iff ..).mpr hplace', hhas'⟩
  exact hheld.unique hheld'

theorem locking (h : p.Orderly) : p.Locking where
  distinct := h.serve.distinct
  kept_iff := h.serve.lookup_isSome_iff
  shared email lock i hi := ((h.serve.queued_iff email lock i).mpr hi).1
  past i t lock ht hpast := by
    obtain ⟨hqueued, hhas⟩ := h.held ht hpast
    exact ⟨lock, (h.serve.queued_iff ..).mp hqueued, hhas⟩
  one email i j hi hj := h.owns_unique hi hj
  waits dir i t lock ht hstage := by
    have hi : p.place i = some (t.claims.email, lock) := by
      rw [place_of_task ht, ResolveTask.place_eq_some, hstage]
      exact ⟨rfl, rfl⟩
    rw [stays_iff ht hstage]
    constructor
    · intro hhas
      obtain ⟨j, hj, hplace, hfirst⟩ := h.serve.exists_held hi hhas
      exact ⟨j, hj, lock, hplace, hfirst⟩
    · rintro ⟨j, hj, howns⟩
      by_contra hhas
      exact hj (h.owns_unique howns ⟨lock, hi, by simpa using hhas⟩)
  idle hidle := by
    have hplace : ∀ i, p.place i = none := by
      intro i
      cases ht : p.tasks[i]? with
      | none => rw [place, ht]; rfl
      | some t => rw [place_of_task ht, ResolveTask.place, hidle t (List.mem_of_getElem? ht)]; rfl
    cases hkept : p.locks.kept with
    | nil => rfl
    | cons entry rest =>
      have hsome : (p.locks.kept.lookup entry.1).isSome = true := by simp [hkept]
      obtain ⟨i, lock, hi⟩ := (h.serve.lookup_isSome_iff entry.1).mp hsome
      rw [hplace i] at hi
      cases hi

end Orderly

/-- Whatever requests come, in whatever order they go on and whatever they hear, and whichever of them
are dropped: the locks are in order. -/
theorem locking_moves (run : RunState σ) (users : List Claims) (ms : List (PoolMove σ)) :
    ((start run users).moves ms).Locking :=
  ((Orderly.start run users).moves ms).locking

/-- The first of two requests for an address is dropped. The lock goes over to the second, and is kept
until that one is dropped as well. -/
example :
    let guest : Claims := { email := "a@x.com" }
    let p := (start { cache := .empty 16 60000, outside := () } []).moves
      [.provision guest, .provision guest, .drop 0]
    p.locks.kept = [("a@x.com", 0)] ∧ p.locks.has 0 1 = true ∧
      (p.move (.drop 1)).locks.kept = [] := ⟨rfl, rfl, rfl⟩

end Pool

end Gatehouse
