import Gatehouse.Identity.Locks
import Gatehouse.Proofs.Lists

/-!
# Who has a lock

A request that came to the lock kept for an address finds it kept until it leaves, whoever else
comes and goes. So all requests for one address are at one lock, and at most one of them has it.
-/

namespace Gatehouse.Locks

variable {ls : Locks} {email other : String} {lock lock' i j : Nat}

/-- Every lock is kept for one address only, and was made. -/
structure WellFormed (ls : Locks) : Prop where
  same : ∀ {email other lock}, ls.kept.lookup email = some lock →
    ls.kept.lookup other = some lock → email = other
  made : ∀ {email lock}, ls.kept.lookup email = some lock → lock < ls.queues.length

/-- A request is at the lock that is kept for an address. -/
def Queued (ls : Locks) (email : String) (lock i : Nat) : Prop :=
  ls.kept.lookup email = some lock ∧ i ∈ ls.queue lock

/-- A request has the lock that is kept for an address. -/
def Held (ls : Locks) (email : String) (lock i : Nat) : Prop :=
  ls.Queued email lock i ∧ ls.has lock i = true

theorem has_eq_true : ls.has lock i = true ↔ (ls.queue lock).head? = some i := by
  simp [has]

theorem Held.unique (h : ls.Held email lock i) (k : ls.Held email lock' j) : i = j := by
  obtain ⟨⟨hkept, -⟩, hi⟩ := h
  obtain ⟨⟨hkept', -⟩, hj⟩ := k
  obtain rfl : lock = lock' := Option.some.inj (hkept.symm.trans hkept')
  rw [has_eq_true] at hi hj
  exact Option.some.inj (hi.symm.trans hj)

/-! ## Coming to a lock -/

theorem acquire_of_some (h : ls.kept.lookup email = some lock) :
    ls.acquire email i = (lock, { ls with queues := ls.queues.modify lock (· ++ [i]) }) := by
  unfold acquire
  rw [h]

theorem acquire_of_none (h : ls.kept.lookup email = none) :
    ls.acquire email i = (ls.queues.length,
      { kept := (email, ls.queues.length) :: ls.kept, queues := ls.queues ++ [[i]] }) := by
  unfold acquire
  rw [h]

theorem queue_acquire (h : ls.WellFormed) (hj : j < ls.queues.length) :
    (ls.acquire email i).2.queue j =
      ls.queue j ++ if ls.kept.lookup email = some j then [i] else [] := by
  cases hk : ls.kept.lookup email with
  | none => simp [acquire_of_none hk, queue, List.getElem?_append_left hj]
  | some lock =>
    have hlock := h.made hk
    by_cases hl : lock = j
    · subst hl
      simp [acquire_of_some hk, queue, hj]
    · simp [acquire_of_some hk, queue, hl]

theorem lookup_acquire :
    (ls.acquire email i).2.kept.lookup other =
      if other = email then some (ls.acquire email i).1 else ls.kept.lookup other := by
  cases hk : ls.kept.lookup email with
  | none =>
    rw [acquire_of_none hk]
    by_cases ho : other = email
    · simp [ho]
    · simp [List.lookup_cons, beq_eq_false_iff_ne.mpr ho, ho]
  | some lock =>
    rw [acquire_of_some hk]
    split_ifs with ho
    · rw [ho]
      exact hk
    · rfl

theorem WellFormed.acquire (h : ls.WellFormed) (email : String) (i : Nat) :
    (ls.acquire email i).2.WellFormed := by
  cases hk : ls.kept.lookup email with
  | none =>
    constructor
    · intro e e' lock he he'
      rw [lookup_acquire, acquire_of_none hk] at he he'
      split_ifs at he he' with hx hy hy
      · rw [hx, hy]
      · have := h.made he'
        cases he
        omega
      · have := h.made he
        cases he'
        omega
      · exact h.same he he'
    · intro e lock he
      rw [lookup_acquire] at he
      simp only [acquire_of_none hk, List.length_append, List.length_singleton] at he ⊢
      split_ifs at he
      · cases he
        omega
      · have := h.made he
        omega
  | some lock =>
    rw [acquire_of_some hk]
    exact ⟨h.same, fun he => by simpa using h.made he⟩

theorem queued_acquire (h : ls.WellFormed) (email : String) (i : Nat) :
    (ls.acquire email i).2.Queued email (ls.acquire email i).1 i := by
  refine ⟨by rw [lookup_acquire, if_pos rfl], ?_⟩
  cases hk : ls.kept.lookup email with
  | none => simp [acquire_of_none hk, queue]
  | some lock =>
    rw [show (ls.acquire email i).1 = lock by rw [acquire_of_some hk], queue_acquire h (h.made hk)]
    simp [hk]

theorem Queued.acquire (hj : ls.Queued other lock j) (h : ls.WellFormed) (email : String)
    (i : Nat) : (ls.acquire email i).2.Queued other lock j := by
  obtain ⟨hkept, hmem⟩ := hj
  constructor
  · rw [lookup_acquire]
    split_ifs with ho
    · rw [ho] at hkept
      rw [acquire_of_some hkept]
    · exact hkept
  · rw [queue_acquire h (h.made hkept)]
    exact List.mem_append_left _ hmem

theorem Held.acquire (hj : ls.Held other lock j) (h : ls.WellFormed) (email : String) (i : Nat) :
    (ls.acquire email i).2.Held other lock j := by
  obtain ⟨hqueued, hhas⟩ := hj
  refine ⟨hqueued.acquire h email i, ?_⟩
  rw [has_eq_true] at hhas ⊢
  rw [queue_acquire h (h.made hqueued.1), List.head?_append, hhas]
  rfl

/-! ## Leaving a lock -/

theorem queue_release_self (h : lock < ls.queues.length) :
    (ls.release email lock i).queue lock = (ls.queue lock).filter (· != i) := by
  simp [release, queue, h]

theorem queue_release_of_ne (h : lock' ≠ lock) :
    (ls.release email lock i).queue lock' = ls.queue lock' := by
  simp [release, queue, Ne.symm h]

theorem lookup_of_lookup_release (h : (ls.release email lock i).kept.lookup other = some lock') :
    ls.kept.lookup other = some lock' := by
  unfold release at h
  simp only at h
  split_ifs at h with hlast
  · rw [lookup_filter_ne] at h
    split_ifs at h
    exact h
  · exact h

theorem WellFormed.release (h : ls.WellFormed) (email : String) (lock i : Nat) :
    (ls.release email lock i).WellFormed where
  same he he' := h.same (lookup_of_lookup_release he) (lookup_of_lookup_release he')
  made he := by
    have := h.made (lookup_of_lookup_release he)
    simpa [Locks.release] using this

theorem lookup_release (hj : ls.Queued other lock' j) (hne : j ≠ i)
    (hi : ls.Queued email lock i) :
    (ls.release email lock i).kept.lookup other = some lock' := by
  unfold Locks.release
  simp only
  split_ifs with hlast
  · -- an address is forgotten only once nobody queues for it, but `j` does
    rw [lookup_filter_ne, if_neg, hj.1]
    rintro rfl
    obtain rfl : lock = lock' := Option.some.inj (hi.1.symm.trans hj.1)
    have hmem : j ∈ (ls.queue lock).filter (· != i) := List.mem_filter.mpr ⟨hj.2, by simpa using hne⟩
    rw [hlast.1] at hmem
    cases hmem
  · exact hj.1

theorem Queued.release (hj : ls.Queued other lock' j) (h : ls.WellFormed) (hne : j ≠ i)
    (hi : ls.Queued email lock i) : (ls.release email lock i).Queued other lock' j := by
  refine ⟨lookup_release hj hne hi, ?_⟩
  by_cases hl : lock' = lock
  · subst hl
    rw [queue_release_self (h.made hj.1)]
    exact List.mem_filter.mpr ⟨hj.2, by simpa using hne⟩
  · rw [queue_release_of_ne hl]
    exact hj.2

theorem Held.release (hj : ls.Held other lock' j) (h : ls.WellFormed) (hne : j ≠ i)
    (hi : ls.Queued email lock i) : (ls.release email lock i).Held other lock' j := by
  refine ⟨hj.1.release h hne hi, ?_⟩
  have hhead := hj.2
  rw [has_eq_true] at hhead ⊢
  by_cases hl : lock' = lock
  · -- who is first in a queue stays first when somebody else leaves
    subst hl
    obtain ⟨rest, hrest⟩ := List.head?_eq_some_iff.mp hhead
    rw [queue_release_self (h.made hj.1.1), hrest, List.filter_cons_of_pos (by simpa using hne)]
    rfl
  · rw [queue_release_of_ne hl]
    exact hhead

/-! ## Nobody else is at a lock -/

/-- By queueing a request gets a place, and nobody else does. -/
theorem Queued.of_acquire (hj : (ls.acquire email i).2.Queued other lock j) (h : ls.WellFormed) :
    ls.Queued other lock j ∨ (j = i ∧ other = email ∧ lock = (ls.acquire email i).1) := by
  obtain ⟨hkept, hmem⟩ := hj
  rw [lookup_acquire] at hkept
  split_ifs at hkept with ho
  · obtain rfl := Option.some.inj hkept
    subst ho
    cases hk : ls.kept.lookup other with
    | none =>
      have hi : j = i := by simpa [acquire_of_none hk, queue] using hmem
      exact Or.inr ⟨hi, rfl, rfl⟩
    | some lock =>
      have hlock : (ls.acquire other i).1 = lock := by rw [acquire_of_some hk]
      rw [hlock, queue_acquire h (h.made hk), if_pos hk] at hmem
      rcases List.mem_append.mp hmem with hmem | hmem
      · rw [hlock]
        exact Or.inl ⟨hk, hmem⟩
      · exact Or.inr ⟨List.mem_singleton.mp hmem, rfl, rfl⟩
  · rw [queue_acquire h (h.made hkept),
      if_neg fun hk => ho (h.same hkept hk), List.append_nil] at hmem
    exact Or.inl ⟨hkept, hmem⟩

theorem Queued.of_release (hj : (ls.release email lock i).Queued other lock' j)
    (h : ls.WellFormed) : ls.Queued other lock' j ∧ (lock' = lock → j ≠ i) := by
  obtain ⟨hkept, hmem⟩ := hj
  have hbefore := lookup_of_lookup_release hkept
  by_cases hl : lock' = lock
  · subst hl
    rw [queue_release_self (h.made hbefore)] at hmem
    obtain ⟨hmem, hne⟩ := List.mem_filter.mp hmem
    exact ⟨⟨hbefore, hmem⟩, fun _ => by simpa using hne⟩
  · rw [queue_release_of_ne hl] at hmem
    exact ⟨⟨hbefore, hmem⟩, fun heq => absurd heq hl⟩

/-! ## Locks and the places of requests -/

/-- At the locks are those requests that have a place, each for its address, and a lock is kept as long
as somebody is there. -/
structure Serve (ls : Locks) (place : Nat → Option (String × Nat)) : Prop where
  wellFormed : ls.WellFormed
  distinct : (ls.kept.map Prod.fst).Nodup
  queued_iff : ∀ email lock i, ls.Queued email lock i ↔ place i = some (email, lock)
  occupied : ∀ email lock, ls.kept.lookup email = some lock → ls.queue lock ≠ []

namespace Serve

variable {place : Nat → Option (String × Nat)}

theorem empty : Serve {} fun _ => none where
  wellFormed := ⟨nofun, nofun⟩
  distinct := List.nodup_nil
  queued_iff email lock i := by
    constructor
    · intro h
      cases h.1
    · intro h
      cases h
  occupied email lock h := by cases h

theorem acquire (h : ls.Serve place) (hi : place i = none) (email : String) :
    (ls.acquire email i).2.Serve
      (Function.update place i (some (email, (ls.acquire email i).1))) where
  wellFormed := h.wellFormed.acquire email i
  distinct := by
    cases hk : ls.kept.lookup email with
    | none =>
      rw [acquire_of_none hk, List.map_cons, List.nodup_cons]
      refine ⟨?_, h.distinct⟩
      rintro hmem
      obtain ⟨entry, hentry, hemail⟩ := List.mem_map.mp hmem
      have hne := List.lookup_eq_none_iff.mp hk entry hentry
      simp [hemail] at hne
    | some lock =>
      rw [acquire_of_some hk]
      exact h.distinct
  queued_iff other lock j := by
    by_cases hj : j = i
    · subst hj
      rw [Function.update_self, Option.some.injEq, Prod.mk.injEq]
      constructor
      · intro hqueued
        rcases hqueued.of_acquire h.wellFormed with hold | ⟨-, rfl, rfl⟩
        · rw [h.queued_iff, hi] at hold
          cases hold
        · exact ⟨rfl, rfl⟩
      · rintro ⟨rfl, rfl⟩
        exact queued_acquire h.wellFormed _ j
    · rw [Function.update_of_ne hj, ← h.queued_iff]
      constructor
      · intro hqueued
        exact (hqueued.of_acquire h.wellFormed).resolve_right fun hnew => hj hnew.1
      · intro hqueued
        exact hqueued.acquire h.wellFormed email i
  occupied other lock hkept := by
    rw [lookup_acquire] at hkept
    split_ifs at hkept with ho
    · obtain rfl := Option.some.inj hkept
      exact List.ne_nil_of_mem (queued_acquire h.wellFormed email i).2
    · rw [queue_acquire h.wellFormed (h.wellFormed.made hkept)]
      exact List.append_ne_nil_of_left_ne_nil (h.occupied other lock hkept) _

theorem release (h : ls.Serve place) (hi : place i = some (email, lock)) :
    (ls.release email lock i).Serve (Function.update place i none) where
  wellFormed := h.wellFormed.release email lock i
  distinct := by
    unfold Locks.release
    simp only
    split_ifs
    · exact h.distinct.sublist (List.filter_sublist.map Prod.fst)
    · exact h.distinct
  queued_iff other lock' j := by
    have hqueued := (h.queued_iff email lock i).mpr hi
    by_cases hj : j = i
    · subst hj
      rw [Function.update_self]
      constructor
      · intro hleft
        obtain ⟨hold, hne⟩ := hleft.of_release h.wellFormed
        rw [h.queued_iff, hi] at hold
        exact absurd rfl (hne (Prod.mk.inj (Option.some.inj hold)).2.symm)
      · intro hnone
        cases hnone
    · rw [Function.update_of_ne hj, ← h.queued_iff]
      constructor
      · intro hleft
        exact (hleft.of_release h.wellFormed).1
      · intro hold
        exact hold.release h.wellFormed hj hqueued
  occupied other lock' hkept := by
    have hbefore := lookup_of_lookup_release hkept
    by_cases hl : lock' = lock
    · subst hl
      obtain rfl := h.wellFormed.same hbefore ((h.queued_iff email lock' i).mpr hi).1
      rw [queue_release_self (h.wellFormed.made hbefore)]
      intro hempty
      -- nobody else is there, so the lock is not kept any longer
      unfold Locks.release at hkept
      simp only [hempty, hbefore, and_self, if_true, lookup_filter_ne] at hkept
      cases hkept
    · rw [queue_release_of_ne hl]
      exact h.occupied other lock' hbefore

/-- Who is at a lock without having it is behind another one who does. -/
theorem exists_held (h : ls.Serve place) (hi : place i = some (email, lock))
    (hhas : ls.has lock i = false) :
    ∃ j, j ≠ i ∧ place j = some (email, lock) ∧ ls.has lock j = true := by
  obtain ⟨hkept, hmem⟩ := (h.queued_iff email lock i).mpr hi
  obtain ⟨j, rest, hqueue⟩ := List.exists_cons_of_ne_nil (List.ne_nil_of_mem hmem)
  have hfront : ls.has lock j = true := by rw [has_eq_true, hqueue, List.head?_cons]
  refine ⟨j, ?_, ?_, hfront⟩
  · rintro rfl
    rw [hfront] at hhas
    cases hhas
  · rw [← h.queued_iff]
    exact ⟨hkept, hqueue ▸ List.mem_cons_self⟩

theorem lookup_isSome_iff (h : ls.Serve place) (email : String) :
    (ls.kept.lookup email).isSome = true ↔ ∃ i lock, place i = some (email, lock) := by
  constructor
  · intro hsome
    obtain ⟨lock, hkept⟩ := Option.isSome_iff_exists.mp hsome
    obtain ⟨i, hi⟩ := List.exists_mem_of_ne_nil _ (h.occupied email lock hkept)
    exact ⟨i, lock, (h.queued_iff email lock i).mp ⟨hkept, hi⟩⟩
  · rintro ⟨i, lock, hi⟩
    rw [((h.queued_iff email lock i).mpr hi).1]
    rfl

end Serve

end Gatehouse.Locks
