import Gatehouse.Proofs.Identity.Cache
import Mathlib.Data.Set.Card

/-!
# How long an account is remembered

An account stays in the cache until its time is over, unless its address is taken out or put in
again, or so many other addresses are put in behind it that there is no room left. Entries whose
time is over take up room as well, but they all are older, so that they are never in the way.

What is put in behind an entry stands behind it in the cache, in the same order. This is the
invariant that carries the proof.
-/

namespace Gatehouse

inductive CacheOp
  | get (email : String)
  | insert (email : String) (account : Account)
  | invalidate (email : String)
  /-- Milliseconds go by. -/
  | advance (elapsed : Nat)

namespace CacheOp

/-- Whether an operation puts something in under an address, or takes it out. -/
def Sets (email : String) : CacheOp → Prop
  | insert other _ => other = email
  | invalidate other => other = email
  | _ => False

def duration : CacheOp → Nat
  | advance elapsed => elapsed
  | _ => 0

def elapsed (ops : List CacheOp) : Nat := (ops.map duration).sum

/-- An account was put in under an address, and was not taken out since it was put in last. -/
def Standing (ops : List CacheOp) (email : String) : Prop :=
  ∃ before a after, ops = before ++ insert email a :: after ∧ invalidate email ∉ after

/-- An account was put in under an address last of all, its time is not over, and at no moment since
then were there so many other addresses standing that no room was left. -/
def Retained (room ttl : Nat) (ops : List CacheOp) (email : String) (a : Account) : Prop :=
  ∃ before after, ops = before ++ insert email a :: after ∧ (∀ op ∈ after, ¬ op.Sets email) ∧
    elapsed after < ttl ∧
    ∀ seen, seen <+: after → {other | other ≠ email ∧ Standing seen other}.encard < room

/-- The addresses that are standing, in the order in which they were put in last. -/
def standing : List CacheOp → List String :=
  List.foldl (fun emails op => match op with
    | insert email _ => emails.filter (· != email) ++ [email]
    | invalidate email => emails.filter (· != email)
    | _ => emails) []

@[simp] theorem standing_get (ops : List CacheOp) (email : String) :
    standing (ops ++ [get email]) = standing ops := by simp [standing]

@[simp] theorem standing_insert (ops : List CacheOp) (email : String) (a : Account) :
    standing (ops ++ [insert email a]) = (standing ops).filter (· != email) ++ [email] := by
  simp [standing]

@[simp] theorem standing_invalidate (ops : List CacheOp) (email : String) :
    standing (ops ++ [invalidate email]) = (standing ops).filter (· != email) := by simp [standing]

@[simp] theorem standing_advance (ops : List CacheOp) (duration : Nat) :
    standing (ops ++ [advance duration]) = standing ops := by simp [standing]

theorem elapsed_append (ops : List CacheOp) (op : CacheOp) :
    elapsed (ops ++ [op]) = elapsed ops + op.duration := by
  simp [elapsed]

theorem nodup_standing (ops : List CacheOp) : (standing ops).Nodup := by
  induction ops using List.reverseRecOn with
  | nil => exact .nil
  | append_singleton ops op ih =>
    cases op with
    | get email => simpa using ih
    | insert email a =>
      rw [standing_insert]
      refine List.Nodup.append (ih.filter _) (List.nodup_singleton email) ?_
      intro other hother hemail
      rw [List.mem_singleton.mp hemail] at hother
      simpa using (List.mem_filter.mp hother).2
    | invalidate email =>
      rw [standing_invalidate]
      exact ih.filter _
    | advance duration => simpa using ih

theorem standing_append_iff {ops : List CacheOp} {op : CacheOp} {email : String} :
    Standing (ops ++ [op]) email ↔
      (∃ a, op = insert email a) ∨ (op ≠ invalidate email ∧ Standing ops email) := by
  constructor
  · rintro ⟨before, a, after, heq, hafter⟩
    rcases List.eq_nil_or_concat after with rfl | ⟨after, last, rfl⟩
    · obtain ⟨-, rfl⟩ := List.append_singleton_inj.mp heq
      exact Or.inl ⟨a, rfl⟩
    · rw [List.concat_eq_append, ← List.cons_append, ← List.append_assoc] at heq
      obtain ⟨rfl, rfl⟩ := List.append_singleton_inj.mp heq
      simp only [List.concat_eq_append, List.mem_append, List.mem_singleton, not_or] at hafter
      exact Or.inr ⟨Ne.symm hafter.2, before, a, after, rfl, hafter.1⟩
  · rintro (⟨a, rfl⟩ | ⟨hop, before, a, after, rfl, hafter⟩)
    · exact ⟨ops, a, [], rfl, nofun⟩
    · refine ⟨before, a, after ++ [op], by simp, ?_⟩
      simp only [List.mem_append, List.mem_singleton, not_or]
      exact ⟨hafter, Ne.symm hop⟩

theorem mem_standing {ops : List CacheOp} {email : String} :
    email ∈ standing ops ↔ Standing ops email := by
  induction ops using List.reverseRecOn with
  | nil => simp [standing, Standing]
  | append_singleton ops op ih =>
    rw [standing_append_iff, ← ih]
    cases op with
    | get other => simp
    | insert other a =>
      by_cases h : email = other
      · simp [h]
      · simp [h, Ne.symm h]
    | invalidate other =>
      by_cases h : email = other
      · simp [h]
      · simp [h, Ne.symm h]
    | advance duration => simp

theorem not_standing {ops : List CacheOp} {email : String} (h : ∀ op ∈ ops, ¬ op.Sets email) :
    ¬ Standing ops email := by
  rintro ⟨before, a, after, rfl, -⟩
  exact h (insert email a) (by simp) rfl

theorem encard_standing {ops : List CacheOp} {email : String} (h : ∀ op ∈ ops, ¬ op.Sets email) :
    {other | other ≠ email ∧ Standing ops other}.encard = (standing ops).length := by
  have hset : {other | other ≠ email ∧ Standing ops other} =
      ((standing ops).toFinset : Set String) := by
    ext other
    simp only [Set.mem_ofPred_eq, List.coe_toFinset, mem_standing, and_iff_right_iff_imp]
    rintro hother rfl
    exact not_standing h hother
  rw [hset, Set.encard_coe_eq_coe_finsetCard, List.toFinset_card_of_nodup (nodup_standing ops)]

theorem encard_standing_lt_iff {after seen : List CacheOp} {email : String} {room : Nat}
    (hafter : ∀ op ∈ after, ¬ op.Sets email) (hseen : seen <+: after) :
    {other | other ≠ email ∧ Standing seen other}.encard < room ↔
      (standing seen).length < room := by
  rw [encard_standing fun op hop => hafter op (hseen.subset hop), Nat.cast_lt]

theorem exists_last_sets (ops : List CacheOp) (email : String) :
    (∀ op ∈ ops, ¬ op.Sets email) ∨ ∃ before op after, ops = before ++ op :: after ∧
      op.Sets email ∧ ∀ op ∈ after, ¬ op.Sets email := by
  induction ops using List.reverseRecOn with
  | nil => exact Or.inl nofun
  | append_singleton ops last ih =>
    by_cases hlast : last.Sets email
    · exact Or.inr ⟨ops, last, [], rfl, hlast, nofun⟩
    · have hmem : ∀ {after : List CacheOp}, (∀ op ∈ after, ¬ op.Sets email) →
          ∀ op ∈ after ++ [last], ¬ op.Sets email := by
        intro after hafter op hop
        rcases List.mem_append.mp hop with hop | hop
        · exact hafter op hop
        · rwa [List.mem_singleton.mp hop]
      rcases ih with hnone | ⟨before, op, after, rfl, hop, hafter⟩
      · exact Or.inl (hmem hnone)
      · exact Or.inr ⟨before, op, after ++ [last], by simp, hop, hmem hafter⟩

end CacheOp

/-! ## What operations do to a cache -/

/-- A cache and the time, in milliseconds. -/
structure TimedCache where
  cache : AccountCache
  clock : Nat

namespace TimedCache

open CacheOp

def begin (size ttl clock : Nat) : TimedCache := ⟨.empty size ttl, clock⟩

def perform (s : TimedCache) : CacheOp → TimedCache
  | .get email => { s with cache := (s.cache.get s.clock email).2 }
  | .insert email a => { s with cache := s.cache.insert s.clock email a }
  | .invalidate email => { s with cache := s.cache.invalidate email }
  | .advance elapsed => { s with clock := s.clock + elapsed }

def performAll (s : TimedCache) (ops : List CacheOp) : TimedCache := ops.foldl perform s

variable {s : TimedCache} {op : CacheOp} {ops since : List CacheOp} {email : String}
  {e : CacheEntry}

theorem performAll_append (s : TimedCache) (before after : List CacheOp) :
    s.performAll (before ++ after) = (s.performAll before).performAll after := List.foldl_append

theorem performAll_concat (s : TimedCache) (ops : List CacheOp) (op : CacheOp) :
    s.performAll (ops ++ [op]) = (s.performAll ops).perform op := performAll_append s ops [op]

@[simp] theorem capacity_perform (s : TimedCache) (op : CacheOp) :
    (s.perform op).cache.capacity = s.cache.capacity := by
  cases op <;> simp [perform]

@[simp] theorem ttl_perform (s : TimedCache) (op : CacheOp) :
    (s.perform op).cache.ttl = s.cache.ttl := by
  cases op <;> simp [perform]

theorem wellFormed_begin (size ttl clock : Nat) : (begin size ttl clock).cache.WellFormed :=
  AccountCache.wellFormed_empty size ttl

theorem wellFormed_perform (h : s.cache.WellFormed) (op : CacheOp) :
    (s.perform op).cache.WellFormed := by
  cases op with
  | get email => exact h.get s.clock email
  | insert email a => exact h.insert s.clock email a
  | invalidate email => exact h.invalidate email
  | advance elapsed => exact h

theorem mem_of_mem_perform (h : e ∈ (s.perform op).cache.entries) :
    e ∈ s.cache.entries ∨ op = .insert e.email e.account := by
  cases op with
  | get email => exact Or.inl (AccountCache.mem_of_mem_get h)
  | insert email a =>
    rcases AccountCache.mem_of_mem_insert h with ⟨hold, -⟩ | rfl
    · exact Or.inl hold
    · exact Or.inr rfl
  | invalidate email => exact Or.inl ((AccountCache.mem_invalidate _ _ _).mp h).1
  | advance elapsed => exact Or.inl h

theorem performAll_spec (h : s.cache.WellFormed) (ops : List CacheOp) :
    (s.performAll ops).cache.WellFormed ∧ (s.performAll ops).cache.capacity = s.cache.capacity ∧
      (s.performAll ops).cache.ttl = s.cache.ttl := by
  induction ops using List.reverseRecOn with
  | nil => exact ⟨h, rfl, rfl⟩
  | append_singleton ops op ih =>
    rw [performAll_concat, capacity_perform, ttl_perform]
    exact ⟨wellFormed_perform ih.1 op, ih.2⟩

theorem clock_performAll (s : TimedCache) (ops : List CacheOp) :
    (s.performAll ops).clock = s.clock + elapsed ops := by
  induction ops using List.reverseRecOn with
  | nil => rfl
  | append_singleton ops op ih =>
    rw [performAll_concat, elapsed_append, ← Nat.add_assoc, ← ih]
    cases op <;> rfl

/-! ## What stays in the cache -/

def Lacks (s : TimedCache) (email : String) : Prop := ∀ e ∈ s.cache.entries, e.email ≠ email

theorem Lacks.performAll (h : s.Lacks email) (hops : ∀ op ∈ ops, ¬ op.Sets email) :
    (s.performAll ops).Lacks email := by
  induction ops generalizing s with
  | nil => exact h
  | cons op rest ih =>
    refine ih (fun e he => ?_) fun o ho => hops o (List.mem_cons_of_mem op ho)
    rcases mem_of_mem_perform he with hold | rfl
    · exact h e hold
    · exact fun hemail => hops _ List.mem_cons_self hemail

theorem Lacks.get_eq_none (h : s.Lacks email) : (s.cache.get s.clock email).1 = none := by
  rw [Option.eq_none_iff_forall_ne_some]
  intro a ha
  obtain ⟨e, he, hemail, -⟩ := AccountCache.exists_of_get_eq_some ha
  exact h e he hemail

/-- Under the address of an entry there is that entry or nothing, as long as the address is not set.
-/
theorem eq_of_mem_performAll (h : ∀ f ∈ s.cache.entries, f.email = e.email → f = e)
    (hops : ∀ op ∈ ops, ¬ op.Sets e.email) :
    ∀ f ∈ (s.performAll ops).cache.entries, f.email = e.email → f = e := by
  induction ops generalizing s with
  | nil => exact h
  | cons op rest ih =>
    refine ih (fun f hf hemail => ?_) fun o ho => hops o (List.mem_cons_of_mem op ho)
    rcases mem_of_mem_perform hf with hold | rfl
    · exact h f hold hemail
    · exact absurd hemail (hops _ List.mem_cons_self)

/-- An entry is in the cache since some operations began, and behind it is what stands after them.
-/
structure Holds (s : TimedCache) (since : List CacheOp) (e : CacheEntry) : Prop where
  time : s.clock = e.insertedAt + elapsed since
  entry : ∃ front back, s.cache.entries = front ++ e :: back ∧
    back.map CacheEntry.email = standing since ∧ ∀ f ∈ back, e.insertedAt ≤ f.insertedAt

namespace Holds

theorem mem (h : s.Holds since e) : e ∈ s.cache.entries := by
  obtain ⟨front, back, hentries, -⟩ := h.entry
  simp [hentries]

theorem fresh (h : s.Holds since e) (hlive : elapsed since < s.cache.ttl) :
    s.clock - e.insertedAt < s.cache.ttl := by
  rw [h.time]
  omega

theorem room (h : s.Holds since e) (hs : s.cache.WellFormed) :
    (standing since).length < s.cache.capacity := by
  obtain ⟨front, back, hentries, hback, -⟩ := h.entry
  have hbounded := hs.bounded
  rw [hentries, List.length_append, List.length_cons] at hbounded
  rw [← hback, List.length_map]
  omega

theorem invalidate (h : s.Holds since e) (hne : email ≠ e.email) :
    (s.perform (.invalidate email)).Holds (since ++ [.invalidate email]) e := by
  obtain ⟨front, back, hentries, hback, hlater⟩ := h.entry
  refine ⟨by rw [elapsed_append]; exact h.time, front.filter (·.email != email),
    back.filter (·.email != email), ?_, ?_, fun f hf => hlater f (List.mem_of_mem_filter hf)⟩
  · simp [perform, AccountCache.invalidate, hentries, Ne.symm hne]
  · rw [standing_invalidate, ← hback, List.filter_map, Function.comp_def]

/-- Entries behind a fresh one are fresh. So one whose time is over stands before it, and to drop it
leaves alone what stands behind. -/
theorem get (h : s.Holds since e) (hs : s.cache.WellFormed) (hlive : elapsed since < s.cache.ttl)
    (email : String) : (s.perform (.get email)).Holds (since ++ [.get email]) e := by
  have htime : s.clock = e.insertedAt + elapsed (since ++ [.get email]) := by
    rw [elapsed_append]
    exact h.time
  have hfresh := h.fresh hlive
  obtain ⟨front, back, hentries, hback, hlater⟩ := h.entry
  rcases s.cache.get_snd s.clock email with hget | ⟨f, hf, hemail, hstale, hget⟩
  · refine ⟨htime, front, back, ?_, by rw [standing_get, hback], hlater⟩
    simp only [perform, hget, hentries]
  · have hlate : ∀ b ∈ e :: back, b ≠ f := by
      rintro b hb rfl
      have hle : e.insertedAt ≤ b.insertedAt := by
        rcases List.mem_cons.mp hb with rfl | hb
        · exact le_rfl
        · exact hlater b hb
      simp only [AccountCache.isFresh, decide_eq_false_iff_not] at hstale
      omega
    have hfront : f ∈ front := by
      rw [hentries] at hf
      rcases List.mem_append.mp hf with hf | hf
      · exact hf
      · exact absurd rfl (hlate f hf)
    have hdistinct := hs.distinct
    rw [hentries, List.map_append, List.nodup_append] at hdistinct
    have hothers : ∀ b ∈ e :: back, b.email ≠ email := by
      intro b hb hbemail
      exact hdistinct.2.2 _ (List.mem_map_of_mem hfront) _ (List.mem_map_of_mem hb)
        (hemail.trans hbemail.symm)
    refine ⟨htime, front.filter (·.email != email), back, ?_, by rw [standing_get, hback], hlater⟩
    have hkept : (e :: back).filter (·.email != email) = e :: back :=
      List.filter_eq_self.mpr fun b hb => by simpa using hothers b hb
    simp only [perform, hget, AccountCache.invalidate, hentries, List.filter_append, hkept]

theorem insert (h : s.Holds since e) (hlive : elapsed since < s.cache.ttl)
    (hsince : ∀ op ∈ since, ¬ op.Sets e.email) (hne : email ≠ e.email) (a : Account) :
    (s.perform (.insert email a)).Holds (since ++ [.insert email a]) e ∨
      (s.cache.capacity ≤ (standing (since ++ [.insert email a])).length ∧
        (s.perform (.insert email a)).Lacks e.email) := by
  have hfresh := h.fresh hlive
  have htime := h.time
  obtain ⟨front, back, hentries, hback, hlater⟩ := h.entry
  let behind := back.filter (·.email != email) ++ [CacheEntry.mk email a s.clock]
  have hbehind : behind.map CacheEntry.email = standing (since ++ [.insert email a]) := by
    rw [standing_insert, ← hback, List.filter_map, List.map_append, Function.comp_def]
    rfl
  have hlater : ∀ f ∈ behind, e.insertedAt ≤ f.insertedAt := by
    intro f hf
    rcases List.mem_append.mp hf with hf | hf
    · exact hlater f (List.mem_of_mem_filter hf)
    · rw [List.mem_singleton.mp hf, htime]
      exact Nat.le_add_right ..
  have hall : (s.cache.invalidate email).entries ++ [CacheEntry.mk email a s.clock] =
      front.filter (·.email != email) ++ e :: behind := by
    simp [AccountCache.invalidate, hentries, Ne.symm hne, behind]
  rcases AccountCache.entries_trim { s.cache with entries := _ } s.clock hall
    (fun f hf => by
      have hle : e.insertedAt ≤ f.insertedAt := by
        rcases List.mem_cons.mp hf with rfl | hf
        · exact le_rfl
        · exact hlater f hf
      simp only [AccountCache.isFresh, decide_eq_true_eq]
      omega) with ⟨older, holder⟩ | ⟨hfull, hleft⟩
  · exact Or.inl ⟨by rw [elapsed_append]; exact htime, older, behind, holder, hbehind, hlater⟩
  · rw [← hbehind, List.length_map]
    refine Or.inr ⟨hfull, fun f hf hemail => ?_⟩
    have hstanding : e.email ∈ standing (since ++ [.insert email a]) := by
      rw [← hbehind, ← hemail]
      exact List.mem_map_of_mem (hleft f hf)
    rcases standing_append_iff.mp (mem_standing.mp hstanding) with ⟨b, hb⟩ | ⟨-, hold⟩
    · exact hne (CacheOp.insert.inj hb).1
    · exact not_standing hsince hold

/-- One step: an entry stays where it is, or what stands behind it has taken up all the room and the
entry is gone. -/
theorem perform (h : s.Holds since e) (hs : s.cache.WellFormed)
    (hsince : ∀ op ∈ since, ¬ op.Sets e.email) (hop : ¬ op.Sets e.email)
    (hlive : elapsed since < s.cache.ttl) :
    (s.perform op).Holds (since ++ [op]) e ∨
      (s.cache.capacity ≤ (standing (since ++ [op])).length ∧ (s.perform op).Lacks e.email) := by
  cases op with
  | get email => exact Or.inl (h.get hs hlive email)
  | insert email a => exact h.insert hlive hsince hop a
  | invalidate email => exact Or.inl (h.invalidate hop)
  | advance duration =>
    obtain ⟨front, back, hentries, hback, hlater⟩ := h.entry
    refine Or.inl ⟨?_, front, back, hentries, by rw [standing_advance, hback], hlater⟩
    rw [elapsed_append, ← Nat.add_assoc, ← h.time]
    rfl

/-- A run: an entry is in the cache exactly if at no moment what stood behind it took up all the
room. -/
theorem performAll (h : s.Holds [] e) (hs : s.cache.WellFormed)
    (hops : ∀ op ∈ ops, ¬ op.Sets e.email) (hlive : elapsed ops < s.cache.ttl) :
    ((∀ seen, seen <+: ops → (standing seen).length < s.cache.capacity) ∧
      (s.performAll ops).Holds ops e) ∨
    ((∃ seen, seen <+: ops ∧ s.cache.capacity ≤ (standing seen).length) ∧
      (s.performAll ops).Lacks e.email) := by
  induction ops using List.reverseRecOn with
  | nil =>
    refine Or.inl ⟨fun seen hseen => ?_, h⟩
    rw [List.prefix_nil.mp hseen]
    exact h.room hs
  | append_singleton ops op ih =>
    have hbefore : ∀ o ∈ ops, ¬ o.Sets e.email := fun o ho => hops o (by simp [ho])
    have hop : ¬ op.Sets e.email := hops op (by simp)
    rw [elapsed_append] at hlive
    obtain ⟨hwell, hcapacity, httl⟩ := performAll_spec hs ops
    rw [performAll_concat]
    rcases ih hbefore (by omega) with ⟨hroom, hholds⟩ | ⟨⟨seen, hseen, hfull⟩, hlacks⟩
    · rcases hholds.perform hwell hbefore hop (by omega) with hholds | ⟨hfull, hlacks⟩
      · refine Or.inl ⟨fun seen hseen => ?_, hholds⟩
        rcases List.prefix_concat_iff.mp hseen with rfl | hseen
        · have hlast := hholds.room (wellFormed_perform hwell op)
          rwa [capacity_perform, hcapacity] at hlast
        · exact hroom seen hseen
      · rw [hcapacity] at hfull
        exact Or.inr ⟨⟨ops ++ [op], List.prefix_rfl, hfull⟩, hlacks⟩
    · refine Or.inr ⟨⟨seen, hseen.trans (List.prefix_append ops [op]), hfull⟩, ?_⟩
      have hone : ∀ o ∈ [op], ¬ o.Sets e.email := by simpa using hop
      exact hlacks.performAll hone

end Holds

theorem holds_insert (hroom : 0 < s.cache.capacity) (httl : 0 < s.cache.ttl) (email : String)
    (a : Account) : (s.perform (.insert email a)).Holds [] ⟨email, a, s.clock⟩ := by
  have hfresh : ∀ f ∈ [CacheEntry.mk email a s.clock], s.cache.isFresh s.clock f = true := by
    intro f hf
    rw [List.mem_singleton.mp hf]
    simpa [AccountCache.isFresh] using httl
  rcases AccountCache.entries_trim { s.cache with entries := _ ++ [_] } s.clock rfl hfresh with
    ⟨older, holder⟩ | ⟨hfull, -⟩
  · exact ⟨rfl, older, [], holder, rfl, List.forall_mem_nil _⟩
  · exact absurd hroom (Nat.not_lt.mpr hfull)

theorem get_insert_eq_some_iff (hs : s.cache.WellFormed) (hroom : 0 < s.cache.capacity)
    (hops : ∀ op ∈ ops, ¬ op.Sets email) {a b : Account} :
    let t := (s.perform (.insert email a)).performAll ops
    (t.cache.get t.clock email).1 = some b ↔ b = a ∧ elapsed ops < s.cache.ttl ∧
      ∀ seen, seen <+: ops → (standing seen).length < s.cache.capacity := by
  intro t
  have hinsert := wellFormed_perform hs (.insert email a)
  obtain ⟨hwell, -, httl⟩ := performAll_spec hinsert ops
  rw [ttl_perform] at httl
  have hclock : t.clock = s.clock + elapsed ops := clock_performAll _ ops
  rcases Nat.lt_or_ge (elapsed ops) s.cache.ttl with hlive | hover
  · have hholds := holds_insert hroom (by omega) email a
    have hrun := hholds.performAll hinsert hops (by rwa [ttl_perform])
    rw [capacity_perform] at hrun
    rcases hrun with ⟨hseen, hholds⟩ | ⟨⟨seen, hseen, hfull⟩, hlacks⟩
    · rw [hwell.get_of_mem hholds.mem (hholds.fresh (by rwa [httl])), Option.some.injEq, eq_comm]
      exact ⟨fun h => ⟨h, hlive, hseen⟩, And.left⟩
    · rw [hlacks.get_eq_none]
      exact ⟨nofun, fun h => absurd (h.2.2 seen hseen) (Nat.not_lt.mpr hfull)⟩
  · constructor
    · intro h
      -- only the entry that was put in can be found, and its time is over
      have honly : ∀ f ∈ (s.perform (.insert email a)).cache.entries, f.email = email →
          f = ⟨email, a, s.clock⟩ := by
        intro f hf hemail
        rcases AccountCache.mem_of_mem_insert hf with ⟨-, hne⟩ | hnew
        · exact absurd hemail hne
        · exact hnew
      obtain ⟨e, he, hemail, -, hfresh⟩ := AccountCache.exists_of_get_eq_some h
      have hone : e = ⟨email, a, s.clock⟩ :=
        eq_of_mem_performAll (e := ⟨email, a, s.clock⟩) honly hops e he hemail
      rw [hone, httl, hclock] at hfresh
      simp only at hfresh
      omega
    · rintro ⟨-, hlive, -⟩
      omega

theorem lacks_invalidate (s : TimedCache) (email : String) :
    (s.perform (.invalidate email)).Lacks email :=
  fun e he => ((AccountCache.mem_invalidate s.cache email e).mp he).2

/-- What happened before the last time that an address was put in plays no part. -/
theorem get_last_insert_eq_some_iff (size ttl clock : Nat) (before : List CacheOp) {a b : Account}
    (hops : ∀ op ∈ ops, ¬ op.Sets email) :
    let t := (begin size ttl clock).performAll (before ++ .insert email a :: ops)
    (t.cache.get t.clock email).1 = some b ↔ b = a ∧ elapsed ops < ttl ∧
      ∀ seen, seen <+: ops → (standing seen).length < max size 1 := by
  obtain ⟨hwell, hcapacity, httl⟩ := performAll_spec (wellFormed_begin size ttl clock) before
  have hroom : 0 < ((begin size ttl clock).performAll before).cache.capacity := by
    rw [hcapacity]
    exact Nat.le_max_right size 1
  have hget := get_insert_eq_some_iff hwell hroom hops (a := a) (b := b)
  rw [hcapacity, httl] at hget
  rw [performAll_append]
  exact hget

theorem lacks_last_invalidate (s : TimedCache) (before : List CacheOp)
    (hops : ∀ op ∈ ops, ¬ op.Sets email) :
    (s.performAll (before ++ .invalidate email :: ops)).Lacks email := by
  rw [performAll_append]
  exact (lacks_invalidate _ email).performAll hops

/-- In every run from an empty cache there are never more entries than there is room for, and the
cache has exactly those accounts that are to be retained. -/
theorem exact_retention (size ttl clock : Nat) (ops : List CacheOp) :
    let s := (begin size ttl clock).performAll ops
    s.cache.size ≤ max size 1 ∧
      ∀ email a, (s.cache.get s.clock email).1 = some a ↔ Retained (max size 1) ttl ops email a := by
  intro s
  refine ⟨?_, fun email a => ⟨fun hget => ?_, ?_⟩⟩
  · obtain ⟨hwell, hcapacity, -⟩ := performAll_spec (wellFormed_begin size ttl clock) ops
    exact hwell.bounded.trans hcapacity.le
  · rcases exists_last_sets ops email with hnone | ⟨before, op, after, rfl, hop, hafter⟩
    · have hempty : (begin size ttl clock).Lacks email := nofun
      have hlacks : s.Lacks email := hempty.performAll hnone
      rw [hlacks.get_eq_none] at hget
      cases hget
    · cases op with
      | get other => exact hop.elim
      | insert other b =>
        obtain rfl : other = email := hop
        obtain ⟨rfl, hlive, hroom⟩ :=
          (get_last_insert_eq_some_iff size ttl clock before hafter).mp hget
        exact ⟨before, after, rfl, hafter, hlive, fun seen hseen =>
          (encard_standing_lt_iff hafter hseen).mpr (hroom seen hseen)⟩
      | invalidate other =>
        obtain rfl : other = email := hop
        rw [(lacks_last_invalidate _ before hafter).get_eq_none] at hget
        cases hget
      | advance duration => exact hop.elim
  · rintro ⟨before, after, rfl, hafter, hlive, hroom⟩
    exact (get_last_insert_eq_some_iff size ttl clock before hafter).mpr
      ⟨rfl, hlive, fun seen hseen => (encard_standing_lt_iff hafter hseen).mp (hroom seen hseen)⟩

end TimedCache

end Gatehouse
