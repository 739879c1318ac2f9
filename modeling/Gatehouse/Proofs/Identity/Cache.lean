import Gatehouse.Identity.Cache
import Mathlib.Tactic

/-!
# What the cache holds

No operation of the cache makes up an entry: whatever it holds was put in under the address and at
the time that the entry names. What is taken out is fresh.
-/

namespace Gatehouse.AccountCache

variable {c : AccountCache} {e : CacheEntry}

theorem mem_invalidate (c : AccountCache) (email : String) (e : CacheEntry) :
    e ∈ (c.invalidate email).entries ↔ e ∈ c.entries ∧ e.email ≠ email := by
  simp [invalidate]

theorem mem_of_mem_trim {now : Nat} (h : e ∈ (c.trim now).entries) : e ∈ c.entries := by
  unfold trim at h
  split_ifs at h
  · exact h
  · exact List.mem_of_mem_filter (List.mem_of_mem_drop h)

theorem mem_of_mem_insert {now : Nat} {email : String} {a : Account}
    (h : e ∈ (c.insert now email a).entries) :
    (e ∈ c.entries ∧ e.email ≠ email) ∨ e = ⟨email, a, now⟩ := by
  have h := mem_of_mem_trim h
  rcases List.mem_append.mp h with h | h
  · exact Or.inl ((mem_invalidate c email e).mp h)
  · exact Or.inr (List.mem_singleton.mp h)

theorem mem_of_mem_get {now : Nat} {email : String} (h : e ∈ (c.get now email).2.entries) :
    e ∈ c.entries := by
  unfold get at h
  split at h
  · exact h
  · split_ifs at h
    · exact h
    · exact ((mem_invalidate c email e).mp h).1

theorem exists_of_get_eq_some {now : Nat} {email : String} {a : Account}
    (h : (c.get now email).1 = some a) :
    ∃ e ∈ c.entries, e.email = email ∧ e.account = a ∧ now - e.insertedAt < c.ttl := by
  unfold get at h
  split at h
  · cases h
  · rename_i e hfind
    split_ifs at h with hfresh
    refine ⟨e, List.mem_of_find?_eq_some hfind, ?_, Option.some.inj h, ?_⟩
    · simpa using List.find?_some hfind
    · simpa [isFresh] using hfresh

def Lacks (c : AccountCache) (email : String) : Prop := ∀ e ∈ c.entries, e.email ≠ email

theorem Lacks.get_eq {email : String} (h : c.Lacks email) (now : Nat) :
    c.get now email = (none, c) := by
  have hnone : c.entry? email = none :=
    List.find?_eq_none.mpr fun e he hemail => h e he (beq_iff_eq.mp hemail)
  rw [get, hnone]

theorem lacks_get {now : Nat} {email : String} (h : (c.get now email).1 = none) :
    (c.get now email).2.Lacks email := by
  unfold get at h ⊢
  split at h
  · rename_i hnone
    exact fun e he hemail => List.find?_eq_none.mp hnone e he (beq_iff_eq.mpr hemail)
  · split_ifs at h with hfresh
    simp only [hfresh]
    exact fun e he => ((mem_invalidate c email e).mp he).2

@[simp] theorem ttl_invalidate (c : AccountCache) (email : String) :
    (c.invalidate email).ttl = c.ttl := rfl

@[simp] theorem ttl_insert (c : AccountCache) (now : Nat) (email : String) (a : Account) :
    (c.insert now email a).ttl = c.ttl := by
  unfold insert trim
  split_ifs <;> rfl

@[simp] theorem ttl_get (c : AccountCache) (now : Nat) (email : String) :
    (c.get now email).2.ttl = c.ttl := by
  unfold get
  split
  · rfl
  · split_ifs <;> rfl

@[simp] theorem capacity_invalidate (c : AccountCache) (email : String) :
    (c.invalidate email).capacity = c.capacity := rfl

@[simp] theorem capacity_trim (c : AccountCache) (now : Nat) :
    (c.trim now).capacity = c.capacity := by
  unfold trim
  split_ifs <;> rfl

@[simp] theorem capacity_insert (c : AccountCache) (now : Nat) (email : String) (a : Account) :
    (c.insert now email a).capacity = c.capacity := capacity_trim _ now

/-- Looking for an account leaves the cache as it is, unless the time of the entry is over. -/
theorem get_snd (c : AccountCache) (now : Nat) (email : String) :
    (c.get now email).2 = c ∨
      ∃ e ∈ c.entries, e.email = email ∧ c.isFresh now e = false ∧
        (c.get now email).2 = c.invalidate email := by
  unfold get
  split
  · exact Or.inl rfl
  · rename_i e hfind
    split_ifs with hfresh
    · exact Or.inl rfl
    · refine Or.inr ⟨e, List.mem_of_find?_eq_some hfind, ?_, by simpa using hfresh, rfl⟩
      simpa using List.find?_some hfind

theorem get_of_eq_some {now : Nat} {email : String} {a : Account}
    (h : (c.get now email).1 = some a) : c.get now email = (some a, c) := by
  unfold get at h ⊢
  split at h
  · cases h
  · split_ifs at h with hfresh
    rw [if_pos hfresh, Option.some.inj h]

theorem insert_get (c : AccountCache) (clock now : Nat) (email : String) (a : Account) :
    (c.get clock email).2.insert now email a = c.insert now email a := by
  rcases c.get_snd clock email with h | ⟨-, -, -, -, h⟩ <;> rw [h]
  have hagain : (c.invalidate email).invalidate email = c.invalidate email := by
    simp [invalidate, List.filter_filter]
  simp only [insert, hagain]
  rfl

@[simp] theorem capacity_get (c : AccountCache) (now : Nat) (email : String) :
    (c.get now email).2.capacity = c.capacity := by
  rcases c.get_snd now email with h | ⟨-, -, -, -, h⟩ <;> rw [h]
  exact capacity_invalidate c email

/-! ## Each address once, and no more than there is room for -/

/-- What is true of a cache whatever happened to it. -/
structure WellFormed (c : AccountCache) : Prop where
  distinct : (c.entries.map CacheEntry.email).Nodup
  bounded : c.entries.length ≤ c.capacity

theorem wellFormed_empty (size ttl : Nat) : (empty size ttl).WellFormed := ⟨.nil, Nat.zero_le _⟩

namespace WellFormed

theorem invalidate (h : c.WellFormed) (email : String) : (c.invalidate email).WellFormed where
  distinct := (List.Sublist.map _ List.filter_sublist).nodup h.distinct
  bounded := (List.length_filter_le _ _).trans h.bounded

theorem get (h : c.WellFormed) (now : Nat) (email : String) : (c.get now email).2.WellFormed := by
  rcases c.get_snd now email with heq | ⟨-, -, -, -, heq⟩ <;> rw [heq]
  · exact h
  · exact h.invalidate email

theorem insert (h : c.WellFormed) (now : Nat) (email : String) (a : Account) :
    (c.insert now email a).WellFormed := by
  have hdistinct : (((c.invalidate email).entries ++ [CacheEntry.mk email a now]).map
      CacheEntry.email).Nodup := by
    rw [List.map_append]
    refine List.Nodup.append (h.invalidate email).distinct (List.nodup_singleton _) ?_
    intro other hother hemail
    obtain ⟨e, he, rfl⟩ := List.mem_map.mp hother
    exact ((mem_invalidate c email e).mp he).2 (List.mem_singleton.mp hemail)
  unfold AccountCache.insert trim
  split_ifs with hroom
  · exact ⟨hdistinct, hroom⟩
  · constructor
    · exact (((List.drop_sublist ..).trans List.filter_sublist).map _).nodup hdistinct
    · simp only [List.length_drop]
      omega

end WellFormed

theorem entry?_of_mem (hdistinct : (c.entries.map CacheEntry.email).Nodup) (he : e ∈ c.entries) :
    c.entry? e.email = some e := by
  obtain ⟨front, back, hentries⟩ := List.append_of_mem he
  have hfront : ∀ f ∈ front, f.email ≠ e.email := by
    rw [hentries, List.map_append, List.nodup_append] at hdistinct
    exact fun f hf => hdistinct.2.2 _ (List.mem_map_of_mem hf) _ (by simp)
  unfold entry?
  rw [hentries, List.find?_append, List.find?_eq_none.mpr (by simpa using hfront)]
  simp

theorem get_of_mem (hdistinct : (c.entries.map CacheEntry.email).Nodup) (he : e ∈ c.entries)
    {now : Nat} (hfresh : now - e.insertedAt < c.ttl) :
    (c.get now e.email).1 = some e.account := by
  rw [AccountCache.get, entry?_of_mem hdistinct he]
  simp [isFresh, hfresh]

theorem WellFormed.get_of_mem (h : c.WellFormed) (he : e ∈ c.entries) {now : Nat}
    (hfresh : now - e.insertedAt < c.ttl) : (c.get now e.email).1 = some e.account :=
  AccountCache.get_of_mem h.distinct he hfresh

/-- A fresh entry with nothing but fresh ones behind it is kept with all of them, unless those
behind it take up all the room. Then they are all that may be left. -/
theorem entries_trim (c : AccountCache) (now : Nat) {front back : List CacheEntry}
    (hentries : c.entries = front ++ e :: back)
    (hfresh : ∀ f ∈ e :: back, c.isFresh now f = true) :
    (∃ older, (c.trim now).entries = older ++ e :: back) ∨
      (c.capacity ≤ back.length ∧ ∀ f ∈ (c.trim now).entries, f ∈ back) := by
  have hfilter : c.entries.filter (c.isFresh now) = front.filter (c.isFresh now) ++ e :: back := by
    rw [hentries, List.filter_append, List.filter_eq_self.mpr hfresh]
  unfold trim
  split_ifs with hroom
  · exact Or.inl ⟨front, hentries⟩
  · simp only [hfilter]
    generalize front.filter (c.isFresh now) = older
    rcases Nat.lt_or_ge back.length c.capacity with hlt | hge
    · refine Or.inl ⟨older.drop ((older ++ e :: back).length - c.capacity), ?_⟩
      refine List.drop_append_of_le_length ?_
      simp only [List.length_append, List.length_cons]
      omega
    · refine Or.inr ⟨hge, fun f hf => ?_⟩
      have hdrop : (older ++ e :: back).length - c.capacity =
          (older ++ [e]).length + (back.length - c.capacity) := by
        simp only [List.length_append, List.length_cons, List.length_nil]
        omega
      rw [hdrop, List.append_cons older e back, List.drop_length_add_append] at hf
      exact List.mem_of_mem_drop hf

end Gatehouse.AccountCache
