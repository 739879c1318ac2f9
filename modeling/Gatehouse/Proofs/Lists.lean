import Mathlib.Tactic

/-!
# First and greatest

What is found first in a list that was sorted by size, the greatest in front, and what a list of
pairs holds under a key.
-/

namespace Gatehouse

variable {α β : Type}

/-- The elements of a list that meet a condition are nowhere greater than this one, and smaller
before it. -/
def FirstGreatest (p : α → Prop) (size : α → Nat) (xs : List α) (x : α) : Prop :=
  ∃ before after, xs = before ++ x :: after ∧ p x ∧
    (∀ y ∈ before, p y → size y < size x) ∧ ∀ y ∈ after, p y → size y ≤ size x

/-- An element that meets a condition, and none before it does. -/
def First (p : α → Prop) (xs : List α) (x : α) : Prop :=
  ∃ before after, xs = before ++ x :: after ∧ p x ∧ ∀ y ∈ before, ¬ p y

variable {p q : α → Prop} {size : α → Nat} {xs : List α} {a x : α}

namespace FirstGreatest

theorem mem (h : FirstGreatest p size xs x) : x ∈ xs := by
  obtain ⟨before, after, rfl, -⟩ := h
  simp

theorem prop (h : FirstGreatest p size xs x) : p x := h.choose_spec.choose_spec.2.1

theorem congr (hpq : ∀ y ∈ xs, p y ↔ q y) (h : FirstGreatest p size xs x) :
    FirstGreatest q size xs x := by
  have hx := h.mem
  obtain ⟨before, after, rfl, hp, hbefore, hafter⟩ := h
  refine ⟨before, after, rfl, (hpq x hx).mp hp, fun y hy hq => ?_, fun y hy hq => ?_⟩
  · exact hbefore y hy ((hpq y (by simp [hy])).mpr hq)
  · exact hafter y hy ((hpq y (by simp [hy])).mpr hq)

theorem nil_iff : ¬ FirstGreatest p size [] x := fun h => by simpa using h.mem

theorem cons_iff : FirstGreatest p size (a :: xs) x ↔
    (a = x ∧ p a ∧ ∀ y ∈ xs, p y → size y ≤ size a) ∨
      (FirstGreatest p size xs x ∧ (p a → size a < size x)) := by
  constructor
  · rintro ⟨_ | ⟨b, before⟩, after, heq, hp, hbefore, hafter⟩
    · obtain ⟨rfl, rfl⟩ := List.cons.inj heq
      exact Or.inl ⟨rfl, hp, hafter⟩
    · obtain ⟨rfl, rfl⟩ := List.cons.inj heq
      refine Or.inr ⟨⟨before, after, rfl, hp, ?_, hafter⟩, hbefore a (List.mem_cons_self)⟩
      exact fun y hy => hbefore y (List.mem_cons_of_mem a hy)
  · rintro (⟨rfl, hp, hafter⟩ | ⟨⟨before, after, rfl, hp, hbefore, hafter⟩, ha⟩)
    · exact ⟨[], xs, rfl, hp, nofun, hafter⟩
    · refine ⟨a :: before, after, rfl, hp, fun y hy => ?_, hafter⟩
      rcases List.mem_cons.mp hy with rfl | hy
      · exact ha
      · exact hbefore y hy

theorem filterMap_iff {f : α → Option β} {r : β → Prop} {size' : β → Nat} {b : β}
    (hsize : ∀ a b, f a = some b → size' b = size a) :
    FirstGreatest r size' (xs.filterMap f) b ↔
      ∃ x, f x = some b ∧ FirstGreatest (fun a => ∃ b, f a = some b ∧ r b) size xs x := by
  constructor
  · rintro ⟨before, after, heq, hr, hbefore, hafter⟩
    obtain ⟨l, m, rfl, rfl, hm⟩ := List.filterMap_eq_append_iff.mp heq
    obtain ⟨l', x, m', rfl, hnone, hx, rfl⟩ := List.filterMap_eq_cons_iff.mp hm
    refine ⟨x, hx, l ++ l', m', by simp, ⟨b, hx, hr⟩, ?_, ?_⟩
    · rintro y hy ⟨c, hc, hrc⟩
      rw [← hsize y c hc, ← hsize x b hx]
      rcases List.mem_append.mp hy with hy | hy
      · exact hbefore c (List.mem_filterMap.mpr ⟨y, hy, hc⟩) hrc
      · rw [hnone y hy] at hc
        cases hc
    · rintro y hy ⟨c, hc, hrc⟩
      rw [← hsize y c hc, ← hsize x b hx]
      exact hafter c (List.mem_filterMap.mpr ⟨y, hy, hc⟩) hrc
  · rintro ⟨x, hx, before, after, rfl, ⟨c, hc, hrc⟩, hbefore, hafter⟩
    obtain rfl : b = c := Option.some.inj (hx.symm.trans hc)
    refine ⟨before.filterMap f, after.filterMap f, ?_, hrc, fun d hd hrd => ?_, fun d hd hrd => ?_⟩
    · rw [List.filterMap_append, List.filterMap_cons_some hx]
    · obtain ⟨y, hy, hyd⟩ := List.mem_filterMap.mp hd
      rw [hsize y d hyd, hsize x b hx]
      exact hbefore y hy ⟨d, hyd, hrd⟩
    · obtain ⟨y, hy, hyd⟩ := List.mem_filterMap.mp hd
      rw [hsize y d hyd, hsize x b hx]
      exact hafter y hy ⟨d, hyd, hrd⟩

theorem const_iff {n : Nat} : FirstGreatest p (fun _ => n) xs x ↔ First p xs x := by
  constructor
  · rintro ⟨before, after, heq, hp, hbefore, -⟩
    exact ⟨before, after, heq, hp, fun y hy hpy => lt_irrefl n (hbefore y hy hpy)⟩
  · rintro ⟨before, after, heq, hp, hbefore⟩
    exact ⟨before, after, heq, hp, fun y hy hpy => absurd hpy (hbefore y hy), fun _ _ _ => le_rfl⟩

end FirstGreatest

namespace First

theorem nil_iff : ¬ First p [] x := by
  rintro ⟨before, after, heq, -⟩
  simp at heq

theorem cons_iff : First p (a :: xs) x ↔ (a = x ∧ p a) ∨ (¬ p a ∧ First p xs x) := by
  constructor
  · rintro ⟨_ | ⟨b, before⟩, after, heq, hp, hbefore⟩
    · obtain ⟨rfl, -⟩ := List.cons.inj heq
      exact Or.inl ⟨rfl, hp⟩
    · obtain ⟨rfl, htail⟩ := List.cons.inj heq
      obtain ⟨ha, hbefore⟩ := List.forall_mem_cons.mp hbefore
      exact Or.inr ⟨ha, before, after, htail, hp, hbefore⟩
  · rintro (⟨rfl, hp⟩ | ⟨ha, before, after, rfl, hp, hbefore⟩)
    · exact ⟨[], xs, rfl, hp, nofun⟩
    · exact ⟨a :: before, after, rfl, hp, List.forall_mem_cons.mpr ⟨ha, hbefore⟩⟩

end First

theorem find?_eq_some_iff_first {p : α → Bool} :
    xs.find? p = some x ↔ First (p · = true) xs x := by
  rw [List.find?_eq_some_iff_append]
  constructor
  · rintro ⟨hp, before, after, heq, hbefore⟩
    exact ⟨before, after, heq, hp, fun y hy => by simpa using hbefore y hy⟩
  · rintro ⟨before, after, heq, hp, hbefore⟩
    exact ⟨hp, before, after, heq, fun y hy => by simpa using hbefore y hy⟩

/-- Where sorting puts an element in front of a list: behind the greater ones, and before all the
others. -/
theorem exists_mergeSort_cons (size : α → Nat) (a : α) (xs : List α) :
    ∃ l m, (a :: xs).mergeSort (fun a b => size a ≥ size b) = l ++ a :: m ∧
      xs.mergeSort (fun a b => size a ≥ size b) = l ++ m ∧
      (∀ y ∈ l, size a < size y) ∧ ∀ y ∈ m, size y ≤ size a := by
  have htrans : ∀ a b c : α, decide (size a ≥ size b) → decide (size b ≥ size c) →
      decide (size a ≥ size c) := by
    simp only [decide_eq_true_eq]
    omega
  have htotal : ∀ a b : α, decide (size a ≥ size b) || decide (size b ≥ size a) := by
    simp only [Bool.or_eq_true, decide_eq_true_eq]
    omega
  obtain ⟨l, m, hcons, hrest, hl⟩ := List.mergeSort_cons htrans htotal a xs
  have hsorted := List.pairwise_mergeSort htrans htotal (a :: xs)
  refine ⟨l, m, hcons, hrest, fun y hy => by simpa using hl y hy, fun y hy => ?_⟩
  rw [hcons] at hsorted
  have htail := (List.pairwise_append.mp hsorted).2.1
  simpa using (List.pairwise_cons.mp htail).1 y hy

/-- The first that is found after sorting is the first of the greatest before sorting. -/
theorem find?_mergeSort_eq_some_iff {p : α → Bool} :
    (xs.mergeSort fun a b => size a ≥ size b).find? p = some x ↔
      FirstGreatest (p · = true) size xs x := by
  induction xs with
  | nil => simp [FirstGreatest.nil_iff]
  | cons a rest ih =>
    obtain ⟨l, m, hcons, hrest, hgreater, hsmaller⟩ := exists_mergeSort_cons size a rest
    have hmem : ∀ y, y ∈ rest ↔ y ∈ l ∨ y ∈ m := by
      intro y
      rw [← List.mem_append, ← hrest, List.mem_mergeSort]
    rw [hrest, List.find?_append] at ih
    rw [hcons, List.find?_append, FirstGreatest.cons_iff, ← ih]
    by_cases ha : p a = true
    · rw [List.find?_cons_of_pos ha]
      cases hfind : l.find? p with
      | none =>
        -- none of the greater ones meets the condition, so the new one is found
        have hnone : ∀ y ∈ rest, p y = true → size y ≤ size a := by
          intro y hy hp
          rcases (hmem y).mp hy with hy | hy
          · exact absurd hp (List.find?_eq_none.mp hfind y hy)
          · exact hsmaller y hy
        constructor
        · intro h
          exact Or.inl ⟨Option.some.inj h, ha, hnone⟩
        · rintro (⟨rfl, -⟩ | ⟨hm, hlt⟩)
          · rfl
          · have hle := hsmaller x (List.mem_of_find?_eq_some hm)
            have hlt := hlt ha
            omega
      | some y =>
        have hy := List.mem_of_find?_eq_some hfind
        constructor
        · intro h
          obtain rfl := Option.some.inj h
          exact Or.inr ⟨rfl, fun _ => hgreater y hy⟩
        · rintro (⟨rfl, -, hle⟩ | ⟨h, -⟩)
          · have hlt := hgreater y hy
            have hle := hle y ((hmem y).mpr (Or.inl hy)) (List.find?_some hfind)
            omega
          · exact h
    · simp [List.find?_cons_of_neg ha, ha]

theorem lookup_of_mem {entries : List (String × β)} (h : (entries.map Prod.fst).Nodup)
    {entry : String × β} (hmem : entry ∈ entries) : entries.lookup entry.1 = some entry.2 := by
  induction entries with
  | nil => cases hmem
  | cons first rest ih =>
    obtain ⟨hfirst, hrest⟩ := List.nodup_cons.mp h
    rcases List.mem_cons.mp hmem with rfl | hmem
    · exact List.lookup_cons_self
    · have hne : entry.1 ≠ first.1 := fun heq => hfirst (heq ▸ List.mem_map_of_mem hmem)
      rw [List.lookup_cons, beq_eq_false_iff_ne.mpr hne]
      exact ih hrest hmem

theorem lookup_of_notMem {entries : List (String × β)} {key : String}
    (h : key ∉ entries.map Prod.fst) : entries.lookup key = none := by
  refine List.lookup_eq_none_iff.mpr fun entry hmem => ?_
  exact bne_iff_ne.mpr fun heq => h (heq ▸ List.mem_map_of_mem hmem)

theorem lookup_filter_ne (entries : List (String × β)) (key other : String) :
    (entries.filter (·.1 != key)).lookup other = if other = key then none else entries.lookup other := by
  induction entries with
  | nil => simp
  | cons entry rest ih =>
    obtain ⟨k, b⟩ := entry
    by_cases hk : k = key
    · rw [List.filter_cons_of_neg (by simpa using hk), ih]
      split_ifs with ho
      · rfl
      · rw [List.lookup_cons, hk, beq_eq_false_iff_ne.mpr ho]
    · rw [List.filter_cons_of_pos (by simpa using hk), List.lookup_cons, List.lookup_cons, ih]
      by_cases ho : other = k
      · simp [ho, hk]
      · rw [beq_eq_false_iff_ne.mpr ho]

end Gatehouse
