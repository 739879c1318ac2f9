import Gatehouse.Url.Path
import Mathlib.Tactic

/-!
# Paths that are read as they are

Whatever path of the web is read, what comes out holds no segment of one or two dots and no character
that has to be escaped. A path of that form is read as it is, and no other path is: so the form is
just what reading leaves alone. And a slash that a path begins with is never taken away. In the other
schemes, too, nothing has to be escaped in a path that was read.
-/

namespace Gatehouse.Url

theorem Escape.mem_char {set : Char → Bool} {c d : Char} (h : d ∈ char set c) :
    (∃ b, d ∈ byte b) ∨ (d = c ∧ set c = false) := by
  unfold char at h
  split_ifs at h with hset
  · obtain ⟨b, -, hd⟩ := List.mem_flatMap.mp h
    exact Or.inl ⟨b, hd⟩
  · exact Or.inr ⟨List.mem_singleton.mp h, by simpa using hset⟩

namespace Path

/-- A character that a path may hold as it is. -/
def IsPlain (c : Char) : Prop := Escape.path c = false ∧ c ≠ '\\'

/-- A segment that stands for itself. -/
def Stands (segment : List Char) : Prop := dots segment ≠ some 1 ∧ dots segment ≠ some 2

/-- A path of plain characters whose segments stand for themselves. -/
structure IsNormal (p : List Char) : Prop where
  plain : ∀ c ∈ p, IsPlain c
  stands : ∀ segment ∈ p.splitOn '/', Stands segment

instance (c : Char) : Decidable (IsPlain c) := inferInstanceAs (Decidable (_ ∧ _))

instance (segment : List Char) : Decidable (Stands segment) := inferInstanceAs (Decidable (_ ∧ _))

theorem isNormal_iff (p : List Char) :
    IsNormal p ↔ (∀ c ∈ p, IsPlain c) ∧ ∀ segment ∈ p.splitOn '/', Stands segment :=
  ⟨fun h => ⟨h.plain, h.stands⟩, fun h => ⟨h.1, h.2⟩⟩

instance (p : List Char) : Decidable (IsNormal p) :=
  decidable_of_iff
    (p.all (fun c => decide (IsPlain c)) && (p.splitOn '/').all fun s => decide (Stands s))
    (by simp [isNormal_iff])

theorem isNormal_nil : IsNormal [] := by decide

/-- A slash parts a path in two that do not concern each other. -/
theorem isNormal_append_cons {p q : List Char} :
    IsNormal (p ++ '/' :: q) ↔ IsNormal p ∧ IsNormal q := by
  have hslash : IsPlain '/' := by decide
  simp only [isNormal_iff, List.splitOn_append_cons_self, List.mem_append, List.mem_cons, or_imp,
    forall_and, forall_eq, hslash, true_and]
  tauto

theorem isNormal_cons {p : List Char} : IsNormal ('/' :: p) ↔ IsNormal p := by
  simpa [isNormal_nil] using isNormal_append_cons (p := []) (q := p)

theorem isNormal_append_slash {p : List Char} : IsNormal (p ++ ['/']) ↔ IsNormal p := by
  simpa [isNormal_nil] using isNormal_append_cons (p := p) (q := [])

theorem isNormal_segment {segment : List Char} (hplain : ∀ c ∈ segment, IsPlain c)
    (hslash : '/' ∉ segment) (hstands : Stands segment) : IsNormal segment where
  plain := hplain
  stands := by
    rw [List.splitOn_eq_singleton hslash]
    simpa using hstands

/-! ## A normal path is read as it is -/

namespace Draft

variable (kind : SchemeKind) (d : Draft) (hasHost slash : Bool) (segment : List Char)

theorem addSegment_eq :
    d.addSegment kind hasHost segment slash =
      if dots segment.reverse = some 2 then
        if slash then (d.shorten kind).closeSlash else d.shorten kind
      else if dots segment.reverse = some 1 then d.closeSlash
      else if kind = .file ∧ d.reversed = ['/'] ∧ isDrive segment.reverse then
        { reversed := (if slash then ['/'] else []) ++ (':' :: segment.drop 1 ++ d.reversed)
          dropsHost := d.dropsHost || hasHost }
      else { d with reversed := (if slash then ['/'] else []) ++ (segment ++ d.reversed) } := by
  unfold addSegment
  rcases dots segment.reverse with _ | _ | _ | _ | n
  all_goals cases slash
  all_goals simp

theorem addSegment_web :
    d.addSegment .web hasHost segment slash =
      if dots segment.reverse = some 2 then
        if slash then (d.shorten .web).closeSlash else d.shorten .web
      else if dots segment.reverse = some 1 then d.closeSlash
      else { d with reversed := (if slash then ['/'] else []) ++ (segment ++ d.reversed) } := by
  rw [addSegment_eq]
  simp only [reduceCtorEq, false_and, ↓reduceIte]

theorem addSegment_of_stands {segment : List Char} (h : Stands segment.reverse) :
    d.addSegment .web hasHost segment slash =
      { d with reversed := (if slash then ['/'] else []) ++ (segment ++ d.reversed) } := by
  rw [addSegment_web, if_neg h.2, if_neg h.1]

end Draft

theorem char_of_isPlain {c : Char} (h : IsPlain c) : Escape.char Escape.path c = [c] := by
  rw [Escape.char, h.1]
  rfl

/-- Where a path ends. -/
def Ends (rest : List Char) : Prop := ∀ c ∈ rest.head?, c = '?' ∨ c = '#'

theorem read_of_ends {rest : List Char} (h : Ends rest) (hasHost : Bool) (d : Draft)
    (segment : List Char) :
    read .web hasHost d segment rest = (d.addSegment .web hasHost segment false, rest) := by
  cases rest with
  | nil => rfl
  | cons c rest =>
    have hend : c = '?' ∨ c = '#' := h c rfl
    have hslash : ¬ (c = '/' ∨ (c = '\\' ∧ SchemeKind.web.isSpecial = true)) := by
      rcases hend with rfl | rfl
      · decide
      · decide
    rw [read, if_neg hslash, if_pos hend]

theorem read_of_isNormal {p segment rest : List Char} (hasHost : Bool) (d : Draft)
    (hp : IsNormal (segment.reverse ++ p)) (hsegment : '/' ∉ segment) (hrest : Ends rest) :
    read .web hasHost d segment (p ++ rest) =
      ({ d with reversed := p.reverse ++ segment ++ d.reversed }, rest) := by
  induction p generalizing d segment with
  | nil =>
    have hslash : '/' ∉ segment.reverse := by simpa using hsegment
    have hstands : Stands segment.reverse := by
      refine hp.stands _ ?_
      rw [List.append_nil, List.splitOn_eq_singleton hslash]
      exact List.mem_singleton_self _
    rw [List.nil_append, read_of_ends hrest, Draft.addSegment_of_stands _ _ _ hstands]
    rfl
  | cons c p ih =>
    have hplain : IsPlain c := hp.plain c (by simp)
    by_cases hc : c = '/'
    · subst hc
      obtain ⟨hfront, hp⟩ := isNormal_append_cons.mp hp
      have hslash : '/' ∉ segment.reverse := by simpa using hsegment
      have hstands : Stands segment.reverse := by
        refine hfront.stands _ ?_
        rw [List.splitOn_eq_singleton hslash]
        exact List.mem_singleton_self _
      rw [List.cons_append, read, if_pos (Or.inl rfl), Draft.addSegment_of_stands _ _ _ hstands,
        ih _ (show IsNormal (List.reverse [] ++ p) from hp) List.not_mem_nil]
      simp
    · have hsep : ¬ (c = '/' ∨ (c = '\\' ∧ SchemeKind.web.isSpecial = true)) := by
        rintro (hslash | ⟨hback, -⟩)
        · exact hc hslash
        · exact hplain.2 hback
      have hends : ¬ (c = '?' ∨ c = '#') := by
        rintro (rfl | rfl)
        · exact absurd hplain (by decide)
        · exact absurd hplain (by decide)
      have hfile : ¬ (SchemeKind.web = .file ∧ d.reversed = ['/'] ∧ isDrive segment.reverse ∧
          segment.head? = some ':') := fun h => by cases h.1
      rw [List.cons_append, read, if_neg hsep, if_neg hends, if_neg hfile, char_of_isPlain hplain]
      rw [List.reverse_singleton, List.singleton_append, ih d (by simpa using hp) ?_]
      · simp
      · simpa [Ne.symm hc] using hsegment

/-! ## Whatever is read is normal -/

theorem isPlain_hexDigit : ∀ n < 16, IsPlain (Escape.hexDigit n) ∧ Escape.hexDigit n ≠ '/' := by
  decide

theorem isPlain_byte (b : UInt8) : ∀ c ∈ Escape.byte b, IsPlain c ∧ c ≠ '/' := by
  have hb := b.toNat_lt
  intro c hc
  simp only [Escape.byte, List.mem_cons, List.not_mem_nil, or_false] at hc
  rcases hc with rfl | rfl | rfl
  · decide
  · exact isPlain_hexDigit _ (by omega)
  · exact isPlain_hexDigit _ (by omega)

theorem isPlain_char {c : Char} (hslash : c ≠ '/') (hback : c ≠ '\\') :
    ∀ d ∈ Escape.char Escape.path c, IsPlain d ∧ d ≠ '/' := by
  intro d hd
  rcases Escape.mem_char hd with ⟨b, hd⟩ | ⟨rfl, hset⟩
  · exact isPlain_byte b d hd
  · exact ⟨⟨hset, hback⟩, hslash⟩

namespace Draft

/-- A draft of a normal path to which a segment can be added. -/
def Ready (d : Draft) : Prop := ∃ r, d.reversed = '/' :: r ∧ IsNormal r.reverse

theorem Ready.isNormal {d : Draft} (h : d.Ready) : IsNormal d.reversed.reverse := by
  obtain ⟨r, hd, hr⟩ := h
  rw [hd, List.reverse_cons]
  exact isNormal_append_slash.mpr hr

theorem ready_closeSlash {d : Draft} (h : IsNormal d.reversed.reverse) : d.closeSlash.Ready := by
  unfold closeSlash endsInSlash
  split_ifs with hslash
  · obtain ⟨_ | ⟨c, r⟩, dropsHost⟩ := d
    · cases hslash
    · obtain rfl : c = '/' := by simpa using hslash
      refine ⟨r, rfl, isNormal_append_slash.mp ?_⟩
      simpa using h
  · exact ⟨d.reversed, rfl, h⟩

/-- What is left of a path that ends in a slash or holds nothing. -/
theorem isNormal_dropWhile {r : List Char} (h : IsNormal r.reverse) :
    IsNormal (r.dropWhile (· ≠ '/')).reverse := by
  cases hdrop : r.dropWhile (· ≠ '/') with
  | nil => exact isNormal_nil
  | cons c rest =>
    have hc := List.head?_dropWhile_not (· ≠ '/') r
    rw [hdrop] at hc
    obtain rfl : c = '/' := by simpa using hc
    rw [← List.takeWhile_append_dropWhile (p := (· ≠ '/')) (l := r), hdrop] at h
    rw [List.reverse_cons, isNormal_append_slash]
    rw [List.reverse_append, List.reverse_cons, List.append_assoc] at h
    exact (isNormal_append_cons.mp h).1

theorem Ready.isNormal_shorten {d : Draft} (h : d.Ready) :
    IsNormal (d.shorten .web).reversed.reverse := by
  have hd := h.isNormal
  obtain ⟨r, hslash, hr⟩ := h
  unfold shorten
  simp only [reduceCtorEq, false_and, ↓reduceIte]
  refine isNormal_dropWhile ?_
  split_ifs
  · rw [hslash]
    exact hr
  · exact hd

variable {d : Draft} {segment : List Char} {hasHost : Bool}

theorem isNormal_cons_append {r : List Char} (hr : IsNormal r.reverse)
    (hsegment : ∀ c ∈ segment, IsPlain c ∧ c ≠ '/') (hstands : Stands segment.reverse) :
    IsNormal (segment ++ '/' :: r).reverse := by
  rw [List.reverse_append, List.reverse_cons, List.append_assoc, List.singleton_append,
    isNormal_append_cons]
  refine ⟨hr, isNormal_segment (fun c hc => ?_) (fun hslash => ?_) hstands⟩
  · exact (hsegment c (List.mem_reverse.mp hc)).1
  · exact (hsegment '/' (List.mem_reverse.mp hslash)).2 rfl

theorem Ready.isNormal_addSegment (h : d.Ready) (hsegment : ∀ c ∈ segment, IsPlain c ∧ c ≠ '/') :
    IsNormal (d.addSegment .web hasHost segment false).reversed.reverse := by
  rw [addSegment_web]
  simp only [Bool.false_eq_true, ↓reduceIte]
  split_ifs with htwo hone
  · exact h.isNormal_shorten
  · exact (ready_closeSlash h.isNormal).isNormal
  · obtain ⟨r, hd, hr⟩ := h
    rw [hd]
    exact isNormal_cons_append hr hsegment ⟨hone, htwo⟩

theorem Ready.addSegment (h : d.Ready) (hsegment : ∀ c ∈ segment, IsPlain c ∧ c ≠ '/') :
    (d.addSegment .web hasHost segment true).Ready := by
  rw [addSegment_web]
  simp only [↓reduceIte]
  split_ifs with htwo hone
  · exact ready_closeSlash h.isNormal_shorten
  · exact ready_closeSlash h.isNormal
  · obtain ⟨r, hd, hr⟩ := h
    rw [hd]
    exact ⟨_, rfl, isNormal_cons_append hr hsegment ⟨hone, htwo⟩⟩

end Draft

open Draft in
/-- Whatever is read behind a normal path, the path stays normal. -/
theorem isNormal_read (hasHost : Bool) {d : Draft} {segment : List Char} (h : d.Ready)
    (hsegment : ∀ c ∈ segment, IsPlain c ∧ c ≠ '/') (cs : List Char) :
    IsNormal (read .web hasHost d segment cs).1.reversed.reverse := by
  induction cs generalizing d segment with
  | nil => exact h.isNormal_addSegment hsegment
  | cons c rest ih =>
    rw [read]
    split_ifs with hsep hends hfile
    · exact ih (h.addSegment hsegment) nofun
    · exact h.isNormal_addSegment hsegment
    · cases hfile.1
    · refine ih h fun d hd => ?_
      rcases List.mem_append.mp hd with hd | hd
      · have hc : c ≠ '/' ∧ c ≠ '\\' := by
          constructor
          · exact fun hslash => hsep (Or.inl hslash)
          · exact fun hback => hsep (Or.inr ⟨hback, rfl⟩)
        exact isPlain_char hc.1 hc.2 d (List.mem_reverse.mp hd)
      · exact hsegment d hd

/-! ## Where a path begins -/

namespace Draft

variable (kind : SchemeKind)

/-- A draft of a path that begins with a slash. -/
def Rooted (d : Draft) : Prop := d.reversed.getLast? = some '/'

theorem Rooted.append {d : Draft} (h : d.Rooted) (more : List Char) (dropsHost : Bool) :
    Rooted ⟨more ++ d.reversed, dropsHost⟩ := by
  rw [Rooted, List.getLast?_append, h]
  rfl

theorem Rooted.closeSlash {d : Draft} (h : d.Rooted) : d.closeSlash.Rooted := by
  unfold Draft.closeSlash
  split_ifs
  · exact h
  · exact h.append ['/'] _

theorem getLast?_dropWhile {r : List Char} (h : r.getLast? = some '/') :
    (r.dropWhile (· ≠ '/')).getLast? = some '/' := by
  induction r with
  | nil => cases h
  | cons c r ih =>
    rw [List.dropWhile_cons]
    split_ifs with hc
    · cases r with
      | nil =>
        obtain rfl := Option.some.inj h
        simp at hc
      | cons d r => exact ih (by simpa using h)
    · exact h

theorem Rooted.shorten {d : Draft} (h : d.Rooted) : (d.shorten kind).Rooted := by
  have hdrop : slashMayGo d.reversed = true → (d.reversed.drop 1).getLast? = some '/' := by
    obtain ⟨_ | ⟨c, _ | ⟨c', r⟩⟩, dropsHost⟩ := d
    · exact nofun
    · intro hgo
      unfold slashMayGo at hgo
      split at hgo
      · rename_i heq
        obtain ⟨-, rfl⟩ := List.cons.inj heq
        cases hgo
      · cases hgo
    · intro _
      simpa [Rooted] using h
  have hfront : Rooted (if slashMayGo d.reversed then { d with reversed := d.reversed.drop 1 }
      else d) := by
    split_ifs with hgo
    · exact hdrop hgo
    · exact h
  unfold Draft.shorten
  simp only
  generalize (if slashMayGo d.reversed then { d with reversed := d.reversed.drop 1 } else d) = front
    at hfront ⊢
  split_ifs
  · exact hfront
  · exact getLast?_dropWhile hfront

theorem Rooted.addSegment {d : Draft} (h : d.Rooted) (hasHost slash : Bool)
    (segment : List Char) : (d.addSegment kind hasHost segment slash).Rooted := by
  rw [addSegment_eq]
  generalize (if slash then ['/'] else []) = close
  split_ifs
  · exact (h.shorten kind).closeSlash
  · exact h.shorten kind
  · exact h.closeSlash
  · rw [← List.append_assoc]
    exact h.append _ _
  · rw [← List.append_assoc]
    exact h.append _ _

theorem rooted_first (hasHost : Bool) : (addSegment .other hasHost ⟨[], false⟩ [] true).Rooted := by
  rw [addSegment_eq]
  exact (rfl : (_ : Option Char) = some '/')

end Draft

open Draft in
theorem rooted_read {kind : SchemeKind} {d : Draft} (hasHost : Bool) (segment : List Char)
    (h : d.Rooted) (cs : List Char) : (read kind hasHost d segment cs).1.Rooted := by
  induction cs generalizing d segment with
  | nil => exact h.addSegment kind hasHost false segment
  | cons c rest ih =>
    rw [read]
    split_ifs
    · exact ih _ (h.addSegment kind hasHost true segment)
    · exact h.addSegment kind hasHost false segment
    · exact ih _ (h.append ('/' :: segment) _)
    · exact ih _ h

/-! ## What a path is written with -/

def Escaped (cs : List Char) : Prop := ∀ c ∈ cs, Escape.path c = false

theorem escaped_cons {c : Char} {cs : List Char} :
    Escaped (c :: cs) ↔ Escape.path c = false ∧ Escaped cs := List.forall_mem_cons

theorem escaped_append {cs ds : List Char} :
    Escaped (cs ++ ds) ↔ Escaped cs ∧ Escaped ds := List.forall_mem_append

theorem Escaped.reverse {cs : List Char} (h : Escaped cs) : Escaped cs.reverse :=
  fun c hc => h c (List.mem_reverse.mp hc)

theorem Escaped.sublist {cs ds : List Char} (h : Escaped cs) (hsub : ds.Sublist cs) : Escaped ds :=
  fun c hc => h c (hsub.mem hc)

theorem escaped_char (c : Char) : Escaped (Escape.char Escape.path c) := by
  intro d hd
  rcases Escape.mem_char hd with ⟨b, hd⟩ | ⟨rfl, hset⟩
  · exact (isPlain_byte b d hd).1.1
  · exact hset

namespace Draft

variable {kind : SchemeKind} {d : Draft} {segment : List Char}

theorem escaped_closeSlash (h : Escaped d.reversed) : Escaped d.closeSlash.reversed := by
  unfold closeSlash
  split_ifs
  · exact h
  · exact escaped_cons.mpr ⟨rfl, h⟩

theorem escaped_shorten (h : Escaped d.reversed) : Escaped (d.shorten kind).reversed := by
  refine h.sublist ?_
  unfold shorten
  simp only
  split_ifs
  · exact List.drop_sublist 1 _
  · exact (List.dropWhile_sublist _).trans (List.drop_sublist 1 _)
  · exact List.Sublist.refl _
  · exact List.dropWhile_sublist _

theorem escaped_addSegment (hasHost slash : Bool) (h : Escaped d.reversed)
    (hsegment : Escaped segment) :
    Escaped (d.addSegment kind hasHost segment slash).reversed := by
  have hclose : Escaped (if slash then ['/'] else []) := by
    split_ifs
    · exact escaped_cons.mpr ⟨rfl, List.forall_mem_nil _⟩
    · exact List.forall_mem_nil _
  rw [addSegment_eq]
  generalize (if slash then ['/'] else []) = close at hclose ⊢
  split_ifs
  · exact escaped_closeSlash (escaped_shorten h)
  · exact escaped_shorten h
  · exact escaped_closeSlash h
  · refine escaped_append.mpr ⟨hclose, escaped_append.mpr ⟨escaped_cons.mpr ⟨rfl, ?_⟩, h⟩⟩
    exact hsegment.sublist (List.drop_sublist 1 segment)
  · exact escaped_append.mpr ⟨hclose, escaped_append.mpr ⟨hsegment, h⟩⟩

end Draft

theorem escaped_read {kind : SchemeKind} (hasHost : Bool) {d : Draft} {segment : List Char}
    (h : Escaped d.reversed) (hsegment : Escaped segment) (cs : List Char) :
    Escaped (read kind hasHost d segment cs).1.reversed := by
  induction cs generalizing d segment with
  | nil => exact Draft.escaped_addSegment hasHost false h hsegment
  | cons c rest ih =>
    have hc : Escaped (Escape.char Escape.path c).reverse := (escaped_char c).reverse
    rw [read]
    split_ifs
    · exact ih (Draft.escaped_addSegment hasHost true h hsegment) (List.forall_mem_nil _)
    · exact Draft.escaped_addSegment hasHost false h hsegment
    · exact ih (escaped_cons.mpr ⟨rfl, escaped_append.mpr ⟨hsegment, h⟩⟩) hc
    · exact ih h (escaped_append.mpr ⟨hc, hsegment⟩)

theorem Draft.escaped_finish (kind : SchemeKind) {d : Draft} (h : Escaped d.reversed) :
    Escaped (d.finish kind) := by
  unfold Draft.finish
  simp only
  split_ifs
  · exact escaped_cons.mpr ⟨rfl, h.reverse.sublist (List.dropWhile_sublist _)⟩
  · exact h.reverse

end Path

end Gatehouse.Url
