import Gatehouse.Proofs.Json.Document
import Gatehouse.Proofs.Lists
import Gatehouse.Schema.Read

/-!
# Values in normal form are read as they are

A value that has the form of its schema is left alone by reading: every field of a record is there,
in order, under its own name. So what is printed for such a value is read back, as long as it does
not nest too deep.
-/

namespace Gatehouse

/-! ## Values of any form -/

namespace Json

/-- A value as values are kept, with at most so many levels of arrays and objects: whole numbers,
and the members of each object in the order of their names. -/
inductive Plain : Nat → Json → Prop
  | null {d : Nat} : Plain d null
  | bool {d : Nat} (b : Bool) : Plain d (bool b)
  | number {d : Nat} {n : Number} (h : n.Whole) : Plain d (number n)
  | text {d : Nat} (s : String) : Plain d (text s)
  | array {d : Nat} {js : List Json} (h : ∀ j ∈ js, Plain d j) : Plain (d + 1) (array js)
  | object {d : Nat} {ms : List (String × Json)} (hsorted : (ms.map Prod.fst).Pairwise (· < ·))
      (h : ∀ m ∈ ms, Plain d m.2) : Plain (d + 1) (object ms)

theorem Plain.exact {d : Nat} {j : Json} (h : j.Plain d) : j.Exact := by
  induction h with
  | null => exact .null
  | bool b => exact .bool b
  | number h => exact .number h
  | text s => exact .text s
  | array _ ih => exact .array ih
  | object _ _ ih => exact .object ih

theorem insertMember_of_lt {name : String} {value : Json} {ms : List (String × Json)}
    (h : ∀ m ∈ ms, m.1 < name) : insertMember name value ms = ms ++ [(name, value)] := by
  induction ms with
  | nil => rfl
  | cons m ms ih =>
    obtain ⟨hm, hms⟩ := List.forall_mem_cons.mp h
    have hne : name ≠ m.1 := fun heq => String.lt_irrefl name (heq ▸ hm)
    rw [insertMember, if_neg (String.lt_asymm hm), if_neg hne, ih hms, List.cons_append]

theorem foldl_insertMember {ms behind : List (String × Json)}
    (h : ((ms ++ behind).map Prod.fst).Pairwise (· < ·)) :
    behind.foldl (fun acc m => insertMember m.1 m.2 acc) ms = ms ++ behind := by
  induction behind generalizing ms with
  | nil => rw [List.foldl_nil, List.append_nil]
  | cons m behind ih =>
    rw [List.append_cons] at h
    have hlast : ∀ n ∈ ms, n.1 < m.1 := by
      intro n hn
      rw [List.map_append, List.map_append, List.append_assoc, List.pairwise_append] at h
      exact h.2.2 n.1 (List.mem_map_of_mem hn) m.1 List.mem_cons_self
    rw [List.foldl_cons, insertMember_of_lt hlast, ih h, ← List.append_cons]

theorem ofMembers_of_sorted {ms : List (String × Json)}
    (h : (ms.map Prod.fst).Pairwise (· < ·)) : ofMembers ms = object ms :=
  congrArg object (foldl_insertMember ((List.nil_append ms).symm ▸ h))

end Json

namespace Schema

open Scan (ofJson ofItems)

variable {origin : Origin}

theorem readItems_ofItems {item : Schema} {js : List Json}
    (h : ∀ j ∈ js, item.read origin (ofJson j) = .ok j) :
    readItems origin item (ofItems js) = .ok js := by
  induction js with
  | nil => rfl
  | cons j js ih =>
    obtain ⟨hj, hjs⟩ := List.forall_mem_cons.mp h
    rw [ofItems, readItems, hj, ih hjs]
    rfl

theorem readMembers_ofMembers {ms : List (String × Json)}
    (h : ∀ m ∈ ms, any.read origin (ofJson m.2) = .ok m.2) :
    readMembers origin (Scan.ofMembers ms) = .ok ms := by
  induction ms with
  | nil => rfl
  | cons m ms ih =>
    obtain ⟨hm, hms⟩ := List.forall_mem_cons.mp h
    rw [Scan.ofMembers, readMembers, hm, ih hms]
    rfl

section

variable {d : Nat} {is : Scan.Items} {js : List Json} {found : Scan.Members}
  {ms : List (String × Json)}

theorem read_array_any (h : readItems (.text (d + 1)) any is = .ok js) :
    any.read (.text (d + 2)) (.array is) = .ok (.array js) := by
  simp only [read, Origin.enter, bind, Except.bind, h]
  rfl

theorem read_object_any (h : readMembers (.text (d + 1)) found = .ok ms) :
    any.read (.text (d + 2)) (.object found) = .ok (.ofMembers ms) := by
  simp only [read, Origin.enter, bind, Except.bind, h]
  rfl

theorem read_list {item : Schema} (h : readItems (.text (d + 1)) item is = .ok js) :
    (list item).read (.text (d + 2)) (.array is) = .ok (.array js) := by
  simp only [read, Origin.enter, bind, Except.bind, h]
  rfl

theorem read_record {name : String} {fields : List (Field × Schema)}
    (h : readFields (.text (d + 1)) fields [] found = .ok ms) :
    (record name fields).read (.text (d + 2)) (.object found) = .ok (.object ms) := by
  simp only [read, Origin.enter, bind, Except.bind, h]
  rfl

end

theorem read_any {d : Nat} {j : Json} (h : j.Plain d) :
    any.read (.text (d + 1)) (ofJson j) = .ok j := by
  induction h with
  | null => rfl
  | bool b => rfl
  | number h => rfl
  | text s => rfl
  | array h ih => exact read_array_any (readItems_ofItems ih)
  | object hsorted h ih =>
    rw [ofJson, read_object_any (readMembers_ofMembers ih), Json.ofMembers_of_sorted hsorted]

/-! ## Records -/

/-- No field is meant by the name of a later one. -/
def Distinct (fields : List (Field × Schema)) : Prop :=
  fields.Pairwise fun f g => f.1.answersTo g.1.name = false

instance (fields : List (Field × Schema)) : Decidable (Distinct fields) :=
  inferInstanceAs (Decidable (fields.Pairwise _))

theorem answersTo_name (f : Field) : f.answersTo f.name = true := by
  rw [Field.answersTo, beq_self_eq_true, Bool.true_or]

theorem Distinct.nodup {fields : List (Field × Schema)} (h : Distinct fields) :
    (fields.map (·.1.name)).Nodup := by
  refine List.pairwise_map.mpr (h.imp fun {f g} hfg heq => ?_)
  rw [← heq, answersTo_name] at hfg
  cases hfg

theorem Distinct.findField {fields : List (Field × Schema)} (h : Distinct fields)
    {f : Field × Schema} (hf : f ∈ fields) : findField fields f.1.name = some f := by
  induction fields with
  | nil => cases hf
  | cons g fields ih =>
    obtain ⟨hg, hfields⟩ := List.pairwise_cons.mp h
    rcases List.mem_cons.mp hf with rfl | hf
    · exact List.find?_cons_of_pos (answersTo_name f.1)
    · rw [Schema.findField, List.find?_cons_of_neg (by rw [hg f hf]; decide)]
      exact ih hfields hf

/-- Members that are all of the fields, each in its place. -/
def InPlace (fields : List (Field × Schema)) (ms : List (String × Json)) : Prop :=
  ms.map Prod.fst = fields.map (·.1.name)

theorem InPlace.exists_eq_cons {f : Field × Schema} {fields : List (Field × Schema)}
    {ms : List (String × Json)} (h : InPlace (f :: fields) ms) :
    ∃ value rest, ms = (f.1.name, value) :: rest ∧ InPlace fields rest := by
  obtain ⟨⟨name, value⟩, rest, rfl, rfl, hrest⟩ := List.map_eq_cons_iff.mp h
  exact ⟨value, rest, rfl, hrest⟩

theorem InPlace.eq_nil {ms : List (String × Json)} (h : InPlace [] ms) : ms = [] :=
  List.map_eq_nil_iff.mp h

theorem fillFields_of_lookup {present ms : List (String × Json)} {fields : List (Field × Schema)}
    (hplace : InPlace fields ms) (h : ∀ m ∈ ms, present.lookup m.1 = some m.2) :
    fillFields present fields = .ok ms := by
  induction fields generalizing ms with
  | nil =>
    rw [hplace.eq_nil]
    rfl
  | cons f fields ih =>
    obtain ⟨value, rest, rfl, hrest⟩ := hplace.exists_eq_cons
    obtain ⟨hm, hms⟩ := List.forall_mem_cons.mp h
    rw [fillFields, hm, ih hrest hms]
    rfl

/-- Members in place are read one after the other; those of `done` came before. -/
theorem readFields_append {done todo : List (Field × Schema)}
    (hdistinct : Distinct (done ++ todo)) {before ms : List (String × Json)}
    (hbefore : InPlace done before) (hplace : InPlace todo ms)
    (h : ∀ q ∈ todo.zip ms, q.1.2.read origin (ofJson q.2.2) = .ok q.2.2) :
    readFields origin (done ++ todo) before.reverse (Scan.ofMembers ms) = .ok (before ++ ms) := by
  -- What was read is kept with the last member in front, so the fields are found by name at the end.
  induction todo generalizing done before ms with
  | nil =>
    obtain rfl := hplace.eq_nil
    rw [List.append_nil] at hdistinct ⊢
    have hnodup : (before.reverse.map Prod.fst).Nodup := by
      rw [List.map_reverse, List.nodup_reverse, hbefore]
      exact hdistinct.nodup
    rw [List.append_nil]
    exact fillFields_of_lookup hbefore fun m hm =>
      lookup_of_mem hnodup (List.mem_reverse.mpr hm)
  | cons f todo ih =>
    obtain ⟨value, rest, rfl, hrest⟩ := hplace.exists_eq_cons
    obtain ⟨hvalue, hvalues⟩ := List.forall_mem_cons.mp h
    have hfield := hdistinct.findField (List.mem_append_right done List.mem_cons_self)
    -- Had the field come before, reading would stop at it as a duplicate.
    have hnew : before.reverse.lookup f.1.name = none := by
      have hnodup := hdistinct.nodup
      rw [List.map_append, List.nodup_append] at hnodup
      refine lookup_of_notMem fun hmem => ?_
      rw [List.map_reverse, List.mem_reverse, hbefore] at hmem
      exact hnodup.2.2 _ hmem _ List.mem_cons_self rfl
    have hread : readFields origin (done ++ f :: todo) before.reverse
          (Scan.ofMembers ((f.1.name, value) :: rest)) =
        readFields origin (done ++ f :: todo) ((f.1.name, value) :: before.reverse)
          (Scan.ofMembers rest) := by
      rw [Scan.ofMembers, readFields]
      simp only [hfield, hnew, Option.isSome_none, Bool.false_eq_true, ↓reduceIte]
      rw [hvalue]
      rfl
    have hbehind : InPlace (done ++ [f]) (before ++ [(f.1.name, value)]) := by
      rw [InPlace, List.map_append, List.map_append, hbefore]
      rfl
    rw [List.append_cons] at hdistinct
    have hih := ih hdistinct hbehind hrest hvalues
    rw [List.reverse_append, ← List.append_cons, ← List.append_cons] at hih
    rw [hread]
    exact hih

theorem readFields_ofMembers {fields : List (Field × Schema)} (hdistinct : Distinct fields)
    {ms : List (String × Json)} (hplace : InPlace fields ms)
    (h : ∀ q ∈ fields.zip ms, q.1.2.read origin (ofJson q.2.2) = .ok q.2.2) :
    readFields origin fields [] (Scan.ofMembers ms) = .ok ms := by
  have hnone : InPlace [] [] := rfl
  have hall : Distinct ([] ++ fields) := hdistinct
  exact readFields_append hall hnone hplace h

/-! ## Every form -/

/-- A value has the form of a schema as reading leaves it, with at most so many levels of arrays and
objects. -/
inductive Fits : Nat → Schema → Json → Prop
  | text {d : Nat} {expected : String} (s : String) : Fits d (text expected) (.text s)
  | optionalText {d : Nat} {expected : String} (o : Option String) :
      Fits d (optionalText expected) (.textOrNull o)
  | flag {d : Nat} (b : Bool) : Fits d flag (.bool b)
  | natural {d : Nat} {expected : String} {n : Nat} (h : n < Nat.pow 2 64) :
      Fits d (natural expected) (.nat n)
  | integer {d : Nat} {i : Int} (hlow : -integerLimit ≤ i) (hhigh : i < integerLimit) :
      Fits d integer (.int i)
  | choice {d : Nat} {variants : List String} {name : String} (h : name ∈ variants) :
      Fits d (choice variants) (.text name)
  | any {d : Nat} {j : Json} (h : j.Plain d) : Fits d any j
  | list {d : Nat} {item : Schema} {js : List Json} (h : ∀ j ∈ js, Fits d item j) :
      Fits (d + 1) (list item) (.array js)
  | record {d : Nat} {name : String} {fields : List (Field × Schema)} {ms : List (String × Json)}
      (hdistinct : Distinct fields) (hplace : InPlace fields ms)
      (h : ∀ q ∈ fields.zip ms, Fits d q.1.2 q.2.2) : Fits (d + 1) (record name fields) (.object ms)

inductive FitsFields (d : Nat) : List (Field × Schema) → List (String × Json) → Prop
  | nil : FitsFields d [] []
  | cons {f : Field × Schema} {fields : List (Field × Schema)} {value : Json}
      {ms : List (String × Json)} (h : f.2.Fits d value) (hrest : FitsFields d fields ms) :
      FitsFields d (f :: fields) ((f.1.name, value) :: ms)

theorem Fits.of_fields {d : Nat} {name : String} {fields : List (Field × Schema)}
    {ms : List (String × Json)} (hdistinct : Distinct fields) (h : FitsFields d fields ms) :
    (Schema.record name fields).Fits (d + 1) (.object ms) := by
  suffices hall : InPlace fields ms ∧ ∀ q ∈ fields.zip ms, q.1.2.Fits d q.2.2 from
    .record hdistinct hall.1 hall.2
  clear hdistinct
  induction h with
  | nil => exact ⟨rfl, nofun⟩
  | @cons f fields value ms hvalue _ ih =>
    obtain ⟨hplace, hrest⟩ := ih
    exact ⟨congrArg (f.1.name :: ·) hplace, List.forall_mem_cons.mpr ⟨hvalue, hrest⟩⟩

theorem whole_ofInt {i : Int} (hlow : -integerLimit ≤ i) (hhigh : i < integerLimit) :
    (Number.ofInt i).Whole := by
  have hlimit : integerLimit = 9223372036854775808 := rfl
  unfold Number.ofInt
  split_ifs with hneg
  · exact .negative (by omega) (show i.natAbs ≤ 9223372036854775808 by omega)
  · exact .natural (show i.toNat < 18446744073709551616 by omega)

theorem InPlace.exists_mem_zip {fields : List (Field × Schema)} {ms : List (String × Json)}
    (h : InPlace fields ms) {m : String × Json} (hm : m ∈ ms) : ∃ f, (f, m) ∈ fields.zip ms := by
  induction fields generalizing ms with
  | nil =>
    rw [h.eq_nil] at hm
    cases hm
  | cons f fields ih =>
    obtain ⟨value, rest, rfl, hrest⟩ := h.exists_eq_cons
    rcases List.mem_cons.mp hm with rfl | hm
    · exact ⟨f, List.mem_cons_self⟩
    · obtain ⟨g, hg⟩ := ih hrest hm
      exact ⟨g, List.mem_cons_of_mem _ hg⟩

theorem Fits.exact {d : Nat} {schema : Schema} {j : Json} (h : schema.Fits d j) : j.Exact := by
  induction h with
  | text s => exact .text s
  | optionalText o =>
    cases o with
    | none => exact .null
    | some s => exact .text s
  | flag b => exact .bool b
  | natural h => exact .number (.natural h)
  | integer hlow hhigh => exact .number (whole_ofInt hlow hhigh)
  | choice h => exact .text _
  | any h => exact h.exact
  | list _ ih => exact .array ih
  | record _ hplace _ ih =>
    refine .object fun m hm => ?_
    obtain ⟨f, hf⟩ := hplace.exists_mem_zip hm
    exact ih (f, m) hf

theorem read_integer {i : Int} (hhigh : i < integerLimit) :
    integer.read origin (ofJson (.int i)) = .ok (.int i) := by
  unfold Json.int Number.ofInt
  split_ifs with hneg
  · rfl
  · have hlt : i.toNat < integerLimit := by omega
    change (if i.toNat < integerLimit then _ else _) = _
    rw [if_pos hlt]
    rfl

theorem Fits.read {d : Nat} {schema : Schema} {j : Json} (h : schema.Fits d j) :
    schema.read (.text (d + 1)) (ofJson j) = .ok j := by
  induction h with
  | text s => rfl
  | optionalText o => cases o <;> rfl
  | flag b => rfl
  | natural h => rfl
  | integer hlow hhigh => exact read_integer hhigh
  | @choice d variants name h =>
    change (if variants.contains name then _ else _) = _
    rw [if_pos (List.contains_iff_mem.mpr h)]
  | any h => exact read_any h
  | list _ ih => exact read_list (readItems_ofItems ih)
  | record hdistinct hplace _ ih =>
    exact read_record (readFields_ofMembers hdistinct hplace ih)

/-- What is printed for a value in the form of its schema is read as that value. -/
theorem readText_print {schema : Schema} {j : Json} (h : schema.Fits 127 j) :
    schema.readText j.print = .ok j := by
  simp only [readText, Scan.document_print h.exact, depthLimit, bind, Except.bind, h.read]
  rfl

end Schema

namespace Wire

variable {α : Type} [Wire α]

theorem ofBytes_of_decode? {body : Bytes} {s : String} (h : Utf8.decode? body = some s) :
    (ofBytes body : Except DecodeError α) = ofText s := by
  rw [ofBytes, Scan.charsOf_of_decode? h, String.ofList_toList]

theorem ofText_toText_of_fits {x : α} (h : (schema α).Fits 127 (encode x))
    (hdecode : decode (encode x) = x) : ofText (toText x) = .ok x := by
  rw [ofText, toText, Schema.readText_print h]
  exact congrArg Except.ok hdecode

end Wire

end Gatehouse
