import CrossReference.Json.Record
import CrossReference.Proofs.Json.Written

set_option autoImplicit false

/-!
# Written records are read back

The fields of a record are found in the object that it is written as. What makes the texts of a type
faithful is what makes its values so: `RoundTrips.of_values`.
-/
namespace CrossReference.Json

def IsPlain (name : String) : Prop := escape name.toList = name.toList

instance (name : String) : Decidable (IsPlain name) :=
  inferInstanceAs (Decidable (escape name.toList = name.toList))

structure FieldNames (names : List String) : Prop where
  nodup : names.Nodup
  plain : ∀ name ∈ names, IsPlain name

instance (names : List String) : Decidable (FieldNames names) :=
  decidable_of_iff (names.Nodup ∧ ∀ name ∈ names, IsPlain name)
    ⟨fun h => ⟨h.1, h.2⟩, fun h => ⟨h.nodup, h.plain⟩⟩

variable {names : List String} {members : List (String × Json)}

theorem mapM_map {α β : Type} {write : α → β} {read : β → Option α} {list : List α}
    (back : ∀ a ∈ list, read (write a) = some a) : (list.map write).mapM read = some list := by
  induction list with
  | nil => rfl
  | cons a rest ih =>
    obtain ⟨first, later⟩ := List.forall_mem_cons.mp back
    rw [List.map_cons, List.mapM_cons, first, ih later]
    rfl

theorem keys?_record (plain : ∀ m ∈ members, IsPlain m.1) :
    keys? (members.map fun m => (m.1.toList, m.2)) = some members := by
  apply mapM_map
  intro m hm
  have name := unescape?_escape m.1.toList
  rw [show escape m.1.toList = m.1.toList from plain m hm] at name
  simp [name]

theorem find?_of_nodup (nodup : (members.map Prod.fst).Nodup) {m : String × Json}
    (h : m ∈ members) : members.find? (fun other => other.1 = m.1) = some m := by
  induction members with
  | nil => cases h
  | cons first rest ih =>
    rw [List.map_cons, List.nodup_cons] at nodup
    rcases List.mem_cons.mp h with rfl | h
    · simp
    · have other : first.1 ≠ m.1 := fun same => nodup.1 (same ▸ List.mem_map_of_mem h)
      simpa [other] using ih nodup.2 h

theorem length_filter_of_nodup (nodup : (members.map Prod.fst).Nodup) (name : String) :
    (members.filter fun m => m.1 = name).length ≤ 1 := by
  have once := List.nodup_iff_count.mp nodup name
  rw [List.count, List.countP_map, List.countP_eq_length_filter] at once
  exact once

theorem fields?_record (good : FieldNames names) (fits : members.map Prod.fst = names) :
    (record members).fields? names = some (members.map fun m => some m.2) := by
  subst fits
  have once : (members.map Prod.fst).all fun name =>
      (members.filter fun m => m.1 = name).length ≤ 1 := by
    simp [length_filter_of_nodup good.nodup]
  rw [record, fields?, keys?_record (List.forall_mem_map.mp good.plain)]
  simp only [Option.bind_eq_bind, Option.bind_some]
  rw [if_pos once, List.map_map]
  congr 1
  apply List.map_congr_left
  intro m hm
  simp only [Function.comp_apply, find?_of_nodup good.nodup hm, Option.map_some]

theorem textual_text (s : String) : (text s).Textual := .string ⟨_, rfl⟩

theorem textual_record (good : FieldNames names) (fits : members.map Prod.fst = names)
    (each : ∀ m ∈ members, m.2.Textual) : (record members).Textual := by
  subst fits
  refine .object ?_ ?_
  · simp only [List.forall_mem_map]
    exact fun m hm => ⟨_, good.plain m.1 (List.mem_map_of_mem hm)⟩
  · simpa only [List.forall_mem_map] using each

def decode? {α : Type} (ofJson? : Json → Option α) (text : String) : Option α :=
  (parse? text).bind ofJson?

/-- The texts of the good values of a type are read back, those of other values are refused, and
    what was read from any text is read again from its own texts. -/
structure RoundTrips {α : Type} (toJson : α → Json) (ofJson? : Json → Option α)
    (Good : α → Prop) : Prop where
  read : ∀ a text, Good a → (toJson a).Written text → decode? ofJson? text = some a
  refused : ∀ a text, ¬Good a → (toJson a).Written text → decode? ofJson? text = none
  stable : ∀ text a again, decode? ofJson? text = some a → (toJson a).Written again →
    decode? ofJson? again = some a

section
variable {α : Type} {toJson : α → Json} {ofJson? : Json → Option α} {Good : α → Prop}

theorem decode?_written (textual : ∀ a, (toJson a).Textual) {a : α} {text : String}
    (h : (toJson a).Written text) : decode? ofJson? text = ofJson? (toJson a) := by
  rw [decode?, parse?_of_written (textual a) h, Option.bind_some]

theorem RoundTrips.of_values (textual : ∀ a, (toJson a).Textual)
    (back : ∀ a b, ofJson? (toJson a) = some b ↔ Good a ∧ a = b)
    (good : ∀ v a, ofJson? v = some a → Good a) : RoundTrips toJson ofJson? Good := by
  constructor
  case read =>
    intro a text ha written
    rw [decode?_written textual written]
    exact (back a a).mpr ⟨ha, rfl⟩
  case refused =>
    intro a text ha written
    rw [decode?_written textual written, Option.eq_none_iff_forall_not_mem]
    exact fun b read => ha ((back a b).mp read).1
  case stable =>
    intro text a again read written
    obtain ⟨v, _, read⟩ := Option.bind_eq_some_iff.mp read
    rw [decode?_written textual written]
    exact (back a a).mpr ⟨good v a read, rfl⟩

end
end CrossReference.Json
