import Mathlib.Data.List.Forall2
import SearchStore.Reading
import SearchStore.Proofs.Value.Writes
namespace SearchStore

namespace Verdict
variable {α β : Type} {v : Verdict α} {f : Verdict (α → β)} {g : α → β} {a : α} {b : β}

def isValid : Verdict α → Bool
  | .valid _ => true
  | _ => false

theorem isValid_iff : v.isValid = true ↔ ∃ a, v = .valid a := by
  cases v <;> simp [isValid]

@[simp] theorem isValid_seq (f : Verdict (α → β)) (v : Verdict α) : (f <*> v).isValid = (f.isValid && v.isValid) := by
  change (apply f v).isValid = _
  cases f <;> cases v <;> rfl

@[simp] theorem isValid_map (g : α → β) (v : Verdict α) : (g <$> v).isValid = v.isValid := by
  change (apply (.valid g) v).isValid = _
  cases v <;> rfl

@[simp] theorem isValid_inside (place : Place) (v : Verdict α) : (v.inside place).isValid = v.isValid := by
  cases v <;> rfl

-- The reading is valid, and something holds of what was read.
def Gives (v : Verdict α) (holds : α → Prop) : Prop := ∃ a, v = .valid a ∧ holds a

theorem gives_eq : v.Gives (· = a) ↔ v = .valid a := by
  constructor
  · rintro ⟨_, valid, rfl⟩
    exact valid
  · exact fun valid => ⟨a, valid, rfl⟩

theorem gives_seq {holds : β → Prop} : (f <*> v).Gives holds ↔ f.Gives fun g => v.Gives fun a => holds (g a) := by
  change (apply f v).Gives holds ↔ _
  cases f <;> cases v <;> simp [apply, map, Gives]

theorem gives_map {holds : β → Prop} : (g <$> v).Gives holds ↔ v.Gives fun a => holds (g a) := by
  change (apply (.valid g) v).Gives holds ↔ _
  cases v <;> simp [apply, map, Gives]

theorem inside_valid_iff (place : Place) : v.inside place = .valid a ↔ v = .valid a := by
  cases v <;> simp [inside]

theorem all_valid_iff (verdicts : List (Verdict α)) (values : List α) :
    all verdicts = .valid values ↔ verdicts = values.map .valid := by
  induction verdicts generalizing values with
  | nil => cases values <;> simp [all]
  | cons first rest ih =>
    change (first.map List.cons).apply (all rest) = _ ↔ _
    have both : (first.map List.cons).apply (all rest) = .valid values ↔
        ∃ a as, first = .valid a ∧ all rest = .valid as ∧ a :: as = values := by
      cases first <;> cases all rest <;> simp [apply, map]
    rw [both]
    constructor
    · rintro ⟨a, as, rfl, others, rfl⟩
      rw [(ih as).mp others]
      rfl
    · cases values with
      | nil => simp
      | cons a as =>
        intro same
        obtain ⟨rfl, others⟩ := List.cons.inj same
        exact ⟨a, as, rfl, (ih as).mpr others, rfl⟩

theorem isValid_all (verdicts : List (Verdict α)) : (all verdicts).isValid = verdicts.all isValid := by
  induction verdicts with
  | nil => rfl
  | cons first rest ih =>
    rw [List.all_cons, ← ih]
    change ((first.map List.cons).apply (all rest)).isValid = _
    cases first <;> cases all rest <;> rfl

theorem result_ok_iff : v.result = .ok a ↔ v = .valid a := by
  cases v <;> simp [result]

end Verdict

namespace Reading
variable {α : Type} {read : Value → Verdict α} {entries : Entries} {name : String} {fallback a : α}

def accepts (entries : Entries) (name : String) (read : Value → Verdict α) : Bool :=
  (Entries.get? entries name).all fun v => (read v).isValid

@[simp] theorem isValid_field (entries : Entries) (name : String) (read : Value → Verdict α) (fallback : α) :
    (field entries name read fallback).isValid = accepts entries name read := by
  unfold field accepts
  cases Entries.get? entries name with
  | none => rfl
  | some v => exact Verdict.isValid_inside _ _

theorem field_congr {others : Entries} (same : Entries.get? others name = Entries.get? entries name) :
    field others name read fallback = field entries name read fallback := by
  unfold field
  rw [same]

theorem field_given {v : Value} (given : Entries.get? entries name = some v) :
    field entries name read fallback = .valid a ↔ read v = .valid a := by
  unfold field
  rw [given]
  exact Verdict.inside_valid_iff _

theorem field_missing (missing : Entries.get? entries name = none) :
    field entries name read fallback = .valid a ↔ fallback = a := by
  unfold field
  simp [missing]

theorem accepts_given {v : Value} (given : Entries.get? entries name = some v) :
    accepts entries name read = (read v).isValid := by
  unfold accepts
  rw [given]
  rfl

theorem accepts_set_self (entries : Entries) (name : String) (v : Value) :
    accepts (Entries.set entries name v) name read = (read v).isValid := accepts_given Entries.get?_set_self

theorem accepts_set_of_ne {other : String} (apart : name ≠ other) (entries : Entries) (v : Value) :
    accepts (Entries.set entries name v) other read = accepts entries other read := by
  unfold accepts
  rw [Entries.get?_set_of_ne apart]

theorem accepts_setDefault {v : Value} (readable : (read v).isValid = true) (entries : Entries) (name : String) :
    accepts (Entries.setDefault entries name v) name read = accepts entries name read := by
  unfold Entries.setDefault Entries.has
  cases missing : Entries.get? entries name with
  | some given => rfl
  | none =>
    refine (accepts_set_self entries name v).trans ?_
    rw [readable, accepts, missing]
    rfl

theorem accepts_setDefault_of_ne {other : String} (apart : name ≠ other) (entries : Entries) (v : Value) :
    accepts (Entries.setDefault entries name v) other read = accepts entries other read := by
  unfold Entries.setDefault
  split
  · rfl
  · exact accepts_set_of_ne apart entries v

theorem mappingOf_valid_iff {v : Value} {fields : List (String × α)} : mappingOf read v = .valid fields ↔
    ∃ entries, v = .map entries ∧ List.Forall₂ (fun entry field => entry.1 = .str field.1 ∧ read entry.2 = .valid field.2)
      entries fields := by
  have entry_valid (entry : Value × Value) (field : String × α) :
      (((((text entry.1).inside (.field "[key]")).inside (keyPlace entry.1)).map Prod.mk).apply
        ((read entry.2).inside (keyPlace entry.1))) = .valid field ↔
          entry.1 = .str field.1 ∧ read entry.2 = .valid field.2 := by
    obtain ⟨key, v⟩ := entry
    obtain ⟨name, a⟩ := field
    cases key with
    | str text => cases read v <;> simp [Reading.text, Verdict.inside, Verdict.map, Verdict.apply]
    | _ => cases read v <;> simp [Reading.text, Verdict.broken, Verdict.inside, Verdict.map, Verdict.apply]
  cases v with
  | map entries =>
    have all_valid : mappingOf read (.map entries) = .valid fields ↔ _ := Verdict.all_valid_iff _ _
    rw [all_valid, ← List.forall₂_eq_eq_eq, List.forall₂_map_left_iff, List.forall₂_map_right_iff]
    simp only [entry_valid]
    simp
  | _ => simp [mappingOf, Verdict.broken]

theorem isValid_mappingOf (read : Value → Verdict α) (entries : Entries) :
    (mappingOf read (.map entries)).isValid = true ↔
      ∀ entry ∈ entries, entry.1.isText = true ∧ (read entry.2).isValid = true := by
  have entry_valid (entry : Value × Value) :
      (((((text entry.1).inside (.field "[key]")).inside (keyPlace entry.1)).map (Prod.mk (β := α))).apply
        ((read entry.2).inside (keyPlace entry.1))).isValid = (entry.1.isText && (read entry.2).isValid) := by
    obtain ⟨key, v⟩ := entry
    cases key with
    | str text => cases read v <;> rfl
    | _ => cases read v <;> rfl
  have whole : (mappingOf read (.map entries)).isValid = _ := Verdict.isValid_all _
  rw [whole, List.all_map, List.all_eq_true]
  simp only [Function.comp_apply, entry_valid, Bool.and_eq_true]

theorem mapping_named (named : entries.hasTextKeys = true) : mapping (.map entries) = .valid entries := by
  obtain ⟨fields, rfl⟩ := Entries.exists_fields named
  have read : mappingOf .valid (.map (Entries.ofFields fields)) = .valid fields := by
    apply mappingOf_valid_iff.mpr
    refine ⟨_, rfl, ?_⟩
    unfold Entries.ofFields
    rw [List.forall₂_map_left_iff]
    apply List.forall₂_same.mpr
    intro field _
    exact ⟨rfl, rfl⟩
  unfold mapping
  rw [read]
  rfl

theorem isValid_mapping (entries : Entries) : (mapping (.map entries)).isValid = entries.hasTextKeys := by
  have each := isValid_mappingOf .valid entries
  unfold mapping Entries.hasTextKeys
  rw [Bool.eq_iff_iff, List.all_eq_true]
  cases read : (mappingOf .valid (.map entries) : Verdict (List (String × Value))) <;>
    simpa [read, Verdict.map, Verdict.isValid] using each

theorem sequenceOf_valid_iff {items : List Value} {values : List α} :
    sequenceOf read items = .valid values ↔ items.map read = values.map .valid := by
  have anywhere (start : Nat) :
      (items.zipIdx start).map (fun item => (read item.1).inside (.position item.2)) = values.map .valid ↔
        items.map read = values.map .valid := by
    induction items generalizing start values with
    | nil => rfl
    | cons item rest ih =>
      cases values with
      | nil => simp
      | cons a more =>
        rw [List.zipIdx_cons, List.map_cons, List.map_cons, List.map_cons, List.cons_eq_cons, List.cons_eq_cons, ih,
          Verdict.inside_valid_iff]
  exact (Verdict.all_valid_iff _ _).trans (anywhere 0)

theorem isValid_sequenceOf (read : Value → Verdict α) (items : List Value) :
    (sequenceOf read items).isValid = items.all fun item => (read item).isValid := by
  unfold sequenceOf
  rw [Verdict.isValid_all, List.all_map]
  conv_rhs => rw [← List.zipIdx_map_fst 0 items, List.all_map]
  congr 1
  funext item
  exact Verdict.isValid_inside _ _

end Reading
end SearchStore
