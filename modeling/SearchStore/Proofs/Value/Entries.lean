import SearchStore.Value.Entries
namespace SearchStore

theorem Value.sameKey_str {key : Value} {name : String} : key.sameKey (.str name) = true ↔ key = .str name := by
  cases key with
  | str text => simp [Value.sameKey]
  | _ => simp [Value.sameKey, Value.number?]

theorem Value.sameKey_apart {key : Value} {name other : String} (apart : name ≠ other)
    (same : key.sameKey (.str name) = true) : key.sameKey (.str other) = false := by
  rw [sameKey_str.mp same]
  simpa [sameKey] using apart

namespace Entries

-- Mappings that are read from anywhere have no two entries of the same key.
def Distinct (entries : Entries) : Prop := entries.Pairwise fun a b => a.1.sameKey b.1 = false

instance (entries : Entries) : Decidable entries.Distinct :=
  inferInstanceAs (Decidable (List.Pairwise _ entries))

variable {entries : Entries} {name other : String} {v w : Value}

theorem mem_of_get? (found : get? entries name = some v) : (.str name, v) ∈ entries := by
  unfold get? at found
  induction entries with
  | nil => cases found
  | cons entry rest ih =>
    obtain ⟨key, value⟩ := entry
    unfold value? at found
    split at found
    · rename_i same
      cases found
      rw [Value.sameKey_str.mp same]
      exact List.mem_cons_self
    · exact List.mem_cons_of_mem _ (ih found)

theorem mem_of_has (present : has entries name = true) : (.str name, get entries name) ∈ entries := by
  obtain ⟨v, found⟩ := Option.isSome_iff_exists.mp present
  rw [get, found]
  exact mem_of_get? found

theorem has_iff : has entries name = true ↔ ∃ v, (.str name, v) ∈ entries := by
  constructor
  · intro present
    exact ⟨_, mem_of_has present⟩
  · rintro ⟨v, member⟩
    unfold has get?
    induction entries with
    | nil => cases member
    | cons entry rest ih =>
      obtain ⟨key, value⟩ := entry
      unfold value?
      split
      · rfl
      · rename_i apart
        rcases List.mem_cons.mp member with equal | later
        · cases equal
          exact absurd (Value.sameKey_str.mpr rfl) apart
        · exact ih later

theorem unnamed {entry : Value × Value} (missing : get? entries name = none) (member : entry ∈ entries) :
    entry.1 ≠ .str name := by
  intro named
  have present : has entries name = true := has_iff.mpr ⟨entry.2, named ▸ member⟩
  unfold has at present
  rw [missing] at present
  cases present

theorem Distinct.unique (distinct : entries.Distinct) (first : (.str name, v) ∈ entries)
    (second : (.str name, w) ∈ entries) : v = w := by
  have same : (Value.str name).sameKey (.str name) = true := Value.sameKey_str.mpr rfl
  induction distinct with
  | nil => cases first
  | cons apart _ ih =>
    rcases List.mem_cons.mp first with rfl | later
    · rcases List.mem_cons.mp second with equal | later
      · cases equal
        rfl
      · exact Bool.noConfusion (same.symm.trans (apart _ later))
    · rcases List.mem_cons.mp second with rfl | later'
      · exact Bool.noConfusion (same.symm.trans (apart _ later))
      · exact ih later later'

theorem get?_cons (key value : Value) (rest : Entries) :
    get? ((key, value) :: rest) name = if key.sameKey (.str name) then some value else get? rest name := rfl

theorem set_cons (key value : Value) (rest : Entries) :
    set ((key, value) :: rest) name v =
      if key.sameKey (.str name) then (key, v) :: rest else (key, value) :: set rest name v := rfl

theorem without_cons (key value : Value) (rest : Entries) :
    without ((key, value) :: rest) name =
      if key.sameKey (.str name) then rest else (key, value) :: without rest name := rfl

theorem get?_set_of_ne (apart : name ≠ other) : get? (set entries name v) other = get? entries other := by
  induction entries with
  | nil => simp [set, put, get?, value?, Value.sameKey, apart]
  | cons entry rest ih =>
    obtain ⟨key, old⟩ := entry
    rw [set_cons]
    split
    · rename_i here
      simp [get?_cons, Value.sameKey_apart apart here]
    · simp [get?_cons, ih]

theorem get?_without_of_ne (apart : name ≠ other) :
    get? (without entries name) other = get? entries other := by
  induction entries with
  | nil => rfl
  | cons entry rest ih =>
    obtain ⟨key, old⟩ := entry
    rw [without_cons]
    split
    · rename_i here
      simp [get?_cons, Value.sameKey_apart apart here]
    · simp [get?_cons, ih]

-- Writes under different names do not touch each other; only the order in which two new entries
-- were added shows.

theorem without_set_of_ne (apart : name ≠ other) :
    without (set entries name v) other = set (without entries other) name v := by
  induction entries with
  | nil => simp [set, put, without, Value.sameKey, apart]
  | cons entry rest ih =>
    obtain ⟨key, old⟩ := entry
    rw [set_cons, without_cons]
    by_cases here : key.sameKey (.str name)
    · simp [here, without_cons, set_cons, Value.sameKey_apart apart here]
    · by_cases there : key.sameKey (.str other)
      · simp [here, there, without_cons]
      · simp [here, there, without_cons, set_cons, ih]

theorem set_set_perm (apart : name ≠ other) :
    (set (set entries name v) other w).Perm (set (set entries other w) name v) := by
  induction entries with
  | nil => simpa [set, put, Value.sameKey, apart, apart.symm] using List.Perm.swap _ _ _
  | cons entry rest ih =>
    obtain ⟨key, old⟩ := entry
    rw [set_cons, set_cons]
    by_cases here : key.sameKey (.str name)
    · simp [here, set_cons, Value.sameKey_apart apart here]
    · by_cases there : key.sameKey (.str other)
      · simp [here, there, set_cons]
      · simpa [here, there, set_cons] using ih

theorem get_set_of_ne (apart : name ≠ other) : get (set entries name v) other = get entries other := by
  rw [get, get, get?_set_of_ne apart]

theorem set_set_self : set (set entries name v) name w = set entries name w := by
  induction entries with
  | nil => simp [set, put, Value.sameKey]
  | cons entry rest ih =>
    obtain ⟨key, old⟩ := entry
    rw [set_cons, set_cons]
    by_cases here : key.sameKey (.str name)
    · simp [here, set_cons]
    · simp [here, set_cons, ih]

-- An entry that is there keeps its place, so the order of the writes does not show.
theorem set_set_of_has (apart : name ≠ other) (present : has entries name = true) :
    set (set entries name v) other w = set (set entries other w) name v := by
  induction entries with
  | nil => cases present
  | cons entry rest ih =>
    obtain ⟨key, old⟩ := entry
    rw [set_cons, set_cons]
    by_cases here : key.sameKey (.str name)
    · simp [here, set_cons, Value.sameKey_apart apart here]
    · have later : has rest name = true := by simpa [has, get?_cons, here] using present
      by_cases there : key.sameKey (.str other)
      · simp [here, there, set_cons]
      · simp [here, there, set_cons, ih later]

theorem hasTextKeys_set (named : hasTextKeys entries = true) : hasTextKeys (set entries name v) = true := by
  induction entries with
  | nil => rfl
  | cons entry rest ih =>
    obtain ⟨key, old⟩ := entry
    obtain ⟨first, others⟩ : key.isText = true ∧ hasTextKeys rest = true := by
      simpa [hasTextKeys] using named
    rw [set_cons]
    split
    · simpa [hasTextKeys, first] using others
    · simpa [hasTextKeys, first] using ih others

theorem hasTextKeys_without (named : hasTextKeys entries = true) : hasTextKeys (without entries name) = true := by
  induction entries with
  | nil => rfl
  | cons entry rest ih =>
    obtain ⟨key, old⟩ := entry
    obtain ⟨first, others⟩ : key.isText = true ∧ hasTextKeys rest = true := by
      simpa [hasTextKeys] using named
    rw [without_cons]
    split
    · exact others
    · simpa [hasTextKeys, first] using ih others

theorem exists_fields (named : hasTextKeys entries = true) : ∃ fields, entries = ofFields fields := by
  induction entries with
  | nil => exact ⟨[], rfl⟩
  | cons entry rest ih =>
    obtain ⟨key, v⟩ := entry
    obtain ⟨text, others⟩ : key.isText = true ∧ hasTextKeys rest = true := by
      simpa [hasTextKeys] using named
    obtain ⟨fields, rfl⟩ := ih others
    cases key with
    | str name => exact ⟨(name, v) :: fields, rfl⟩
    | _ => cases text

end Entries
end SearchStore
