import SearchStore.Proofs.Value.Overlay
namespace SearchStore.Entries
variable {entries writes : Entries} {name : String} {key v : Value}

theorem Distinct.reverse (distinct : entries.Distinct) : Distinct entries.reverse := by
  refine List.pairwise_reverse.mpr (List.Pairwise.imp ?_ distinct)
  intro a b apart
  rw [Value.sameKey_comm, apart]

theorem Distinct.value? (distinct : entries.Distinct) (equal : key.sameKey key = true) (member : (key, v) ∈ entries) :
    value? entries key = some v := by
  induction distinct with
  | nil => cases member
  | cons apart _ ih =>
    rcases List.mem_cons.mp member with rfl | later
    · rw [value?_cons, if_pos equal]
    · rw [value?_cons, apart _ later, ← ih later]
      rfl

theorem Distinct.merge (distinct : entries.Distinct) : (merge entries writes).Distinct := by
  induction writes generalizing entries with
  | nil => exact distinct
  | cons write rest ih => exact ih distinct.put

theorem merge_append (front back : Entries) : merge entries (front ++ back) = merge (merge entries front) back :=
  List.foldl_append

theorem value?_append (front back : Entries) :
    value? (front ++ back) key = (value? front key).or (value? back key) := by
  induction front with
  | nil => rfl
  | cons entry rest ih =>
    obtain ⟨k, old⟩ := entry
    rw [List.cons_append, value?_cons, value?_cons, ih]
    split <;> rfl

def last? (writes : Entries) (key : Value) : Option Value := value? writes.reverse key

theorem value?_merge : value? (merge entries writes) key = (last? writes key).or (value? entries key) := by
  induction writes generalizing entries with
  | nil => rfl
  | cons write rest ih =>
    obtain ⟨k, new⟩ := write
    rw [merge_cons, ih, value?_put, last?, last?, List.reverse_cons, value?_append, value?_cons, Option.or_assoc]
    split <;> rfl

theorem value?_all (agreed : ∀ entry ∈ entries, entry.1.sameKey key = true → entry.2 = v)
    (present : ∃ entry ∈ entries, entry.1.sameKey key = true) : value? entries key = some v := by
  induction entries with
  | nil =>
    obtain ⟨entry, member, -⟩ := present
    cases member
  | cons first rest ih =>
    obtain ⟨k, old⟩ := first
    obtain ⟨here, others⟩ := List.forall_mem_cons.mp agreed
    rw [value?_cons]
    split
    · rename_i same
      exact congrArg some (here same)
    · rename_i apart
      obtain ⟨entry, member, same⟩ := present
      cases List.mem_cons.mp member with
      | inl equal =>
        cases equal
        exact absurd same apart
      | inr later => exact ih others ⟨entry, later, same⟩

theorem mem_put_of_unequal (unequal : key.sameKey key = false) (member : (key, v) ∈ entries) (other new : Value) :
    (key, v) ∈ put entries other new := by
  induction entries with
  | nil => cases member
  | cons entry rest ih =>
    obtain ⟨k, old⟩ := entry
    rw [put_cons]
    split
    · rename_i same
      rcases List.mem_cons.mp member with equal | later
      · cases equal
        rw [Value.sameKey_self same] at unequal
        cases unequal
      · exact List.mem_cons_of_mem _ later
    · rcases List.mem_cons.mp member with equal | later
      · exact equal ▸ List.mem_cons_self
      · exact List.mem_cons_of_mem _ (ih later)

theorem mem_put_self (unequal : key.sameKey key = false) (entries : Entries) : (key, v) ∈ put entries key v := by
  rw [put_absent fun entry _ => Value.sameKey_unequal unequal entry.1]
  exact List.mem_append_right _ List.mem_cons_self

theorem mem_merge_of_unequal (unequal : key.sameKey key = false)
    (member : (key, v) ∈ entries ∨ (key, v) ∈ writes) : (key, v) ∈ merge entries writes := by
  induction writes generalizing entries with
  | nil => exact member.resolve_right List.not_mem_nil
  | cons write rest ih =>
    rw [merge_cons]
    refine ih ?_
    rcases member with before | written
    · exact .inl (mem_put_of_unequal unequal before _ _)
    · rcases List.mem_cons.mp written with rfl | later
      · exact .inl (mem_put_self unequal entries)
      · exact .inr later

theorem merge_distinct (distinct : (entries ++ writes).Distinct) : merge entries writes = entries ++ writes := by
  induction writes generalizing entries with
  | nil => exact (List.append_nil _).symm
  | cons write rest ih =>
    have absent : ∀ entry ∈ entries, entry.1.sameKey write.1 = false := fun entry member =>
      (List.pairwise_append.mp distinct).2.2 entry member _ List.mem_cons_self
    have moved : entries ++ write :: rest = entries ++ [write] ++ rest := by simp
    rw [merge_cons, put_absent absent]
    rw [moved] at distinct ⊢
    exact ih distinct

theorem without_absent (absent : get? entries name = none) : without entries name = entries := by
  induction entries with
  | nil => rfl
  | cons entry rest ih =>
    obtain ⟨k, old⟩ := entry
    rw [get?_cons] at absent
    rw [without_cons]
    split at absent
    · cases absent
    · rename_i apart
      rw [if_neg apart, ih absent]

theorem without_sublist (entries : Entries) (name : String) : (without entries name).Sublist entries := by
  induction entries with
  | nil => exact .slnil
  | cons entry rest ih =>
    obtain ⟨k, old⟩ := entry
    rw [without_cons]
    split
    · exact List.sublist_cons_self _ _
    · exact ih.cons_cons _

theorem get?_without_self (distinct : entries.Distinct) : get? (without entries name) name = none := by
  induction distinct with
  | nil => rfl
  | @cons entry rest apart _ ih =>
    obtain ⟨k, old⟩ := entry
    rw [without_cons]
    split
    · rename_i here
      exact value?_behind apart here
    · rename_i elsewhere
      rw [get?_cons, if_neg elsewhere, ih]

theorem get?_without (distinct : entries.Distinct) (name other : String) :
    get? (without entries name) other = if name = other then none else get? entries other := by
  by_cases same : name = other
  · rw [if_pos same, ← same, get?_without_self distinct]
  · rw [if_neg same, get?_without_of_ne same]

-- A first entry gives way to a later write of its name and keeps its place.
theorem merge_first {done : Entries} (distinct : Distinct (done ++ writes)) (fresh : get? done name = none)
    (old : Value) : merge ((.str name, old) :: done) writes =
      (.str name, (get? writes name).getD old) :: (done ++ without writes name) := by
  induction writes generalizing done old with
  | nil => exact congrArg _ (List.append_nil done).symm
  | cons write rest ih =>
    obtain ⟨k, new⟩ := write
    obtain ⟨-, others, apart⟩ := List.pairwise_append.mp distinct
    rw [merge_cons, put_cons, Value.sameKey_comm, get?_cons, without_cons]
    split
    · rename_i here
      have absent : get? rest name = none := value?_behind (List.pairwise_cons.mp others).1 here
      have remaining : Distinct (done ++ rest) :=
        distinct.sublist (List.Sublist.append_left (List.sublist_cons_self _ _) done)
      rw [ih remaining fresh, absent, without_absent absent]
      rfl
    · rename_i elsewhere
      have placed : put done k new = done ++ [(k, new)] :=
        put_absent fun entry member => apart entry member _ List.mem_cons_self
      have moved : done ++ (k, new) :: rest = done ++ [(k, new)] ++ rest := by simp
      have unnamed : get? (done ++ [(k, new)]) name = none := by
        rw [get?, value?_append, ← get?, fresh, value?_cons, if_neg elsewhere]
        rfl
      rw [moved] at distinct
      rw [placed, ih distinct unnamed, List.append_assoc]
      rfl

theorem perm_without (found : get? entries name = some v) : entries.Perm ((.str name, v) :: without entries name) := by
  induction entries with
  | nil => cases found
  | cons entry rest ih =>
    obtain ⟨k, old⟩ := entry
    rw [get?_cons] at found
    rw [without_cons]
    split at found
    · rename_i here
      cases found
      rw [if_pos here, Value.sameKey_str.mp here]
    · rename_i apart
      rw [if_neg apart]
      exact ((ih found).cons _).trans (List.Perm.swap _ _ _)

end SearchStore.Entries
