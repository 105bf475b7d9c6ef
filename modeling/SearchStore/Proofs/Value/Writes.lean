import SearchStore.Value.Access
import SearchStore.Proofs.Client.Alike
import SearchStore.Proofs.Value.Entries
import SearchStore.Proofs.Value.Keys
namespace SearchStore

namespace Entries
variable {entries others more : Entries} {name other : String} {key v w : Value}

theorem put_cons (old : Value) (rest : Entries) (k : Value) :
    put ((k, old) :: rest) key v = if k.sameKey key then (k, v) :: rest else (k, old) :: put rest key v := rfl

theorem merge_cons (entry : Value × Value) (rest : Entries) :
    merge entries (entry :: rest) = merge (put entries entry.1 entry.2) rest := rfl

theorem value?_cons (old : Value) (rest : Entries) (k : Value) :
    value? ((k, old) :: rest) key = if k.sameKey key then some old else value? rest key := rfl

theorem value?_absent (absent : ∀ entry ∈ entries, entry.1.sameKey key = false) : value? entries key = none := by
  induction entries with
  | nil => rfl
  | cons first rest ih =>
    obtain ⟨apart, others⟩ := List.forall_mem_cons.mp absent
    rw [value?, apart]
    exact ih others

theorem value?_behind {rest : Entries} {k : Value} (apart : ∀ entry ∈ rest, k.sameKey entry.1 = false)
    (same : k.sameKey key = true) : value? rest key = none := by
  refine value?_absent fun entry member => ?_
  rw [Value.sameKey_comm, ← Value.sameKey_congr same, apart entry member]

theorem value?_put {asked : Value} :
    value? (put entries key v) asked = if key.sameKey asked then some v else value? entries asked := by
  induction entries with
  | nil => rfl
  | cons entry rest ih =>
    obtain ⟨k, old⟩ := entry
    rw [put_cons]
    split
    · rename_i same
      rw [value?_cons, value?_cons, Value.sameKey_congr same asked]
      split <;> rfl
    · rename_i apart
      rw [value?_cons, value?_cons, ih]
      by_cases here : k.sameKey asked
      · have elsewhere : key.sameKey asked = false := by
          refine Bool.eq_false_iff.mpr fun there => apart ?_
          rw [Value.sameKey_congr here, Value.sameKey_comm, there]
        simp [here, elsewhere]
      · simp [here]

theorem get?_put :
    get? (put entries key v) name = if key.sameKey (.str name) then some v else get? entries name :=
  value?_put

theorem get?_ofFields_cons (key : String) (rest : List (String × Value)) :
    get? (ofFields ((key, v) :: rest)) name = if key = name then some v else get? (ofFields rest) name := by
  rw [ofFields, List.map_cons, get?_cons]
  simp [Value.sameKey, ofFields]

theorem get?_ofFields_mem {fields : List (String × Value)} (found : get? (ofFields fields) name = some v) :
    name ∈ fields.map Prod.fst := by
  induction fields with
  | nil => cases found
  | cons field rest ih =>
    rw [get?_ofFields_cons] at found
    split at found
    · rename_i here
      exact here ▸ List.mem_cons_self
    · exact List.mem_cons_of_mem _ (ih found)

theorem get?_set_self : get? (set entries name v) name = some v := by
  rw [set, get?_put, if_pos (Value.sameKey_str.mpr rfl)]

theorem get?_set (name other : String) :
    get? (set entries name v) other = if name = other then some v else get? entries other := by
  by_cases same : name = other
  · rw [if_pos same, ← same, get?_set_self]
  · rw [if_neg same, get?_set_of_ne same]

theorem get?_merge_of_missing (missing : get? more name = none) :
    get? (merge entries more) name = get? entries name := by
  induction more generalizing entries with
  | nil => rfl
  | cons entry rest ih =>
    obtain ⟨k, new⟩ := entry
    rw [get?_cons] at missing
    split at missing
    · cases missing
    · rename_i apart
      rw [merge_cons, ih missing, get?_put, if_neg apart]

theorem get?_foldl_put (written : Value → Option Value → Value → Value) (distinct : more.Distinct) :
    get? (more.foldl (fun done entry => put done entry.1 (written entry.1 (value? done entry.1) entry.2)) entries) name =
      match get? more name with
      | some new => some (written (.str name) (get? entries name) new)
      | none => get? entries name := by
  induction more generalizing entries with
  | nil => rfl
  | cons entry rest ih =>
    obtain ⟨k, new⟩ := entry
    obtain ⟨apart, distinct⟩ := List.pairwise_cons.mp distinct
    rw [List.foldl_cons, ih distinct, get?_put, get?_cons]
    by_cases here : k.sameKey (.str name) = true
    · have absent : get? rest name = none := value?_behind apart here
      rw [if_pos here, if_pos here, absent, Value.sameKey_str.mp here]
      rfl
    · rw [if_neg here, if_neg here]

theorem get?_merge (distinct : more.Distinct) :
    get? (merge entries more) name = (get? more name).or (get? entries name) := by
  have plain : get? (merge entries more) name = _ := get?_foldl_put (fun _ _ new => new) distinct
  rw [plain]
  cases get? more name <;> rfl

theorem hasTextKeys_put (named : hasTextKeys entries = true) (text : key.isText = true) :
    hasTextKeys (put entries key v) = true := by
  cases key with
  | str name => exact hasTextKeys_set named
  | _ => cases text

theorem hasTextKeys_merge (named : hasTextKeys entries = true) (more : hasTextKeys others = true) :
    hasTextKeys (merge entries others) = true := by
  induction others generalizing entries with
  | nil => exact named
  | cons entry rest ih =>
    obtain ⟨text, others⟩ : entry.1.isText = true ∧ hasTextKeys rest = true := by
      simpa [hasTextKeys] using more
    exact ih (hasTextKeys_put named text) others

def putItem (entries : Entries) (item : Value) : Except Fault Entries := do
  let (key, value) ← item.entry
  return put entries key value

-- Both hold an entry of this name, and apart from what is in it they are the same.
inductive Beside (name : String) : Entries → Entries → Prop
  | here (v w : Value) (rest : Entries) : Beside name ((.str name, v) :: rest) ((.str name, w) :: rest)
  | later {rest rest' : Entries} (entry : Value × Value) (apart : entry.1.sameKey (.str name) = false) :
      Beside name rest rest' → Beside name (entry :: rest) (entry :: rest')

namespace Beside

theorem set (entries : Entries) (name : String) (v w : Value) :
    Beside name (entries.set name v) (entries.set name w) := by
  induction entries with
  | nil => exact .here v w []
  | cons entry rest ih =>
    obtain ⟨k, old⟩ := entry
    rw [set_cons, set_cons]
    by_cases same : k.sameKey (.str name)
    · rw [if_pos same, if_pos same, Value.sameKey_str.mp same]
      exact .here v w rest
    · rw [if_neg same, if_neg same]
      exact .later (k, old) (Bool.eq_false_iff.mpr same) ih

theorem put (beside : Beside name entries others) (key v : Value) :
    Beside name (entries.put key v) (others.put key v) := by
  induction beside with
  | here v w rest =>
    rw [put_cons, put_cons]
    split
    · exact .here _ _ rest
    · exact .here _ _ _
  | later entry apart tail ih =>
    obtain ⟨k, old⟩ := entry
    rw [put_cons, put_cons]
    split
    · exact .later _ apart tail
    · exact .later _ apart ih

theorem merge (beside : Beside name entries others) (more : Entries) :
    Beside name (entries.merge more) (others.merge more) := by
  induction more generalizing entries others with
  | nil => exact beside
  | cons entry rest ih => exact ih (beside.put entry.1 entry.2)

theorem putItems (beside : Beside name entries others) (items : List Value) :
    Paired (Beside name) (items.foldlM putItem entries) (items.foldlM putItem others) := by
  induction items generalizing entries others with
  | nil => exact .ok beside
  | cons item rest ih =>
    rw [List.foldlM_cons, List.foldlM_cons]
    unfold putItem
    cases item.entry with
    | error fault => exact .error fault
    | ok entry => exact ih (beside.put entry.1 entry.2)

theorem update (beside : Beside name entries others) (source : Value) :
    Paired (Beside name) (entries.update source) (others.update source) := by
  unfold Entries.update
  split
  · exact .ok (beside.merge _)
  · refine (Paired.refl _).bind ?_
    rintro items _ rfl
    exact beside.putItems items

theorem without (beside : Beside name entries others) : entries.without name = others.without name := by
  induction beside with
  | here v w rest => simp [without_cons, Value.sameKey_str]
  | later entry apart tail ih =>
    obtain ⟨k, old⟩ := entry
    simp [without_cons, apart, ih]

theorem get? (beside : Beside name entries others) (apart : name ≠ other) :
    entries.get? other = others.get? other := by
  induction beside with
  | here v w rest => simp [get?_cons, Value.sameKey, apart]
  | later entry _ tail ih =>
    obtain ⟨k, old⟩ := entry
    simp [get?_cons, ih]

end Beside
end Entries
end SearchStore
