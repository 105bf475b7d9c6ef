import SearchStore.Value.Entries
import SearchStore.Proofs.Value.Writes
namespace SearchStore

-- No mapping in the value, nor in a mapping of it, has two entries of the same key.
inductive Value.Keyed : Value → Prop
  | leaf {v : Value} (leaf : v.isMapping = false) : Keyed v
  | map {entries : Entries} (distinct : entries.Distinct) (inner : ∀ entry ∈ entries, Keyed entry.2) :
      Keyed (.map entries)

namespace Value.Keyed
variable {entries : Entries}

theorem distinct (keyed : Keyed (.map entries)) : entries.Distinct := by
  cases keyed with
  | leaf leaf => cases leaf
  | map distinct inner => exact distinct

theorem inner (keyed : Keyed (.map entries)) : ∀ entry ∈ entries, Keyed entry.2 := by
  cases keyed with
  | leaf leaf => cases leaf
  | map distinct inner => exact inner

end Value.Keyed

theorem Value.keyed_flat {entries : Entries} (distinct : entries.Distinct)
    (flat : ∀ entry ∈ entries, entry.2.isMapping = false) : Value.Keyed (.map entries) :=
  .map distinct fun entry member => .leaf (flat entry member)

theorem Value.keyed_empty : Value.Keyed (.map []) := keyed_flat .nil fun _ absent => absurd absent List.not_mem_nil

namespace Entries
variable {entries lower upper : Entries} {name : String} {key v : Value}

theorem mem_put {entry : Value × Value} (member : entry ∈ put entries key v) :
    entry ∈ entries ∨ entry.2 = v ∧ (entry.1 = key ∨ ∃ old, (entry.1, old) ∈ entries) := by
  induction entries with
  | nil =>
    cases List.mem_singleton.mp member
    exact .inr ⟨rfl, .inl rfl⟩
  | cons first rest ih =>
    obtain ⟨k, old⟩ := first
    rw [put_cons] at member
    split at member
    · rcases List.mem_cons.mp member with rfl | later
      · exact .inr ⟨rfl, .inr ⟨old, List.mem_cons_self⟩⟩
      · exact .inl (List.mem_cons_of_mem _ later)
    · rcases List.mem_cons.mp member with rfl | later
      · exact .inl List.mem_cons_self
      · rcases ih later with before | ⟨same, new | ⟨old, there⟩⟩
        · exact .inl (List.mem_cons_of_mem _ before)
        · exact .inr ⟨same, .inl new⟩
        · exact .inr ⟨same, .inr ⟨old, List.mem_cons_of_mem _ there⟩⟩

theorem Distinct.put (distinct : entries.Distinct) : (entries.put key v).Distinct := by
  induction distinct with
  | nil => exact List.pairwise_singleton _ _
  | @cons first rest others distinct ih =>
    obtain ⟨k, old⟩ := first
    rw [put_cons]
    split
    · exact List.pairwise_cons.mpr ⟨others, distinct⟩
    · rename_i apart
      refine List.pairwise_cons.mpr ⟨fun entry member => ?_, ih⟩
      rcases mem_put member with before | ⟨-, rfl | ⟨old, there⟩⟩
      · exact others entry before
      · exact Bool.eq_false_iff.mpr apart
      · exact others (entry.1, old) there

def joined : Option Value → Value → Value
  | some old, new => overlay old new
  | none, new => new

def laid (lower : Option Value) : Option Value → Option Value
  | some new => some (joined lower new)
  | none => lower

theorem overlayAll_cons (key new : Value) (rest : List (Value × Value)) :
    overlayAll lower ((key, new) :: rest) = overlayAll (put lower key (joined (value? lower key) new)) rest := by
  rw [overlayAll]
  cases value? lower key <;> rfl

theorem overlay_leaf (old : Value) {new : Value} (leaf : new.isMapping = false) : overlay old new = new := by
  cases new with
  | map entries => cases leaf
  | _ => simp only [overlay]

theorem overlay_map (old : Value) (new : Entries) :
    overlay old (.map new) = match old with
      | .map entries => .map (overlayAll entries new)
      | _ => .map new := by
  cases old <;> simp only [overlay]

theorem overlayAll_foldl : overlayAll lower upper =
    upper.foldl (fun done entry => put done entry.1 (joined (value? done entry.1) entry.2)) lower := by
  induction upper generalizing lower with
  | nil => rw [overlayAll, List.foldl_nil]
  | cons first rest ih => rw [overlayAll_cons, List.foldl_cons, ih]

theorem get?_overlayAll (distinct : upper.Distinct) :
    get? (overlayAll lower upper) name = laid (get? lower name) (get? upper name) := by
  rw [overlayAll_foldl, get?_foldl_put (fun _ => joined) distinct]
  cases get? upper name <;> rfl

theorem mem_of_value? (found : value? entries key = some v) : ∃ k, (k, v) ∈ entries := by
  induction entries with
  | nil => cases found
  | cons first rest ih =>
    obtain ⟨k, old⟩ := first
    rw [value?] at found
    split at found
    · cases found
      exact ⟨k, List.mem_cons_self⟩
    · obtain ⟨other, there⟩ := ih found
      exact ⟨other, List.mem_cons_of_mem _ there⟩

theorem mem_overlayAll (keys values : Value → Prop)
    (joins : ∀ old new, values old → values new → values (overlay old new))
    (below : ∀ entry ∈ lower, keys entry.1 ∧ values entry.2) (above : ∀ entry ∈ upper, keys entry.1 ∧ values entry.2) :
    ∀ entry ∈ overlayAll lower upper, keys entry.1 ∧ values entry.2 := by
  induction upper generalizing lower with
  | nil =>
    rw [overlayAll]
    exact below
  | cons first rest ih =>
    obtain ⟨k, new⟩ := first
    obtain ⟨⟨key, value⟩, others⟩ := List.forall_mem_cons.mp above
    rw [overlayAll_cons]
    refine ih (fun entry member => ?_) others
    have written : values (joined (value? lower k) new) := by
      cases found : value? lower k with
      | none => exact value
      | some old =>
        obtain ⟨k', there⟩ := mem_of_value? found
        exact joins old new (below _ there).2 value
    rcases mem_put member with before | ⟨same, rfl | ⟨old, there⟩⟩
    · exact below entry before
    · exact ⟨key, same ▸ written⟩
    · exact ⟨(below _ there).1, same ▸ written⟩

theorem Distinct.overlayAll (distinct : lower.Distinct) (upper : Entries) : (overlayAll lower upper).Distinct := by
  induction upper generalizing lower with
  | nil =>
    rw [Entries.overlayAll]
    exact distinct
  | cons first rest ih =>
    rw [overlayAll_cons]
    exact ih distinct.put

theorem put_absent (absent : ∀ entry ∈ entries, entry.1.sameKey key = false) :
    put entries key v = entries ++ [(key, v)] := by
  induction entries with
  | nil => rfl
  | cons first rest ih =>
    obtain ⟨apart, others⟩ := List.forall_mem_cons.mp absent
    rw [put_cons, apart]
    exact congrArg (List.cons first) (ih others)

theorem overlayAll_append {done rest : Entries} (distinct : (done ++ rest).Distinct) :
    overlayAll done rest = done ++ rest := by
  induction rest generalizing done with
  | nil => rw [overlayAll, List.append_nil]
  | cons first rest ih =>
    obtain ⟨k, new⟩ := first
    have absent : ∀ entry ∈ done, entry.1.sameKey k = false := fun entry member =>
      (List.pairwise_append.mp distinct).2.2 entry member _ List.mem_cons_self
    rw [overlayAll_cons, value?_absent absent, put_absent absent]
    have moved : done ++ (k, new) :: rest = done ++ [(k, new)] ++ rest := by simp
    rw [moved] at distinct ⊢
    exact ih distinct

theorem overlayAll_nil (distinct : entries.Distinct) : overlayAll [] entries = entries := by
  rw [overlayAll_append (by exact distinct), List.nil_append]

-- What stands at the end of a path of names, each of them the name of an entry in what the others lead to.
def reach : Option Value → List String → Option Value
  | some (.map entries), name :: rest => reach (get? entries name) rest
  | found, [] => found
  | _, _ :: _ => none

-- Something stands at the end of the path, or it is no mapping and ends the path before.
def settles : Option Value → List String → Bool
  | some (.map entries), name :: rest => settles (get? entries name) rest
  | found, _ => found.isSome

-- On the way of the path a mapping above takes the place of something else below.
def covers : Option Value → Option Value → List String → Bool
  | some (.map upper), some (.map lower), name :: rest => covers (get? upper name) (get? lower name) rest
  | some (.map _), some lower, _ => !lower.isMapping
  | _, _, _ => false

def meets (upper lower : Option Value) (path : List String) : Bool :=
  (reach upper path).any Value.isMapping && (reach lower path).any Value.isMapping

@[simp] theorem reach_nil (found : Option Value) : reach found [] = found := by
  cases found with
  | none => rfl
  | some v => cases v <;> rfl

@[simp] theorem settles_nil (found : Option Value) : settles found [] = found.isSome := by
  cases found with
  | none => rfl
  | some v => cases v <;> rfl

@[simp] theorem settles_none (path : List String) : settles none path = false := by cases path <;> rfl

@[simp] theorem covers_none_left (lower : Option Value) (path : List String) : covers none lower path = false := by
  cases path <;> rfl

@[simp] theorem covers_none_right (upper : Option Value) (path : List String) : covers upper none path = false := by
  cases upper with
  | none => exact covers_none_left none path
  | some v => cases v <;> cases path <;> rfl

theorem covers_leaf {v : Value} (leaf : v.isMapping = false) (above : Entries) (path : List String) :
    covers (some (.map above)) (some v) path = true := by
  cases v with
  | map entries => cases leaf
  | _ => cases path <;> rfl

theorem reach_none (path : List String) : reach none path = none := by cases path <;> rfl

theorem reach_unsettled {found : Option Value} {path : List String} (unsettled : settles found path = false) :
    reach found path = none := by
  induction path generalizing found with
  | nil =>
    cases found with
    | none => rfl
    | some v => cases v <;> cases unsettled
  | cons name rest ih =>
    cases found with
    | none => rfl
    | some v =>
      cases v with
      | map entries => exact ih unsettled
      | _ => cases unsettled

theorem joined_apart {lower : Option Value} {new : Value}
    (apart : ∀ old, lower = some old → (new.isMapping && old.isMapping) = false) : joined lower new = new := by
  cases lower with
  | none => rfl
  | some old =>
    have unlike := apart old rfl
    cases new with
    | map entries =>
      rw [joined, overlay_map]
      cases old with
      | map _ => cases unlike
      | _ => rfl
    | _ => exact overlay_leaf old rfl

theorem meets_unsettled {upper : Option Value} {path : List String} (unsettled : settles upper path = false)
    (lower : Option Value) : meets upper lower path = false := by
  rw [meets, reach_unsettled unsettled]
  rfl

theorem keyed_get? {entries : Entries} (keyed : Value.Keyed (.map entries)) (name : String) :
    ∀ v, get? entries name = some v → v.Keyed := fun _ found => keyed.inner _ (mem_of_get? found)

-- At the end of a path through an overlay stands what stands there above, or what stands there below unless
-- it was covered.
theorem reach_laid {lower upper : Option Value} {path : List String} (keyed : ∀ v, upper = some v → v.Keyed)
    (apart : meets upper lower path = false) : reach (laid lower upper) path =
      if settles upper path then reach upper path else if covers upper lower path then none else reach lower path := by
  induction path generalizing lower upper with
  | nil =>
    cases upper with
    | none => rfl
    | some new =>
      have own : joined lower new = new := by
        refine joined_apart fun old found => ?_
        simpa [meets, found] using apart
      have settled : settles (some new) [] = true := by cases new <;> rfl
      rw [settled, laid, own]
      rfl
  | cons name rest ih =>
    cases upper with
    | none => rfl
    | some new =>
      cases new with
      | map above =>
        have unsettled : reach (some (.map above)) (name :: rest) =
            if settles (some (.map above)) (name :: rest) then reach (some (.map above)) (name :: rest) else none := by
          split
          · rfl
          · exact reach_unsettled (Bool.eq_false_iff.mpr ‹_›)
        cases lower with
        | none =>
          have absent : covers (some (.map above)) none (name :: rest) = false := rfl
          rw [absent]
          exact unsettled
        | some old =>
          cases old with
          | map below =>
            have both : laid (some (.map below)) (some (.map above)) = some (.map (overlayAll below above)) := by
              rw [laid, joined, overlay_map]
            have keyed' := keyed _ rfl
            rw [both, reach, get?_overlayAll keyed'.distinct]
            exact ih (keyed_get? keyed' name) apart
          | _ =>
            rw [laid, joined_apart fun _ same => by cases same; rfl]
            exact unsettled
      | _ =>
        rw [laid, joined_apart fun _ _ => rfl]
        rfl

end Entries
end SearchStore
