import SearchStore.Proofs.Query.Conditions
import SearchStore.Proofs.Value.Merging
namespace SearchStore.Where

inductive Family where
  | matching | term | range
deriving DecidableEq

def Family.keys : Family → List String
  | .matching => ["match"]
  | .term => termKeys
  | .range => ["range"]

def Family.Occurs (family : Family) (entries : Entries) : Prop :=
  ∃ name ∈ family.keys, ∃ v, (.str name, v) ∈ entries

def Several (entries : Entries) : Prop :=
  ∃ first second : Family, first ≠ second ∧ first.Occurs entries ∧ second.Occurs entries

-- Two clauses of the same term key are one if both hold mappings.
def gather (clause : Value × Value) (rest : Entries) : Entries :=
  match clause, rest with
  | (key, .map fields), (next, .map more) :: others =>
    if isTermKey key && next.sameKey key then (key, .map (Entries.merge fields more)) :: others
    else clause :: rest
  | _, _ => clause :: rest

def regroup (clauses : List Value) : Entries :=
  (clauses.flatMap fun clause => clause.entries?.getD []).foldr gather []

def fieldless (entry : Value × Value) : Bool :=
  isTermKey entry.1 && match entry.2 with
    | .map fields => fields.isEmpty
    | _ => false

section Several
variable {entries : Entries}

theorem exists_family {p : Family → Prop} : (∃ family, p family) ↔ p .matching ∨ p .term ∨ p .range := by
  constructor
  · rintro ⟨family, holds⟩
    cases family with
    | matching => exact .inl holds
    | term => exact .inr (.inl holds)
    | range => exact .inr (.inr holds)
  · rintro (holds | holds | holds)
    · exact ⟨_, holds⟩
    · exact ⟨_, holds⟩
    · exact ⟨_, holds⟩

theorem occurs_iff (family : Family) (entries : Entries) :
    family.Occurs entries ↔ family.keys.any (Entries.has entries) = true := by
  simp [Family.Occurs, Entries.has_iff]

theorem two_le_families (entries : Entries) : 2 ≤ families entries ↔ Several entries := by
  unfold Several families
  simp only [occurs_iff, exists_family, Family.keys, List.any_cons, List.any_nil, Bool.or_false]
  cases Entries.has entries "match" <;> cases termKeys.any (Entries.has entries) <;>
    cases Entries.has entries "range" <;> simp

end Several

section Regroup
variable {entries : Entries} {key : Value}

theorem clauses_must (entries : Entries) :
    (must entries).flatMap (fun clause => clause.entries?.getD []) = entries.flatMap atoms := by
  unfold must
  rw [List.flatMap_assoc]
  refine List.flatMap_congr fun entry _ => ?_
  rw [mustOf_atoms, List.flatMap_map]
  simp [Value.entries?]

theorem gather_apart {clause : Value × Value} {rest : Entries}
    (apart : ∀ entry ∈ rest, entry.1.sameKey clause.1 = false) : gather clause rest = clause :: rest := by
  unfold gather
  split
  · rename_i next more others
    rw [apart (next, .map more) List.mem_cons_self, Bool.and_false]
    rfl
  · rfl

theorem gather_fields (term : isTermKey key = true) {fields rest : Entries} (distinct : fields.Distinct)
    (apart : ∀ entry ∈ rest, entry.1.sameKey key = false) :
    (fields.map fun field => (key, Value.map [field])).foldr gather rest =
      if fields.isEmpty then rest else (key, .map fields) :: rest := by
  induction fields with
  | nil => rfl
  | cons field others ih =>
    have tail : Entries.Distinct others := (List.pairwise_cons.mp distinct).2
    rw [List.map_cons, List.foldr_cons, ih tail]
    cases others with
    | nil => exact gather_apart apart
    | cons next more =>
      have own : key.sameKey key = true := by
        cases key with
        | str name => exact Value.sameKey_str.mpr rfl
        | _ => cases term
      have joined : Entries.merge [field] (next :: more) = field :: next :: more := Entries.merge_distinct distinct
      simp [gather, term, own, joined]

theorem gather_atoms {entry : Value × Value} {rest : Entries} (keyed : entry.2.Keyed)
    (apart : ∀ other ∈ rest, other.1.sameKey entry.1 = false) :
    (atoms entry).foldr gather rest = if fieldless entry then rest else entry :: rest := by
  obtain ⟨key, value⟩ := entry
  cases term : isTermKey key with
  | false => simpa [atoms, fieldless, term] using gather_apart apart
  | true =>
    cases value with
    | map fields => simpa [atoms, fieldless, term] using gather_fields term keyed.distinct apart
    | _ => simpa [atoms, fieldless, term] using gather_apart apart

theorem regroup_must (distinct : entries.Distinct) (keyed : ∀ entry ∈ entries, entry.2.Keyed) :
    regroup (must entries) = entries.filter (! fieldless ·) := by
  unfold regroup
  rw [clauses_must]
  induction distinct with
  | nil => rfl
  | @cons entry rest apart _ ih =>
    obtain ⟨own, others⟩ := List.forall_mem_cons.mp keyed
    have elsewhere : ∀ other ∈ rest.filter (! fieldless ·), other.1.sameKey entry.1 = false := by
      intro other member
      rw [Value.sameKey_comm, apart other (List.mem_filter.mp member).1]
    rw [List.flatMap_cons, List.foldr_append, ih others, gather_atoms own elsewhere, List.filter_cons]
    cases fieldless entry <;> rfl

end Regroup

section Composed
variable {entries others : Entries}

theorem compile_several (several : Several entries) : compile (.map entries) = joined (must entries) := by
  simp only [compile]
  rw [if_pos ((two_le_families entries).mpr several)]

theorem record_key {name other : String} {v w : Value} (same : Value.record [(name, v)] = .record [(other, w)]) :
    name = other := by
  simp only [Value.record, List.map_cons, List.map_nil] at same
  cases same
  rfl

theorem compile_bool_iff (entries : Entries) :
    (∃ query, compile (.map entries) = .record [("bool", query)]) ↔ Several entries := by
  constructor
  · rintro ⟨query, alone⟩
    apply Classical.byContradiction
    intro few
    rw [← two_le_families] at few
    simp only [compile] at alone
    rw [if_neg few] at alone
    unfold single at alone
    split at alone
    · rename_i key found
      have name := record_key alone
      rw [name] at found
      exact absurd (List.mem_of_find?_eq_some found) (by decide)
    · exact absurd (record_key alone) (by decide)
  · intro several
    exact ⟨_, compile_several several⟩

theorem joined_inj {clauses more : List Value} (same : joined clauses = joined more) : clauses = more := by
  simp only [joined, Value.record, List.map_cons, List.map_nil] at same
  cases same
  rfl

theorem must_inj (keyed : Value.Keyed (.map entries)) (keyed' : Value.Keyed (.map others))
    (full : ∀ entry ∈ entries, fieldless entry = false) (full' : ∀ entry ∈ others, fieldless entry = false)
    (same : must entries = must others) : entries = others := by
  have kept {list : Entries} (full : ∀ entry ∈ list, fieldless entry = false) :
      list.filter (! fieldless ·) = list :=
    List.filter_eq_self.mpr fun entry member => by rw [full entry member]; rfl
  calc entries = entries.filter (! fieldless ·) := (kept full).symm
    _ = regroup (must entries) := (regroup_must keyed.distinct keyed.inner).symm
    _ = regroup (must others) := by rw [same]
    _ = others.filter (! fieldless ·) := regroup_must keyed'.distinct keyed'.inner
    _ = others := kept full'

end Composed

theorem composition_reversible (entries : Entries) (keyed : Value.Keyed (.map entries)) :
    ((∃ query, compile (.map entries) = .record [("bool", query)]) ↔ Several entries) ∧
    (Several entries → ∃ clauses, compile (.map entries) = joined clauses ∧
      regroup clauses = entries.filter (! fieldless ·)) ∧
    ∀ others, Value.Keyed (.map others) → Several entries → Several others →
      (∀ entry ∈ entries, fieldless entry = false) → (∀ entry ∈ others, fieldless entry = false) →
      ∀ clauses, compile (.map entries) = joined clauses → compile (.map others) = joined clauses →
        entries = others := by
  refine ⟨compile_bool_iff entries, ?_, ?_⟩
  · intro several
    exact ⟨must entries, compile_several several, regroup_must keyed.distinct keyed.inner⟩
  · intro others keyed' several several' full full' clauses first second
    refine must_inj keyed keyed' full full' (joined_inj ?_)
    rw [← compile_several several, ← compile_several several', first, second]

def tagged : Entries := Entries.ofFields [("terms", .record [("tag", .list [.int 1]), ("kind", .list [.int 2])]),
  ("exists", .record [("field", .str "email")]), ("term", .map []), ("match", .record [("name", .str "ada")])]

theorem composition_reversible_tagged :
    let dense := tagged.filter (! fieldless ·)
    Value.Keyed (.map tagged) ∧ Several tagged ∧
      (∃ clauses, compile (.map tagged) = joined clauses ∧ clauses.length = 4 ∧ regroup clauses = dense) ∧
      ∀ clauses, compile (.map dense) = joined clauses → compile (.map dense.reverse) ≠ joined clauses := by
  intro dense
  have keyed : Value.Keyed (.map tagged) := by
    refine .map (by decide) fun entry member => ?_
    simp only [tagged, Entries.ofFields, List.map_cons, List.map_nil, List.mem_cons, List.not_mem_nil,
      or_false] at member
    rcases member with rfl | rfl | rfl | rfl
    all_goals exact Value.keyed_flat (by decide) (by decide)
  have several : Several tagged := (two_le_families tagged).mp (by decide)
  refine ⟨keyed, several, ?_, ?_⟩
  · obtain ⟨clauses, compiled, regrouped⟩ := (composition_reversible tagged keyed).2.1 several
    refine ⟨clauses, compiled, ?_, regrouped⟩
    rw [compile_several several] at compiled
    rw [← joined_inj compiled]
    rfl
  · intro clauses compiled reversed
    have present : ∀ entry ∈ dense, entry.2.Keyed := fun entry member =>
      keyed.inner entry (List.mem_filter.mp member).1
    have keyed' : Value.Keyed (.map dense.reverse) :=
      .map (by decide) fun entry member => present entry (List.mem_reverse.mp member)
    have same := (composition_reversible dense (.map (by decide) present)).2.2 dense.reverse keyed'
      ((two_le_families dense).mp (by decide)) ((two_le_families dense.reverse).mp (by decide))
      (by decide) (by decide) clauses compiled reversed
    have names := congrArg (List.map fun entry => entry.1.text?) same
    exact absurd names (by decide)

end SearchStore.Where
