import SearchStore.Query.Find
import SearchStore.Proofs.Value.Entries
namespace SearchStore.Where

abbrev Meaning (Doc : Type) := Value → Value → Doc → Prop

-- A mapping under a term key constrains each of its fields for itself.
def atoms (entry : Value × Value) : Entries :=
  match isTermKey entry.1, entry.2 with
  | true, .map fields => fields.map fun field => (entry.1, .map [field])
  | _, _ => [entry]

section Holds
variable {Doc : Type} (meaning : Meaning Doc) (d : Doc)

def Meets (entry : Value × Value) : Prop := ∀ a ∈ atoms entry, meaning a.1 a.2 d

def MeetsClause : Value → Prop
  | .map entries => ∀ entry ∈ entries, Meets meaning d entry
  | _ => False

-- Only the clauses that a query itself joins are read as its conjuncts. What else it passes on to the
-- engine stays an atomic constraint, also under the key `bool`.
def conjuncts : Value → List Value
  | .map [(.str "bool", .map [(.str "must", .list clauses)])] => clauses
  | clause => [clause]

def Satisfies (query : Value) : Prop := ∀ clause ∈ conjuncts query, MeetsClause meaning d clause

end Holds

-- The constraints that a mapping stands for. With none of the families it is a match as a whole.
def asked (entries : Entries) : Entries :=
  if families entries = 0 then [(.str "match", .map entries)] else entries

def chosen (entries : Entries) : Entries :=
  (precedence.find? (Entries.has entries)).toList.map fun key => (.str key, Entries.get entries key)

def kept (entries : Entries) : Entries := if families entries = 1 then chosen entries else asked entries

section Atoms
variable {a entry : Value × Value}

theorem atoms_key (member : a ∈ atoms entry) : a.1 = entry.1 := by
  unfold atoms at member
  split at member
  · obtain ⟨field, -, rfl⟩ := List.mem_map.mp member
    rfl
  · rw [List.mem_singleton.mp member]

theorem atoms_atom (member : a ∈ atoms entry) : atoms a = [a] := by
  obtain ⟨key, value⟩ := entry
  unfold atoms at member
  split at member
  · rename_i fields term found
    obtain ⟨field, -, rfl⟩ := List.mem_map.mp member
    simp [atoms, term]
  · rename_i plain
    rw [List.mem_singleton.mp member]
    unfold atoms
    split
    · rename_i fields term found
      exact (plain fields term found).elim
    · rfl

theorem atoms_eq_nil : atoms entry = [] ↔ ∃ name ∈ termKeys, entry = (.str name, .map []) := by
  obtain ⟨key, value⟩ := entry
  constructor
  · intro empty
    unfold atoms at empty
    split at empty
    · rename_i fields term found
      dsimp only at term found
      rw [List.map_eq_nil_iff] at empty
      cases key with
      | str name => exact ⟨name, List.contains_iff_mem.mp term, by rw [found, empty]⟩
      | _ => cases term
    · cases empty
  · rintro ⟨name, member, equal⟩
    cases equal
    have term : isTermKey (.str name) = true := List.contains_iff_mem.mpr member
    simp [atoms, term]

theorem mustOf_atoms (key value : Value) : mustOf key value = (atoms (key, value)).map fun a => .map [a] := by
  cases term : isTermKey key with
  | false => simp [mustOf, atoms, term]
  | true => cases value <;> simp [mustOf, atoms, term]

end Atoms

theorem families_eq_zero (entries : Entries) :
    families entries = 0 ↔ precedence.find? (Entries.has entries) = none := by
  cases asMatch : Entries.has entries "match" <;> cases asTerms : Entries.has entries "terms" <;>
    cases asTerm : Entries.has entries "term" <;> cases asRange : Entries.has entries "range" <;>
    simp [families, precedence, termKeys, asMatch, asTerms, asTerm, asRange]

theorem chosen_mem {entries : Entries} {entry : Value × Value} (member : entry ∈ chosen entries) :
    entry ∈ entries := by
  obtain ⟨key, first, rfl⟩ := List.mem_map.mp member
  exact Entries.mem_of_has (List.find?_some (Option.mem_toList.mp first))

section Compile
variable {Doc : Type} {meaning : Meaning Doc} {d : Doc}

theorem satisfies_joined (entries : Entries) :
    Satisfies meaning d (joined (must entries)) ↔ ∀ entry ∈ entries, Meets meaning d entry := by
  have clauses : conjuncts (joined (must entries)) = must entries := rfl
  unfold Satisfies
  rw [clauses]
  constructor
  · intro all entry member a atom
    have present : .map [a] ∈ must entries := by
      refine List.mem_flatMap.mpr ⟨entry, member, ?_⟩
      rw [mustOf_atoms]
      exact List.mem_map.mpr ⟨a, atom, rfl⟩
    have met := all _ present a (List.mem_singleton.mpr rfl)
    exact met a (by rw [atoms_atom atom]; exact List.mem_singleton.mpr rfl)
  · intro all clause member
    obtain ⟨entry, present, split⟩ := List.mem_flatMap.mp member
    rw [mustOf_atoms] at split
    obtain ⟨a, atom, rfl⟩ := List.mem_map.mp split
    intro b single
    rw [List.mem_singleton.mp single]
    intro c same
    rw [atoms_atom atom] at same
    rw [List.mem_singleton.mp same]
    exact all entry present a atom

theorem satisfies_clause {key : String} (plain : key ≠ "bool") (value : Value) :
    Satisfies meaning d (.record [(key, value)]) ↔ Meets meaning d (.str key, value) := by
  have clauses : conjuncts (.record [(key, value)]) = [.record [(key, value)]] := by
    unfold conjuncts
    split
    · rename_i equal
      simp [Value.record, plain] at equal
    · rfl
  unfold Satisfies
  rw [clauses]
  simp [MeetsClause, Value.record]

theorem compile_satisfied (entries : Entries) :
    Satisfies meaning d (compile (.map entries)) ↔ ∀ entry ∈ kept entries, Meets meaning d entry := by
  simp only [compile]
  split
  · rename_i several
    have all : kept entries = entries := by
      unfold kept asked
      rw [if_neg (by omega), if_neg (by omega)]
    rw [all]
    exact satisfies_joined entries
  · rename_i few
    unfold single
    cases first : precedence.find? (Entries.has entries) with
    | none =>
      have zero := (families_eq_zero entries).mpr first
      have whole : kept entries = [(.str "match", .map entries)] := by
        unfold kept asked
        rw [if_neg (by omega), if_pos zero]
      rw [whole]
      have plain : "match" ≠ "bool" := by decide
      simpa using satisfies_clause plain (.map entries)
    | some key =>
      have nonzero : families entries ≠ 0 := by
        rw [ne_eq, families_eq_zero, first]
        simp
      have one : kept entries = [(.str key, Entries.get entries key)] := by
        unfold kept chosen
        rw [if_pos (by omega), first]
        rfl
      have plain : key ≠ "bool" := by
        rintro rfl
        exact absurd (List.mem_of_find?_eq_some first) (by decide)
      rw [one]
      simpa using satisfies_clause plain (Entries.get entries key)

end Compile

-- A constraint that the query does not keep, told apart from all that it keeps.
theorem apart_of_dropped {entries : Entries} (distinct : entries.Distinct) {entry a : Value × Value}
    (member : entry ∈ entries) (dropped : entry ∉ chosen entries) (atom : a ∈ atoms entry) :
    ∀ other ∈ chosen entries, ∀ b ∈ atoms other, b ≠ a := by
  rintro other present b among rfl
  have sameKey : entry.1 = other.1 := (atoms_key atom).symm.trans (atoms_key among)
  have others := chosen_mem present
  obtain ⟨key, -, rfl⟩ := List.mem_map.mp present
  obtain ⟨name, value⟩ := entry
  cases sameKey
  rw [distinct.unique member others] at dropped
  exact dropped present

theorem compile_keeps (entries : Entries) (distinct : entries.Distinct) :
    (∀ (Doc : Type) (meaning : Meaning Doc) (d : Doc),
      Satisfies meaning d (compile (.map entries)) ↔ ∀ entry ∈ kept entries, Meets meaning d entry) ∧
    ((∀ (Doc : Type) (meaning : Meaning Doc) (d : Doc),
        Satisfies meaning d (compile (.map entries)) → ∀ entry ∈ asked entries, Meets meaning d entry) ↔
      (families entries = 1 → ∀ entry ∈ entries,
        entry ∈ chosen entries ∨ ∃ name ∈ termKeys, entry = (.str name, .map []))) := by
  refine ⟨fun Doc meaning d => compile_satisfied entries, ?_, ?_⟩
  · intro lossless one entry member
    refine Classical.or_iff_not_imp_left.mpr fun dropped => ?_
    rw [← atoms_eq_nil, List.eq_nil_iff_forall_not_mem]
    intro a atom
    -- Everything but the dropped constraint is made to hold.
    have query : Satisfies (fun key value _ => (key, value) ≠ a) () (compile (.map entries)) := by
      rw [compile_satisfied, kept, if_pos one]
      exact apart_of_dropped distinct member dropped atom
    have all := lossless Unit _ () query
    rw [asked, if_neg (by omega)] at all
    exact all entry member a atom rfl
  · intro spared Doc meaning d query entry member
    rw [compile_satisfied] at query
    by_cases one : families entries = 1
    · rw [asked, if_neg (by omega)] at member
      rcases spared one entry member with present | empty
      · rw [kept, if_pos one] at query
        exact query entry present
      · intro a atom
        rw [atoms_eq_nil.mpr empty] at atom
        cases atom
    · rw [kept, if_neg one] at query
      exact query entry member

def termAndTerms : Entries :=
  Entries.ofFields [("term", .record [("a", .int 1)]), ("terms", .record [("b", .list [.int 2])])]

theorem compile_keeps_termAndTerms : termAndTerms.Distinct ∧
    ¬ ∀ (Doc : Type) (meaning : Meaning Doc) (d : Doc),
      Satisfies meaning d (compile (.map termAndTerms)) →
        ∀ entry ∈ asked termAndTerms, Meets meaning d entry := by
  have distinct : termAndTerms.Distinct := by decide
  refine ⟨distinct, fun lossless => ?_⟩
  have spared := (compile_keeps termAndTerms distinct).2.mp lossless rfl
  rcases spared (.str "term", .record [("a", .int 1)]) List.mem_cons_self with used | ⟨name, -, equal⟩
  · simpa using List.mem_singleton.mp used
  · cases equal

theorem term_beside_terms_dropped :
    let meaning : Meaning Unit := fun key _ _ => key = .str "terms"
    Satisfies meaning () (compile (.map termAndTerms)) ∧
      ¬ ∀ entry ∈ asked termAndTerms, Meets meaning () entry := by
  constructor
  · rw [compile_satisfied]
    intro entry used a atom
    rw [atoms_key atom, List.mem_singleton.mp used]
  · intro all
    have met := all (.str "term", .record [("a", .int 1)]) List.mem_cons_self
    simpa using met (.str "term", .record [("a", .int 1)]) List.mem_cons_self

end SearchStore.Where
