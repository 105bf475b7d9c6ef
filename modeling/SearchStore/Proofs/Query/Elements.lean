import SearchStore.Proofs.Query.Nesting
namespace SearchStore.Sort

-- What the elements of an order may be. A list that starts with a name has nothing but names.
inductive Element : Value → Prop
  | name (field : String) : Element (.str field)
  | clause (entries : Entries) : Element (.map entries)
  | names (kind : Kind) (first : String) (others : List String) : Element (kind.of ((first :: others).map .str))
  | list (kind : Kind) {items : List Value} (unnamed : namesFields items = false)
      (inner : ∀ item ∈ items, Element item) : Element (kind.of items)

def share : Value → Except Fault (List Value)
  | .map entries => .ok [.map entries]
  | item => clauses item

def said (item : Value) : List Value := (share item).toOption.getD []

def keptOf (items : List Value) : List Value := items.filter fun item => !item.isText

section Elements
variable {item : Value} {items : List Value}

theorem element_share (nameless : item.isText = false) : element item = share item := by
  cases item with
  | str name => cases nameless
  | map entries => simp only [element, share]
  | _ => simp only [element, share, clauses]

theorem share_of (kind : Kind) (items : List Value) : share (kind.of items) = element (kind.of items) := by
  cases kind <;> rfl

theorem clauses_of (kind : Kind) (items : List Value) : clauses (kind.of items) = element (kind.of items) := by
  cases kind <;> rfl

theorem share_said (readable : ∃ clauses, share item = .ok clauses) : share item = .ok (said item) := by
  obtain ⟨clauses, read⟩ := readable
  simp [said, read, Except.toOption]

theorem elements_kept (readable : ∀ item ∈ items, share item = .ok (said item)) :
    elements items = .ok ((keptOf items).flatMap said) := by
  induction items with
  | nil => simp [elements, keptOf]
  | cons item rest ih =>
    obtain ⟨first, others⟩ := List.forall_mem_cons.mp readable
    rw [elements, ih others]
    cases text : item.isText with
    | true =>
      cases item with
      | str name => simp [element, keptOf, Value.isText, bind, Except.bind, pure, Except.pure]
      | _ => cases text
    | false =>
      rw [element_share text, first]
      simp [keptOf, text, bind, Except.bind, pure, Except.pure]

theorem Element.readable (accepted : Element item) : ∃ clauses, share item = .ok clauses := by
  induction accepted with
  | name field => exact ⟨_, rfl⟩
  | clause entries => exact ⟨_, rfl⟩
  | names kind first others =>
    have named : namesFields ((first :: others).map .str) = true := rfl
    rw [share_of, element_of, named, if_pos rfl, pairs_names]
    exact ⟨_, rfl⟩
  | list kind unnamed inner ih =>
    rw [share_of, element_of, unnamed, if_neg Bool.false_ne_true]
    exact ⟨_, elements_kept fun item member => share_said (ih item member)⟩

theorem length_kept (items : List Value) :
    ((keptOf items).flatMap said).length + items.countP Value.isText = (items.flatMap said).length := by
  induction items with
  | nil => rfl
  | cons item rest ih =>
    cases text : item.isText with
    | true =>
      cases item with
      | str name =>
        have one : (said (.str name)).length = 1 := rfl
        simp [keptOf, text] at ih ⊢
        omega
      | _ => cases text
    | false =>
      simp [keptOf, text] at ih ⊢
      omega

theorem kept_whole_iff (items : List Value) :
    (keptOf items).flatMap said = items.flatMap said ↔ ∀ item ∈ items, item.isText = false := by
  constructor
  · intro same
    have none : items.countP Value.isText = 0 := by
      have lengths := length_kept items
      rw [same] at lengths
      omega
    simpa using none
  · intro nameless
    have all : keptOf items = items := by
      apply List.filter_eq_self.mpr
      intro item member
      rw [nameless item member]
      rfl
    rw [all]

end Elements

theorem bare_names_lost (kind : Kind) {items : List Value} (unnamed : namesFields items = false)
    (accepted : ∀ item ∈ items, Element item) :
    (∀ item ∈ items, share item = .ok (said item)) ∧
    clauses (kind.of items) = .ok ((keptOf items).flatMap said) ∧
    (clauses (kind.of items) = .ok (items.flatMap said) ↔ ∀ item ∈ items, item.isText = false) := by
  have readable : ∀ item ∈ items, share item = .ok (said item) := by
    intro item member
    exact share_said (accepted item member).readable
  have kept : clauses (kind.of items) = .ok ((keptOf items).flatMap said) := by
    rw [clauses_of, element_of, unnamed, if_neg Bool.false_ne_true]
    exact elements_kept readable
  refine ⟨readable, kept, ?_⟩
  rw [kept, ← kept_whole_iff items]
  simp

def mixed : List Value := [.map score, .str "age", .list [.str "name", .str "ASC", .str "age"]]

theorem mixed_accepted : namesFields mixed = false ∧ ∀ item ∈ mixed, Element item := by
  refine ⟨rfl, ?_⟩
  intro item member
  simp only [mixed, List.mem_cons, List.not_mem_nil, or_false] at member
  obtain rfl | rfl | rfl := member
  · exact .clause score
  · exact .name "age"
  · exact .names .list "name" ["ASC", "age"]

theorem bare_names_lost_mixed :
    namesFields mixed = false ∧ (∀ item ∈ mixed, Element item) ∧
      clauses (.tuple mixed) = .ok [.map score, ordered "name" "ASC", .str "age"] ∧
      clauses (.tuple mixed) ≠ .ok (mixed.flatMap said) := by
  obtain ⟨unnamed, accepted⟩ := mixed_accepted
  obtain ⟨-, kept, whole⟩ := bare_names_lost .tuple unnamed accepted
  refine ⟨unnamed, accepted, kept, ?_⟩
  intro same
  exact Bool.noConfusion (whole.mp same (.str "age") (by simp [mixed]))

theorem name_behind_clause :
    let items : List Value := [.map score, .str "name"]
    Element (.list items) ∧ clauses (.list items) = .ok [.map score] ∧
      clauses (.list items) ≠ .ok (items.flatMap said) := by
  refine ⟨.list .list rfl ?_, rfl, ?_⟩
  · intro item member
    simp only [List.mem_cons, List.not_mem_nil, or_false] at member
    obtain rfl | rfl := member
    · exact .clause score
    · exact .name "name"
  · intro same
    have lengths := congrArg List.length (Except.ok.inj same)
    exact absurd lengths (by decide)

end SearchStore.Sort
