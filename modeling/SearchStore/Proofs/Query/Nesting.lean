import Mathlib.Data.List.OfFn
import SearchStore.Query.Find
namespace SearchStore.Sort

inductive Kind where
  | list | tuple

def Kind.of : Kind → List Value → Value
  | .list, items => .list items
  | .tuple, items => .tuple items

mutual
-- A leaf names fields and directions in turn; it is never empty.
inductive Tree where
  | leaf (kind : Kind) (first : String) (others : List String)
  | node (kind : Kind) (members : Members)
inductive Members where
  | nil
  | clause (entries : Entries) (rest : Members)
  | tree (tree : Tree) (rest : Members)
end

mutual
def Tree.value : Tree → Value
  | .leaf kind first others => kind.of ((first :: others).map .str)
  | .node kind members => kind.of members.values
def Members.values : Members → List Value
  | .nil => []
  | .clause entries rest => .map entries :: rest.values
  | .tree tree rest => tree.value :: rest.values
end

inductive Part where
  | names (first : String) (others : List String)
  | clause (entries : Entries)

mutual
def Tree.parts : Tree → List Part
  | .leaf _ first others => [.names first others]
  | .node _ members => members.parts
def Members.parts : Members → List Part
  | .nil => []
  | .clause entries rest => .clause entries :: rest.parts
  | .tree tree rest => tree.parts ++ rest.parts
end

def ordered (field direction : String) : Value :=
  .record [(field, .record [("order", .str (Text.lower direction)), ("unmapped_type", .bool true)])]

-- A clause for every two names, and the last name as it is if their number is odd.
def ofNames (names : List String) : List Value :=
  (List.ofFn fun i : Fin (names.length / 2) =>
    ordered (names.get ⟨2 * i, by omega⟩) (names.get ⟨2 * i + 1, by omega⟩)) ++
    if names.length % 2 = 1 then names.getLast?.toList.map .str else []

def Part.clauses : Part → List Value
  | .names first others => ofNames (first :: others)
  | .clause entries => [.map entries]

theorem ofNames_cons (field direction : String) (rest : List String) :
    ofNames (field :: direction :: rest) = ordered field direction :: ofNames rest := by
  have half : (field :: direction :: rest).length / 2 = rest.length / 2 + 1 := by
    rw [List.length_cons, List.length_cons]
    omega
  have odd : (field :: direction :: rest).length % 2 = rest.length % 2 := by
    rw [List.length_cons, List.length_cons]
    omega
  unfold ofNames
  rw [List.ofFn_congr half, List.ofFn_succ, odd, List.cons_append]
  congr 2
  split
  · cases rest with
    | nil => contradiction
    | cons last more => simp
  · rfl

theorem pairs_names (names : List String) : pairs (names.map .str) = .ok (ofNames names) := by
  match names with
  | [] => rfl
  | [last] => simp [pairs, ofNames]
  | field :: direction :: rest =>
    rw [ofNames_cons, List.map_cons, List.map_cons, pairs, pairs_names rest]
    rfl

theorem namesFields_values (members : Members) : namesFields members.values = false := by
  cases members with
  | nil => rfl
  | clause entries rest => rfl
  | tree tree rest =>
    cases tree with
    | leaf kind first others => cases kind <;> rfl
    | node kind inner => cases kind <;> rfl

theorem element_of (kind : Kind) (items : List Value) :
    element (kind.of items) = if namesFields items then pairs items else elements items := by
  cases kind <;> rw [Kind.of, element]

mutual
theorem element_value (tree : Tree) : element tree.value = .ok (tree.parts.flatMap Part.clauses) := by
  cases tree with
  | leaf kind first others =>
    have named : namesFields ((first :: others).map .str) = true := rfl
    rw [Tree.value, element_of, named, if_pos rfl, pairs_names, Tree.parts, List.flatMap_singleton]
    rfl
  | node kind members =>
    rw [Tree.value, element_of, namesFields_values, if_neg Bool.false_ne_true, elements_values members, Tree.parts]
theorem elements_values (members : Members) :
    elements members.values = .ok (members.parts.flatMap Part.clauses) := by
  cases members with
  | nil => rfl
  | clause entries rest =>
    rw [Members.values, elements, elements_values rest]
    rfl
  | tree tree rest =>
    rw [Members.values, elements, element_value tree, elements_values rest, Members.parts, List.flatMap_append]
    rfl
end

theorem clauses_value (tree : Tree) : clauses tree.value = element tree.value := by
  cases tree with
  | leaf kind first others => cases kind <;> rfl
  | node kind members => cases kind <;> rfl

theorem clauses_flattened (tree : Tree) :
    clauses tree.value = .ok (tree.parts.flatMap Part.clauses) ∧
    ∀ other : Tree, other.parts = tree.parts → clauses other.value = clauses tree.value := by
  have flattened (tree : Tree) : clauses tree.value = .ok (tree.parts.flatMap Part.clauses) := by
    rw [clauses_value, element_value]
  refine ⟨flattened tree, ?_⟩
  intro other same
  rw [flattened, flattened, same]

def score : Entries := Entries.ofFields [("_score", .str "desc")]

def grouped : Tree :=
  .node .list (.tree (.leaf .list "name" ["ASC"]) (.tree (.node .list (.clause score .nil))
    (.tree (.node .list (.tree (.leaf .list "age" ["desc", "id"]) .nil)) .nil)))

def ungrouped : Tree :=
  .node .tuple (.tree (.leaf .tuple "name" ["ASC"]) (.clause score (.tree (.leaf .list "age" ["desc", "id"]) .nil)))

theorem clauses_flattened_grouped :
    ungrouped.parts = grouped.parts ∧ clauses ungrouped.value = clauses grouped.value ∧
      clauses grouped.value = .ok [ordered "name" "ASC", .map score, ordered "age" "desc", .str "id"] := by
  have same : ungrouped.parts = grouped.parts := rfl
  obtain ⟨flattened, regrouped⟩ := clauses_flattened grouped
  exact ⟨same, regrouped ungrouped same, flattened⟩

end SearchStore.Sort
