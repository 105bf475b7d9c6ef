import SearchStore.Json
import SearchStore.Proofs.Action
import SearchStore.Value.Access
namespace SearchStore.Json
variable {cs rest : List Char} {v : Value} {text inner : String}

theorem skipSpace_length_le (cs : List Char) : (skipSpace cs).length ≤ cs.length :=
  (List.dropWhile_suffix isSpace).length_le

theorem textBody_length {done : List Char} (read : textBody done cs = some (text, rest)) :
    text.length < done.length + cs.length := by
  fun_induction textBody done cs with
  | case1 => cases read
  | case2 =>
    cases read
    simp
  | case3 _ _ _ _ _ _ _ _ _ _ _ _ _ _ _ _ ih | case10 _ _ _ _ _ _ _ _ ih =>
    have shorter := ih read
    simp only [List.length_cons] at shorter ⊢
    omega
  | case4 _ _ _ _ _ _ _ _ _ _ _ _ _ _ _ _ ih | case5 _ _ _ _ _ _ _ _ _ _ _ _ _ _ _ _ ih =>
    have shorter := ih read
    simp only [List.length_cons] at shorter ⊢
    omega
  | case6 => cases read
  | case7 _ _ _ _ _ _ _ ih | case8 _ _ _ _ _ ih =>
    obtain ⟨_, -, read⟩ := Option.bind_eq_some_iff.mp read
    have shorter := ih _ read
    simp only [List.length_cons] at shorter ⊢
    omega
  | case9 => cases read

def Single (v : Value) : Prop := v.items = .error .wrongKind

theorem name?_single (read : name? cs = some (v, rest)) : Single v := by
  unfold name? at read
  split at read <;> cases read <;> rfl

theorem scanned_single {empty whole long : Prop} [Decidable empty] [Decidable whole] [Decidable long] {n : Int}
    {x : Binary64} {left : List Char}
    (read : (if empty then .error .malformed else if whole then if long then .error .tooLong else .ok (.int n, left)
      else .ok (.float x, left) : Except Refusal (Value × List Char)) = .ok (v, rest)) : Single v := by
  split at read
  · cases read
  · split at read
    · split at read
      · cases read
      · cases read
        rfl
    · cases read
      rfl

theorem number_single (read : number cs = .ok (v, rest)) : Single v := by
  unfold number at read
  dsimp only at read
  exact scanned_single read

-- What a value is made of, by the character that it begins with.
inductive Begun (cs rest : List Char) : Value → Prop
  | text {tail : List Char} {text : String} (opened : cs = '"' :: tail)
      (body : textBody [] tail = some (text, rest)) : Begun cs rest (.str text)
  | empty : Begun cs rest (.list [])
  | items {fuel : Nat} {tail : List Char} {found : List Value} (opened : cs = '[' :: tail)
      (body : items fuel (skipSpace tail) = .ok (found, rest)) : Begun cs rest (.list found)
  | mapping (entries : Entries) : Begun cs rest (.map entries)
  | single {v : Value} (single : Single v) : Begun cs rest v

theorem value_begun {fuel : Nat} (read : value fuel cs = .ok (v, rest)) : Begun cs rest v := by
  cases fuel with
  | zero =>
    unfold value at read
    cases read
  | succ fuel =>
    unfold value at read
    dsimp only at read
    split at read
    · split at read
      · rename_i body
        cases read
        exact .text rfl body
      · cases read
    · split at read
      · cases read
        exact .empty
      · obtain ⟨⟨_, _⟩, body, same⟩ := parts_of_bind read
        cases same
        exact .items rfl body
    · split at read
      · cases read
        exact .mapping _
      · obtain ⟨⟨_, _⟩, -, same⟩ := parts_of_bind read
        cases same
        exact .mapping _
    · split at read
      · rename_i name
        cases read
        exact .single (name?_single name)
      · exact .single (number_single read)

theorem items_first {fuel : Nat} {others : List Value} (read : items fuel cs = .ok (v :: others, rest)) :
    ∃ fuel left, value fuel (skipSpace cs) = .ok (v, left) := by
  cases fuel with
  | zero =>
    unfold items at read
    cases read
  | succ fuel =>
    unfold items at read
    obtain ⟨⟨item, left⟩, first, later⟩ := parts_of_bind read
    dsimp only at later
    split at later
    · obtain ⟨⟨_, _⟩, -, same⟩ := parts_of_bind later
      cases same
      exact ⟨fuel, left, first⟩
    · cases later
      exact ⟨fuel, left, first⟩
    · cases later

theorem value_text {fuel : Nat} (read : value fuel cs = .ok (.str text, rest)) : text.length < cs.length := by
  cases value_begun read with
  | text opened body =>
    have shorter := textBody_length body
    rw [opened]
    simp only [List.length_nil, List.length_cons] at shorter ⊢
    omega
  | single single => cases single

theorem value_list {fuel : Nat} {others : List Value} (read : value fuel cs = .ok (.list (.str text :: others), rest)) :
    text.length < cs.length := by
  cases value_begun read with
  | @items _ tail _ opened body =>
    obtain ⟨_, _, first⟩ := items_first body
    have shorter := value_text first
    have trimmed := Nat.le_trans (skipSpace_length_le (skipSpace tail)) (skipSpace_length_le tail)
    rw [opened, List.length_cons]
    omega
  | single single => cases single

theorem read_value (read : Json.read text = .ok v) :
    ∃ fuel rest, value fuel (skipSpace text.toList) = .ok (v, rest) := by
  unfold Json.read at read
  obtain ⟨⟨found, rest⟩, whole, ended⟩ := parts_of_bind read
  dsimp only at ended
  split at ended
  · cases ended
    exact ⟨_, rest, whole⟩
  · cases ended

theorem read_text (read : Json.read text = .ok (.str inner)) : inner.length < text.length := by
  obtain ⟨_, _, read⟩ := read_value read
  exact Nat.lt_of_lt_of_le (value_text read) (skipSpace_length_le text.toList)

theorem read_list {others : List Value} (read : Json.read text = .ok (.list (.str inner :: others))) :
    inner.length < text.length := by
  obtain ⟨_, _, read⟩ := read_value read
  exact Nat.lt_of_lt_of_le (value_list read) (skipSpace_length_le text.toList)

-- No value begins with the letter that the schemes of URLs begin with.
theorem read_scheme (opened : text.toList = 'h' :: rest) : Json.read text = .error .malformed := by
  have unread : ∀ fuel, value (fuel + 1) ('h' :: rest) = .error .malformed := fun fuel => by
    unfold value
    rfl
  have kept : skipSpace ('h' :: rest) = 'h' :: rest := rfl
  unfold Json.read
  rw [opened]
  dsimp only
  rw [kept, unread]
  rfl

theorem parse_eq_some : parse text = some v ↔ Json.read text = .ok v := by
  unfold parse
  cases Json.read text <;> simp [Except.toOption]

end SearchStore.Json
