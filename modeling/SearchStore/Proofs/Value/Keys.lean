import SearchStore.Value.Basic
namespace SearchStore

-- What a number is compared by: an infinity by its sign, any other by its rational.
def Number.measure? : Number → Option (Rat ⊕ Bool)
  | .whole n => some (.inl n)
  | .real (.infinite negative) => some (.inr negative)
  | .real x => x.rat?.map .inl

theorem Number.same_iff (a b : Number) :
    a.same b = true ↔ a.measure? = b.measure? ∧ a.measure?.isSome := by
  cases a with
  | whole n =>
    cases b with
    | whole m => simp [same, measure?]
    | real x => cases x <;> simp [same, measure?, Binary64.rat?, @eq_comm _ (n : Rat)]
  | real x =>
    cases b with
    | whole m => cases x <;> simp [same, measure?, Binary64.rat?]
    | real y => cases x <;> cases y <;> simp [same, measure?, Binary64.same, Binary64.rat?]

theorem Number.same_comm (a b : Number) : a.same b = b.same a := by
  rw [Bool.eq_iff_iff, Number.same_iff, Number.same_iff]
  constructor
  · rintro ⟨equal, some⟩
    exact ⟨equal.symm, equal ▸ some⟩
  · rintro ⟨equal, some⟩
    exact ⟨equal.symm, equal ▸ some⟩

theorem Number.same_congr {a b : Number} (same : a.same b = true) (c : Number) : a.same c = b.same c := by
  obtain ⟨equal, -⟩ := (Number.same_iff a b).mp same
  rw [Bool.eq_iff_iff, Number.same_iff, Number.same_iff, equal]

namespace Value

theorem sameKey_number {a : Value} {x : Number} (number : a.number? = some x) (b : Value) :
    a.sameKey b = b.number?.any x.same := by
  cases a with
  | bool | int | float => cases b <;> cases number <;> rfl
  | _ => cases number

mutual
theorem sameKey_comm (a b : Value) : a.sameKey b = b.sameKey a := by
  cases a with
  | tuple xs =>
    cases b with
    | tuple ys => exact sameKeys_comm xs ys
    | _ => rfl
  | str s =>
    cases b with
    | str t => exact Bool.beq_comm
    | _ => rfl
  | _ => cases b <;> simp [sameKey, number?, Number.same_comm]
theorem sameKeys_comm (xs ys : List Value) : sameKeys xs ys = sameKeys ys xs := by
  cases xs with
  | nil => cases ys <;> rfl
  | cons x others =>
    cases ys with
    | nil => rfl
    | cons y rest => rw [sameKeys, sameKeys, sameKey_comm x y, sameKeys_comm others rest]
end

theorem sameKey_congr_number {a b : Value} {x : Number} (number : a.number? = some x)
    (same : a.sameKey b = true) (c : Value) : a.sameKey c = b.sameKey c := by
  rw [sameKey_number number, Option.any_eq_true] at same
  obtain ⟨y, numbered, same⟩ := same
  rw [sameKey_number number, sameKey_number numbered]
  cases c.number? with
  | none => rfl
  | some z => exact Number.same_congr same z

mutual
theorem sameKey_congr {a b : Value} (same : a.sameKey b = true) (c : Value) : a.sameKey c = b.sameKey c := by
  cases a with
  | null => cases b <;> first | rfl | cases same
  | str s =>
    cases b with
    | str t => rw [eq_of_beq same]
    | _ => cases same
  | tuple xs =>
    cases b with
    | tuple ys =>
      cases c with
      | tuple zs => exact sameKeys_congr same zs
      | _ => rfl
    | _ => cases same
  | list | map => cases b <;> cases same
  | bool | int | float => exact sameKey_congr_number rfl same c
theorem sameKeys_congr {xs ys : List Value} (same : sameKeys xs ys = true) (zs : List Value) :
    sameKeys xs zs = sameKeys ys zs := by
  cases xs with
  | nil =>
    cases ys with
    | nil => rfl
    | cons y rest => cases same
  | cons x others =>
    cases ys with
    | nil => cases same
    | cons y rest =>
      obtain ⟨first, more⟩ := Bool.and_eq_true_iff.mp same
      cases zs with
      | nil => rfl
      | cons z tail => rw [sameKeys, sameKeys, sameKey_congr first z, sameKeys_congr more tail]
end

theorem sameKey_self {a b : Value} (same : a.sameKey b = true) : a.sameKey a = true := by
  rw [sameKey_congr same, sameKey_comm, same]

theorem sameKey_unequal {a : Value} (unequal : a.sameKey a = false) (b : Value) : b.sameKey a = false := by
  refine Bool.eq_false_iff.mpr fun same => ?_
  rw [sameKey_comm] at same
  rw [sameKey_self same] at unequal
  cases unequal

end Value
end SearchStore
