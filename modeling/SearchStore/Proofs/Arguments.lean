import SearchStore.Handle.Basic
import SearchStore.Proofs.Value.Writes
namespace SearchStore
namespace Entries
variable {name : String} {entries others : Entries}

theorem Beside.keys (beside : Beside name entries others) : entries.map Prod.fst = others.map Prod.fst := by
  induction beside with
  | here v w rest => rfl
  | later entry _ _ ih => rw [List.map_cons, List.map_cons, ih]

theorem Beside.all (beside : Beside name entries others) (test : Value → Bool) :
    (entries.all fun entry => test entry.1) = others.all fun entry => test entry.1 := by
  have same := congrArg (List.all · test) beside.keys
  simpa [List.all_map, Function.comp_def] using same

end Entries

namespace Parameter
variable {p : Parameter} {parameters : List Parameter}

def accepts (parameters : List Parameter) (given : Nat) (named : Entries) : Bool :=
  Entries.hasTextKeys named && (named.all fun entry => !names (required "self" :: parameters.take given) entry.1) &&
    named.all fun entry => names parameters entry.1

theorem bind_eq (parameters : List Parameter) (positional : List Value) (named : Entries) :
    bind parameters positional named =
      if accepts parameters positional.length named then fill parameters positional named else none := by
  have leftover : (named.filter fun entry => !names parameters entry.1) = [] ↔
      (named.all fun entry => names parameters entry.1) = true := by
    simp
  unfold bind bindOpen accepts
  dsimp only
  rw [List.all_eq_not_any_not]
  simp only [Bool.not_not]
  cases Entries.hasTextKeys named &&
      !named.any fun entry => names (required "self" :: parameters.take positional.length) entry.1 with
  | false => rfl
  | true =>
    cases fill parameters positional named with
    | none => simp
    | some values =>
      cases rest : named.filter fun entry => !names parameters entry.1 with
      | nil => simp [leftover.mp rest]
      | cons entry more =>
        have refused : (named.all fun entry => names parameters entry.1) = false := by
          refine Bool.eq_false_iff.mpr fun all => ?_
          rw [leftover.mpr all] at rest
          cases rest
        simp [refused]

theorem bind_first (parameters : List Parameter) (rest : List Value) (named : Entries) :
    ∃ others : Option (List Value), ∀ v, bind (p :: parameters) (v :: rest) named = others.map (v :: ·) := by
  refine ⟨if accepts (p :: parameters) (rest.length + 1) named then fill parameters rest named else none, ?_⟩
  intro v
  rw [bind_eq, List.length_cons]
  split <;> rfl

theorem fill_beside {named others : Entries} (beside : Entries.Beside p.name named others)
    (apart : ∀ q ∈ parameters, p.name ≠ q.name) : fill parameters [] named = fill parameters [] others := by
  induction parameters with
  | nil => rfl
  | cons q rest ih =>
    obtain ⟨head, tail⟩ := List.forall_mem_cons.mp apart
    simp only [fill]
    rw [beside.get? head, ih tail]

theorem accepts_beside {named others : Entries} (beside : Entries.Beside p.name named others) (given : Nat) :
    accepts parameters given named = accepts parameters given others := by
  unfold accepts Entries.hasTextKeys
  rw [beside.all Value.isText, beside.all fun key => !names (required "self" :: parameters.take given) key,
    beside.all fun key => names parameters key]

theorem bind_named (named : Entries) (apart : ∀ q ∈ parameters, p.name ≠ q.name) :
    ∃ others : Option (List Value), ∀ v,
      bind (p :: parameters) [] (Entries.set named p.name v) = others.map (v :: ·) := by
  refine ⟨if accepts (p :: parameters) 0 (Entries.set named p.name .null) then
    fill parameters [] (Entries.set named p.name .null) else none, fun v => ?_⟩
  have beside := Entries.Beside.set named p.name v .null
  rw [bind_eq, List.length_nil, accepts_beside beside]
  split
  · simp only [fill]
    rw [Entries.get?_set_self, fill_beside beside apart]
    rfl
  · rfl

end Parameter
end SearchStore
