import SearchStore.Proofs.Handle.Inquiry
namespace SearchStore
open SearchStore.Action

namespace Parameter

theorem fill_length {parameters : List Parameter} {positional : List Value} {named : Entries} {values : List Value}
    (filled : fill parameters positional named = some values) : values.length = parameters.length := by
  induction parameters generalizing positional values with
  | nil =>
    cases positional with
    | nil =>
      cases filled
      rfl
    | cons v more => cases filled
  | cons p rest ih =>
    cases positional with
    | nil =>
      simp only [fill] at filled
      split at filled
      · obtain ⟨others, more, rfl⟩ := Option.map_eq_some_iff.mp filled
        exact congrArg (· + 1) (ih more)
      · cases filled
    | cons v more =>
      obtain ⟨others, more, rfl⟩ := Option.map_eq_some_iff.mp filled
      exact congrArg (· + 1) (ih more)

theorem bind_length {parameters : List Parameter} {positional : List Value} {named : Entries} {values : List Value}
    (bound : bind parameters positional named = some values) : values.length = parameters.length := by
  unfold bind at bound
  split at bound
  · rename_i filled
    cases bound
    unfold bindOpen at filled
    dsimp only at filled
    split at filled
    · obtain ⟨_, filled, same⟩ := Option.map_eq_some_iff.mp filled
      rw [← (Prod.mk.inj same).1]
      exact fill_length filled
    · cases filled
  · cases bound

end Parameter

namespace Failure

def isStore : Failure → Bool
  | .store .. => true
  | _ => false

def isValidation : Failure → Bool
  | .store .validation .. => true
  | _ => false

theorem isStore_of_isValidation {failure : Failure} (validation : failure.isValidation = true) :
    failure.isStore = true := by
  cases failure with
  | store => rfl
  | _ => cases validation

theorem isOrdinary_of_isStore {failure : Failure} (store : failure.isStore = true) :
    failure.isOrdinary = true := by
  cases failure with
  | store => rfl
  | _ => cases store

end Failure

theorem Operation.failure_blameless (op : Operation) (cause : Failure) : (op.failure cause).isValidation = false := by
  cases op <;> rfl

section Errors
variable {α β : Type} {failure : Failure}

theorem error_of_map {result : Except Failure α} {f : α → β} (failed : result.map f = .error failure) :
    result = .error failure := by
  cases result with
  | error e =>
    cases failed
    rfl
  | ok a => cases failed

theorem foreign_of_mapError {result : Except Fault α} (failed : result.mapError Failure.fault = .error failure) :
    failure.isStore = false := by
  cases result with
  | error fault =>
    cases failed
    rfl
  | ok a => cases failed

theorem ok_of_mapError {result : Except Fault α} {a : α} (done : result.mapError Failure.fault = .ok a) :
    result = .ok a := by
  cases result with
  | error fault => cases done
  | ok b =>
    cases done
    rfl

theorem error_parts_of_bind {result : Except Failure α} {f : α → Except Failure β}
    (failed : result >>= f = .error failure) :
    result = .error failure ∨ ∃ a, result = .ok a ∧ f a = .error failure := by
  cases result with
  | error e =>
    cases failed
    exact .inl rfl
  | ok a => exact .inr ⟨a, rfl, failed⟩

theorem error_of_bind_ok {result : Except Failure α} {f : α → β}
    (failed : (result >>= fun a => .ok (f a)) = .error failure) : result = .error failure := by
  rcases error_parts_of_bind failed with failed | ⟨_, _, done⟩
  · exact failed
  · cases done

theorem Verdict.result_foreign {v : Verdict α} (failed : v.result = .error failure) : failure.isStore = false := by
  cases v with
  | valid a => cases failed
  | invalid details =>
    cases failed
    rfl
  | failed fault =>
    cases failed
    rfl

theorem Found.ofResponse_foreign {response : Value} {onlySource includeId : Bool}
    (failed : Found.ofResponse response onlySource includeId = .error failure) : failure.isStore = false := by
  unfold Found.ofResponse at failed
  dsimp only at failed
  split at failed
  · exact Verdict.result_foreign failed
  · cases failed
    rfl

theorem ResultSet.ofResponse_foreign {response payload : Value} {onlySource includeId : Bool}
    (failed : ResultSet.ofResponse response onlySource includeId payload = .error failure) :
    failure.isStore = false := by
  unfold ResultSet.ofResponse at failed
  dsimp only at failed
  split at failed
  · exact Verdict.result_foreign (error_of_map failed)
  · cases failed
    rfl

end Errors

structure Ending.Mild (ending : Ending) : Prop where
  records : ∀ record ∈ ending.records, record.level = .debug
  result : ∀ failure, ending.result = .error failure → failure.isStore = false

section Mild
variable {result : Except Failure Answer}
  (foreign : ∀ failure, result = .error failure → failure.isStore = false)
include foreign

theorem Ending.silent_mild : Ending.Mild ⟨[], result⟩ := by
  refine ⟨?_, foreign⟩
  rintro record ⟨⟩

theorem Ending.skipped_mild (hits : List Value) : Ending.Mild ⟨hits.map .skippedHit, result⟩ := by
  refine ⟨?_, foreign⟩
  intro record member
  obtain ⟨hit, _, rfl⟩ := List.mem_map.mp member
  rfl

end Mild

theorem Ending.answer_mild (answer : Answer) : (Ending.answer answer).Mild := by
  refine silent_mild ?_
  rintro failure ⟨⟩

structure Inquiry.Sound (i : Inquiry) : Prop where
  traces : ∀ record ∈ i.traces, record.level = .debug ∧ record.failure = none
  excused : i.excused.Mild
  answered : ∀ response, (i.answered response).Mild

namespace Handle
variable {h : Handle} {op : Operation} {positional values : List Value} {named : Entries} {i : Inquiry}
  {s t : Session}

theorem traced_debug {on : Bool} {template : String} {arguments : List Value} {record : Record}
    (member : record ∈ h.traced on template arguments) : record.level = .debug ∧ record.failure = none := by
  cases on with
  | true =>
    cases List.mem_singleton.mp member
    exact ⟨rfl, rfl⟩
  | false => cases member

theorem counted_mild (response : Value) : (counted response).Mild := by
  refine Ending.silent_mild ?_
  intro failure failed
  exact foreign_of_mapError (error_of_map failed)

theorem inquiry_sound (asked : h.inquiry op values = .ok i) : i.Sound := by
  unfold inquiry at asked
  split at asked
  · cases asked
    refine ⟨fun _ => traced_debug, Ending.answer_mild _, fun response => ⟨?_, ?_⟩⟩
    · intro record member
      cases List.mem_singleton.mp member
      rfl
    · rintro failure ⟨⟩
  · obtain ⟨payload, _, rest⟩ := parts_of_bind asked
    cases rest
    exact ⟨fun _ => traced_debug, Ending.answer_mild _, fun response => Ending.answer_mild _⟩
  · obtain ⟨payload, _, rest⟩ := parts_of_bind asked
    cases rest
    exact ⟨fun _ => traced_debug, Ending.answer_mild _, fun response => Ending.answer_mild _⟩
  · obtain ⟨payload, _, rest⟩ := parts_of_bind asked
    cases rest
    exact ⟨fun _ => traced_debug, Ending.answer_mild _, fun response => Ending.answer_mild _⟩
  · obtain ⟨payload, _, rest⟩ := parts_of_bind asked
    cases rest
    refine ⟨fun _ => traced_debug, Ending.answer_mild _, fun response => Ending.skipped_mild ?_ _⟩
    exact fun failure failed => Found.ofResponse_foreign (error_of_map failed)
  · obtain ⟨payload, _, rest⟩ := parts_of_bind asked
    cases rest
    refine ⟨fun _ => traced_debug, Ending.silent_mild ?_, fun response => Ending.skipped_mild ?_ _⟩
    · exact fun failure failed => ResultSet.ofResponse_foreign (error_of_map failed)
    · exact fun failure failed => ResultSet.ofResponse_foreign (error_of_map failed)
  · obtain ⟨payload, _, rest⟩ := parts_of_bind asked
    cases rest
    exact ⟨fun _ => traced_debug, Ending.answer_mild _, counted_mild⟩
  · obtain ⟨payload, _, rest⟩ := parts_of_bind asked
    obtain ⟨body, _, rest⟩ := parts_of_bind rest
    cases rest
    exact ⟨fun _ => traced_debug, Ending.answer_mild _, counted_mild⟩
  · cases asked
    exact ⟨fun _ => traced_debug, Ending.answer_mild _, fun response => Ending.answer_mild _⟩
  · cases asked
    refine ⟨fun _ => traced_debug, ⟨fun _ member => (traced_debug member).1, ?_⟩,
      fun response => Ending.answer_mild _⟩
    rintro failure ⟨⟩
  · cases asked

theorem prepare_ok (prepared : h.prepare op values = .ok i) :
    flaw op values = none ∧ h.inquiry op values = .ok i := by
  unfold prepare at prepared
  cases flawed : flaw op values with
  | some flaw =>
    rw [flawed] at prepared
    cases prepared
  | none =>
    rw [flawed] at prepared
    refine ⟨rfl, ?_⟩
    cases asked : h.inquiry op values with
    | error failure =>
      rw [asked] at prepared
      cases prepared
    | ok j =>
      rw [asked] at prepared
      cases prepared
      rfl

theorem prepare_error {ending : Ending} (prepared : h.prepare op values = .error ending) :
    (∃ flaw, Handle.flaw op values = some flaw ∧ ending = h.objection op flaw) ∨
      flaw op values = none ∧ ∃ failure, h.inquiry op values = .error failure ∧ ending = ⟨[], .error failure⟩ := by
  unfold prepare at prepared
  cases flawed : flaw op values with
  | some flaw =>
    rw [flawed] at prepared
    cases prepared
    exact .inl ⟨flaw, rfl, rfl⟩
  | none =>
    rw [flawed] at prepared
    refine .inr ⟨rfl, ?_⟩
    cases asked : h.inquiry op values with
    | error failure =>
      rw [asked] at prepared
      cases prepared
      exact ⟨failure, rfl, rfl⟩
    | ok j =>
      rw [asked] at prepared
      cases prepared

theorem ask_run {result : Except Failure Value}
    (asked : Session.call h.client op.method i.arguments (s.wrote i.traces) = (result, t)) :
    h.ask op i s = ((h.conclude op i result).result, t.wrote (h.conclude op i result).records) := by
  have traced : h.ask op i s = (do
      let result ← attempt (Session.call h.client op.method i.arguments)
      (h.conclude op i result).act) (s.wrote i.traces) := bind_ok (Session.logAll_run i.traces s)
  rw [traced, bind_ok (attempt_run asked)]
  exact Ending.act_run _ t

theorem invoke_eq (h : Handle) (op : Operation) (positional : List Value) (named : Entries) :
    h.invoke op positional named = match Parameter.bind op.parameters positional named with
      | some values => h.follow op (h.prepare op values)
      | none => fail (.fault .wrongKind) := by
  unfold invoke
  cases fits : Parameter.bind op.parameters positional named with
  | none => rfl
  | some values => exact run_eq (Parameter.bind_length fits)

theorem invoke_asks (fits : Parameter.bind op.parameters positional named = some values)
    (prepared : h.prepare op values = .ok i) : h.invoke op positional named = h.ask op i := by
  rw [invoke_eq, fits]
  dsimp only
  rw [prepared]
  rfl

theorem invoke_ends {ending : Ending} (fits : Parameter.bind op.parameters positional named = some values)
    (prepared : h.prepare op values = .error ending) (s : Session) :
    h.invoke op positional named s = (ending.result, s.wrote ending.records) := by
  rw [invoke_eq, fits]
  dsimp only
  rw [prepared]
  exact Ending.act_run ending s

end Handle
end SearchStore
