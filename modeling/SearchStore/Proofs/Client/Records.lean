import SearchStore.Proofs.Client.Script
namespace SearchStore.Session
open SearchStore.Action

def wrote (s : Session) (records : List Record) : Session :=
  { s with records := s.records ++ records.filter fun record => s.threshold ≤ record.level.number }

section Wrote
variable {s : Session}

theorem wrote_nil (s : Session) : s.wrote [] = s := by simp [wrote]

theorem wrote_append (s : Session) (first rest : List Record) :
    s.wrote (first ++ rest) = (s.wrote first).wrote rest := by
  simp only [wrote, List.filter_append, List.append_assoc]
  rfl

theorem log_run (record : Record) (s : Session) : log record s = (.ok (), s.wrote [record]) := by
  change (Except.ok (), s.logged record) = _
  unfold logged wrote
  split <;> simp [*]

theorem logAll_run (records : List Record) (s : Session) : logAll records s = (.ok (), s.wrote records) := by
  induction records generalizing s with
  | nil =>
    rw [wrote_nil]
    rfl
  | cons record rest ih =>
    have first : logAll (record :: rest) s = logAll rest (s.wrote [record]) := bind_ok (log_run record s)
    rw [first, ih, ← wrote_append]
    rfl

theorem logAll_one (record : Record) : logAll [record] = log record := by
  funext s
  rw [logAll_run, log_run]

end Wrote

section Calls
variable {client : Option Client} {method : Method} {arguments : Entries} {s t : Session}

theorem call_run (c : Client) (method : Method) (named : Entries.hasTextKeys arguments = true) (s : Session) :
    call (some c) method arguments s = (s.next.result method, s.exchanged ⟨c, method, arguments⟩) := by
  rw [← perform_eq ⟨c, method, arguments⟩ s]
  simp [call, named]

theorem call_ways (client : Option Client) (method : Method) (arguments : Entries) :
    (∃ fault, ∀ s, call client method arguments s = (.error (.fault fault), s)) ∨
      ∃ c, ∀ s, call client method arguments s = (s.next.result method, s.exchanged ⟨c, method, arguments⟩) := by
  cases client with
  | none => exact .inl ⟨.noMember, fun _ => rfl⟩
  | some c =>
    by_cases named : Entries.hasTextKeys arguments
    · exact .inr ⟨c, call_run c method named⟩
    · refine .inl ⟨.wrongKind, fun s => ?_⟩
      simp only [call, named]
      rfl

theorem call_calls (client : Option Client) (method : Method) (arguments : Entries) (s : Session) :
    ∃ made, made.length ≤ 1 ∧ (call client method arguments s).2.calls = s.calls ++ made := by
  rcases call_ways client method arguments with ⟨fault, failed⟩ | ⟨c, performed⟩
  · exact ⟨[], by simp, by simp [failed]⟩
  · refine ⟨[⟨c, method, arguments⟩], Nat.le_refl 1, ?_⟩
    rw [performed]
    simp [calls, exchanged]

theorem call_records {records rest : List Record} {result : Except Failure Value}
    (ran : call client method arguments (s.wrote records) = (result, t)) :
    (t.wrote rest).records = (s.wrote (records ++ rest)).records := by
  have same : t.records = (s.wrote records).records ∧ t.threshold = s.threshold := by
    rcases call_ways client method arguments with ⟨fault, failed⟩ | ⟨c, performed⟩
    · cases (failed _).symm.trans ran
      exact ⟨rfl, rfl⟩
    · cases (performed _).symm.trans ran
      exact ⟨rfl, rfl⟩
  rw [wrote_append]
  change t.records ++ rest.filter (fun record => t.threshold ≤ record.level.number) = _
  rw [same.1, same.2]
  rfl

end Calls
end SearchStore.Session
