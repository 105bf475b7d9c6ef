import SearchStore.Proofs.Client.Ledger
import SearchStore.Proofs.Handle.Outcome
import SearchStore.Proofs.Handle.Selection
namespace SearchStore
open SearchStore.Action Session

namespace Operation

def emptyAnswer : Operation → Value
  | .count => .record [("count", .int 0)]
  | _ => emptyResponse

end Operation

namespace Handle
variable {h : Handle} {op : Operation} {positional values : List Value} {named : Entries} {i : Inquiry}
  {s t : Session} {failure : Failure}

def hidden : Failure := .client "EngineError" "" [("status_code", .int 404),
  ("info", .record [("error", .record [("type", .str "index_not_found_exception")])])]

theorem ask_alike {one other : Reply}
    (alike : h.conclude op i (one.result op.method) = h.conclude op i (other.result op.method)) (s : Session)
    (rest : List Reply) :
    let first := h.ask op i (s.expecting (one :: rest))
    let second := h.ask op i (s.expecting (other :: rest))
    first.1 = second.1 ∧ first.2.calls = second.2.calls ∧ first.2.records = second.2.records := by
  intro first second
  rcases call_ways h.client op.method i.arguments with ⟨fault, failed⟩ | ⟨c, performed⟩
  · have ran := ask_run (failed ((s.expecting (one :: rest)).wrote i.traces))
    have ran' := ask_run (failed ((s.expecting (other :: rest)).wrote i.traces))
    change first = _ at ran
    change second = _ at ran'
    rw [ran, ran']
    exact ⟨rfl, rfl, rfl⟩
  · have asked (reply : Reply) : h.ask op i (s.expecting (reply :: rest)) =
        ((h.conclude op i (reply.result op.method)).result,
          (((s.expecting (reply :: rest)).wrote i.traces).exchanged ⟨c, op.method, i.arguments⟩).wrote
            (h.conclude op i (reply.result op.method)).records) :=
      ask_run (performed ((s.expecting (reply :: rest)).wrote i.traces))
    have ran : first = _ := asked one
    have ran' : second = _ := asked other
    rw [ran, ran', alike]
    refine ⟨rfl, ?_, ?_⟩
    · simp [wrote, exchanged, calls, expecting]
    · exact (call_records (performed _)).trans (call_records (s := s.expecting (other :: rest)) (performed _)).symm

-- What an operation makes of a missing index is what it makes of an empty one.
theorem excused_empty (searching : op = .find ∨ op = .findAll ∨ op = .count) {docType query raw : Value}
    (asked : h.inquiry op [docType, query, raw] = .ok i) : i.excused = i.answered op.emptyAnswer := by
  rcases searching with rfl | rfl | rfl
  · obtain ⟨payload, _, rest⟩ := parts_of_bind asked
    cases rest
    rfl
  · obtain ⟨payload, _, rest⟩ := parts_of_bind asked
    cases rest
    rfl
  · obtain ⟨payload, _, rest⟩ := parts_of_bind asked
    obtain ⟨body, _, rest⟩ := parts_of_bind rest
    cases rest
    rfl

theorem missing_as_empty (h : Handle) {op : Operation} (searching : op = .find ∨ op = .findAll ∨ op = .count)
    (docType : String) (query raw : Value) {failure : Failure} (ordinary : failure.isOrdinary = true)
    (missing : failure.isIndexMissing = true) (s : Session) (rest : List Reply) :
    let missed := h.run op [.str docType, query, raw] (s.expecting (.raised failure :: rest))
    let empty := h.run op [.str docType, query, raw] (s.expecting (.returned op.emptyAnswer :: rest))
    missed.1 = empty.1 ∧ missed.2.calls = empty.2.calls ∧ missed.2.records = empty.2.records := by
  have fits : [Value.str docType, query, raw].length = op.parameters.length := by
    rcases searching with rfl | rfl | rfl <;> rfl
  have excuses : op.excuses failure = true := by
    rcases searching with rfl | rfl | rfl <;> exact missing
  rw [run_eq fits]
  cases prepared : h.prepare op [.str docType, query, raw] with
  | error ending =>
    intro missed empty
    have ran : missed = _ := Ending.act_run ending (s.expecting (.raised failure :: rest))
    have ran' : empty = _ := Ending.act_run ending (s.expecting (.returned op.emptyAnswer :: rest))
    rw [ran, ran']
    exact ⟨rfl, rfl, rfl⟩
  | ok i =>
    refine ask_alike ?_ s rest
    have taken : h.conclude op i (.error failure) = i.excused := by simp [conclude, ordinary, excuses]
    exact taken.trans (excused_empty searching (prepare_ok prepared).2)

theorem missing_as_empty_paged :
    let query := Value.record [("where", .record [("term", .record [("name", .str "ada")])]), ("limit", .int 10),
      ("offset", .int 25)]
    let missed := users.run .findAll [.str "user", query, .bool false] { replies := [.raised hidden] }
    let empty := users.run .findAll [.str "user", query, .bool false] { replies := [.returned emptyResponse] }
    hidden.isOrdinary = true ∧ hidden.isIndexMissing = true ∧
      missed.1 = empty.1 ∧ missed.2.calls = empty.2.calls ∧ missed.2.records = empty.2.records := by
  intro query missed empty
  have missing : hidden.isIndexMissing = true := by decide +kernel
  exact ⟨rfl, missing, missing_as_empty users (.inr (.inl rfl)) "user" query (.bool false) rfl missing {} []⟩

end Handle
end SearchStore
