import SearchStore.Proofs.Handle.Bulk
import SearchStore.Proofs.Handle.Outcome
namespace SearchStore
open SearchStore.Action Session

def Operation.coversIndex : Operation → Bool
  | .putMapping | .findRaw | .find | .findAll | .countRaw | .count => true
  | .create | .createBulk | .update | .destroy => false

namespace Bulk

-- The lines at the even positions, each of which says what becomes of the document behind it.
def actionLines : List Value → List Value
  | [] => []
  | [action] => [action]
  | action :: _ :: rest => action :: actionLines rest

def target : Value → Option Value
  | .map line =>
    match Entries.get? line "index" with
    | some (.map fields) => Entries.get? fields "_index"
    | _ => none
  | _ => none

theorem actionLines_interleave (action : Value) (documents : List Value) :
    ∀ line ∈ actionLines (interleave action documents), line = action := by
  induction documents with
  | nil =>
    rintro line ⟨⟩
  | cons document rest ih =>
    intro line member
    rcases List.mem_cons.mp member with here | later
    · exact here
    · exact ih line later

end Bulk

namespace Handle
variable {h : Handle} {op : Operation} {positional values : List Value} {named : Entries} {i : Inquiry}

theorem invoke_sends (fits : Parameter.bind op.parameters positional named = some values)
    (prepared : h.prepare op values = .ok i) (s : Session) : (h.invoke op positional named s).2.calls =
      s.calls ++ if Entries.hasTextKeys i.arguments then h.sent op.method i.arguments else [] := by
  rw [invoke_asks fits prepared, ask_run rfl]
  exact call_sends h.client op.method i.arguments (s.wrote i.traces)

theorem mem_sent {method : Method} {arguments : Entries} {call : Call} {told : Bool}
    (member : call ∈ if told then h.sent method arguments else []) :
    call.method = method ∧ call.arguments = arguments := by
  cases told with
  | false => cases member
  | true =>
    obtain ⟨client, -, rfl⟩ := List.mem_map.mp member
    exact ⟨rfl, rfl⟩

theorem invoke_asked (h : Handle) (op : Operation) (positional : List Value) (named : Entries) (s : Session) :
    ∃ made, (h.invoke op positional named s).2.calls = s.calls ++ made ∧
      ∀ call ∈ made, call.method = op.method ∧
        ∃ values i, h.inquiry op values = .ok i ∧ call.arguments = i.arguments := by
  have unsent (left : (h.invoke op positional named s).2.calls = s.calls) :
      ∃ made, (h.invoke op positional named s).2.calls = s.calls ++ made ∧
        ∀ call ∈ made, call.method = op.method ∧
          ∃ values i, h.inquiry op values = .ok i ∧ call.arguments = i.arguments := by
    refine ⟨[], left.trans (List.append_nil _).symm, ?_⟩
    rintro call ⟨⟩
  cases fits : Parameter.bind op.parameters positional named with
  | none =>
    refine unsent ?_
    rw [invoke_eq, fits]
    rfl
  | some values =>
    cases prepared : h.prepare op values with
    | error ending =>
      refine unsent ?_
      rw [invoke_ends fits prepared]
      rfl
    | ok i =>
      refine ⟨_, invoke_sends fits prepared s, fun call member => ?_⟩
      obtain ⟨method, arguments⟩ := mem_sent member
      exact ⟨method, values, i, (prepare_ok prepared).2, arguments⟩

theorem payload_index {docType spec : Value} {raw : Bool} {payload : Entries}
    (built : Find.payload h.index docType spec raw = .ok payload) : Entries.get? payload "index" = some h.index := by
  unfold Find.payload at built
  split at built
  · split at built
    · cases built
      rw [Entries.get?_set_of_ne (by decide), Entries.get?_set_self]
    · cases built
  · split at built
    · cases built
      rfl
    · cases built

theorem rawPayload_index {docType body extra : Value} {payload : Entries}
    (built : h.rawPayload docType body extra = .ok payload) : Entries.get? payload "index" = some h.index := by
  unfold rawPayload at built
  cases read : (extra.orElse (.map [])).toEntries with
  | error fault =>
    rw [read] at built
    cases built
  | ok entries =>
    rw [read] at built
    cases built
    rw [Entries.get?_set_of_ne (by decide), Entries.get?_set_of_ne (by decide), Entries.get?_set_self]

theorem inquiry_index (covers : op.coversIndex = true) (asked : h.inquiry op values = .ok i) :
    Entries.get? i.arguments "index" = some h.index := by
  have kept {payload : Entries} (held : Entries.get? payload "index" = some h.index) :
      Entries.get? (h.request payload) "index" = some h.index :=
    (request_get? h (by decide) (by decide)).trans held
  have rebodied {payload : Entries} (held : Entries.get? payload "index" = some h.index) (body : Value) :
      Entries.get? (Entries.set payload "body" body) "index" = some h.index :=
    (Entries.get?_set_of_ne (by decide)).trans held
  unfold inquiry at asked
  split at asked
  · cases asked
    exact kept rfl
  · cases covers
  · cases covers
  · obtain ⟨payload, built, rest⟩ := parts_of_bind asked
    cases rest
    exact kept (rawPayload_index (ok_of_mapError built))
  · obtain ⟨payload, built, rest⟩ := parts_of_bind asked
    cases rest
    exact kept (rebodied (payload_index built) _)
  · obtain ⟨payload, built, rest⟩ := parts_of_bind asked
    cases rest
    exact kept (payload_index built)
  · obtain ⟨payload, built, rest⟩ := parts_of_bind asked
    cases rest
    exact kept (rawPayload_index (ok_of_mapError built))
  · obtain ⟨payload, built, rest⟩ := parts_of_bind asked
    obtain ⟨body, counted, rest⟩ := parts_of_bind rest
    cases rest
    exact kept (rebodied (payload_index built) _)
  · cases covers
  · cases covers
  · cases asked

theorem bulkOperations_target (h : Handle) (docType documents : Value) :
    ∀ line ∈ Bulk.actionLines (h.bulkOperations docType documents), Bulk.target line = some h.index := by
  intro line member
  rw [bulkOperations_eq] at member
  rw [Bulk.actionLines_interleave _ _ line member]
  rfl

theorem inquiry_lines (asked : h.inquiry .createBulk values = .ok i) :
    ∃ lines, Entries.get? i.arguments "body" = some (.list lines) ∧
      ∀ line ∈ Bulk.actionLines lines, Bulk.target line = some h.index := by
  match values, asked with
  | [docType, items, opts], asked =>
    obtain ⟨payload, _, rest⟩ := parts_of_bind asked
    cases rest
    exact ⟨_, Entries.get?_set_self, bulkOperations_target h docType items⟩
  | [], asked | [_], asked | [_, _], asked | _ :: _ :: _ :: _ :: _, asked => cases asked

-- Whatever the arguments bring along, a request about the index is about the index of the handle, and so is
-- every action line of a bulk request.
theorem requests_stay (h : Handle) (op : Operation) (positional : List Value) (named : Entries) (s : Session) :
    ∃ made, (h.invoke op positional named s).2.calls = s.calls ++ made ∧
      ∀ call ∈ made, call.method = op.method ∧
        (op.coversIndex = true → Entries.get? call.arguments "index" = some h.index) ∧
        (op = .createBulk → ∃ lines, Entries.get? call.arguments "body" = some (.list lines) ∧
          ∀ line ∈ Bulk.actionLines lines, Bulk.target line = some h.index) := by
  obtain ⟨made, calls, asked⟩ := invoke_asked h op positional named s
  refine ⟨made, calls, fun call member => ?_⟩
  obtain ⟨method, values, i, built, arguments⟩ := asked call member
  rw [arguments]
  refine ⟨method, fun covers => inquiry_index covers built, ?_⟩
  rintro rfl
  exact inquiry_lines built

theorem requests_stay_misled :
    let orders := Value.record [("index", .str "orders")]
    let line := Bulk.action [("_index", .str "users"), ("_type", .str "user")]
    let misled := Bulk.action [("_index", .str "orders")]
    let counted := Entries.ofFields [("index", .str "users"), ("body", .map []), ("doc_type", .str "user")]
    let stored := Entries.ofFields [("index", .str "orders"), ("body", .list [line, misled, line, misled])]
    (users.invoke .countRaw [.str "user", .map [], orders] [] {}).2.calls = [⟨.given, .count, counted⟩] ∧
      Entries.get? counted "index" = some (.str "users") ∧
    (users.invoke .createBulk [.str "user", .list [misled, misled], orders] [] {}).2.calls =
        [⟨.given, .bulk, stored⟩] ∧
      ∃ lines, Entries.get? stored "body" = some (.list lines) ∧
        ∀ line ∈ Bulk.actionLines lines, Bulk.target line = some (.str "users") := by
  intro orders line misled counted stored
  have counts : (users.invoke .countRaw [.str "user", .map [], orders] [] {}).2.calls =
      [⟨.given, .count, counted⟩] := rfl
  have stores : (users.invoke .createBulk [.str "user", .list [misled, misled], orders] [] {}).2.calls =
      [⟨.given, .bulk, stored⟩] := rfl
  obtain ⟨made, calls, stay⟩ := requests_stay users .countRaw [.str "user", .map [], orders] [] {}
  obtain ⟨made', calls', stay'⟩ :=
    requests_stay users .createBulk [.str "user", .list [misled, misled], orders] [] {}
  have same : made = [⟨.given, .count, counted⟩] := (counts.symm.trans calls).symm
  have same' : made' = [⟨.given, .bulk, stored⟩] := (stores.symm.trans calls').symm
  have member : ⟨.given, .count, counted⟩ ∈ made := same ▸ List.mem_singleton_self _
  have member' : ⟨.given, .bulk, stored⟩ ∈ made' := same' ▸ List.mem_singleton_self _
  exact ⟨counts, (stay _ member).2.1 rfl, stores, (stay' _ member').2.2 rfl⟩

end Handle
end SearchStore
