import SearchStore.Query.Bulk
import SearchStore.Handle.Invoke
import SearchStore.Proofs.Handle.Selection
import SearchStore.Proofs.Value.Writes
namespace SearchStore.Bulk

theorem interleave_cons (action document : Value) (rest : List Value) :
    interleave action (document :: rest) = action :: document :: interleave action rest := rfl

theorem length_interleave (action : Value) (documents : List Value) :
    (interleave action documents).length = 2 * documents.length := by
  induction documents with
  | nil => rfl
  | cons document rest ih =>
    simp only [interleave_cons, List.length_cons, ih]
    omega

theorem interleave_places (action : Value) (documents : List Value) (i : Nat) (inside : i < documents.length) :
    (interleave action documents)[2 * i]? = some action ∧
      (interleave action documents)[2 * i + 1]? = some documents[i] := by
  induction documents generalizing i with
  | nil => cases inside
  | cons document rest ih =>
    rw [interleave_cons]
    cases i with
    | zero => exact ⟨rfl, rfl⟩
    | succ i =>
      have earlier : i < rest.length := by simpa using inside
      have places := ih i earlier
      have moved : 2 * (i + 1) = 2 * i + 2 := by omega
      simpa [moved] using places

theorem untyped_interleave (action : Value) (documents : List Value) :
    untyped (interleave action documents) = interleave (withoutType action) documents := by
  induction documents with
  | nil => rfl
  | cons document rest ih => rw [interleave_cons, untyped, ih, interleave_cons]

theorem withoutType_action (index docType : Value) :
    withoutType (action [("_index", index), ("_type", docType)]) = action [("_index", index)] := rfl

theorem untyped_operations (index docType documents : Value) :
    untyped (operations index docType documents) = interleave (action [("_index", index)]) (items documents) := by
  rw [operations, untyped_interleave, withoutType_action]

end SearchStore.Bulk

namespace SearchStore.Handle
open SearchStore.Action SearchStore.Session

def actionLine (h : Handle) (docType : Value) : Value :=
  Bulk.action (("_index", h.index) :: if h.docTypes then [("_type", docType)] else [])

theorem bulkOperations_eq (h : Handle) (docType documents : Value) :
    h.bulkOperations docType documents = Bulk.interleave (h.actionLine docType) (Bulk.items documents) := by
  unfold bulkOperations actionLine
  cases h.docTypes with
  | true => rfl
  | false => exact Bulk.untyped_operations h.index docType documents

theorem createBulk_makes (h : Handle) (docType : String) (documents : Value) {opts : Entries}
    (named : Entries.hasTextKeys opts = true) :
    Makes (h.sent .bulk (Entries.set opts "body" (.list (h.bulkOperations (.str docType) documents))))
      (h.createBulk (.str docType) documents (.map opts)) := by
  have read : ((Value.map opts).orElse (.map [])).toEntries = .ok opts := by
    cases opts with
    | nil => rfl
    | cons entry rest => rfl
  unfold createBulk
  rw [read]
  have texts : Entries.hasTextKeys (Entries.set opts "body"
      (.list (h.bulkOperations (.str docType) documents))) = true := Entries.hasTextKeys_set named
  have asked := (call_makes h.client .bulk texts).rescue fun failure =>
    refused_silent h .createBulk [.str docType] failure
  cases on : h.debug.create with
  | true => exact log_makes _ asked
  | false => exact asked

theorem createBulk_single (h : Handle) (docType opts : Value) {single : Value}
    (alone : ∀ items, single ≠ .list items ∧ single ≠ .tuple items) :
    h.createBulk docType single opts = h.createBulk docType (.list [single]) opts := by
  have one : Bulk.items single = [single] := by
    cases single with
    | list items => exact absurd rfl (alone items).1
    | tuple items => exact absurd rfl (alone items).2
    | _ => rfl
  have same : Bulk.items (.list [single]) = [single] := rfl
  unfold createBulk bulkOperations Bulk.operations
  rw [one, same]

-- However it ends, a bulk request carries every document as it is and in order, each behind an action line that
-- names the handle's index, and the type only where types are known. What the options say of a body is replaced.
-- A document that is handed over alone is stored like a list of one.
theorem documents_interleaved (h : Handle) (docType : String) {documents : Value} {items : List Value}
    (listed : documents = .list items ∨ documents = .tuple items) {opts : Entries}
    (named : Entries.hasTextKeys opts = true) (s : Session) :
    (∃ lines,
      (h.createBulk (.str docType) documents (.map opts) s).2.calls =
        s.calls ++ h.sent .bulk (Entries.set opts "body" (.list lines)) ∧
      lines.length = 2 * items.length ∧
      ∀ i (inside : i < items.length),
        lines[2 * i]? = some (.record [("index", .record
          (("_index", .str h.name) :: if h.docTypes then [("_type", .str docType)] else []))]) ∧
        lines[2 * i + 1]? = some items[i]) ∧
    ∀ single : Value, (∀ items, single ≠ .list items ∧ single ≠ .tuple items) →
      h.createBulk (.str docType) single (.map opts) = h.createBulk (.str docType) (.list [single]) (.map opts) := by
  have read : Bulk.items documents = items := by
    rcases listed with rfl | rfl
    · rfl
    · rfl
  have lines : h.bulkOperations (.str docType) documents = Bulk.interleave (h.actionLine (.str docType)) items := by
    rw [bulkOperations_eq, read]
  refine ⟨⟨_, createBulk_makes h docType documents named s, ?_, ?_⟩, ?_⟩
  · rw [lines, Bulk.length_interleave]
  · intro i inside
    rw [lines]
    exact Bulk.interleave_places _ items i inside
  · intro single alone
    exact createBulk_single h _ _ alone

theorem documents_interleaved_disguised :
    let misled := Bulk.action [("_index", .str "orders"), ("_type", .str "order")]
    let opts := Entries.ofFields [("refresh", .bool true), ("body", .list [])]
    Entries.hasTextKeys opts = true ∧
    ∃ lines,
      (users.createBulk (.str "user") (.tuple [misled, .int 7]) (.map opts) {}).2.calls =
        [⟨.given, .bulk, Entries.set opts "body" (.list lines)⟩] ∧
      lines.length = 4 ∧
      lines[0]? = some (.record [("index", .record [("_index", .str "users"), ("_type", .str "user")])]) ∧
      lines[1]? = some misled ∧
      lines[2]? = some (.record [("index", .record [("_index", .str "users"), ("_type", .str "user")])]) ∧
      lines[3]? = some (.int 7) := by
  intro misled opts
  have listed : Value.tuple [misled, .int 7] = .list [misled, .int 7] ∨
      Value.tuple [misled, .int 7] = .tuple [misled, .int 7] := Or.inr rfl
  have named : Entries.hasTextKeys opts = true := by decide
  obtain ⟨⟨lines, calls, length, places⟩, -⟩ := documents_interleaved users "user" listed named {}
  have first := places 0 (by decide)
  have second := places 1 (by decide)
  exact ⟨named, lines, calls, length, first.1, first.2, second.1, second.2⟩

end SearchStore.Handle
