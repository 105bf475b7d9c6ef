import SearchStore.Handle.Invoke
import SearchStore.Proofs.Handle.Selection
import SearchStore.Proofs.Value.Writes
namespace SearchStore
open SearchStore.Action Session

namespace Find

def unflagged (entries : Entries) : Entries :=
  let rest := if isTrue (Entries.get entries "source") then Entries.without entries "source" else entries
  if isTrue (Entries.get entries "id") then Entries.without rest "id" else rest

theorem takeFlags_map (entries : Entries) : (takeFlags (.map entries)).spec = .map (unflagged entries) := rfl

section Unflagged
variable {entries : Entries} {name : String} {v : Value}

theorem unflagged_get? (source : "source" ≠ name) (id : "id" ≠ name) :
    Entries.get? (unflagged entries) name = Entries.get? entries name := by
  unfold unflagged
  dsimp only
  split <;> split <;> simp only [Entries.get?_without_of_ne source, Entries.get?_without_of_ne id]

theorem unflagged_named (named : Entries.hasTextKeys entries = true) :
    Entries.hasTextKeys (unflagged entries) = true := by
  unfold unflagged
  dsimp only
  have source : Entries.hasTextKeys (if isTrue (Entries.get entries "source") then
      Entries.without entries "source" else entries) = true := by
    split
    · exact Entries.hasTextKeys_without named
    · exact named
  split
  · exact Entries.hasTextKeys_without source
  · exact source

theorem unflagged_set (source : name ≠ "source") (id : name ≠ "id") :
    unflagged (Entries.set entries name v) = Entries.set (unflagged entries) name v := by
  unfold unflagged
  rw [Entries.get_set_of_ne source, Entries.get_set_of_ne id]
  dsimp only
  split <;> split <;> simp only [Entries.without_set_of_ne source, Entries.without_set_of_ne id]

end Unflagged
end Find

namespace Operation

def selects : Operation → Bool
  | .find | .findAll | .count => true
  | _ => false

def asks : Operation → Method
  | .count => .count
  | _ => .search

end Operation

namespace Handle

def completed (h : Handle) (docType : String) (query : Entries) : Entries :=
  Entries.set (Entries.set (Find.unflagged query) "index" h.index) "type" (.str docType)

-- What a selecting operation makes of the body of a raw query. Of one that is no mapping nothing is left but
-- where all documents are asked for.
def rewritten (op : Operation) (body : Value) : Value :=
  match op with
  | .find => .map (Entries.set (body.entries?.getD []) "size" (.int 1))
  | .count => .map (queryOnly (body.entries?.getD []))
  | _ => body

-- The query of a body that is a mapping is in what is sent; any other body is sent as it is.
def HoldsQuery (sent : Value) : Value → Prop
  | .map entries => ∃ others, sent = .map others ∧ Entries.get? others "query" = Entries.get? entries "query"
  | body => sent = body

theorem queryOnly_query (entries : Entries) :
    Entries.get? (queryOnly entries) "query" = Entries.get? entries "query" := by
  unfold queryOnly
  cases Entries.get? entries "query" with
  | none => rfl
  | some query => rfl

theorem holdsQuery_rewritten {op : Operation} (selects : op.selects = true) (body : Value) :
    HoldsQuery (rewritten op body) body ↔ body.isMapping = true ∨ op = .findAll := by
  cases body with
  | map entries =>
    refine iff_of_true ?_ (.inl rfl)
    cases op with
    | find => exact ⟨_, rfl, Entries.get?_set_of_ne (by decide)⟩
    | findAll => exact ⟨_, rfl, rfl⟩
    | count => exact ⟨_, rfl, queryOnly_query entries⟩
    | _ => cases selects
  | _ =>
    cases op with
    | find => exact iff_of_false (fun same => nomatch same) (by simp [Value.isMapping])
    | findAll => exact iff_of_true rfl (.inr rfl)
    | count => exact iff_of_false (fun same => nomatch same) (by simp [Value.isMapping])
    | _ => cases selects

section Raw
variable (h : Handle) (docType : String) {query : Entries} {body raw : Value}

theorem payload_completed (complete : raw.truthy = true) :
    Find.payload h.index (.str docType) (Find.takeFlags (.map query)).spec raw.truthy =
      .ok (h.completed docType query) := by
  rw [complete, Find.takeFlags_map]
  rfl

theorem completed_body (given : Entries.get? query "body" = some body) :
    Entries.get? (h.completed docType query) "body" = some body := by
  unfold completed
  rw [Entries.get?_set_of_ne (by decide), Entries.get?_set_of_ne (by decide),
    Find.unflagged_get? (by decide) (by decide), given]

theorem completed_named (named : Entries.hasTextKeys query = true) :
    Entries.hasTextKeys (h.completed docType query) = true :=
  Entries.hasTextKeys_set (Entries.hasTextKeys_set (Find.unflagged_named named))

theorem completed_overwritten (given : Entries.get? query "body" = some body) (v w : Value) :
    Entries.set (h.completed docType (Entries.set query "body" v)) "body" w =
      Entries.set (h.completed docType query) "body" w := by
  have kept : Entries.has (Find.unflagged query) "body" = true := by
    rw [Entries.has, Find.unflagged_get? (by decide) (by decide), given]
    rfl
  have indexed : Entries.has (Entries.set (Find.unflagged query) "index" h.index) "body" = true := by
    rw [Entries.has, Entries.get?_set_of_ne (by decide)]
    exact kept
  unfold completed
  rw [Find.unflagged_set (by decide) (by decide), Entries.set_set_of_has (by decide) kept,
    Entries.set_set_of_has (by decide) indexed, Entries.set_set_self]

end Raw

section Bodies
variable {payload : Entries} {body : Value} (given : Entries.get? payload "body" = some body)
include given

theorem firstOnly_rewritten : firstOnly payload = rewritten .find body := by
  unfold firstOnly
  rw [Entries.get, given, Option.getD_some]
  cases body with
  | _ => rfl

theorem countBody_rewritten : Find.countBody (.map payload) = .ok (queryOnly (body.entries?.getD [])) := by
  have read : Value.member (.map payload) "body" = .ok body := by
    rw [Value.member, Entries.get, given, Option.getD_some]
  unfold Find.countBody
  rw [read]
  cases told : body.truthy with
  | true =>
    have same : body.orElse (.map []) = body := if_pos told
    change (match body.orElse (.map []) with | .map entries => _ | _ => _) = _
    rw [same]
    cases body with
    | _ => rfl
  | false =>
    have none : body.orElse (.map []) = .map [] := if_neg (by simp [told])
    change (match body.orElse (.map []) with | .map entries => _ | _ => _) = _
    rw [none]
    cases body with
    | map entries =>
      cases entries with
      | nil => rfl
      | cons entry rest => cases told
    | _ => rfl

end Bodies

theorem entries?_unmapped {body : Value} (unmapped : body.isMapping = false) : body.entries?.getD [] = [] := by
  cases body with
  | map entries => cases unmapped
  | _ => rfl

section Selecting
variable (h : Handle) (docType : String) {query : Entries} {body raw : Value} (complete : raw.truthy = true)
  (given : Entries.get? query "body" = some body)
include complete given

theorem run_makes (named : Entries.hasTextKeys query = true) {op : Operation} (selects : op.selects = true) :
    ∃ arguments, Entries.get? arguments "body" = some (rewritten op body) ∧
      Makes (h.sent op.asks arguments) (h.run op [.str docType, .map query, raw]) := by
  have built : _ = Except.ok (h.completed docType query) := payload_completed h docType complete
  have named := completed_named h docType named
  have found := completed_body h docType given
  have written (payload : Entries) (body : Value) :
      Entries.get? (h.request (Entries.set payload "body" body)) "body" = some body :=
    (request_get? h (by decide) (by decide)).trans Entries.get?_set_self
  cases op with
  | find =>
    have makes := find_makes h built named
    rw [firstOnly_rewritten found] at makes
    exact ⟨_, written _ _, makes.bind fun _ => keeps_pure _⟩
  | findAll =>
    have kept := (request_get? h (by decide) (by decide)).trans found
    exact ⟨_, kept, (findAll_makes h built named).bind fun _ => keeps_pure _⟩
  | count =>
    have makes := count_makes h built named (countBody_rewritten found)
    exact ⟨_, written _ _, makes.bind fun _ => keeps_pure _⟩
  | _ => cases selects

variable (unmapped : body.isMapping = false)
include unmapped

theorem find_unmapped : h.find (.str docType) (.map query) raw =
    h.find (.str docType) (.map (Entries.set query "body" (.map []))) raw := by
  have found := completed_body h docType given
  have emptied : rewritten .find body = rewritten .find (.map []) := by
    rw [rewritten, entries?_unmapped unmapped]
    rfl
  have onlySource : (Find.takeFlags (.map (Entries.set query "body" (.map [])))).onlySource =
      (Find.takeFlags (.map query)).onlySource := congrArg Find.isTrue (Entries.get_set_of_ne (by decide))
  have includeId : (Find.takeFlags (.map (Entries.set query "body" (.map [])))).includeId =
      (Find.takeFlags (.map query)).includeId := congrArg Find.isTrue (Entries.get_set_of_ne (by decide))
  unfold find
  dsimp only
  rw [payload_completed h docType complete, payload_completed h docType complete, onlySource, includeId]
  simp only [lift_ok, pure_bind, firstOnly_rewritten found,
    firstOnly_rewritten (completed_body h docType Entries.get?_set_self), emptied,
    completed_overwritten h docType given]

theorem count_unmapped : h.count (.str docType) (.map query) raw =
    h.count (.str docType) (.map (Entries.set query "body" (.map []))) raw := by
  have found := completed_body h docType given
  have emptied : body.entries?.getD [] = (Value.map []).entries?.getD [] := entries?_unmapped unmapped
  unfold count
  rw [payload_completed h docType complete, payload_completed h docType complete]
  simp only [lift_ok, pure_bind, countBody_rewritten found,
    countBody_rewritten (completed_body h docType Entries.get?_set_self), emptied,
    completed_overwritten h docType given]

end Selecting

-- A raw query is in what is sent if the body is a mapping or all documents are asked for, and only then: to find
-- one document and to count, any other body is as good as an empty one, which every document matches.
theorem raw_query_sent_iff (h : Handle) (docType : String) {query : Entries} {body raw : Value}
    (complete : raw.truthy = true) (named : Entries.hasTextKeys query = true)
    (given : Entries.get? query "body" = some body) :
    (∀ op : Operation, op.selects = true → ∃ arguments sent, Entries.get? arguments "body" = some sent ∧
      Makes (h.sent op.asks arguments) (h.run op [.str docType, .map query, raw]) ∧
      (HoldsQuery sent body ↔ body.isMapping = true ∨ op = .findAll)) ∧
    (body.isMapping = false → ∀ op : Operation, op.selects = true → op ≠ .findAll →
      h.run op [.str docType, .map query, raw] =
        h.run op [.str docType, .map (Entries.set query "body" (.map [])), raw]) := by
  constructor
  · intro op selects
    obtain ⟨arguments, carried, makes⟩ := run_makes h docType complete given named selects
    exact ⟨arguments, _, carried, makes, holdsQuery_rewritten selects body⟩
  · intro unmapped op selects apart
    cases op with
    | find =>
      have same := find_unmapped h docType complete given unmapped
      exact congrArg (· >>= fun found => pure (Answer.found found)) same
    | count =>
      have same := count_unmapped h docType complete given unmapped
      exact congrArg (· >>= fun number => pure (Answer.value number)) same
    | findAll => exact absurd rfl apart
    | _ => cases selects

def serialised : Value := .str "\x7b\"query\": \x7b\"term\": \x7b\"role\": \"admin\"\x7d\x7d\x7d"

def plainUsers : Handle := ⟨0, "users", some .given, ownLogger, {}, false⟩

theorem raw_query_sent_iff_serialised :
    let query := Entries.ofFields [("body", serialised)]
    (Value.bool true).truthy = true ∧ Entries.hasTextKeys query = true ∧
      Entries.get? query "body" = some serialised ∧
      (∃ arguments, Entries.get? arguments "body" = some serialised ∧
        Makes [⟨.given, .search, arguments⟩] (plainUsers.run .findAll [.str "user", .map query, .bool true])) ∧
      plainUsers.run .count [.str "user", .map query, .bool true] =
        plainUsers.run .count [.str "user", .record [("body", .map [])], .bool true] := by
  intro query
  have complete : (Value.bool true).truthy = true := rfl
  have named : Entries.hasTextKeys query = true := rfl
  have given : Entries.get? query "body" = some serialised := rfl
  obtain ⟨sends, unread⟩ := raw_query_sent_iff plainUsers "user" complete named given
  obtain ⟨arguments, sent, carried, makes, holds⟩ := sends .findAll rfl
  obtain rfl : sent = serialised := holds.mpr (.inr rfl)
  exact ⟨complete, named, given, ⟨arguments, carried, makes⟩, unread rfl .count rfl (by decide)⟩

theorem serialised_query_replaced :
    let query := Value.record [("body", serialised)]
    let found := plainUsers.run .find [.str "user", query, .bool true] {}
    let counted := plainUsers.run .count [.str "user", query, .bool true] {}
    serialised.truthy = true ∧ serialised.isText = true ∧
      found.2.calls = [⟨.given, .search, Entries.ofFields
        [("body", .record [("size", .int 1)]), ("index", .str "users")]⟩] ∧
      counted.2.calls = [⟨.given, .count, Entries.ofFields [("body", .map []), ("index", .str "users")]⟩] ∧
      counted.1.isOk = true ∧ ¬HoldsQuery (.map []) serialised := by
  intro query found counted
  refine ⟨rfl, rfl, rfl, rfl, rfl, ?_⟩
  rintro ⟨⟩

end Handle
end SearchStore
