import SearchStore.Handle.Invoke
import SearchStore.Proofs.Client.Calls
import SearchStore.Proofs.Value.Entries
namespace SearchStore.Handle
open SearchStore.Action SearchStore.Session

section Requests
variable {payload : Entries} {name : String} {v : Value} (h : Handle)

theorem request_get? (type : "type" ≠ name) (docType : "doc_type" ≠ name) :
    Entries.get? (h.request payload) name = Entries.get? payload name := by
  unfold request
  dsimp only
  split
  · rw [Entries.get?_set_of_ne docType, Entries.get?_without_of_ne type]
  · exact Entries.get?_without_of_ne type

theorem request_set (type : name ≠ "type") (docType : name ≠ "doc_type") :
    (h.request (Entries.set payload name v)).Perm (Entries.set (h.request payload) name v) := by
  have typed : Entries.get (Entries.set payload name v) "type" = Entries.get payload "type" := by
    rw [Entries.get, Entries.get, Entries.get?_set_of_ne type]
  unfold request
  rw [typed, Entries.without_set_of_ne type]
  dsimp only
  split
  · exact Entries.set_set_perm docType
  · exact List.Perm.refl _

theorem request_named (named : Entries.hasTextKeys payload = true) :
    Entries.hasTextKeys (h.request payload) = true := by
  unfold request
  dsimp only
  split
  · exact Entries.hasTextKeys_set (Entries.hasTextKeys_without named)
  · exact Entries.hasTextKeys_without named

end Requests

def sent (h : Handle) (method : Method) (arguments : Entries) : List Call :=
  h.client.toList.map fun client => ⟨client, method, arguments⟩

section Makes
variable {α : Type} (h : Handle) (op : Operation)

theorem refused_silent (subject : List Value) (cause : Failure) :
    Keeps Silent (h.refused op subject cause : Action Session α) :=
  (log_silent _).bind fun _ => (log_silent _).bind fun _ => keeps_fail _

theorem asked_makes (on : Bool) (template : String) (subject : List Value) (docType : Value) (method : Method)
    {arguments : Entries} (named : Entries.hasTextKeys arguments = true)
    {rest : Option Value → Action Session α} (silent : ∀ response, Keeps Silent (rest response)) :
    Makes (h.sent method arguments) (do
      h.trace on template subject
      rest (← h.orMissing op docType (call h.client method arguments))) := by
  have asked : Makes (h.sent method arguments) (do
      rest (← h.orMissing op docType (call h.client method arguments))) := by
    refine Makes.bind (Makes.rescue ?_ fun failure => ?_) silent
    · exact (call_makes h.client method named).bind fun _ => keeps_pure _
    · split
      · exact keeps_pure _
      · exact refused_silent h op _ _
  cases on with
  | true => exact log_makes _ asked
  | false => exact asked

end Makes

def bodyOf (arguments : Entries) : Entries := (Entries.get arguments "body").entries?.getD []

def queryOnly (body : Entries) : Entries :=
  match Entries.get? body "query" with
  | some query => Entries.ofFields [("query", query)]
  | none => []

section Bodies
variable {payload : Entries} (h : Handle)

theorem request_bodyOf : bodyOf (h.request payload) = bodyOf payload := by
  have same : Entries.get? (h.request payload) "body" = Entries.get? payload "body" :=
    request_get? h (by decide) (by decide)
  rw [bodyOf, bodyOf, Entries.get, Entries.get, same]

variable (bodied : ∀ body, Entries.get? payload "body" = some body → body.isMapping = true)
include bodied

theorem firstOnly_body : firstOnly payload = .map (Entries.set (bodyOf payload) "size" (.int 1)) := by
  unfold firstOnly bodyOf Entries.get
  cases found : Entries.get? payload "body" with
  | none => rfl
  | some body =>
    have mapping := bodied body found
    cases body with
    | map entries => rfl
    | _ => cases mapping

theorem countBody_body : Find.countBody (.map payload) = .ok (queryOnly (bodyOf payload)) := by
  have read : Value.member (.map payload) "body" = .ok (Entries.get payload "body") := rfl
  unfold Find.countBody queryOnly bodyOf
  rw [read]
  unfold Entries.get
  cases found : Entries.get? payload "body" with
  | none => rfl
  | some body =>
    have mapping := bodied body found
    cases body with
    | map entries =>
      cases entries with
      | nil => rfl
      | cons entry rest => rfl
    | _ => cases mapping

end Bodies

section Searches
variable (h : Handle) {docType : String} {query raw : Value} {payload : Entries}
  (built : Find.payload h.index (.str docType) (Find.takeFlags query).spec raw.truthy = .ok payload)
  (named : Entries.hasTextKeys payload = true)
include built named

theorem findAll_makes : Makes (h.sent .search (h.request payload)) (h.findAll (.str docType) query raw) := by
  unfold findAll
  dsimp only
  rw [built]
  refine asked_makes h .findAll _ _ _ _ .search (request_named h named) fun response => ?_
  cases response with
  | none => exact keeps_lift _
  | some response => exact (logAll_silent _).bind fun _ => keeps_lift _

theorem find_makes :
    Makes (h.sent .search (h.request (Entries.set payload "body" (firstOnly payload))))
      (h.find (.str docType) query raw) := by
  unfold find
  dsimp only
  rw [built]
  refine asked_makes h .find _ _ _ _ .search (request_named h (Entries.hasTextKeys_set named)) fun response => ?_
  cases response with
  | none => exact keeps_pure _
  | some response => exact (logAll_silent _).bind fun _ => keeps_lift _

theorem count_makes {body : Entries} (counted : Find.countBody (.map payload) = .ok body) :
    Makes (h.sent .count (h.request (Entries.set payload "body" (.map body))))
      (h.count (.str docType) query raw) := by
  unfold count
  dsimp only
  rw [built]
  change Makes _ (liftFault (Find.countBody (.map payload)) >>= _)
  rw [counted]
  refine asked_makes h .count _ _ _ _ .count (request_named h (Entries.hasTextKeys_set named)) fun response => ?_
  cases response with
  | none => exact keeps_pure _
  | some response => exact keeps_lift _

end Searches

def unmapped : Failure :=
  .reported .validation "Raw query must be a mapping" (.str "ES.QUERY") .null none []

theorem payload_unmapped (index docType : Value) {query raw : Value} (complete : raw.truthy = true)
    (mapping : query.isMapping = false) (given : query.isNull = false) :
    Find.payload index docType (Find.takeFlags query).spec raw.truthy = .error unmapped := by
  rw [complete]
  cases query with
  | map entries => cases mapping
  | null => cases given
  | _ => rfl

theorem searches_select_alike (h : Handle) (docType : String) (query raw : Value) :
    (∀ payload, Find.payload h.index (.str docType) (Find.takeFlags query).spec raw.truthy = .ok payload →
      Entries.hasTextKeys payload = true →
      (∀ body, Entries.get? payload "body" = some body → body.isMapping = true) →
      let all := h.request payload
      Makes (h.sent .search all) (h.findAll (.str docType) query raw) ∧
      (∃ first, first.Perm (Entries.set all "body" (.map (Entries.set (bodyOf all) "size" (.int 1)))) ∧
        Makes (h.sent .search first) (h.find (.str docType) query raw)) ∧
      ∃ counted, counted.Perm (Entries.set all "body" (.map (queryOnly (bodyOf all)))) ∧
        Makes (h.sent .count counted) (h.count (.str docType) query raw)) ∧
    (raw.truthy = true → query.isMapping = false → query.isNull = false → ∀ session,
      h.findAll (.str docType) query raw session = (.error unmapped, session) ∧
      h.find (.str docType) query raw session = (.error unmapped, session) ∧
      h.count (.str docType) query raw session = (.error unmapped, session)) := by
  constructor
  · intro payload built named bodied all
    have counted := countBody_body bodied
    have same : bodyOf all = bodyOf payload := request_bodyOf h
    rw [same]
    refine ⟨findAll_makes h built named, ⟨_, ?_, find_makes h built named⟩,
      ⟨_, ?_, count_makes h built named counted⟩⟩
    · rw [firstOnly_body bodied]
      exact request_set h (by decide) (by decide)
    · exact request_set h (by decide) (by decide)
  · intro complete mapping given session
    have refused := payload_unmapped h.index (.str docType) complete mapping given
    refine ⟨?_, ?_, ?_⟩
    · unfold findAll
      dsimp only
      rw [refused]
      rfl
    · unfold find
      dsimp only
      rw [refused]
      rfl
    · unfold count
      dsimp only
      rw [refused]
      rfl

def users : Handle := ⟨0, "users", some .given, ownLogger, {}, true⟩

def routed (size : Int) : Entries := Entries.ofFields [("routing", .str "eu"),
  ("body", .record [("size", .int size), ("query", .record [("term", .record [("name", .str "ada")])])])]

theorem searches_select_alike_routed :
    let query := Value.map (routed 5)
    let payload := routed 5 ++ Entries.ofFields [("index", .str "users"), ("type", .str "user")]
    let address := Entries.ofFields [("index", .str "users"), ("doc_type", .str "user")]
    Find.payload users.index (.str "user") (Find.takeFlags query).spec true = .ok payload ∧
      Entries.hasTextKeys payload = true ∧
      (∀ body, Entries.get? payload "body" = some body → body.isMapping = true) ∧
      Makes [⟨.given, .search, routed 5 ++ address⟩] (users.findAll (.str "user") query (.bool true)) ∧
      ∃ first, first.Perm (routed 1 ++ address) ∧
        Makes [⟨.given, .search, first⟩] (users.find (.str "user") query (.bool true)) := by
  intro query payload address
  have built : Find.payload users.index (.str "user") (Find.takeFlags query).spec true = .ok payload := rfl
  have named : Entries.hasTextKeys payload = true := by decide
  have bodied : ∀ body, Entries.get? payload "body" = some body → body.isMapping = true := by
    rintro body ⟨⟩
    rfl
  obtain ⟨all, first, -⟩ := (searches_select_alike users "user" query (.bool true)).1 payload built named bodied
  exact ⟨built, named, bodied, all, first⟩

end SearchStore.Handle
