import SearchStore.Proofs.Handle.Failures
import SearchStore.Proofs.Query.Orders
import SearchStore.Proofs.Result.Paging
namespace SearchStore.Handle
variable {h : Handle} {c : Client} {reply : Reply} {docType : String}

inductive Contained : Except Failure Answer → Prop
  | listing (set : ResultSet) : Contained (.ok (.listing set))
  | reported {failure : Failure} (store : failure.isStore = true) : Contained (.error failure)

-- A reply of the engine to a search, and how many matches there are to be listed. It is none where the engine
-- refused, and zero where it has no such index.
inductive Replies : Reply → Option Int → Prop
  | refused {failure : Failure} (ordinary : failure.isOrdinary = true) (present : failure.isIndexMissing = false) :
      Replies (.raised failure) none
  | missing {failure : Failure} (ordinary : failure.isOrdinary = true) (missing : failure.isIndexMissing = true) :
      Replies (.raised failure) (some 0)
  | listed {response : Value} {total : Int} {found : List Entries}
      (answers : ResultSet.Answers total (found.map .map) response) (proper : ∀ hit ∈ found, Hit.Proper hit) :
      Replies (.returned response) (some total)

theorem contained_listing {result : Except Failure ResultSet}
    (foreign : ∀ failure, result = .error failure → failure.isStore = false) :
    Contained (result.map .listing) ↔ ∃ set, result = .ok set := by
  cases result with
  | ok set => exact iff_of_true (.listing set) ⟨set, rfl⟩
  | error failure =>
    refine iff_of_false ?_ (by simp)
    intro contained
    cases contained with
    | reported store =>
      rw [foreign failure rfl] at store
      cases store

structure Lists (i : Inquiry) (payload : Entries) : Prop where
  named : i.arguments.hasTextKeys = true
  excused : i.excused = i.answered emptyResponse
  answered : ∀ response, ∃ onlySource includeId, (i.answered response).result =
    (ResultSet.ofResponse response onlySource includeId (.map payload)).map .listing

theorem prepare_typed (h : Handle) (docType : String) (query : Value) :
    h.prepare .findAll [.str docType, query, .bool false] =
      (h.inquiry .findAll [.str docType, query, .bool false]).mapError fun failure => ⟨[], .error failure⟩ := rfl

theorem prepare_findAll (h : Handle) (docType : String) {query : Value} {body : Entries}
    (built : Find.body (Find.takeFlags query).spec = .ok body) :
    ∃ i, h.prepare .findAll [.str docType, query, .bool false] = .ok i ∧
      Lists i (Find.request h.index (.str docType) body) := by
  have sent : Find.payload h.index (.str docType) (Find.takeFlags query).spec false =
      .ok (Find.request h.index (.str docType) body) := by
    unfold Find.payload
    rw [if_neg Bool.false_ne_true, built]
    rfl
  cases asked : h.inquiry .findAll [.str docType, query, .bool false] with
  | error failure =>
    dsimp only [inquiry, Value.truthy] at asked
    rw [sent] at asked
    cases asked
  | ok i =>
    have prepared : h.prepare .findAll [.str docType, query, .bool false] = .ok i := by
      rw [prepare_typed, asked]
      rfl
    have excused := excused_empty (.inr (.inl rfl)) asked
    dsimp only [inquiry, Value.truthy] at asked
    rw [sent] at asked
    cases asked
    exact ⟨_, prepared, request_named h rfl, excused, fun response => ⟨_, _, rfl⟩⟩

theorem prepare_findAll_unread {query : Value} {fault : Fault}
    (failed : Find.body (Find.takeFlags query).spec = .error fault) :
    h.prepare .findAll [.str docType, query, .bool false] = .error ⟨[], .error (.fault fault)⟩ := by
  have asked : h.inquiry .findAll [.str docType, query, .bool false] = .error (.fault fault) := by
    dsimp only [inquiry, Value.truthy]
    unfold Find.payload
    rw [if_neg Bool.false_ne_true, failed]
    rfl
  rw [prepare_typed, asked]
  rfl

theorem ask_replied {op : Operation} {i : Inquiry} (client : h.client = some c)
    (named : i.arguments.hasTextKeys = true) (s : Session) (rest : List Reply) :
    (h.ask op i (s.expecting (reply :: rest))).1 = (h.conclude op i (reply.result op.method)).result := by
  have called := Session.call_run c op.method named ((s.expecting (reply :: rest)).wrote i.traces)
  rw [← client] at called
  rw [ask_run called]
  rfl

theorem Lists.contained_iff {i : Inquiry} {index : Value} {body : Entries}
    (lists : Lists i (Find.request index (.str docType) body)) {count : Option Int} (replies : Replies reply count) :
    Contained (h.conclude .findAll i (reply.result Operation.findAll.method)).result ↔
      ∀ total, count = some total → Page.Paged total body := by
  have listing {response : Value} {total : Int} {found : List Entries}
      (answers : ResultSet.Answers total (found.map .map) response) (proper : ∀ hit ∈ found, Hit.Proper hit) :
      Contained (i.answered response).result ↔ Page.Paged total body := by
    obtain ⟨onlySource, includeId, read⟩ := lists.answered response
    rw [read, contained_listing fun failure failed => ResultSet.ofResponse_foreign failed]
    exact ResultSet.ofResponse_ok_iff answers proper _ _ onlySource includeId
  cases replies with
  | @refused failure ordinary present =>
    have refused : h.conclude .findAll i (.error failure) = h.refusal .findAll i.named failure := by
      simp [conclude, ordinary, Operation.excuses, present]
    refine iff_of_true ?_ (by simp)
    change Contained (h.conclude .findAll i (.error failure)).result
    rw [refused]
    exact .reported rfl
  | @missing failure ordinary missing =>
    have excused : h.conclude .findAll i (.error failure) = i.answered emptyResponse := by
      simp [conclude, ordinary, Operation.excuses, missing, lists.excused]
    have empty : ResultSet.Answers 0 (List.map Value.map []) emptyResponse := .mk rfl rfl .number rfl
    change Contained (h.conclude .findAll i (.error failure)).result ↔ _
    rw [excused, listing empty (by simp)]
    simp
  | listed answers proper => exact (listing answers proper).trans (by simp)

-- A search ends in a list or in a failure of the store just if its order can be read and, where there are matches
-- to be listed or no index to hold them, its pages can be told.
theorem findAll_contained_iff (client : h.client = some c) (docType : String) (query : Entries) {count : Option Int}
    (replies : Replies reply count) (s : Session) (rest : List Reply) :
    Contained (h.run .findAll [.str docType, .map query, .bool false] (s.expecting (reply :: rest))).1 ↔
      (∀ order, (.str "order", order) ∈ query → ¬Sort.Misfiled order) ∧
      ∀ body total, Find.body (Find.takeFlags (.map query)).spec = .ok body → count = some total →
        Page.Paged total body := by
  rw [run_eq rfl, ← Find.flagged_body_ok_iff]
  cases built : Find.body (Find.takeFlags (.map query)).spec with
  | error fault =>
    refine iff_of_false ?_ (by simp)
    rw [prepare_findAll_unread built]
    intro contained
    have ran := Ending.act_run ⟨[], .error (.fault fault)⟩ (s.expecting (reply :: rest))
    dsimp only [follow] at contained
    rw [ran] at contained
    cases contained with
    | reported store => cases store
  | ok body =>
    obtain ⟨i, prepared, lists⟩ := prepare_findAll h docType built
    rw [prepared]
    dsimp only [follow]
    rw [ask_replied client lists.named, lists.contained_iff replies]
    constructor
    · intro paged
      refine ⟨⟨body, rfl⟩, ?_⟩
      rintro _ total ⟨⟩
      exact paged total
    · rintro ⟨-, paged⟩ total
      exact paged body total rfl

theorem findAll_contained_iff_fraction :
    let query := Entries.ofFields [("limit", .float (.finite (5 / 2))), ("offset", .int 5),
      ("order", .list [.str "age", .str "desc"])]
    let response := Value.record [("hits", .record [("total", .int 10),
      ("hits", .list [.record [("_id", .str "u1"), ("_source", .record [("name", .str "Ada")])]])])]
    Contained (users.run .findAll [.str "user", .map query, .bool false] { replies := [.returned response] }).1 := by
  intro query response
  have user : Hit.Proper (Entries.ofFields [("_id", .str "u1"), ("_source", .record [("name", .str "Ada")])]) := by
    have source : Value.Json (.record [("name", .str "Ada")]) := .object (by decide) (by simpa using .str "Ada")
    refine ⟨.object (by decide) ?_, .inl rfl⟩
    simpa [Entries.ofFields] using ⟨.str "u1", source⟩
  have answers : ResultSet.Answers 10 (List.map Value.map [_]) response := .mk rfl rfl .number rfl
  have ordered : ∀ order, (.str "order", order) ∈ query → ¬Sort.Misfiled order := by
    intro order member
    have same : order = .list [.str "age", .str "desc"] := by
      simpa [query, Entries.ofFields] using member
    rw [same, ← Sort.clauses_ok_iff]
    exact ⟨_, rfl⟩
  have replies : Replies (.returned response) (some 10) := .listed answers (List.forall_mem_singleton.mpr user)
  refine (findAll_contained_iff (h := users) rfl "user" query replies {} []).mpr ⟨ordered, ?_⟩
  intro body total built counted
  cases counted
  cases built
  have size : Value.number? (.float (.finite (5 / 2))) = some (.real (.finite (5 / 2))) := rfl
  have quotient : Page.quotient? 10 (.real (.finite (5 / 2))) = some (.finite 4) := by decide +kernel
  refine fun _ => ⟨⟨_, _, size, quotient, rfl⟩, fun _ => ⟨.whole 5, _, rfl, size, .inr ?_⟩⟩
  exact ⟨by decide +kernel, rfl⟩

-- A limit that is a text is found out only when the pages are told, after the engine has answered.
theorem text_limit_escapes :
    let response := Value.record [("hits", .record [("total", .int 1), ("hits", .list [])])]
    let ran := users.run .findAll [.str "user", .record [("limit", .str "10")], .bool false]
      { replies := [.returned response] }
    Replies (.returned response) (some 1) ∧ ran.1 = .error (.fault .wrongKind) ∧ ¬Contained ran.1 := by
  intro response ran
  have answers : ResultSet.Answers 1 (List.map Value.map []) response := .mk rfl rfl .number rfl
  have escaped : ran.1 = .error (.fault .wrongKind) := rfl
  refine ⟨.listed answers (by simp), escaped, ?_⟩
  rw [escaped]
  intro contained
  cases contained with
  | reported store => cases store

end SearchStore.Handle
