import SearchStore.Proofs.Arguments
import SearchStore.Proofs.Handle.Bulk
import SearchStore.Proofs.Handle.Outcome
import SearchStore.Proofs.Handle.Script
import SearchStore.Proofs.Handle.Selection
namespace SearchStore
open SearchStore.Action Session

structure Ending.Agrees (one other : Ending) : Prop where
  result : one.result = other.result
  records : one.records.map Record.outline = other.records.map Record.outline

theorem Ending.Agrees.refl (ending : Ending) : ending.Agrees ending := ⟨rfl, rfl⟩

structure Inquiry.Agrees (i j : Inquiry) : Prop where
  traces : i.traces.map Record.outline = j.traces.map Record.outline
  arguments : i.arguments = j.arguments
  excused : i.excused.Agrees j.excused
  answered : ∀ response, (i.answered response).Agrees (j.answered response)

namespace Handle

-- How an operation is told the type of its documents: as an argument of its own, or by a document that
-- carries it.
inductive Naming where
  | argument
  | document (fields : Entries)

def Naming.told (type : String) : Naming → Value
  | .argument => .str type
  | .document fields => .map (Entries.set fields "_type" (.str type))

section Asking
variable {h : Handle} {op : Operation}

theorem act_inStep {one other : Ending} (agrees : one.Agrees other) : InStep Like Eq one.act other.act := by
  refine (logAll_inStep agrees.records).next fun _ => ?_
  rw [agrees.result]
  exact inStep_lift (.refl _)

theorem conclude_agrees {i j : Inquiry} (agrees : i.Agrees j) (result : Except Failure Value) :
    (h.conclude op i result).Agrees (h.conclude op j result) := by
  unfold conclude
  cases result with
  | ok response => exact agrees.answered response
  | error failure =>
    dsimp only
    split
    · split
      · exact agrees.excused
      · exact ⟨rfl, rfl⟩
    · exact ⟨rfl, rfl⟩

theorem ask_agrees {i j : Inquiry} (agrees : i.Agrees j) : InStep Like Eq (h.ask op i) (h.ask op j) := by
  refine (logAll_inStep agrees.traces).next fun _ => ?_
  rw [agrees.arguments]
  refine (told_call _ _ _).inStep.attempt.next fun result => ?_
  exact act_inStep (conclude_agrees agrees result)

theorem checkType_inStep {docType other : Value} (same : docType.isText = other.isText) :
    InStep Like Eq (h.checkType op docType) (h.checkType op other) := by
  unfold checkType
  rw [same]
  split
  · exact inStep_pure _
  · exact (log_inStep rfl).next fun _ => inStep_fail _

theorem run_agrees {values others : List Value} (fits : values.length = op.parameters.length)
    (fits' : others.length = op.parameters.length)
    (type : (subject op values).1.isText = (subject op others).1.isText)
    (id : (subject op values).2 = (subject op others).2)
    (asked : Paired Inquiry.Agrees (h.inquiry op values) (h.inquiry op others)) :
    InStep Like Eq (h.run op values) (h.run op others) := by
  rw [run_eq fits, run_eq fits', follow_prepare, follow_prepare, id]
  refine (checkType_inStep type).next fun _ => InStep.next ?_ fun _ => ?_
  · cases (subject op others).2 with
    | none => exact inStep_pure _
    | some id => exact (checkId_script h op id).told.inStep
  · exact (inStep_lift asked).bind fun i j agrees => ask_agrees agrees

end Asking

section Untyped
variable {h : Handle} (untyped : h.docTypes = false)

include untyped in
theorem request_untyped (payload : Entries) : h.request payload = Entries.without payload "type" := by
  unfold request
  rw [untyped]
  rfl

include untyped in
theorem request_beside {payload other : Entries} (beside : Entries.Beside "type" payload other) :
    h.request payload = h.request other := by
  rw [request_untyped untyped, request_untyped untyped, beside.without]

theorem address_beside (h : Handle) (docType other : Value) (rest : Entries) :
    Entries.Beside "type" ((.str "index", h.index) :: (.str "type", docType) :: rest)
      ((.str "index", h.index) :: (.str "type", other) :: rest) :=
  .later _ rfl (.here docType other rest)

theorem payload_beside (h : Handle) (docType other spec : Value) (raw : Bool) :
    Paired (Entries.Beside "type") (Find.payload h.index docType spec raw)
      (Find.payload h.index other spec raw) := by
  unfold Find.payload
  split
  · split
    · exact .ok (Entries.Beside.set _ "type" docType other)
    · exact .error _
  · split
    · exact .ok (address_beside h docType other _)
    · exact .error _

theorem rawPayload_beside (h : Handle) (docType other body extra : Value) :
    Paired (Entries.Beside "type") (h.rawPayload docType body extra) (h.rawPayload other body extra) := by
  refine (Paired.refl _).bind ?_
  rintro payload _ rfl
  exact .ok ((Entries.Beside.set _ "type" docType other).put _ _)

section Documents
variable {type other : String}

theorem documentId_typed (fields : Entries) (type : String) :
    documentId (Entries.set fields "_type" (.str type)) = documentId fields := by
  have apart (name : String) (apart : "_type" ≠ name) :
      Entries.get (Entries.set fields "_type" (.str type)) name = Entries.get fields name := by
    rw [Entries.get, Entries.get, Entries.get?_set_of_ne apart]
  unfold documentId
  rw [apart "_id" (by decide), apart "id" (by decide)]

theorem ownFields_beside {fields others : Entries} (beside : Entries.Beside "_type" fields others) :
    ownFields fields = ownFields others := by
  have reserved : (Value.str "_type").display.startsWith "_" = true := by decide +kernel
  unfold ownFields
  induction beside with
  | here v w rest => simp [reserved]
  | later entry _ _ ih => rw [List.filter_cons, List.filter_cons, ih]

theorem selfNaming_typed (full : type ≠ "") (fields : Entries) :
    selfNaming ((Naming.document fields).told type) = some (Entries.set fields "_type" (.str type)) ∧
      Entries.get (Entries.set fields "_type" (.str type)) "_type" = .str type := by
  have carried : Entries.get (Entries.set fields "_type" (.str type)) "_type" = .str type := by
    rw [Entries.get, Entries.get?_set_self, Option.getD_some]
  refine ⟨?_, carried⟩
  unfold selfNaming Naming.told
  dsimp only
  rw [carried]
  simp [Value.truthy, full]

theorem updateOf_told (n : Naming) (full : type ≠ "") (full' : other ≠ "") (id data opts : Value) :
    updateOf (n.told type) id data opts = { updateOf (n.told other) id data opts with docType := .str type } := by
  cases n with
  | argument => rfl
  | document fields =>
    obtain ⟨naming, carried⟩ := selfNaming_typed full fields
    obtain ⟨naming', -⟩ := selfNaming_typed full' fields
    unfold updateOf
    rw [naming, naming']
    dsimp only
    rw [carried, documentId_typed, documentId_typed,
      ownFields_beside (Entries.Beside.set fields "_type" (.str type) (.str other))]

theorem destroyOf_told (n : Naming) (full : type ≠ "") (full' : other ≠ "") (id opts : Value) :
    destroyOf (n.told type) id opts = { destroyOf (n.told other) id opts with docType := .str type } := by
  cases n with
  | argument => rfl
  | document fields =>
    obtain ⟨naming, carried⟩ := selfNaming_typed full fields
    obtain ⟨naming', -⟩ := selfNaming_typed full' fields
    unfold destroyOf
    rw [naming, naming']
    dsimp only
    rw [carried, documentId_typed, documentId_typed]

end Documents

section Payloads
variable {payload other : Entries} (beside : Entries.Beside "type" payload other)
include beside

theorem body_beside : Entries.get payload "body" = Entries.get other "body" := by
  rw [Entries.get, Entries.get, beside.get? (by decide)]

theorem firstOnly_beside : firstOnly payload = firstOnly other := by
  unfold firstOnly
  rw [body_beside beside]

theorem countBody_beside : Find.countBody (.map payload) = Find.countBody (.map other) := by
  unfold Find.countBody
  dsimp only [Value.member]
  rw [body_beside beside]

theorem ofResponse_beside (response : Value) (onlySource includeId : Bool) :
    ResultSet.ofResponse response onlySource includeId (.map payload) =
      ResultSet.ofResponse response onlySource includeId (.map other) := by
  have nonempty : Value.orElse (.map payload) (.map []) = .map payload ∧
      Value.orElse (.map other) (.map []) = .map other := by
    cases beside <;> exact ⟨rfl, rfl⟩
  have body : ResultSet.requestBody (.map payload) = ResultSet.requestBody (.map other) := by
    unfold ResultSet.requestBody
    rw [nonempty.1, nonempty.2]
    dsimp only [Value.member]
    rw [body_beside beside]
  unfold ResultSet.ofResponse ResultSet.pageOf
  rw [body]

theorem withOwnId_beside (data : Entries) :
    Entries.Beside "type" (withOwnId payload data) (withOwnId other data) := by
  unfold withOwnId
  split
  · exact beside.put _ _
  · exact beside

theorem withMapping_beside (opts : Value) :
    Entries.Beside "type" (withMapping payload opts) (withMapping other opts) := by
  cases opts with
  | map opts => exact beside.merge opts
  | _ => exact beside

theorem withOptions_beside (opts : Value) :
    Paired (Entries.Beside "type") (withOptions payload opts) (withOptions other opts) := by
  unfold withOptions
  split
  · exact beside.update opts
  · exact .ok beside

end Payloads

theorem traced_outline (h : Handle) (on : Bool) (template : String) (arguments others : List Value) :
    (h.traced on template arguments).map Record.outline = (h.traced on template others).map Record.outline := by
  cases on <;> rfl

include untyped in
theorem inquiry_agrees {op : Operation} (n : Naming) {type other : String} (full : type ≠ "") (full' : other ≠ "")
    {rest : List Value} (fits : rest.length + 1 = op.parameters.length) :
    Paired Inquiry.Agrees (h.inquiry op (n.told type :: rest)) (h.inquiry op (n.told other :: rest)) := by
  have traced := h.traced_outline
  cases op with
  | putMapping =>
    match rest, fits with
    | [fields], _ =>
      refine .ok ⟨traced _ _ _ _, ?_, .refl _, fun response => ⟨rfl, rfl⟩⟩
      exact request_beside untyped (address_beside h _ _ _)
  | create =>
    match rest, fits with
    | [data, opts], _ =>
      refine ((withOptions_beside (address_beside h _ _ _) opts).mapError _).bind fun payload other beside => ?_
      exact .ok ⟨traced _ _ _ _, request_beside untyped (withOwnId_beside beside _), .refl _, fun _ => .refl _⟩
  | createBulk =>
    match rest, fits with
    | [items, opts], _ =>
      refine (Paired.refl _).bind ?_
      rintro payload _ rfl
      have lines (docType : Value) : h.bulkOperations docType items =
          Bulk.interleave (Bulk.action [("_index", h.index)]) (Bulk.items items) := by
        simp [bulkOperations_eq, actionLine, untyped]
      refine .ok ⟨traced _ _ _ _, ?_, .refl _, fun _ => .refl _⟩
      dsimp only
      rw [lines, lines]
  | findRaw =>
    match rest, fits with
    | [body, extra], _ =>
      refine ((rawPayload_beside h _ _ body extra).mapError _).bind fun payload other beside => ?_
      exact .ok ⟨traced _ _ _ _, request_beside untyped beside, .refl _, fun _ => .refl _⟩
  | find =>
    match rest, fits with
    | [query, raw], _ =>
      refine (payload_beside h _ _ _ _).bind fun payload other beside => ?_
      refine .ok ⟨traced _ _ _ _, ?_, .refl _, fun _ => .refl _⟩
      dsimp only
      rw [firstOnly_beside beside]
      exact request_beside untyped (beside.put _ _)
  | findAll =>
    match rest, fits with
    | [query, raw], _ =>
      refine (payload_beside h _ _ _ _).bind fun payload other beside => ?_
      refine .ok ⟨traced _ _ _ _, request_beside untyped beside, ⟨?_, rfl⟩, fun response => ⟨?_, rfl⟩⟩
      · dsimp only
        rw [ofResponse_beside beside]
      · dsimp only
        rw [ofResponse_beside beside]
  | countRaw =>
    match rest, fits with
    | [body, extra], _ =>
      refine ((rawPayload_beside h _ _ body extra).mapError _).bind fun payload other beside => ?_
      exact .ok ⟨traced _ _ _ _, request_beside untyped beside, .refl _, fun _ => .refl _⟩
  | count =>
    match rest, fits with
    | [query, raw], _ =>
      refine (payload_beside h _ _ _ _).bind fun payload other beside => ?_
      rw [countBody_beside beside]
      refine (Paired.refl _).bind ?_
      rintro body _ rfl
      exact .ok ⟨traced _ _ _ _, request_beside untyped (beside.put _ _), .refl _, fun _ => .refl _⟩
  | update =>
    match rest, fits with
    | [id, data, opts], _ =>
      refine .ok ⟨?_, ?_, .refl _, fun _ => .refl _⟩
      · dsimp only
        rw [updateOf_told n full full' id data opts]
        exact traced _ _ _ _
      · dsimp only
        rw [updateOf_told n full full' id data opts]
        exact request_beside untyped (withMapping_beside (address_beside h _ _ _) _)
  | destroy =>
    match rest, fits with
    | [id, opts], _ =>
      refine .ok ⟨traced _ _ _ _, ?_, ⟨rfl, traced _ _ _ _⟩, fun _ => .refl _⟩
      dsimp only
      rw [destroyOf_told n full full' id opts]
      exact request_beside untyped (withMapping_beside (address_beside h _ _ _) _)

theorem subject_told {op : Operation} (n : Naming) {type other : String} (full : type ≠ "") (full' : other ≠ "")
    {rest : List Value} (fits : rest.length + 1 = op.parameters.length) :
    (subject op (n.told type :: rest)).1.isText = (subject op (n.told other :: rest)).1.isText ∧
      (subject op (n.told type :: rest)).2 = (subject op (n.told other :: rest)).2 := by
  have kind : (n.told type).isText = (n.told other).isText := by cases n <;> rfl
  cases op with
  | update =>
    match rest, fits with
    | [id, data, opts], _ =>
      have text : (updateOf (n.told other) id data opts).docType.isText = true := by
        rw [updateOf_told n full' full id data opts]
        rfl
      dsimp only [subject]
      rw [updateOf_told n full full' id data opts, text]
      exact ⟨rfl, rfl⟩
  | destroy =>
    match rest, fits with
    | [id, opts], _ =>
      have text : (destroyOf (n.told other) id opts).docType.isText = true := by
        rw [destroyOf_told n full' full id opts]
        rfl
      dsimp only [subject]
      rw [destroyOf_told n full full' id opts, text]
      exact ⟨rfl, rfl⟩
  | _ => exact ⟨kind, rfl⟩

include untyped in
theorem run_told {op : Operation} (n : Naming) {type other : String} (full : type ≠ "") (full' : other ≠ "")
    {rest : List Value} (fits : rest.length + 1 = op.parameters.length) :
    InStep Like Eq (h.run op (n.told type :: rest)) (h.run op (n.told other :: rest)) := by
  obtain ⟨kind, id⟩ := subject_told n full full' fits
  exact run_agrees fits fits kind id (inquiry_agrees untyped n full full' fits)

include untyped in
theorem invoke_told {op : Operation} (n : Naming) {type other : String} (full : type ≠ "") (full' : other ≠ "")
    {rest : Option (List Value)} {positional positional' : List Value} {named named' : Entries}
    (bound : Parameter.bind op.parameters positional named = rest.map (n.told type :: ·))
    (bound' : Parameter.bind op.parameters positional' named' = rest.map (n.told other :: ·)) :
    InStep Like Eq (h.invoke op positional named) (h.invoke op positional' named') := by
  unfold invoke
  cases rest with
  | none =>
    rw [bound, bound']
    exact inStep_fail _
  | some rest =>
    have fits := Parameter.bind_length bound
    rw [bound, bound']
    exact run_told untyped n full full' fits

end Untyped

theorem type_first (op : Operation) : ∃ parameters, op.parameters = .required "doc_type" :: parameters ∧
    ∀ q ∈ parameters, "doc_type" ≠ q.name := by
  cases op <;> exact ⟨_, rfl, by decide⟩

-- Two runs that are told different types and differ in nothing else: in their first argument, whether by
-- position or by name. The calls they make are part of the sessions they leave.
theorem type_without_influence (h : Handle) (untyped : h.docTypes = false) (op : Operation) (n : Naming)
    {type other : String} (full : type ≠ "") (full' : other ≠ "") (rest : List Value) (named : Entries)
    (s : Session) :
    (let one := h.invoke op (n.told type :: rest) named s
     let two := h.invoke op (n.told other :: rest) named s
     one.1 = two.1 ∧ one.2.outlined = two.2.outlined) ∧
    (let one := h.invoke op [] (Entries.set named "doc_type" (n.told type)) s
     let two := h.invoke op [] (Entries.set named "doc_type" (n.told other)) s
     one.1 = two.1 ∧ one.2.outlined = two.2.outlined) := by
  obtain ⟨parameters, first, apart⟩ := type_first op
  constructor
  · obtain ⟨others, bound⟩ := Parameter.bind_first (p := .required "doc_type") parameters rest named
    rw [← first] at bound
    obtain ⟨ended, left⟩ := invoke_told untyped n full full' (bound _) (bound _) s s Like.rfl
    exact ⟨ended.eq, left⟩
  · obtain ⟨others, bound⟩ := Parameter.bind_named (p := .required "doc_type") named apart
    rw [← first] at bound
    obtain ⟨ended, left⟩ := invoke_told untyped n full full' (bound _) (bound _) s s Like.rfl
    exact ⟨ended.eq, left⟩

def ada : Entries := Entries.ofFields [("_id", .str "u1"), ("name", .str "Ada")]

theorem type_without_influence_selfNaming :
    let untyped : Handle := { users with docTypes := false }
    let destroy (type : String) := untyped.invoke .destroy [(Naming.document ada).told type] [] {}
    untyped.docTypes = false ∧ "user" ≠ "" ∧ "admin" ≠ "" ∧
      (destroy "user").1 = (destroy "admin").1 ∧ (destroy "user").2.outlined = (destroy "admin").2.outlined ∧
      (destroy "user").2.calls =
        [⟨.given, .delete, Entries.ofFields [("index", .str "users"), ("id", .str "u1")]⟩] := by
  intro untyped destroy
  have full : "user" ≠ "" := by decide
  have full' : "admin" ≠ "" := by decide
  obtain ⟨⟨ended, left⟩, -⟩ := type_without_influence untyped rfl .destroy (.document ada) full full' [] [] {}
  exact ⟨rfl, full, full', ended, left, rfl⟩

end Handle
end SearchStore
