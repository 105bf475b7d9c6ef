import SearchStore.Handle.Invoke
import SearchStore.Proofs.Client.Records
namespace SearchStore
open SearchStore.Action

namespace Operation

def method : Operation → Method
  | .putMapping => .putMapping
  | .create => .index
  | .createBulk => .bulk
  | .findRaw | .find | .findAll => .search
  | .countRaw | .count => .count
  | .update => .update
  | .destroy => .delete

def excuses : Operation → Failure → Bool
  | .find, failure | .findAll, failure | .count, failure => failure.isIndexMissing
  | .destroy, failure => failure.isNotFound
  | _, _ => false

end Operation

structure Ending where
  records : List Record
  result : Except Failure Answer

namespace Ending

def answer (answer : Answer) : Ending := ⟨[], .ok answer⟩

def act (ending : Ending) : Action Session Answer := do
  Session.logAll ending.records
  .lift ending.result

theorem act_run (ending : Ending) (s : Session) : ending.act s = (ending.result, s.wrote ending.records) :=
  bind_ok (Session.logAll_run ending.records s)

end Ending

structure Inquiry where
  traces : List Record
  arguments : Entries
  named : List Value
  excused : Ending := .answer (.value .null)
  answered : Value → Ending := fun response => .answer (.value response)

namespace Handle

def subject : Operation → List Value → Value × Option Value
  | .update, [docType, id, data, opts] =>
    let change := updateOf docType id data opts
    (change.docType, some change.id)
  | .destroy, [docType, id, opts] =>
    let change := destroyOf docType id opts
    (change.docType, some change.id)
  | _, docType :: _ => (docType, none)
  | _, [] => (.null, none)

def flaw (op : Operation) (values : List Value) : Option (String × String) :=
  match subject op values with
  | (docType, id) =>
    if !docType.isText then some ("Index %s.%s(): type must be string", "Invalid document type")
    else if id.any fun id => !id.isIdentifier then
      some ("Index %s.%s(): id must be string or number", "Invalid document id")
    else none

section Parts
variable (h : Handle) (op : Operation)

def traced (on : Bool) (template : String) (arguments : List Value) : List Record :=
  if on then [.debug h.logger template (h.index :: arguments)] else []

def hitsOf (response : Value) : Value :=
  let hits := (response.entries?.map fun entries => Entries.get entries "hits").getD .null
  if hits.isMapping then hits else response

def counted (response : Value) : Ending := ⟨[], ((countOf response).mapError .fault).map .value⟩

def inquiry : Operation → List Value → Except Failure Inquiry
  | .putMapping, [docType, fields] =>
    let body := Value.record [("properties", .map (fields.entries?.getD []))]
    .ok {
      traces := h.traced h.debug.create "PutMapping %s.%s %s" [docType, body]
      arguments := h.request (Entries.ofFields [("index", h.index), ("type", docType), ("body", body)])
      named := [docType]
      answered := fun response =>
        ⟨[.debug h.logger "Updated mapping for index %s type %s" [h.index, docType]], .ok (.value response)⟩ }
  | .create, [docType, data, opts] => do
    let data := data.entries?.getD []
    let payload ← (withOptions
      (Entries.ofFields [("index", h.index), ("type", docType), ("body", .map data)]) opts).mapError .fault
    return {
      traces := h.traced h.debug.create "Create %s.%s %s" [docType, .map data]
      arguments := h.request (withOwnId payload data)
      named := [docType] }
  | .createBulk, [docType, items, opts] => do
    let payload ← (opts.orElse (.map [])).toEntries.mapError .fault
    return {
      traces := h.traced h.debug.create "CreateBulk %s.%s %d items" [docType, .int (Bulk.items items).length]
      arguments := Entries.set payload "body" (.list (h.bulkOperations docType items))
      named := [docType] }
  | .findRaw, [docType, body, extra] => do
    let payload ← (h.rawPayload docType body extra).mapError .fault
    return {
      traces := h.traced h.debug.read "FindRaw %s.%s %s" [docType, body]
      arguments := h.request payload
      named := [docType]
      answered := fun response => .answer (.value (hitsOf response)) }
  | .find, [docType, query, raw] => do
    let flags := Find.takeFlags query
    let payload ← Find.payload h.index docType flags.spec raw.truthy
    let body := firstOnly payload
    return {
      traces := h.traced h.debug.read "Find %s.%s %s" [docType, body]
      arguments := h.request (Entries.set payload "body" body)
      named := [docType]
      excused := .answer (.found Found.nothing)
      answered := fun response =>
        ⟨(Found.skipped response flags.onlySource flags.includeId).map .skippedHit,
          (Found.ofResponse response flags.onlySource flags.includeId).map .found⟩ }
  | .findAll, [docType, query, raw] => do
    let flags := Find.takeFlags query
    let payload ← Find.payload h.index docType flags.spec raw.truthy
    return {
      traces := h.traced h.debug.read "FindAll %s.%s %s" [docType, Entries.get payload "body"]
      arguments := h.request payload
      named := [docType]
      excused := ⟨[], (ResultSet.ofResponse emptyResponse false false (.map payload)).map .listing⟩
      answered := fun response =>
        ⟨(ResultSet.skipped response flags.onlySource flags.includeId).map .skippedHit,
          (ResultSet.ofResponse response flags.onlySource flags.includeId (.map payload)).map .listing⟩ }
  | .countRaw, [docType, body, extra] => do
    let payload ← (h.rawPayload docType body extra).mapError .fault
    return {
      traces := h.traced h.debug.read "CountRaw %s.%s %s" [docType, body]
      arguments := h.request payload
      named := [docType]
      answered := counted }
  | .count, [docType, query, raw] => do
    let payload ← Find.payload h.index docType (Find.takeFlags query).spec raw.truthy
    let body ← (Find.countBody (.map payload)).mapError .fault
    return {
      traces := h.traced h.debug.read "Count %s.%s %s" [docType, .map body]
      arguments := h.request (Entries.set payload "body" (.map body))
      named := [docType]
      excused := .answer (.value (.int 0))
      answered := counted }
  | .update, [docType, id, data, opts] =>
    let change := updateOf docType id data opts
    let body := updateBody (change.data.entries?.getD [])
    .ok {
      traces := h.traced h.debug.update "Update %s.%s %s %s" [change.docType, change.id, body]
      arguments := h.request (withMapping (Entries.ofFields
        [("index", h.index), ("type", change.docType), ("id", change.id), ("body", body)]) change.opts)
      named := [change.docType, change.id] }
  | .destroy, [docType, id, opts] =>
    let change := destroyOf docType id opts
    .ok {
      traces := h.traced h.debug.delete "Destroy %s.%s %s" [change.docType, change.id]
      arguments := h.request (withMapping (Entries.ofFields
        [("index", h.index), ("type", change.docType), ("id", change.id)]) change.opts)
      named := [change.docType]
      excused := ⟨h.traced h.debug.delete "Destroy %s.%s %s: already absent" [change.docType, change.id],
        .ok (.value .null)⟩ }
  | _, _ => .error (.fault .wrongKind)

def objection (flaw : String × String) : Ending :=
  ⟨[.error h.logger flaw.1 [h.index, .str op.label]], .error (op.malformed flaw.2)⟩

-- All that is settled before the engine is asked: what to ask it for, or else the end.
def prepare (values : List Value) : Except Ending Inquiry :=
  match flaw op values with
  | some flaw => .error (h.objection op flaw)
  | none => (h.inquiry op values).mapError fun failure => ⟨[], .error failure⟩

def refusal (named : List Value) (cause : Failure) : Ending :=
  ⟨[.warning h.logger ("Index %s " ++ op.complaint) (h.index :: named),
    (Record.debug h.logger "Engine error for index %s" [h.index]).withFailure cause],
   .error (op.failure cause)⟩

def conclude (i : Inquiry) : Except Failure Value → Ending
  | .ok response => i.answered response
  | .error failure =>
    if failure.isOrdinary then if op.excuses failure then i.excused else h.refusal op i.named failure
    else ⟨[], .error failure⟩

def ask (i : Inquiry) : Action Session Answer := do
  Session.logAll i.traces
  let result ← attempt (Session.call h.client op.method i.arguments)
  (h.conclude op i result).act

def follow : Except Ending Inquiry → Action Session Answer
  | .ok i => h.ask op i
  | .error ending => ending.act

end Parts

section Same
variable {h : Handle} {op : Operation}

theorem trace_eq (on : Bool) (template : String) (arguments : List Value) :
    h.trace on template arguments = Session.logAll (h.traced on template arguments) := by
  cases on with
  | true => exact (Session.logAll_one _).symm
  | false => rfl

theorem reject_bind (flaw : String × String) (x : Action Session Answer) :
    ((h.reject op flaw.1 flaw.2 : Action Session Unit) >>= fun _ => x) = (h.objection op flaw).act := by
  unfold reject Ending.act objection
  rw [Session.logAll_one, bind_assoc]
  rfl

theorem refused_bind {α : Type} (named : List Value) (cause : Failure) (f : α → Action Session Answer) :
    h.refused op named cause >>= f = (h.refusal op named cause).act := by
  unfold refused Ending.act refusal
  simp only [bind_assoc]
  rfl

theorem ask_strict (h : Handle) (op : Operation) (strict : ∀ failure, op.excuses failure = false) (i : Inquiry) :
    h.ask op i = (do
      Session.logAll i.traces
      let response ← rescue (Session.call h.client op.method i.arguments) (h.refused op i.named)
      (i.answered response).act) := by
  unfold ask
  refine congrArg _ (funext fun _ => ?_)
  rw [rescue_bind]
  refine congrArg _ (funext fun result => ?_)
  cases result with
  | ok response => rfl
  | error failure =>
    dsimp only [conclude]
    rw [strict failure, refused_bind]
    split <;> rfl

theorem ask_lenient (lenient : ∀ failure, op.excuses failure = failure.isIndexMissing) (docType : Value)
    {i : Inquiry} (named : i.named = [docType]) : h.ask op i = (do
    Session.logAll i.traces
    match ← h.orMissing op docType (Session.call h.client op.method i.arguments) with
    | none => i.excused.act
    | some response => (i.answered response).act) := by
  unfold ask orMissing
  refine congrArg _ (funext fun _ => ?_)
  rw [rescue_bind, attempt_map, bind_assoc]
  refine congrArg _ (funext fun result => ?_)
  cases result with
  | ok response => rfl
  | error failure =>
    dsimp only [conclude, Except.map]
    rw [lenient failure, named, pure_bind]
    dsimp only
    split
    · split
      · rfl
      · rw [refused_bind]
    · rfl

theorem follow_prepare (values : List Value) : h.follow op (h.prepare op values) = (do
    h.checkType op (subject op values).1
    Option.forM (subject op values).2 (h.checkId op)
    h.ask op (← lift (h.inquiry op values))) := by
  have rest : h.follow op ((h.inquiry op values).mapError fun failure => ⟨[], .error failure⟩) =
      lift (h.inquiry op values) >>= h.ask op := by
    cases h.inquiry op values <;> rfl
  unfold prepare flaw checkType
  rcases subject op values with ⟨docType, id⟩
  dsimp only
  cases docType.isText with
  | false => exact (reject_bind _ _).symm
  | true =>
    cases id with
    | none => exact rest
    | some id =>
      change _ = h.checkId op id >>= fun _ => lift (h.inquiry op values) >>= h.ask op
      unfold checkId
      rw [Option.any_some]
      cases id.isIdentifier with
      | false => exact (reject_bind _ _).symm
      | true => exact rest

theorem putMapping_eq (docType fields : Value) :
    (do return .value (← h.putMapping docType fields)) =
      h.follow .putMapping (h.prepare .putMapping [docType, fields]) := by
  simp only [follow_prepare, ask_strict h .putMapping fun _ => rfl]
  unfold putMapping
  simp only [bind_assoc, trace_eq]
  rfl

theorem create_eq (docType data opts : Value) :
    (do return .value (← h.create docType data opts)) =
      h.follow .create (h.prepare .create [docType, data, opts]) := by
  simp only [follow_prepare, ask_strict h .create fun _ => rfl]
  unfold create inquiry
  simp only [bind_assoc, trace_eq, lift_bind, liftFault]
  rfl

theorem createBulk_eq (docType items opts : Value) :
    (do return .value (← h.createBulk docType items opts)) =
      h.follow .createBulk (h.prepare .createBulk [docType, items, opts]) := by
  simp only [follow_prepare, ask_strict h .createBulk fun _ => rfl]
  unfold createBulk inquiry
  simp only [bind_assoc, trace_eq, lift_bind, liftFault]
  rfl

theorem findRaw_eq (docType body extra : Value) :
    (do return .value (← h.findRaw docType body extra)) =
      h.follow .findRaw (h.prepare .findRaw [docType, body, extra]) := by
  simp only [follow_prepare, ask_strict h .findRaw fun _ => rfl]
  unfold findRaw inquiry
  simp only [bind_assoc, trace_eq, lift_bind, liftFault]
  rfl

theorem find_eq (docType query raw : Value) :
    (do return .found (← h.find docType query raw)) =
      h.follow .find (h.prepare .find [docType, query, raw]) := by
  rw [follow_prepare]
  unfold find inquiry
  simp only [bind_assoc, trace_eq, lift_bind]
  refine congrArg _ (funext fun _ => ?_)
  refine congrArg _ (funext fun payload => ?_)
  refine Eq.trans ?_ (ask_lenient (fun _ => rfl) docType rfl).symm
  refine congrArg _ (funext fun _ => ?_)
  refine congrArg _ (funext fun response => ?_)
  cases response with
  | none => rfl
  | some response =>
    dsimp only [Ending.act]
    rw [bind_assoc, lift_map]

theorem findAll_eq (docType query raw : Value) :
    (do return .listing (← h.findAll docType query raw)) =
      h.follow .findAll (h.prepare .findAll [docType, query, raw]) := by
  rw [follow_prepare]
  unfold findAll inquiry
  simp only [bind_assoc, trace_eq, lift_bind]
  refine congrArg _ (funext fun _ => ?_)
  refine congrArg _ (funext fun payload => ?_)
  refine Eq.trans ?_ (ask_lenient (fun _ => rfl) docType rfl).symm
  refine congrArg _ (funext fun _ => ?_)
  refine congrArg _ (funext fun response => ?_)
  cases response with
  | none => exact lift_map _ _
  | some response =>
    dsimp only [Ending.act]
    rw [bind_assoc, lift_map]

theorem countRaw_eq (docType body extra : Value) :
    (do return .value (← h.countRaw docType body extra)) =
      h.follow .countRaw (h.prepare .countRaw [docType, body, extra]) := by
  simp only [follow_prepare, ask_strict h .countRaw fun _ => rfl]
  unfold countRaw inquiry
  simp only [bind_assoc, trace_eq, lift_bind, liftFault, lift_map]
  rfl

theorem count_eq (docType query raw : Value) :
    (do return .value (← h.count docType query raw)) =
      h.follow .count (h.prepare .count [docType, query, raw]) := by
  rw [follow_prepare]
  unfold count inquiry
  simp only [bind_assoc, trace_eq, lift_bind, liftFault]
  refine congrArg _ (funext fun _ => ?_)
  refine congrArg _ (funext fun payload => ?_)
  refine congrArg _ (funext fun body => ?_)
  refine Eq.trans ?_ (ask_lenient (fun _ => rfl) docType rfl).symm
  refine congrArg _ (funext fun _ => ?_)
  refine congrArg _ (funext fun response => ?_)
  cases response with
  | none => rfl
  | some response => exact lift_map _ _

theorem update_eq (docType id data opts : Value) :
    (do return .value (← h.update docType id data opts)) =
      h.follow .update (h.prepare .update [docType, id, data, opts]) := by
  simp only [follow_prepare, ask_strict h .update fun _ => rfl]
  unfold update inquiry
  simp only [bind_assoc, trace_eq]
  rfl

theorem destroy_eq (docType id opts : Value) :
    (do return .value (← h.destroy docType id opts)) =
      h.follow .destroy (h.prepare .destroy [docType, id, opts]) := by
  rw [follow_prepare]
  unfold destroy
  simp only [bind_assoc, trace_eq]
  refine congrArg _ (funext fun _ => ?_)
  refine congrArg _ (funext fun _ => ?_)
  refine congrArg _ (funext fun _ => ?_)
  rw [rescue_bind]
  refine congrArg _ (funext fun result => ?_)
  cases result with
  | ok response => rfl
  | error failure =>
    by_cases ordinary : failure.isOrdinary
    · by_cases absent : failure.isNotFound
      · simp only [conclude, Operation.excuses, ordinary, absent, if_true]
        exact bind_assoc _ _ _
      · simp only [conclude, Operation.excuses, ordinary, absent, if_true]
        exact refused_bind _ _ _
    · simp only [conclude, ordinary]
      rfl

theorem run_eq {values : List Value} (fits : values.length = op.parameters.length) :
    h.run op values = h.follow op (h.prepare op values) := by
  cases op with
  | putMapping =>
    obtain ⟨docType, fields, rfl⟩ := List.length_eq_two.mp fits
    exact putMapping_eq docType fields
  | create =>
    obtain ⟨docType, data, opts, rfl⟩ := List.length_eq_three.mp fits
    exact create_eq docType data opts
  | createBulk =>
    obtain ⟨docType, items, opts, rfl⟩ := List.length_eq_three.mp fits
    exact createBulk_eq docType items opts
  | findRaw =>
    obtain ⟨docType, body, extra, rfl⟩ := List.length_eq_three.mp fits
    exact findRaw_eq docType body extra
  | find =>
    obtain ⟨docType, query, raw, rfl⟩ := List.length_eq_three.mp fits
    exact find_eq docType query raw
  | findAll =>
    obtain ⟨docType, query, raw, rfl⟩ := List.length_eq_three.mp fits
    exact findAll_eq docType query raw
  | countRaw =>
    obtain ⟨docType, body, extra, rfl⟩ := List.length_eq_three.mp fits
    exact countRaw_eq docType body extra
  | count =>
    obtain ⟨docType, query, raw, rfl⟩ := List.length_eq_three.mp fits
    exact count_eq docType query raw
  | update =>
    match values, fits with
    | [docType, id, data, opts], _ => exact update_eq docType id data opts
  | destroy =>
    obtain ⟨docType, id, opts, rfl⟩ := List.length_eq_three.mp fits
    exact destroy_eq docType id opts

end Same
end Handle
end SearchStore
