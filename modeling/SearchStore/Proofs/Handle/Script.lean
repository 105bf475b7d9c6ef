import SearchStore.Handle.Invoke
import SearchStore.Proofs.Client.Script
namespace SearchStore.Handle
open SearchStore.Action Session

variable (h : Handle) (op : Operation)

theorem trace_script (on : Bool) (template : String) (arguments : List Value) :
    Script (h.trace on template arguments) := by
  cases on with
  | true => exact Script.log _
  | false => exact Script.pure _

theorem reject_script {α : Type} (complaint message : String) :
    Script (h.reject op complaint message : Action Session α) :=
  (Script.log _).bind fun _ => Script.fail _

theorem checkType_script (docType : Value) : Script (h.checkType op docType) := by
  unfold checkType
  split
  · exact Script.pure _
  · exact reject_script h op _ _

theorem checkId_script (id : Value) : Script (h.checkId op id) := by
  unfold checkId
  split
  · exact Script.pure _
  · exact reject_script h op _ _

theorem refused_script {α : Type} (subject : List Value) (cause : Failure) :
    Script (h.refused op subject cause : Action Session α) :=
  (Script.log _).bind fun _ => (Script.log _).bind fun _ => Script.fail _

theorem request_script {method : Method} (other : method.isLifecycle = false) (arguments : Entries)
    (subject : List Value) :
    Script (rescue (call h.client method arguments) (h.refused op subject)) :=
  (Script.call h.client other arguments).rescue fun _ => refused_script h op _ _

theorem orMissing_script (docType : Value) {x : Action Session Value} (script : Script x) :
    Script (h.orMissing op docType x) := by
  refine Script.rescue (script.bind fun _ => Script.pure _) fun failure => ?_
  split
  · exact Script.pure _
  · exact refused_script h op _ _

theorem putMapping_script (docType fields : Value) : Script (h.putMapping docType fields) := by
  refine (checkType_script h _ _).bind fun _ => ?_
  refine (trace_script h _ _ _).bind fun _ => ?_
  refine (request_script h _ rfl _ _).bind fun _ => ?_
  exact (Script.log _).bind fun _ => Script.pure _

theorem create_script (docType data opts : Value) : Script (h.create docType data opts) := by
  refine (checkType_script h _ _).bind fun _ => ?_
  refine (Script.lift _).bind fun _ => ?_
  exact (trace_script h _ _ _).bind fun _ => request_script h _ rfl _ _

theorem createBulk_script (docType items opts : Value) :
    Script (h.createBulk docType items opts) := by
  refine (checkType_script h _ _).bind fun _ => ?_
  refine (Script.lift _).bind fun _ => ?_
  exact (trace_script h _ _ _).bind fun _ => request_script h _ rfl _ _

theorem findRaw_script (docType body extra : Value) : Script (h.findRaw docType body extra) := by
  refine (checkType_script h _ _).bind fun _ => ?_
  refine (Script.lift _).bind fun _ => ?_
  refine (trace_script h _ _ _).bind fun _ => ?_
  exact (request_script h _ rfl _ _).bind fun _ => Script.pure _

theorem countRaw_script (docType body extra : Value) : Script (h.countRaw docType body extra) := by
  refine (checkType_script h _ _).bind fun _ => ?_
  refine (Script.lift _).bind fun _ => ?_
  refine (trace_script h _ _ _).bind fun _ => ?_
  exact (request_script h _ rfl _ _).bind fun _ => Script.lift _

theorem find_script (docType query raw : Value) : Script (h.find docType query raw) := by
  refine (checkType_script h _ _).bind fun _ => ?_
  refine (Script.lift _).bind fun _ => ?_
  refine (trace_script h _ _ _).bind fun _ => ?_
  refine (orMissing_script h _ _ (Script.call _ rfl _)).bind fun response => ?_
  cases response with
  | none => exact Script.pure _
  | some response => exact (Script.logAll _).bind fun _ => Script.lift _

theorem findAll_script (docType query raw : Value) : Script (h.findAll docType query raw) := by
  refine (checkType_script h _ _).bind fun _ => ?_
  refine (Script.lift _).bind fun _ => ?_
  refine (trace_script h _ _ _).bind fun _ => ?_
  refine (orMissing_script h _ _ (Script.call _ rfl _)).bind fun response => ?_
  cases response with
  | none => exact Script.lift _
  | some response => exact (Script.logAll _).bind fun _ => Script.lift _

theorem count_script (docType query raw : Value) : Script (h.count docType query raw) := by
  refine (checkType_script h _ _).bind fun _ => ?_
  refine (Script.lift _).bind fun _ => ?_
  refine (Script.lift _).bind fun _ => ?_
  refine (trace_script h _ _ _).bind fun _ => ?_
  refine (orMissing_script h _ _ (Script.call _ rfl _)).bind fun response => ?_
  cases response with
  | none => exact Script.pure _
  | some response => exact Script.lift _

theorem update_script (docType id data opts : Value) :
    Script (h.update docType id data opts) := by
  refine (checkType_script h _ _).bind fun _ => ?_
  refine (checkId_script h _ _).bind fun _ => ?_
  exact (trace_script h _ _ _).bind fun _ => request_script h _ rfl _ _

theorem destroy_script (docType id opts : Value) : Script (h.destroy docType id opts) := by
  refine (checkType_script h _ _).bind fun _ => ?_
  refine (checkId_script h _ _).bind fun _ => ?_
  refine (trace_script h _ _ _).bind fun _ => ?_
  refine (Script.call _ rfl _).rescue fun failure => ?_
  split
  · exact (trace_script h _ _ _).bind fun _ => Script.pure _
  · exact refused_script h _ _ _

theorem run_script (arguments : List Value) : Script (h.run op arguments) := by
  unfold run
  split
  · exact (putMapping_script h _ _).bind fun _ => Script.pure _
  · exact (create_script h _ _ _).bind fun _ => Script.pure _
  · exact (createBulk_script h _ _ _).bind fun _ => Script.pure _
  · exact (findRaw_script h _ _ _).bind fun _ => Script.pure _
  · exact (find_script h _ _ _).bind fun _ => Script.pure _
  · exact (findAll_script h _ _ _).bind fun _ => Script.pure _
  · exact (countRaw_script h _ _ _).bind fun _ => Script.pure _
  · exact (count_script h _ _ _).bind fun _ => Script.pure _
  · exact (update_script h _ _ _ _).bind fun _ => Script.pure _
  · exact (destroy_script h _ _ _).bind fun _ => Script.pure _
  · exact Script.fail _

theorem invoke_script (positional : List Value) (named : Entries) :
    Script (h.invoke op positional named) := by
  unfold invoke
  cases Parameter.bind op.parameters positional named with
  | none => exact Script.fail _
  | some values => exact run_script h op values

end SearchStore.Handle
