import SearchStore.Store.Command
import SearchStore.Proofs.Handle.Script
import SearchStore.Proofs.Connection.Ownership
namespace SearchStore
open SearchStore.Action Session

namespace Store

inductive Service : {α : Type} → Run α → Prop
  | lift {α : Type} (result : Except Failure α) : Service (lift result)
  | bind {α β : Type} {x : Run β} {f : β → Run α} : Service x → (∀ b, Service (f b)) → Service (x >>= f)
  | rescue {α : Type} {x : Run α} {handler : Failure → Run α} :
      Service x → (∀ failure, Service (handler failure)) → Service (rescue x handler)
  | get : Service get
  | session {α : Type} {x : Action Session α} (script : Script x) : Service (onSecond x)
  | handle (name : Value) : Service (getIndex name)
  | sweep : Service sweep
  | advance (seconds : Rat) : Service (advance seconds)

namespace Service
variable {α β : Type}

theorem pure (a : α) : Service (pure a : Run α) := .lift (.ok a)

theorem fail (failure : Failure) : Service (fail failure : Run α) := .lift (.error failure)

theorem mapM {f : β → Run α} (each : ∀ b, Service (f b)) (items : List β) : Service (items.mapM f) := by
  induction items with
  | nil => exact pure _
  | cons item rest ih =>
    rw [List.mapM_cons]
    exact (each item).bind fun _ => ih.bind fun _ => pure _

theorem keeps {rel : Store × Session → Store × Session → Prop} [IsPreorder (Store × Session) rel]
    (session : ∀ {α : Type} {x : Action Session α}, Script x → Keeps rel (onSecond x))
    (handle : ∀ name, Keeps rel (getIndex name)) (sweep : Keeps rel Store.sweep)
    (advance : ∀ seconds, Keeps rel (Store.advance seconds)) {x : Run α} (service : Service x) :
    Keeps rel x := by
  induction service with
  | lift result => exact keeps_lift result
  | bind _ _ first rest => exact first.bind rest
  | rescue _ _ first rest => exact first.rescue rest
  | get => exact fun s => Std.Refl.refl s
  | session script => exact session script
  | handle name => exact handle name
  | sweep => exact sweep
  | advance seconds => exact advance seconds

end Service

theorem get_bind_keeps {α : Type} {rel : Store × Session → Store × Session → Prop} {next : Store → Run α}
    (each : ∀ s, rel s (next s.1 s).2) : Keeps rel (get >>= next) := each

section Commands
variable {α : Type}

theorem log_service (record : Store → Record) : Service (log record) :=
  .bind .get fun _ => .session (.log _)

theorem client_service : Service client := by
  refine Service.bind .get fun s => ?_
  split
  · exact (log_service _).bind fun _ => .pure _
  · exact .pure _

theorem requireClient_service : Service requireClient := by
  refine client_service.bind fun client => ?_
  cases client with
  | none => exact .fail _
  | some client => exact .pure _

theorem health_service : Service health := by
  refine Service.bind .get fun s => ?_
  split
  · exact .session (Connection.health_script _)
  · exact .pure _

theorem refused_service (kind : ErrorKind) (message complaint : String) (subject : List Value)
    (cause : Failure) : Service (refused kind message complaint subject cause : Run α) :=
  (log_service _).bind fun _ => (log_service _).bind fun _ => .fail _

theorem createIndex_service (name body : Value) : Service (createIndex name body) := by
  refine requireClient_service.bind fun client => ?_
  refine Service.bind (.lift _) fun index => ?_
  refine Service.bind (.rescue (.session (.call _ rfl _)) fun failure => ?_) fun _ => ?_
  · split
    · exact .pure _
    · exact refused_service _ _ _ _ _
  · exact (log_service _).bind fun _ => .handle name

theorem deleteIndex_service (target : Target) : Service (deleteIndex target) := by
  refine requireClient_service.bind fun client => ?_
  refine Service.bind (.lift _) fun index => ?_
  exact .rescue (.session (.call _ rfl _)) fun failure => refused_service _ _ _ _ _

theorem existsIndex_service (name : Value) (parameters : Entries) : Service (existsIndex name parameters) := by
  refine requireClient_service.bind fun client => ?_
  refine Service.bind (.rescue ?_ fun failure => refused_service _ _ _ _ _) fun _ => .pure _
  exact .bind (.lift _) fun request => .session (.call _ rfl _)

theorem listNames_service (parameters : Entries) : Service (listNames parameters) := by
  refine requireClient_service.bind fun client => ?_
  refine Service.bind (.rescue ?_ fun failure => refused_service _ _ _ _ _) fun _ => .lift _
  exact .session (.call _ rfl _)

theorem listIndexes_service (parameters : Entries) : Service (listIndexes parameters) :=
  (listNames_service parameters).bind fun names => Service.mapM .handle names

theorem invoke_service (name : Value) (op : Operation) (positional : List Value) (named : Entries) :
    Service (invoke name op positional named) := by
  refine (Service.handle name).bind fun h => ?_
  cases h with
  | none => exact .fail _
  | some h => exact .session (Handle.invoke_script h op positional named)

theorem deleteByHandle_service (name : Value) : Service (deleteByHandle name) := by
  refine (Service.handle name).bind fun h => ?_
  cases h with
  | none => exact deleteIndex_service _
  | some h => exact deleteIndex_service _

end Commands
end Store

def Command.isLifecycle : Command → Bool
  | .run | .shutdown => true
  | _ => false

def Command.configures : Command → Bool
  | .init _ => true
  | _ => false

theorem Store.perform_service {command : Command} (running : command.isLifecycle = false)
    (set : command.configures = false) : Service (perform command) := by
  cases command with
  | init config => cases set
  | run => cases running
  | shutdown => cases running
  | client => exact client_service.bind fun _ => .pure _
  | name => exact .pure _
  | settings => exact Service.get.bind fun _ => .pure _
  | health => exact health_service.bind fun _ => .pure _
  | sweep => exact Service.sweep.bind fun _ => .pure _
  | advance seconds => exact (Service.advance seconds).bind fun _ => .pure _
  | getIndex name => exact (Service.handle name).bind fun _ => .pure _
  | createIndex name body => exact (createIndex_service name body).bind fun _ => .pure _
  | deleteIndex name => exact (deleteIndex_service _).bind fun _ => .pure _
  | deleteByHandle name => exact (deleteByHandle_service name).bind fun _ => .pure _
  | existsIndex name parameters => exact (existsIndex_service name parameters).bind fun _ => .pure _
  | listIndexes rawNames parameters =>
    cases rawNames with
    | true => exact (listNames_service parameters).bind fun _ => .pure _
    | false => exact (listIndexes_service parameters).bind fun _ => .pure _
  | onIndex name op positional named => exact (invoke_service name op positional named).bind fun _ => .pure _

end SearchStore
