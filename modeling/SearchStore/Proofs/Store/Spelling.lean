import Mathlib.Data.List.Forall2
import SearchStore.Proofs.Client.Calls
import SearchStore.Proofs.Handle.Outcome
import SearchStore.Proofs.Store.Alike
import SearchStore.Proofs.Store.Eviction
import SearchStore.Proofs.Text.Lowering
import SearchStore.Proofs.Value.Writes
namespace SearchStore
open SearchStore.Action Session

def Turn.trace {κ σ α : Type} (serve : κ → Action (σ × Session) α) :
    List (Turn κ) → σ × Session → List (Except Failure α × (σ × Session))
  | [], _ => []
  | turn :: rest, s => turn.play serve s :: trace serve rest (turn.play serve s).2

namespace Command

-- The same command, which may name an index by either text where it asks for a handle, for the creation or
-- the deletion of the index or for its existence.
inductive Respelt (a b : String) : Command → Command → Prop
  | same (command : Command) : Respelt a b command command
  | getIndex : Respelt a b (.getIndex (.str a)) (.getIndex (.str b))
  | createIndex (body : Value) : Respelt a b (.createIndex (.str a) body) (.createIndex (.str b) body)
  | deleteIndex : Respelt a b (.deleteIndex (.str a)) (.deleteIndex (.str b))
  | deleteByHandle : Respelt a b (.deleteByHandle (.str a)) (.deleteByHandle (.str b))
  | existsIndex (parameters : Entries) :
      Respelt a b (.existsIndex (.str a) parameters) (.existsIndex (.str b) parameters)
  | onIndex (op : Operation) (positional : List Value) (named : Entries) :
      Respelt a b (.onIndex (.str a) op positional named) (.onIndex (.str b) op positional named)

def target? : Command → Option Value
  | .createIndex index _ | .deleteIndex index | .existsIndex index _ => some index
  | _ => none

end Command

namespace Store

section Respelt
variable {a b : String} (full : a ≠ "") (full' : b ≠ "") (same : Text.lower a = Text.lower b)

include same in
theorem indexName_respelt : indexName (.str a) = indexName (.str b) := congrArg Except.ok same

include full full' same in
theorem getIndex_respelt : getIndex (.str a) = getIndex (.str b) := by
  have named : Registry.nameOf (.str a) = Registry.nameOf (.str b) := by
    rw [Registry.nameOf_str full, Registry.nameOf_str full', same]
  unfold getIndex Registry.get
  rw [named]

include same in
theorem deleteIndex_respelt : deleteIndex (.name (.str a)) = deleteIndex (.name (.str b)) := by
  have named : targetName (.name (.str a)) = targetName (.name (.str b)) := indexName_respelt same
  unfold deleteIndex
  rw [named]

theorem log_outlined {record other : Store → Record} (same : ∀ s, (record s).outline = (other s).outline) :
    InStep LikeWith Eq (log record) (log other) :=
  look_inStep.next fun s => inStep_onSecond (Session.log_inStep (same s))

theorem refused_inStep {α : Type} (kind : ErrorKind) (message complaint : String) (subject other : List Value)
    (cause : Failure) : InStep LikeWith Eq (refused kind message complaint subject cause : Run α)
      (refused kind message complaint other cause) := by
  refine InStep.next (log_outlined ?_) fun _ => ?_
  · exact fun _ => rfl
  · exact (log_outlined fun _ => rfl).next fun _ => inStep_fail _

include full full' same in
theorem createIndex_respelt (body : Value) :
    InStep LikeWith Eq (createIndex (.str a) body) (createIndex (.str b) body) := by
  unfold createIndex
  rw [indexName_respelt same, getIndex_respelt full full' same]
  refine requireClient_service.inStep.next fun client => (inStep_lift (.refl _)).next fun index => ?_
  refine (InStep.rescue (inStep_onSecond (told_call _ _ _).inStep) fun failure => ?_).next fun _ => ?_
  · split
    · exact inStep_pure _
    · exact refused_inStep _ _ _ _ _ failure
  · refine InStep.next (log_outlined ?_) fun _ => getIndex_inStep _
    exact fun _ => rfl

include same in
theorem existsIndex_respelt (parameters : Entries) :
    InStep LikeWith Eq (existsIndex (.str a) parameters) (existsIndex (.str b) parameters) := by
  have request : existsRequest (.str a) parameters = existsRequest (.str b) parameters := by
    unfold existsRequest
    rw [indexName_respelt same]
  unfold existsIndex
  rw [request]
  refine requireClient_service.inStep.next fun client => ?_
  refine (InStep.rescue ?_ fun failure => refused_inStep _ _ _ _ _ failure).next fun _ => inStep_pure _
  exact (inStep_lift (.refl _)).next fun request => inStep_onSecond (told_call _ _ _).inStep

include full full' same in
theorem perform_respelt {command other : Command} (respelt : Command.Respelt a b command other) :
    InStep LikeWith Eq (perform command) (perform other) := by
  have got := getIndex_respelt full full' same
  cases respelt with
  | same command => exact perform_inStep command
  | getIndex =>
    refine InStep.next ?_ fun _ => inStep_pure _
    rw [got]
    exact getIndex_inStep _
  | createIndex body => exact (createIndex_respelt full full' same body).next fun _ => inStep_pure _
  | deleteIndex =>
    refine InStep.next ?_ fun _ => inStep_pure _
    rw [deleteIndex_respelt same]
    exact (deleteIndex_service _).inStep
  | deleteByHandle =>
    refine InStep.next ?_ fun _ => inStep_pure _
    unfold deleteByHandle
    rw [got]
    exact (deleteByHandle_service (.str b)).inStep
  | existsIndex parameters => exact (existsIndex_respelt same parameters).next fun _ => inStep_pure _
  | onIndex op positional named =>
    refine InStep.next ?_ fun _ => inStep_pure _
    unfold invoke
    rw [got]
    exact (invoke_service (.str b) op positional named).inStep

structure Retold (a b : String) (turn other : Turn Command) : Prop where
  command : Command.Respelt a b turn.command other.command
  replies : turn.replies = other.replies

include full full' same in
theorem play_retold {turn other : Turn Command} (retold : Retold a b turn other) {s t : Store × Session}
    (alike : LikeWith s t) : (turn.play perform s).1 = (other.play perform t).1 ∧
      LikeWith (turn.play perform s).2 (other.play perform t).2 := by
  have ready : LikeWith (s.1, s.2.expecting turn.replies) (t.1, t.2.expecting other.replies) := by
    rw [retold.replies]
    exact ⟨alike.1, Blind.moved alike.2 fun _ => rfl⟩
  obtain ⟨ended, left⟩ := perform_respelt full full' same retold.command _ _ ready
  exact ⟨ended.eq, left⟩

include full full' same in
theorem trace_retold {turns others : List (Turn Command)} (retold : List.Forall₂ (Retold a b) turns others)
    {s t : Store × Session} (alike : LikeWith s t) :
    List.Forall₂ (fun one other => one.1 = other.1 ∧ LikeWith one.2 other.2)
      (Turn.trace perform turns s) (Turn.trace perform others t) := by
  induction retold generalizing s t with
  | nil => exact .nil
  | cons first _ ih =>
    have played := play_retold full full' same first alike
    exact .cons played (ih played.2)

end Respelt

-- All that was called in between is about the index of this name.
def About (index : String) (before after : Store × Session) : Prop :=
  ∃ made, after.2.calls = before.2.calls ++ made ∧
    ∀ call ∈ made, Entries.get? call.arguments "index" = some (.str index)

section About
variable {index : String} {α β : Type}

theorem about_of_silent {before after : Store × Session} (silent : before.2.Silent after.2) :
    About index before after := by
  refine ⟨[], silent.trans (List.append_nil _).symm, ?_⟩
  rintro call ⟨⟩

instance : IsPreorder (Store × Session) (About index) where
  refl _ := about_of_silent rfl
  trans _ _ _ first rest := by
    obtain ⟨made, calls, about⟩ := first
    obtain ⟨made', calls', about'⟩ := rest
    refine ⟨made ++ made', by rw [calls', calls, List.append_assoc], fun call member => ?_⟩
    exact (List.mem_append.mp member).elim (about call) (about' call)

theorem onSession_about {x : Action Session α} (silent : Keeps Silent x) :
    Keeps (About index) (onSecond x : Run α) := silent.onSecond fun _ _ _ same => about_of_silent same

theorem call_about {arguments : Entries} (named : Entries.get? arguments "index" = some (.str index))
    (client : Option Client) (method : Method) :
    Keeps (About index) (onSecond (call client method arguments) : Run Value) := by
  intro s
  refine ⟨_, call_sends client method arguments s.2, fun call member => ?_⟩
  split at member
  · obtain ⟨client, -, rfl⟩ := List.mem_map.mp member
    exact named
  · cases member

theorem lift_bind_about {result : Except Failure β} {f : β → Run α}
    (each : ∀ b, result = .ok b → Keeps (About index) (f b)) : Keeps (About index) (lift result >>= f) := by
  cases result with
  | error failure => exact keeps_fail failure
  | ok b => exact each b rfl

theorem log_about (record : Store → Record) : Keeps (About index) (log record) :=
  get_bind_keeps fun s => onSession_about (log_silent (record s.1)) s

theorem requireClient_about : Keeps (About index) requireClient := by
  have client : Keeps (About index) Store.client := by
    refine get_bind_keeps fun s => ?_
    split
    · exact ((log_about _).bind fun _ => keeps_pure _) s
    · exact Std.Refl.refl s
  refine client.bind fun client => ?_
  cases client with
  | none => exact keeps_fail _
  | some client => exact keeps_pure _

theorem refused_about (kind : ErrorKind) (message complaint : String) (subject : List Value) (cause : Failure) :
    Keeps (About index) (refused kind message complaint subject cause : Run α) :=
  (log_about _).bind fun _ => (log_about _).bind fun _ => keeps_fail _

theorem getIndex_about (name : Value) : Keeps (About index) (getIndex name) := by
  refine get_bind_keeps fun s => ?_
  cases s.1.registry with
  | none => exact Std.Refl.refl s
  | some r =>
    refine about_of_silent ?_
    obtain ⟨result, r', session, ran, fetched⟩ := Registry.get_fetched s.1.makeHandle name r s.2
    change s.2.Silent (Registry.get s.1.makeHandle name (r, s.2)).2.2
    rw [ran]
    cases fetched with
    | unnamed => exact Eq.refl _
    | cached => exact Eq.refl _
    | made _ _ made =>
      cases made
      exact Eq.refl _
    | failed _ _ failed => cases failed

theorem createIndex_about (a : String) (body : Value) : Keeps (About (Text.lower a)) (createIndex (.str a) body) := by
  refine requireClient_about.bind fun client => lift_bind_about fun index named => ?_
  cases named
  refine Keeps.bind (Keeps.rescue (call_about ?_ _ _) fun failure => ?_) fun _ => ?_
  · split
    · split
      · rfl
      · rfl
    · rfl
  · split
    · exact keeps_pure _
    · exact refused_about _ _ _ _ failure
  · exact (log_about _).bind fun _ => getIndex_about _

theorem deleteIndex_about (a : String) : Keeps (About (Text.lower a)) (deleteIndex (.name (.str a))) := by
  refine requireClient_about.bind fun client => lift_bind_about fun index named => ?_
  cases named
  exact Keeps.rescue (call_about rfl _ _) fun failure => refused_about _ _ _ _ failure

theorem existsRequest_index {a : String} {parameters request : Entries}
    (asked : existsRequest (.str a) parameters = .ok request) :
    Entries.get? request "index" = some (.str (Text.lower a)) := by
  change (if Entries.has parameters "index" then _ else _) = _ at asked
  split at asked
  · cases asked
  · rename_i missing
    cases asked
    rw [Entries.get?_merge_of_missing (Option.not_isSome_iff_eq_none.mp missing)]
    rfl

theorem existsIndex_about (a : String) (parameters : Entries) :
    Keeps (About (Text.lower a)) (existsIndex (.str a) parameters) := by
  refine requireClient_about.bind fun client => Keeps.bind (Keeps.rescue ?_ fun failure => ?_) fun _ => keeps_pure _
  · refine lift_bind_about fun request asked => call_about ?_ _ _
    exact existsRequest_index (ok_of_mapError asked)
  · exact refused_about _ _ _ _ failure

theorem perform_about {command : Command} {a : String} (target : command.target? = some (.str a)) :
    Keeps (About (Text.lower a)) (perform command) := by
  cases command with
  | createIndex name body =>
    cases target
    exact (createIndex_about a body).bind fun _ => keeps_pure _
  | deleteIndex name =>
    cases target
    exact (deleteIndex_about a).bind fun _ => keeps_pure _
  | existsIndex name parameters =>
    cases target
    exact (existsIndex_about a parameters).bind fun _ => keeps_pure _
  | _ => cases target

end About

theorem getIndex_named {start : Store × Session} (none : start.1.handles = []) (turns : List (Turn Command))
    {a : String} (full : a ≠ "") {h : Handle} {t : Store × Session}
    (got : getIndex (.str a) (Turn.after perform turns start) = (.ok (some h), t)) : h.name = Text.lower a := by
  cases found : (Turn.after perform turns start).1.registry with
  | none =>
    have refused : getIndex (.str a) (Turn.after perform turns start) =
        (.error notRunning, Turn.after perform turns start) := by
      unfold getIndex
      rw [bind_ok (rfl : Store.get _ = (.ok _, _)), found]
      rfl
    rw [refused] at got
    cases got
  | some r =>
    obtain ⟨named, -⟩ := handleFor_made none found a
    obtain ⟨t', made, -⟩ := getIndex_handleFor found full
    rw [made] at got
    cases got
    rw [named, Text.lower_lower]

-- From any state on that a store reaches. The sessions with the calls that were made are part of its states.
theorem spelling_without_influence (settings : StoreSettings) (given : Option Client) (session : Session)
    (turns : List (Turn Command)) {a b : String} (full : a ≠ "") (full' : b ≠ "")
    (same : Text.lower a = Text.lower b) :
    let start := (make settings given, session)
    let s := Turn.after perform turns start
    (∀ more others, List.Forall₂ (Retold a b) more others →
      List.Forall₂ (fun one other => one.1 = other.1 ∧ LikeWith one.2 other.2)
        (Turn.trace perform more s) (Turn.trace perform others s)) ∧
    ∀ h t, getIndex (.str a) s = (.ok (some h), t) → ∀ c, Text.lower c = Text.lower a →
      ∀ (more : List (Turn Command)) (turn : Turn Command), turn.command.target? = some (.str c) →
        About h.name (Turn.after perform more start) (turn.play perform (Turn.after perform more start)).2 := by
  intro start s
  constructor
  · intro more others retold
    exact trace_retold full full' same retold ⟨rfl, Like.rfl⟩
  · intro h t got c spelled more turn target
    have unmade : start.1.handles = [] := rfl
    rw [getIndex_named unmade turns full got, ← spelled]
    exact perform_about target _

def aboutIndex (name : String) : List (Turn Command) :=
  [⟨.createIndex (.str name) .null, []⟩, ⟨.getIndex (.str name), []⟩, ⟨.existsIndex (.str name) [], []⟩,
    ⟨.deleteIndex (.str name), []⟩]

theorem spelling_without_influence_users :
    let start := (make withoutNodes (some .given), ({} : Session))
    let s := Turn.after perform [⟨.run, []⟩] start
    let created := Turn.play perform ⟨.createIndex (.str "USERS") .null, []⟩ s
    "Users" ≠ "" ∧ "USERS" ≠ "" ∧ Text.lower "Users" = Text.lower "USERS" ∧
      List.Forall₂ (fun one other => one.1 = other.1 ∧ LikeWith one.2 other.2)
        (Turn.trace perform (aboutIndex "Users") s) (Turn.trace perform (aboutIndex "USERS") s) ∧
      ∃ h t, getIndex (.str "Users") s = (.ok (some h), t) ∧ About h.name s created.2 ∧
        created.2.2.calls.length = s.2.calls.length + 1 := by
  intro start s created
  have full : "Users" ≠ "" := by decide
  have full' : "USERS" ≠ "" := by decide
  have same : Text.lower "Users" = Text.lower "USERS" := by decide +kernel
  have retold : List.Forall₂ (Retold "Users" "USERS") (aboutIndex "Users") (aboutIndex "USERS") := by
    refine .cons ⟨.createIndex _, rfl⟩ (.cons ⟨.getIndex, rfl⟩ ?_)
    exact .cons ⟨.existsIndex _, rfl⟩ (.cons ⟨.deleteIndex, rfl⟩ .nil)
  obtain ⟨alike, sent⟩ :=
    spelling_without_influence withoutNodes (some .given) {} [⟨.run, []⟩] full full' same
  obtain ⟨r, found⟩ : ∃ r, s.1.registry = some r := Option.isSome_iff_exists.mp (by decide +kernel)
  obtain ⟨t, got, -⟩ := getIndex_handleFor found full
  have about := sent _ t got "USERS" same.symm [⟨.run, []⟩] ⟨.createIndex (.str "USERS") .null, []⟩ rfl
  exact ⟨full, full', same, alike _ _ retold, _, t, got, about, by decide +kernel⟩

end Store
end SearchStore
