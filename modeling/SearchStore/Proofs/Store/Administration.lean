import SearchStore.Proofs.Store.Idle
import SearchStore.Proofs.Store.Spelling
namespace SearchStore
open SearchStore.Action Session

namespace Session

-- A session in which it is forgotten what was replied to the calls.
def unreplied (s : Session) : Session := { s with exchanges := s.exchanges.map fun e => ⟨e.call, .usual⟩ }

def SameCalls (s t : Session) : Prop := s.unreplied = t.unreplied

theorem unreplied_atop (s u : Session) : (s.atop u).unreplied = s.unreplied.atop u := rfl

theorem unreplied_after (s u : Session) : (s.after u).unreplied = s.unreplied.after u.unreplied := by
  simp [unreplied, after]

instance : Blind SameCalls where
  bare {s t} same := by
    have bare : s.unreplied.bare = t.unreplied.bare := congrArg Session.bare same
    exact bare
  atop u same := by
    unfold SameCalls
    rw [unreplied_atop, unreplied_atop, same]
  after u same := by
    unfold SameCalls
    rw [unreplied_after, unreplied_after, same]

theorem sameCalls_exchanged (s : Session) (one other : Reply) (rest : List Reply) (call : Call) :
    ((s.expecting (one :: rest)).exchanged call).SameCalls ((s.expecting (other :: rest)).exchanged call) := by
  simp [SameCalls, unreplied, exchanged, expecting]

end Session

namespace Command

def administers : Command → Bool
  | .createIndex .. | .deleteIndex _ | .existsIndex .. | .listIndexes .. => true
  | _ => false

def createRequest (index : String) (body : Value) : Entries :=
  let request := Entries.ofFields [("index", .str index)]
  match body with
  | .map entries => if entries.isEmpty then request else Entries.set request "body" body
  | _ => request

inductive Asks : Command → Method → Entries → Prop
  | create (name : String) (body : Value) :
      Asks (.createIndex (.str name) body) .createIndex (createRequest (Text.lower name) body)
  | delete (name : String) :
      Asks (.deleteIndex (.str name)) .deleteIndex (Entries.ofFields [("index", .str (Text.lower name))])
  | exist (name : String) {parameters request : Entries} (named : Entries.hasTextKeys parameters = true)
      (asked : Store.existsRequest (.str name) parameters = .ok request) :
      Asks (.existsIndex (.str name) parameters) .indexExists request
  | list (rawNames : Bool) {parameters : Entries} (named : Entries.hasTextKeys parameters = true) :
      Asks (.listIndexes rawNames parameters) .listIndices
        (Entries.setDefault parameters "format" (.str "json"))

theorem Asks.named {command : Command} {method : Method} {arguments : Entries}
    (asks : command.Asks method arguments) : Entries.hasTextKeys arguments = true := by
  cases asks with
  | create name body =>
    unfold createRequest
    split
    · split
      · rfl
      · exact Entries.hasTextKeys_set rfl
    · rfl
  | delete name => rfl
  | exist name named asked =>
    unfold Store.existsRequest at asked
    change (if _ then _ else _) = _ at asked
    split at asked
    · cases asked
    · cases asked
      exact Entries.hasTextKeys_merge rfl named
  | list rawNames named =>
    unfold Entries.setDefault
    split
    · exact named
    · exact Entries.hasTextKeys_set named

def refusal : Command → ErrorKind × String
  | .createIndex .. => (.createIndex, "Could not create index")
  | .deleteIndex _ => (.deleteIndex, "Could not delete index")
  | .existsIndex .. => (.existsIndex, "Could not check if index exists")
  | _ => (.listIndexes, "Could not read store indexes")

def excuses : Command → Failure → Bool
  | .createIndex .., cause => cause.isIndexPresent
  | _, _ => false

end Command

namespace Store

section Running
variable {s : Store × Session} {client : Client}

theorem ready_of_rawClient {store : Store} (found : store.rawClient = some client) : store.ready = true := by
  unfold rawClient at found
  unfold ready
  split at found
  · split at found
    · assumption
    · cases found
  · cases found

theorem requireClient_ready (found : s.1.rawClient = some client) : requireClient s = (.ok client, s) := by
  have asked : Store.client s = (.ok (some client), s) := by
    unfold Store.client
    rw [bind_ok (rfl : get s = (.ok s.1, s)), ready_of_rawClient found, found]
    rfl
  exact bind_ok asked

theorem requireClient_then {α β : Type} (found : s.1.rawClient = some client) (next : Client → Run α)
    (f : α → Run β) : ((requireClient >>= next) >>= f) s = (next client >>= f) s := by
  rw [bind_assoc, bind_ok (requireClient_ready found)]

theorem refused_run {α : Type} (kind : ErrorKind) (message complaint : String) (subject : List Value)
    (cause : Failure) (s : Store × Session) : ∃ warning debug : Record,
      warning.level = .warning ∧ debug.level = .debug ∧ debug.failure = some cause ∧
      (refused kind message complaint subject cause : Run α) s =
        (.error (.because kind message cause), (s.1, s.2.wrote [warning, debug])) := by
  refine ⟨.warning s.1.logger complaint subject, (Record.debug s.1.logger "Engine error" []).withFailure cause,
    rfl, rfl, rfl, ?_⟩
  unfold refused
  rw [bind_ok (log_wrote _ s), bind_ok (log_wrote _ _)]
  exact congrArg (fun session => (Except.error _, (s.1, session))) (s.2.wrote_append _ _).symm

def handled (command : Command) (complaint : String) (subject : List Value) (cause : Failure) : Run Value :=
  if command.excuses cause then pure .null
  else refused command.refusal.1 command.refusal.2 complaint subject cause

def created (name : Value) : Run Outcome := do
  log fun s => .debug s.logger "Created index %s" [name]
  return .handle (← getIndex name)

theorem create_program (found : s.1.rawClient = some client) (name : String) (body : Value) :
    perform (.createIndex (.str name) body) s =
      (rescue (onSecond (call (some client) .createIndex (Command.createRequest (Text.lower name) body)))
        (handled (.createIndex (.str name) body) "Could not create index %s" [.str name]) >>=
          fun _ => created (.str name)) s := by
  have begun : perform (.createIndex (.str name) body) s = _ := requireClient_then found _ _
  rw [begun]
  unfold created
  simp only [bind_assoc]
  rfl

theorem list_program {α : Type} (found : s.1.rawClient = some client) (rawNames : Bool) (parameters : Entries)
    (next : List Value → Run α) : (listNames parameters >>= next) s =
      (rescue (onSecond (call (some client) .listIndices (Entries.setDefault parameters "format" (.str "json"))))
        (handled (.listIndexes rawNames parameters) "Could not read store indexes" []) >>=
          fun rows => liftFault (indexNames rows) >>= next) s := by
  have begun : (listNames parameters >>= next) s = _ := requireClient_then found _ next
  rw [begun]
  simp only [bind_assoc]
  rfl

-- Apart from what it does with the answer, every command of administration is the same program.
theorem asks_program (client : Client) {command : Command} {method : Method} {arguments : Entries}
    (asks : command.Asks method arguments) : ∃ complaint subject, ∃ next : Value → Run Outcome,
      ∀ s : Store × Session, s.1.rawClient = some client → perform command s =
        (rescue (onSecond (call (some client) method arguments)) (handled command complaint subject) >>= next) s := by
  cases asks with
  | create name body => exact ⟨_, _, _, fun s found => create_program found name body⟩
  | delete name =>
    refine ⟨"Could not delete index %s", [.str (Text.lower name)], fun answer => pure (.value answer), ?_⟩
    intro s found
    exact requireClient_then found _ _
  | @exist name parameters _ _ asked =>
    refine ⟨"Could not check if index %s exists", [.str name], fun answer => pure (.flag answer.truthy), ?_⟩
    intro s found
    have begun : perform (.existsIndex (.str name) parameters) s = _ := requireClient_then found _ _
    rw [begun, asked]
    simp only [bind_assoc]
    rfl
  | list rawNames named =>
    cases rawNames with
    | true =>
      exact ⟨_, _, _, fun s found => list_program found true _ fun names => pure (Outcome.names names)⟩
    | false =>
      exact ⟨_, _, _, fun s found => (congrFun (bind_assoc (listNames _) _ _) s).trans
        (list_program found false _ fun names => names.mapM getIndex >>= fun handles =>
          pure (Outcome.handles handles))⟩

end Running

section Failing
variable {s : Store × Session} {client : Client} {command : Command} {method : Method} {arguments : Entries}

def answered (s : Store × Session) (client : Client) (method : Method) (arguments : Entries)
    (replies : List Reply) : Store × Session :=
  (s.1, (s.2.expecting replies).exchanged ⟨client, method, arguments⟩)

theorem ask_run (s : Store × Session) (client : Client) (asks : command.Asks method arguments) (reply : Reply)
    (rest : List Reply) :
    onSecond (call (some client) method arguments) (s.1, s.2.expecting (reply :: rest)) =
      (reply.result method, answered s client method arguments (reply :: rest)) :=
  onSecond_run (call_run client method asks.named _)

theorem play_reported (found : s.1.rawClient = some client) (asks : command.Asks method arguments)
    {cause : Failure} (ordinary : cause.isOrdinary = true) (serious : command.excuses cause = false)
    (rest : List Reply) : ∃ warning debug : Record,
      warning.level = .warning ∧ debug.level = .debug ∧ debug.failure = some cause ∧
      Turn.play perform ⟨command, .raised cause :: rest⟩ s =
        (.error (.because command.refusal.1 command.refusal.2 cause),
          (s.1, (answered s client method arguments (.raised cause :: rest)).2.wrote [warning, debug])) := by
  obtain ⟨complaint, subject, next, program⟩ := asks_program client asks
  obtain ⟨warning, debug, high, low, told, failed⟩ := refused_run (α := Value) command.refusal.1
    command.refusal.2 complaint subject cause (answered s client method arguments (.raised cause :: rest))
  refine ⟨warning, debug, high, low, told, ?_⟩
  have handling : rescue _ (handled command complaint subject) _ = _ :=
    rescue_handled (ask_run s client asks (.raised cause) rest) ordinary
  rw [handled, serious] at handling
  exact (program (s.1, s.2.expecting (.raised cause :: rest)) found).trans (bind_error (handling.trans failed))

theorem play_passed (found : s.1.rawClient = some client) (asks : command.Asks method arguments)
    {cause : Failure} (interrupted : cause.isOrdinary = false) (rest : List Reply) :
    Turn.play perform ⟨command, .raised cause :: rest⟩ s =
      (.error cause, answered s client method arguments (.raised cause :: rest)) := by
  obtain ⟨complaint, subject, next, program⟩ := asks_program client asks
  exact (program (s.1, s.2.expecting (.raised cause :: rest)) found).trans
    (bind_error (rescue_passed (ask_run s client asks (.raised cause) rest) interrupted))

end Failing

section Alike
variable {like : Session → Session → Prop} [Blind like] {s t : Store × Session}

theorem play_alike (turn : Turn Command) (alike : Along like s t) :
    (turn.play perform s).1 = (turn.play perform t).1 ∧
      Along like (turn.play perform s).2 (turn.play perform t).2 := by
  have ready : Along like (s.1, s.2.expecting turn.replies) (t.1, t.2.expecting turn.replies) :=
    ⟨alike.1, Blind.moved alike.2 (f := Session.expecting turn.replies) fun _ => rfl⟩
  obtain ⟨ended, left⟩ := perform_inStep turn.command _ _ ready
  exact ⟨ended.eq, left⟩

theorem trace_alike (turns : List (Turn Command)) (alike : Along like s t) :
    List.Forall₂ (fun one other => one.1 = other.1 ∧ Along like one.2 other.2)
      (Turn.trace perform turns s) (Turn.trace perform turns t) := by
  induction turns generalizing s t with
  | nil => exact .nil
  | cons turn rest ih =>
    have played := play_alike turn alike
    exact .cons played (ih played.2)

theorem created_inStep (name : Value) : InStep (Along like) Eq (created name) (created name) :=
  (log_inStep _).next fun _ => (getIndex_inStep name).next fun _ => inStep_pure _

end Alike

section Excused
variable {s : Store × Session} {client : Client}

-- Whatever is answered, or raised and excused, the handle of the index is handed out next.
theorem play_created (found : s.1.rawClient = some client) (name : String) (body : Value) {reply : Reply}
    (passable : ∀ cause, reply = .raised cause → cause.isOrdinary = true ∧ cause.isIndexPresent = true)
    (rest : List Reply) : Turn.play perform ⟨.createIndex (.str name) body, reply :: rest⟩ s =
      created (.str name) (answered s client .createIndex (Command.createRequest (Text.lower name) body)
        (reply :: rest)) := by
  have asked := ask_run s client (.create name body) reply rest
  refine (create_program (s := (s.1, s.2.expecting (reply :: rest))) found name body).trans ?_
  cases reply with
  | usual => exact bind_ok (rescue_done asked)
  | returned value => exact bind_ok (rescue_done asked)
  | raised cause =>
    obtain ⟨ordinary, present⟩ := passable cause rfl
    have excused : handled (.createIndex (.str name) body) "Could not create index %s" [.str name] cause =
        pure .null := if_pos present
    exact bind_ok ((rescue_handled asked ordinary).trans (congrFun excused _))

theorem answered_alike (s : Store × Session) (client : Client) (method : Method) (arguments : Entries)
    (one other : Reply) (rest : List Reply) :
    Along SameCalls (answered s client method arguments (one :: rest))
      (answered s client method arguments (other :: rest)) :=
  ⟨rfl, sameCalls_exchanged s.2 one other rest _⟩

end Excused

def Kept (s t : Store × Session) : Prop := t.1 = s.1

instance : IsPreorder (Store × Session) Kept where
  refl _ := rfl
  trans _ _ _ first rest := Eq.trans rest first

section Kept
variable {α : Type} {s : Store × Session}

theorem onSecond_kept (x : Action Session α) : Keeps Kept (onSecond x) := fun _ => rfl

theorem log_kept (record : Store → Record) : Keeps Kept (log record) := fun _ => rfl

theorem requireClient_kept : Keeps Kept requireClient := by
  refine Keeps.bind (get_bind_keeps fun s => ?_) fun client => ?_
  · dsimp only
    split
    · exact ((log_kept _).bind fun _ => keeps_pure _) s
    · exact (keeps_pure _ : Keeps Kept _) s
  · split
    · exact keeps_pure _
    · exact keeps_fail _

theorem refused_kept (kind : ErrorKind) (message complaint : String) (subject : List Value) (cause : Failure) :
    Keeps Kept (refused kind message complaint subject cause : Run α) :=
  (log_kept _).bind fun _ => (log_kept _).bind fun _ => keeps_fail _

theorem deleteIndex_kept (target : Target) : Keeps Kept (deleteIndex target) :=
  requireClient_kept.bind fun _ => (keeps_lift _).bind fun _ =>
    (onSecond_kept _).rescue (refused_kept _ _ _ _)

theorem existsIndex_kept (name : Value) (parameters : Entries) : Keeps Kept (existsIndex name parameters) :=
  requireClient_kept.bind fun _ =>
    (((keeps_lift _).bind fun _ => onSecond_kept _).rescue (refused_kept _ _ _ _)).bind fun _ => keeps_pure _

theorem listNames_kept (parameters : Entries) : Keeps Kept (listNames parameters) :=
  requireClient_kept.bind fun _ =>
    ((onSecond_kept _).rescue (refused_kept _ _ _ _)).bind fun _ => keeps_lift _

theorem getIndex_succeeds (listed : s.1.registry.isSome = true) (name : Value) : Ends (getIndex name) s
    (fun h t => h.isSome = (Registry.nameOf name).isSome ∧ t.1.registry.isSome = true) fun _ _ => False := by
  obtain ⟨r, found⟩ := Option.isSome_iff_exists.mp listed
  obtain ⟨result, r', session, ran, fetched⟩ := Registry.get_fetched s.1.makeHandle name r s.2
  unfold Ends
  rw [getIndex_found found]
  unfold onPart
  rw [ran]
  cases fetched with
  | unnamed unnamed => exact ⟨by rw [unnamed]; rfl, rfl⟩
  | cached named => exact ⟨by rw [named]; rfl, rfl⟩
  | made named => exact ⟨by rw [named]; rfl, rfl⟩
  | failed _ _ failed => cases failed

theorem created_handle {name : String} (full : name ≠ "") (listed : s.1.registry.isSome = true) :
    Ends (created (.str name)) s (fun outcome _ => ∃ h, outcome = .handle (some h)) fun _ _ => False := by
  unfold created
  rw [ends_bind, ends_log, ends_bind]
  refine (getIndex_succeeds (by exact listed) _).mono ?_ fun _ _ => False.elim
  rintro h t ⟨present, -⟩
  rw [Registry.nameOf_str full] at present
  obtain ⟨h, rfl⟩ := Option.isSome_iff_exists.mp present
  exact ⟨h, rfl⟩

theorem getIndexes_succeed (names : List Value) (listed : s.1.registry.isSome = true) :
    Ends (names.mapM getIndex) s (fun _ _ => True) fun _ _ => False := by
  induction names generalizing s with
  | nil => exact True.intro
  | cons name rest ih =>
    rw [List.mapM_cons, ends_bind]
    refine (getIndex_succeeds listed name).mono (fun h t got => ?_) fun _ _ => False.elim
    rw [ends_bind]
    exact (ih got.2).mono (fun _ _ _ => True.intro) fun _ _ => False.elim

-- Where handles are kept, a failure leaves the store as it was.
def Atomic (x : Run α) : Prop :=
  ∀ s : Store × Session, s.1.registry.isSome = true → Ends x s (fun _ _ => True) fun _ t => Kept s t

theorem atomic_of_kept {x : Run α} (kept : Keeps Kept x) : Atomic x := fun s _ =>
  (kept.ends s).mono (fun _ _ _ => True.intro) fun _ _ kept => kept

theorem Keeps.atomic_bind {β : Type} {x : Run β} {f : β → Run α} (kept : Keeps Kept x)
    (rest : ∀ b, Atomic (f b)) : Atomic (x >>= f) := by
  intro s listed
  rw [ends_bind]
  refine (kept.ends s).mono (fun b t (same : t.1 = s.1) => ?_) fun _ _ kept => kept
  refine (rest b t (same ▸ listed)).mono (fun _ _ _ => True.intro) fun _ u (kept : u.1 = t.1) => ?_
  exact kept.trans same

theorem Atomic.map {β : Type} {x : Run β} (atomic : Atomic x) (f : β → α) : Atomic (x >>= fun b => pure (f b)) := by
  intro s listed
  rw [ends_bind]
  exact atomic s listed

-- What is asked of the engine comes first, and what is done with the handles after it cannot fail.
theorem createIndex_atomic (name body : Value) : Atomic (createIndex name body) := by
  refine Keeps.atomic_bind requireClient_kept fun client => ?_
  refine Keeps.atomic_bind (keeps_lift _) fun index => ?_
  refine Keeps.atomic_bind ((onSecond_kept _).rescue fun failure => ?_) fun _ => ?_
  · split
    · exact keeps_pure _
    · exact refused_kept _ _ _ _ _
  · refine Keeps.atomic_bind (log_kept _) fun _ s listed => ?_
    exact (getIndex_succeeds listed name).mono (fun _ _ _ => True.intro) fun _ _ => False.elim

theorem listIndexes_atomic (parameters : Entries) : Atomic (listIndexes parameters) :=
  Keeps.atomic_bind (listNames_kept parameters) fun names _ listed =>
    (getIndexes_succeed names listed).mono (fun _ _ _ => True.intro) fun _ _ => False.elim

theorem administers_atomic {command : Command} (administers : command.administers = true) :
    Atomic (perform command) := by
  cases command with
  | createIndex name body => exact (createIndex_atomic name body).map _
  | deleteIndex name => exact (atomic_of_kept (deleteIndex_kept _)).map _
  | existsIndex name parameters => exact (atomic_of_kept (existsIndex_kept name parameters)).map _
  | listIndexes rawNames parameters =>
    cases rawNames with
    | true => exact (atomic_of_kept (listNames_kept parameters)).map _
    | false => exact (listIndexes_atomic parameters).map _
  | _ => cases administers

end Kept
-- Two ends of a command after which nothing is different: neither the result, nor the store, nor anything
-- that is called and written by then or later on.
structure Interchangeable (one other : Except Failure Outcome × (Store × Session)) : Prop where
  result : one.1 = other.1
  state : Along SameCalls one.2 other.2
  later : ∀ turns : List (Turn Command),
    List.Forall₂ (fun one other => one.1 = other.1 ∧ Along SameCalls one.2 other.2)
      (Turn.trace perform turns one.2) (Turn.trace perform turns other.2)

structure Administered (s : Store × Session) (client : Client) : Prop where
  reported : ∀ {command : Command} {method : Method} {arguments : Entries} {cause : Failure},
    command.Asks method arguments → cause.isOrdinary = true → command.excuses cause = false →
    ∀ rest, ∃ warning debug : Record,
      warning.level = .warning ∧ debug.level = .debug ∧ debug.failure = some cause ∧
      Turn.play perform ⟨command, .raised cause :: rest⟩ s =
        (.error (.because command.refusal.1 command.refusal.2 cause),
          (s.1, (answered s client method arguments (.raised cause :: rest)).2.wrote [warning, debug]))
  passed : ∀ {command : Command} {method : Method} {arguments : Entries} {cause : Failure},
    command.Asks method arguments → cause.isOrdinary = false → ∀ rest,
      Turn.play perform ⟨command, .raised cause :: rest⟩ s =
        (.error cause, answered s client method arguments (.raised cause :: rest))
  excused : ∀ {name : String} {cause : Failure} {answer : Reply}, name ≠ "" → cause.isOrdinary = true →
    cause.isIndexPresent = true → (∀ failure, answer ≠ .raised failure) → ∀ body rest,
      let played reply := Turn.play perform ⟨.createIndex (.str name) body, reply :: rest⟩ s
      (∃ h, (played answer).1 = .ok (.handle (some h))) ∧ Interchangeable (played (.raised cause)) (played answer)
  atomic : ∀ {turn : Turn Command} {failure : Failure}, turn.command.administers = true →
    (turn.play perform s).1 = .error failure → (turn.play perform s).2.1 = s.1

section Administered
variable {s : Store × Session} {client : Client}

theorem interchangeable_created {one other : Store × Session} (alike : Along SameCalls one other) (name : Value) :
    Interchangeable (created name one) (created name other) := by
  obtain ⟨ended, left⟩ := created_inStep name one other alike
  exact ⟨ended.eq, left, fun turns => trace_alike turns left⟩

theorem administered (found : s.1.rawClient = some client) (listed : s.1.registry.isSome = true) :
    Administered s client where
  reported asks ordinary serious := play_reported found asks ordinary serious
  passed asks interrupted := play_passed found asks interrupted
  excused := by
    intro name cause answer full ordinary present returned body rest played
    have passable (failure : Failure) (same : Reply.raised cause = .raised failure) :
        failure.isOrdinary = true ∧ failure.isIndexPresent = true := by
      cases same
      exact ⟨ordinary, present⟩
    have raised := play_created found name body passable rest
    have answers := play_created found name body (fun failure same => absurd same (returned failure)) rest
    change (∃ h, (Turn.play perform _ s).1 = _) ∧ Interchangeable (Turn.play perform _ s) (Turn.play perform _ s)
    rw [raised, answers]
    refine ⟨?_, interchangeable_created (answered_alike ..) _⟩
    let asked := answered s client .createIndex (Command.createRequest (Text.lower name) body) (answer :: rest)
    obtain ⟨_, t, ran, h, rfl⟩ := (created_handle (s := asked) full listed).succeeds
    exact ⟨h, congrArg Prod.fst ran⟩
  atomic := by
    intro turn failure administers failed
    exact (administers_atomic administers (s.1, s.2.expecting turn.replies) listed).of_failed failed

end Administered

-- Whatever happened to a store before, as long as there is a client.
theorem administered_while_running (settings : StoreSettings) (given : Option Client) (session : Session)
    (turns : List (Turn Command)) {client : Client}
    (running : (Turn.after perform turns (make settings given, session)).1.rawClient = some client) :
    Administered (Turn.after perform turns (make settings given, session)) client := by
  obtain ⟨settled, -⟩ := reached_attached settings given session turns
  refine administered running ?_
  rcases settled with ⟨-, _, r, -, listed, -⟩ | down
  · rw [listed]
    rfl
  · rw [down.rawClient] at running
    cases running

theorem administered_while_running_unavailable :
    let s := Turn.after perform [⟨.run, []⟩] (make { clients := [] } (some .given), {})
    let cause : Failure := .client "TransportError" "no shard available" []
    let played := Turn.play perform ⟨.deleteIndex (.str "Users"), [.raised cause]⟩ s
    s.1.rawClient = some .given ∧
      played.1 = .error (.because .deleteIndex "Could not delete index" cause) ∧ played.2.1 = s.1 := by
  intro s cause played
  have running : s.1.rawClient = some .given := by decide +kernel
  have ordinary : cause.isOrdinary = true := rfl
  have administered := administered_while_running { clients := [] } (some .given) {} [⟨.run, []⟩] running
  obtain ⟨warning, debug, -, -, -, ended⟩ :=
    administered.reported (.delete "Users") ordinary rfl []
  exact ⟨running, congrArg Prod.fst ended, congrArg (fun played => played.2.1) ended⟩

end Store
end SearchStore
