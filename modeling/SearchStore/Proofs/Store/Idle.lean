import SearchStore.Proofs.Client.Records
import SearchStore.Proofs.Store.Lifecycle
namespace SearchStore
open SearchStore.Action Session

-- The commands for which the indexes of the engine are needed.
def Command.needsIndexes : Command → Bool
  | .getIndex _ | .createIndex .. | .deleteIndex _ | .deleteByHandle _ | .existsIndex .. | .listIndexes .. => true
  | _ => false

namespace Store

def Attached (s : Store) : Prop := ∀ c, s.connection = some c → c.client.isSome = c.ready

theorem attached_of_unconnected {s : Store} (unconnected : s.connection = none) : s.Attached := by
  intro c connected
  rw [unconnected] at connected
  cases connected

section Attached
variable {s : Store × Session}

theorem Serving.attached {t : Store × Session} (serving : Serving s t) (attached : s.1.Attached) :
    t.1.Attached := by
  intro c connected
  rw [serving.connection] at connected
  exact attached c connected

theorem shutdown_attached (settled : s.1.Up ∨ s.1.Down) :
    Ends shutdown s (fun _ t => t.1.connection = none) fun _ t => t.1.Attached := by
  simp only [shutdown, ends_bind, ends_stopSweep (unbroken settled)]
  rw [ends_disconnect]
  cases s.1.connection with
  | none => rfl
  | some c =>
    dsimp only
    rw [Connection.ends_close]
    cases c.held with
    | none => rfl
    | some client =>
      refine Ends.trivial.mono (fun _ _ _ => rfl) fun _ _ _ => ?_
      rintro _ ⟨⟩
      rfl

theorem run_attached (settled : s.1.Up ∨ s.1.Down) :
    Ends run s (fun _ t => t.1.Attached) fun _ t => t.1.Attached := by
  simp only [run, ends_bind]
  refine (shutdown_attached settled).mono ?_ fun _ _ attached => attached
  rintro _ ⟨s', session⟩ unconnected
  have attached : s'.Attached := attached_of_unconnected unconnected
  simp only [ends_get]
  cases Connection.make s'.settings s'.given with
  | error failure => exact attached
  | ok c =>
    simp only [ends_lift_ok, ends_connect]
    refine (Connection.start_usable c session).mono ?_ fun _ _ _ => attached
    rintro _ ⟨c', session'⟩ ⟨ready, present⟩
    simp only [ends_modify, ends_log, Action.ends_get]
    rintro _ ⟨⟩
    exact present.trans ready.symm

theorem play_attached (turn : Turn Command) (settled : s.1.Up ∨ s.1.Down) (attached : s.1.Attached) :
    (turn.play perform s).2.1.Attached := by
  have settled' : (s.1, s.2.expecting turn.replies).1.Up ∨ (s.1, s.2.expecting turn.replies).1.Down :=
    settled
  refine perform_holds (fun t => t.1.Attached) ?_ (run_attached settled') ?_ turn.command
  · intro t serving
    exact serving.attached attached
  · exact (shutdown_attached settled').mono (fun _ _ => attached_of_unconnected) fun _ _ attached => attached

-- A store that shows no client has no connection that would be ready, and no handles.
theorem unready_of_rawClient (settled : s.1.Up ∨ s.1.Down) (attached : s.1.Attached)
    (down : s.1.rawClient = none) : s.1.ready = false ∧ s.1.registry = none := by
  rcases settled with ⟨-, client, r, found, -⟩ | settled
  · rw [down] at found
    cases found
  · refine ⟨?_, settled.registry⟩
    unfold rawClient at down
    unfold ready
    split
    · rename_i c connected
      rw [connected] at down
      cases ready : c.ready with
      | false => rfl
      | true =>
        have present := attached c connected
        simp only [ready, if_true] at down
        rw [down, ready] at present
        cases present
    · rfl

end Attached

theorem reached_attached (settings : StoreSettings) (given : Option Client) (session : Session)
    (turns : List (Turn Command)) :
    let s := Turn.after perform turns (make settings given, session)
    (s.1.Up ∨ s.1.Down) ∧ s.1.Attached := by
  have start : ((make settings given).Up ∨ (make settings given).Down) ∧ (make settings given).Attached :=
    ⟨.inr ⟨rfl, rfl⟩, attached_of_unconnected rfl⟩
  have step : ∀ (turn : Turn Command) s, (s.1.Up ∨ s.1.Down) ∧ s.1.Attached →
      ((turn.play perform s).2.1.Up ∨ (turn.play perform s).2.1.Down) ∧ (turn.play perform s).2.1.Attached :=
    fun turn s holds => ⟨play_settled turn s holds.1, play_attached turn holds.1 holds.2⟩
  exact Turn.after_holds (s := (make settings given, session)) step turns start

structure Untouched (before after : Store × Session) : Prop where
  store : after.1 = before.1
  exchanges : after.2.exchanges = before.2.exchanges

section Idle
variable {s : Store × Session}

theorem untouched_refl (s : Store × Session) : Untouched s s := ⟨rfl, rfl⟩

theorem untouched_wrote (s : Store × Session) (records : List Record) :
    Untouched s (s.1, s.2.wrote records) := ⟨rfl, rfl⟩

theorem log_wrote (record : Store → Record) (s : Store × Session) :
    log record s = (.ok (), (s.1, s.2.wrote [record s.1])) := onSecond_run (log_run (record s.1) s.2)

theorem requireClient_unready (unready : s.1.ready = false) : ∃ records,
    requireClient s = (.error notRunning, (s.1, s.2.wrote records)) := by
  have absent : s.1.rawClient = none := by
    unfold ready at unready
    unfold rawClient
    split
    · rename_i c connected
      rw [connected] at unready
      dsimp only at unready
      rw [unready]
      rfl
    · rfl
  have asked : client s = (.ok none, (s.1, s.2.wrote [.error s.1.logger "ES Client is not ready yet." []])) := by
    unfold client
    rw [bind_ok (rfl : get s = (.ok s.1, s)), unready, absent]
    exact bind_ok (log_wrote _ s)
  exact ⟨_, bind_ok asked⟩

theorem getIndex_unlisted (unlisted : s.1.registry = none) (name : Value) :
    getIndex name s = (.error notRunning, s) := by
  unfold getIndex
  rw [bind_ok (rfl : get s = (.ok s.1, s)), unlisted]
  rfl

theorem needsIndexes_refused (unready : s.1.ready = false) (unlisted : s.1.registry = none)
    {command : Command} (needs : command.needsIndexes = true) :
    (perform command s).1 = .error notRunning ∧ Untouched s (perform command s).2 := by
  obtain ⟨records, refused⟩ := requireClient_unready unready
  have missing := getIndex_unlisted unlisted
  have fails {t : Store × Session} (untouched : Untouched s t) {x : Run Outcome}
      (ran : x s = (.error notRunning, t)) : (x s).1 = .error notRunning ∧ Untouched s (x s).2 := by
    rw [ran]
    exact ⟨rfl, untouched⟩
  have noted := untouched_wrote s records
  cases command with
  | getIndex name => exact fails (untouched_refl s) (bind_error (missing name))
  | createIndex name body => exact fails noted (bind_error (bind_error refused))
  | deleteIndex name => exact fails noted (bind_error (bind_error refused))
  | deleteByHandle name => exact fails (untouched_refl s) (bind_error (bind_error (missing name)))
  | existsIndex name parameters => exact fails noted (bind_error (bind_error refused))
  | listIndexes rawNames parameters =>
    cases rawNames with
    | true => exact fails noted (bind_error (bind_error refused))
    | false => exact fails noted (bind_error (bind_error (bind_error refused)))
  | _ => cases needs

theorem health_unready (unready : s.1.ready = false) :
    perform .health s = (.ok (.health .notConnected), s) := by
  have unasked : health s = (.ok .notConnected, s) := by
    unfold ready at unready
    unfold health
    rw [bind_ok (rfl : get s = (.ok s.1, s))]
    cases connected : s.1.connection with
    | none => rfl
    | some c =>
      rw [connected] at unready
      have quiet : c.health s.2 = (.ok .notConnected, s.2) := by
        dsimp only at unready
        unfold Connection.health
        rw [unready]
        rfl
      exact onSecond_run quiet
  exact bind_ok unasked

end Idle

-- In every state that a store can be in between two commands.
theorem down_store_idle (settings : StoreSettings) (given : Option Client) (session : Session)
    (turns : List (Turn Command)) (turn : Turn Command)
    (down : (Turn.after perform turns (make settings given, session)).1.rawClient = none) :
    let s := Turn.after perform turns (make settings given, session)
    let played := turn.play perform s
    (turn.command.needsIndexes = true →
      played.1 = .error (.plain .connectivity "Elastic Store is not running") ∧ Untouched s played.2) ∧
    (turn.command = .health →
      played.1 = .ok (.health ⟨"unhealthy", "Client not initialized", false⟩) ∧ Untouched s played.2) := by
  intro s played
  obtain ⟨settled, attached⟩ := reached_attached settings given session turns
  obtain ⟨unready, unlisted⟩ := unready_of_rawClient settled attached down
  obtain ⟨command, replies⟩ := turn
  constructor
  · intro needs
    obtain ⟨failed, store, exchanges⟩ :=
      needsIndexes_refused (s := (s.1, s.2.expecting replies)) unready unlisted needs
    exact ⟨failed, store, exchanges⟩
  · rintro rfl
    have asked : played = _ := health_unready (s := (s.1, s.2.expecting replies)) unready
    rw [asked]
    exact ⟨rfl, rfl, rfl⟩

def brokenOff : List (Turn Command) :=
  [⟨.run, []⟩, ⟨.getIndex (.str "users"), []⟩, ⟨.shutdown, [.raised (.client "RuntimeError" "close" [])]⟩]

theorem down_store_idle_brokenOff :
    let s := Turn.after perform brokenOff (make { clients := [] } none, {})
    let played := Turn.play perform ⟨.createIndex (.str "users") .null, []⟩ s
    s.1.rawClient = none ∧ s.1.connection.isSome = true ∧
      played.1 = .error (.plain .connectivity "Elastic Store is not running") ∧ Untouched s played.2 := by
  intro s played
  have down : s.1.rawClient = none := by decide +kernel
  have idle := down_store_idle { clients := [] } none {} brokenOff ⟨.createIndex (.str "users") .null, []⟩ down
  exact ⟨down, by decide +kernel, idle.1 rfl⟩

end Store
end SearchStore
