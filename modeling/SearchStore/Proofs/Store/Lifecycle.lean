import SearchStore.Proofs.Store.Serving
namespace SearchStore
open SearchStore.Action

theorem Period.ofNumber_usable (n : Number) : Period.ofNumber n ≠ .unusable := by
  cases n with
  | whole n => simp [Period.ofNumber]
  | real x => cases finite : x.rat? <;> simp [Period.ofNumber, finite]

theorem Registry.start_runs (period : Period) (usable : period ≠ .unusable) (now : Rat)
    (client : Option Client) :
    let r := Registry.start now { period := period }
    r.running = true ∧ r.BoundTo client := by
  cases period with
  | every seconds => exact ⟨rfl, fun _ member => nomatch member⟩
  | never => exact ⟨rfl, fun _ member => nomatch member⟩
  | unusable => exact absurd rfl usable

namespace Store

-- Callers see a client, and every handle at hand is bound to just that client.
structure Up (s : Store) : Prop where
  ready : s.ready = true
  tended : ∃ client r, s.rawClient = some client ∧ s.registry = some r ∧ r.running = true ∧
    r.BoundTo (some client)

structure Down (s : Store) : Prop where
  rawClient : s.rawClient = none
  registry : s.registry = none

section Steps
variable {s : Store × Session} {failed : Failure → Store × Session → Prop}

@[simp] theorem ends_get {done : Store → Store × Session → Prop} :
    Ends get s done failed ↔ done s.1 s := Iff.rfl

@[simp] theorem ends_modify {done : Unit → Store × Session → Prop} (f : Store → Store) :
    Ends (modify f) s done failed ↔ done () (f s.1, s.2) := Iff.rfl

@[simp] theorem ends_log {done : Unit → Store × Session → Prop} (record : Store → Record) :
    Ends (log record) s done failed ↔ done () (s.1, s.2.logged (record s.1)) := Iff.rfl

@[simp] theorem ends_onPart {ρ α : Type} {done : α → Store × Session → Prop} (part : ρ)
    (put : ρ → Store → Store) (x : Action (ρ × Session) α) :
    Ends (onPart part put x) s done failed ↔ Ends x (part, s.2)
      (fun a t => done a (put t.1 s.1, t.2)) fun failure t => failed failure (put t.1 s.1, t.2) := by
  unfold Ends onPart
  rcases x (part, s.2) with ⟨_ | _, _⟩ <;> rfl

theorem ends_stopSweep {done : Unit → Store × Session → Prop}
    (whole : ∀ r, s.1.registry = some r → r.sweeping ≠ some .broken) :
    Ends stopSweep s done failed ↔ done () ({ s.1 with registry := none }, s.2) := by
  obtain ⟨⟨settings, given, connection, registry, logger⟩, session⟩ := s
  cases registry with
  | none => rfl
  | some r =>
    have unbroken := whole r rfl
    simp only [stopSweep, ends_bind, ends_get, ends_onPart, Registry.stop, Action.ends_get, ends_set]
    rfl

theorem ends_disconnect {done : Unit → Store × Session → Prop} :
    Ends disconnect s done failed ↔ match s.1.connection with
      | none => done () s
      | some c => Ends Connection.close (c, s.2)
          (fun _ t => done () ({ s.1 with connection := none }, t.2))
          fun failure t => failed failure (putConnection t.1 s.1, t.2) := by
  cases found : s.1.connection <;> simp [disconnect, found, putConnection]

def reported (s : Store) (failure : Failure) (session : Session) : Session :=
  if isConnectivity failure then
    session.logged ((Record.error s.logger "Failed to connect to Elastic Store" []).withFailure failure)
  else session

theorem ends_connect {done : Connection → Store × Session → Prop} (c : Connection) :
    Ends (connect c) s done failed ↔ Ends Connection.start (c, s.2)
      (fun _ t => done t.1 (s.1, t.2)) fun failure t => failed failure (s.1, s.1.reported failure t.2) := by
  unfold Ends connect
  rcases Connection.start (c, s.2) with ⟨failure | _, ⟨c', session⟩⟩
  · by_cases unreachable : isConnectivity failure
    · simp only [reported, unreachable, if_true]
      rfl
    · simp only [reported, unreachable]
      rfl
  · rfl

end Steps

theorem Serving.rawClient {s t : Store × Session} (serving : Serving s t) :
    t.1.rawClient = s.1.rawClient := by
  rw [Store.rawClient, Store.rawClient, serving.connection]

theorem clientInUse_of_rawClient {s : Store} {client : Client} (found : s.rawClient = some client) :
    s.clientInUse = some client := by
  unfold rawClient at found
  split at found
  · rename_i c connected
    split at found
    · rw [Store.clientInUse, connected]
      exact found
    · cases found
  · cases found

theorem Serving.up {s t : Store × Session} (serving : Serving s t) (up : s.1.Up) : t.1.Up := by
  obtain ⟨ready, client, r, found, listed, running, bound⟩ := up
  have follows := serving.registry
  rw [listed, clientInUse_of_rawClient found] at follows
  cases after : t.1.registry with
  | none => rw [after] at follows; cases follows
  | some r' =>
    rw [after] at follows
    cases follows with
    | some follows =>
      refine ⟨?_, client, r', serving.rawClient.trans found, after, follows.running running,
        follows.bound bound⟩
      rw [Store.ready, serving.connection]
      exact ready

theorem Serving.down {s t : Store × Session} (serving : Serving s t) (down : s.1.Down) : t.1.Down := by
  refine ⟨serving.rawClient.trans down.rawClient, ?_⟩
  have follows := serving.registry
  rw [down.registry] at follows
  cases after : t.1.registry with
  | none => rfl
  | some r => rw [after] at follows; cases follows

theorem unbroken {s : Store} (settled : s.Up ∨ s.Down) :
    ∀ r, s.registry = some r → r.sweeping ≠ some .broken := by
  intro r listed broken
  rcases settled with ⟨-, client, r', -, listed', running, -⟩ | down
  · rw [listed] at listed'
    cases listed'
    simp [Registry.running, broken] at running
  · rw [down.registry] at listed
    cases listed

theorem down_of_released {s : Store} {c : Connection} (connection : s.connection = some c)
    (unready : c.ready = false) (registry : s.registry = none) : s.Down := by
  refine ⟨?_, registry⟩
  rw [rawClient, connection]
  simp [unready]

theorem down_of_disconnected {s : Store} (connection : s.connection = none)
    (registry : s.registry = none) : s.Down := by
  refine ⟨?_, registry⟩
  rw [rawClient, connection]

-- A close that fails leaves a connection behind, but one that let go of its client.
theorem shutdown_ends {s : Store × Session} (settled : s.1.Up ∨ s.1.Down) :
    Ends shutdown s (fun _ t => t.1.connection = none ∧ t.1.registry = none) fun _ t => t.1.Down := by
  simp only [shutdown, ends_bind, ends_stopSweep (unbroken settled)]
  rw [ends_disconnect]
  cases connected : s.1.connection with
  | none => exact ⟨rfl, rfl⟩
  | some c =>
    dsimp only
    rw [Connection.ends_close]
    cases c.held with
    | none => exact ⟨rfl, rfl⟩
    | some client =>
      refine Ends.trivial.mono (fun _ _ _ => ⟨rfl, rfl⟩) fun _ _ _ => ?_
      exact down_of_released rfl (Connection.released_ready c) rfl

theorem run_ends {s : Store × Session} (settled : s.1.Up ∨ s.1.Down) :
    Ends run s (fun _ t => t.1.Up) fun _ t => t.1.Down := by
  simp only [run, ends_bind]
  refine (shutdown_ends settled).mono ?_ fun _ _ down => down
  rintro _ ⟨s', session⟩ ⟨disconnected, unlisted⟩
  have down : s'.Down := down_of_disconnected disconnected unlisted
  simp only [ends_get]
  cases made : Connection.make s'.settings s'.given with
  | error failure => exact down
  | ok c =>
    simp only [ends_lift_ok, ends_connect]
    refine (Connection.start_usable c session).mono ?_ fun _ _ _ => down
    rintro _ ⟨c', session'⟩ ⟨ready, present⟩
    obtain ⟨client, found⟩ := Option.isSome_iff_exists.mp present
    simp only [ends_modify, ends_log, Action.ends_get]
    obtain ⟨running, bound⟩ := Registry.start_runs _ (Period.ofNumber_usable _) (session'.logged _).now (some client)
    refine ⟨ready, client, _, ?_, rfl, running, bound⟩
    simpa [rawClient, putConnection, putRegistry] using ⟨ready, found⟩

theorem play_settled (turn : Turn Command) (s : Store × Session) (settled : s.1.Up ∨ s.1.Down) :
    (turn.play perform s).2.1.Up ∨ (turn.play perform s).2.1.Down := by
  have settled' : (s.1, s.2.expecting turn.replies).1.Up ∨ (s.1, s.2.expecting turn.replies).1.Down :=
    settled
  refine perform_holds (fun t => t.1.Up ∨ t.1.Down) ?_ ?_ ?_ turn.command
  · intro t serving
    exact settled'.imp serving.up serving.down
  · exact (run_ends settled').mono (fun _ _ => .inl) fun _ _ => .inr
  · refine (shutdown_ends settled').mono (fun _ _ ends => ?_) fun _ _ => .inr
    exact .inr (down_of_disconnected ends.1 ends.2)

-- What is known of a store between two commands, and of what its next start or end will do.
structure Settled (s : Store × Session) : Prop where
  upOrDown : s.1.Up ∨ s.1.Down
  run : ∀ replies, Ends run (s.1, s.2.expecting replies) (fun _ t => t.1.Up) fun _ t => t.1.Down
  shutdown : ∀ replies,
    Ends shutdown (s.1, s.2.expecting replies) (fun _ t => t.1.Down) fun _ t => t.1.Down

theorem store_settled (settings : StoreSettings) (given : Option Client) (session : Session)
    (turns : List (Turn Command)) : Settled (Turn.after perform turns (make settings given, session)) := by
  have start : (make settings given).Up ∨ (make settings given).Down := .inr ⟨rfl, rfl⟩
  have settled := Turn.after_holds (s := (make settings given, session)) play_settled turns start
  refine ⟨settled, fun _ => run_ends settled, fun replies => ?_⟩
  refine (shutdown_ends (s := (_, Session.expecting replies _)) settled).mono
    (fun _ _ ends => ?_) fun _ _ down => down
  exact down_of_disconnected ends.1 ends.2

end Store
end SearchStore
