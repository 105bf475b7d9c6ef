import SearchStore.Proofs.Connection.Probe
import SearchStore.Proofs.Host.Readable
import SearchStore.Proofs.Store.Lifecycle
namespace SearchStore
open SearchStore.Action Session

namespace Store

-- The store uses the client it was given, and has no connection that would have to close it.
structure Borrowing (client : Client) (s : Store) : Prop where
  given : s.given = some client
  unowned : ∀ c, s.connection = some c → c.owned = false

def unconnected (s : Store) : Store := { s with connection := none, registry := none }

section Borrowing
variable {s : Store × Session} {client : Client}

theorem Serving.borrowing {t : Store × Session} (serving : Serving s t) (borrowing : Borrowing client s.1) :
    Borrowing client t.1 :=
  ⟨serving.given.trans borrowing.given, fun c connected => borrowing.unowned c (serving.connection ▸ connected)⟩

theorem Borrowing.unconnected (borrowing : Borrowing client s.1) : Borrowing client (unconnected s.1) :=
  ⟨borrowing.given, fun _ connected => nomatch connected⟩

theorem shutdown_borrowing (settled : s.1.Up ∨ s.1.Down) (borrowing : Borrowing client s.1) :
    Ends shutdown s (fun _ t => t = (unconnected s.1, s.2)) fun _ _ => False := by
  simp only [shutdown, ends_bind, ends_stopSweep (unbroken settled)]
  rw [ends_disconnect]
  cases connected : s.1.connection with
  | none => simp [unconnected]
  | some c =>
    dsimp only
    rw [Connection.ends_close, Connection.held_of_unowned (borrowing.unowned c connected)]
    rfl

theorem run_borrowing (settled : s.1.Up ∨ s.1.Down) (borrowing : Borrowing client s.1) :
    Ends run s (fun _ t => Borrowing client t.1) fun _ t => Borrowing client t.1 := by
  simp only [run, ends_bind]
  refine (shutdown_borrowing settled borrowing).mono ?_ fun _ _ => False.elim
  rintro _ _ rfl
  simp only [ends_get]
  cases made : Connection.make (unconnected s.1).settings (unconnected s.1).given with
  | error failure => exact borrowing.unconnected
  | ok c =>
    obtain ⟨-, lent, unowned, -⟩ := Connection.make_parts made
    have started : Ends Connection.start (c, s.2) (fun _ t => t.1.owned = false) fun _ _ => True :=
      Connection.start_lent (lent.trans borrowing.given) unowned (fun _ => True.intro) fun _ _ _ => True.intro
    simp only [ends_lift_ok, ends_connect]
    refine started.mono ?_ fun _ _ _ => borrowing.unconnected
    rintro _ ⟨c', session⟩ unowned'
    simp only [ends_modify, ends_log, Action.ends_get]
    refine ⟨borrowing.given, ?_⟩
    rintro _ ⟨⟩
    exact unowned'

theorem play_borrowing (turn : Turn Command) (settled : s.1.Up ∨ s.1.Down) (borrowing : Borrowing client s.1) :
    Borrowing client (turn.play perform s).2.1 := by
  have settled' : (s.1, s.2.expecting turn.replies).1.Up ∨ (s.1, s.2.expecting turn.replies).1.Down := settled
  refine perform_holds (fun t => Borrowing client t.1) ?_ (run_borrowing settled' borrowing) ?_ turn.command
  · intro t serving
    exact serving.borrowing borrowing
  · refine (shutdown_borrowing settled' borrowing).mono ?_ fun _ _ => False.elim
    rintro _ _ rfl
    exact borrowing.unconnected (s := (s.1, s.2.expecting turn.replies))

theorem reached_borrowing (settings : StoreSettings) (client : Client) (session : Session)
    (turns : List (Turn Command)) :
    let s := Turn.after perform turns (make settings (some client), session)
    (s.1.Up ∨ s.1.Down) ∧ Borrowing client s.1 := by
  have start : ((make settings (some client)).Up ∨ (make settings (some client)).Down) ∧
      Borrowing client (make settings (some client)) := ⟨.inr ⟨rfl, rfl⟩, rfl, fun _ connected => nomatch connected⟩
  have step : ∀ (turn : Turn Command) s, (s.1.Up ∨ s.1.Down) ∧ Borrowing client s.1 →
      ((turn.play perform s).2.1.Up ∨ (turn.play perform s).2.1.Down) ∧ Borrowing client (turn.play perform s).2.1 :=
    fun turn s holds => ⟨play_settled turn s holds.1, play_borrowing turn holds.1 holds.2⟩
  exact Turn.after_holds (s := (make settings (some client), session)) step turns start

def Calm (replies : List Reply) : Prop := ∀ failure, .raised failure ∈ replies → failure.isOrdinary = true

theorem run_reaches (settled : s.1.Up ∨ s.1.Down) (borrowing : Borrowing client s.1) (calm : Calm s.2.replies)
    {c : Connection} (made : Connection.make s.1.settings s.1.given = .ok c) :
    Ends run s (fun _ _ => True) fun failure _ => ∃ cause, failure = Connection.unreachable cause := by
  obtain ⟨-, lent, unowned, -⟩ := Connection.make_parts made
  have uncancelled : ∀ failure, s.2.next = .raised failure → failure.isOrdinary = false →
      ∃ cause, failure = Connection.unreachable cause := by
    intro failure raised interrupted
    have given : Reply.raised failure ∈ s.2.replies := by
      unfold next at raised
      cases replies : s.2.replies <;> simp_all
    rw [calm failure given] at interrupted
    cases interrupted
  have started : Ends Connection.start (c, s.2) (fun _ t => t.1.owned = false) fun failure _ =>
      ∃ cause, failure = Connection.unreachable cause :=
    Connection.start_lent (lent.trans borrowing.given) unowned (fun cause => ⟨cause, rfl⟩) uncancelled
  simp only [run, ends_bind]
  refine (shutdown_borrowing settled borrowing).mono ?_ fun _ _ => False.elim
  rintro _ _ rfl
  have made' : Connection.make (unconnected s.1).settings (unconnected s.1).given = .ok c := made
  simp only [ends_get, made', ends_lift_ok, ends_connect]
  exact started.mono (fun _ _ _ => True.intro) fun _ _ unreached => unreached

theorem run_unread (settled : s.1.Up ∨ s.1.Down) (borrowing : Borrowing client s.1) {failure : Failure}
    (failed : Connection.make s.1.settings s.1.given = .error failure) :
    run s = (.error failure, (unconnected s.1, s.2)) := by
  obtain ⟨_, t, ran, rfl⟩ := (shutdown_borrowing settled borrowing).succeeds
  have unread : (Action.lift (Connection.make (unconnected s.1).settings (unconnected s.1).given) : Run Connection)
      (unconnected s.1, s.2) = (.error failure, (unconnected s.1, s.2)) :=
    congrArg (fun result => (result, (unconnected s.1, s.2))) failed
  unfold run
  rw [bind_ok ran, bind_ok (rfl : get (unconnected s.1, s.2) = (.ok (unconnected s.1), (unconnected s.1, s.2)))]
  exact bind_error unread

end Borrowing

-- What comes of a start: whether it can fail with a failure that is not the store's own, and what is done by
-- then if it does.
structure Started (s : Store × Session) (ended : Except Failure Outcome × (Store × Session)) : Prop where
  storeFailures : (∀ failure, ended.1 = .error failure → failure.isStore = true) ↔
    ∀ node ∈ s.1.settings.clients, node.readable (Connection.nodeDefaults s.1.settings) = true
  reached : (∀ node ∈ s.1.settings.clients, node.readable (Connection.nodeDefaults s.1.settings) = true) →
    ended.1 = .ok .done ∧ ended.2.1.Up ∨
      (∃ cause, ended.1 = .error (Connection.unreachable cause)) ∧ ended.2.1.Down
  foreign : ∀ failure, ended.1 = .error failure → failure.isStore = false →
    (∃ node ∈ s.1.settings.clients,
      Descriptor.hostOf (Connection.nodeDefaults s.1.settings) node.toValue = .error failure) ∧
      ended.2.1.Down ∧ ended.2.2.exchanges = s.2.exchanges

theorem unconnected_down (s : Store) : s.unconnected.Down := ⟨rfl, rfl⟩

theorem started {s : Store × Session} {client : Client} (settled : s.1.Up ∨ s.1.Down)
    (borrowing : Borrowing client s.1) {replies : List Reply} (calm : Calm replies) :
    Started s (Turn.play perform ⟨.run, replies⟩ s) := by
  let begun : Store × Session := (s.1, s.2.expecting replies)
  have played : Turn.play perform ⟨.run, replies⟩ s = ((run begun).1.map fun _ => .done, (run begun).2) :=
    bind_pure_run run _ begun
  rcases Connection.make_ways s.1.settings s.1.given with
    ⟨readable, c, made⟩ | ⟨node, member, unreadable, failure, foreign, failed, stopped⟩
  · have ended := run_reaches (s := begun) settled borrowing calm made
    have left := run_ends (s := begun) settled
    unfold Ends at ended left
    rw [played]
    rcases ran : run begun with ⟨failure | ⟨⟩, t⟩
    · rw [ran] at ended left
      obtain ⟨cause, rfl⟩ := ended
      refine ⟨⟨fun _ => readable, ?_⟩, fun _ => .inr ⟨⟨cause, rfl⟩, left⟩, ?_⟩
      · rintro - _ ⟨⟩
        rfl
      · rintro _ ⟨⟩ ⟨⟩
    · rw [ran] at left
      refine ⟨⟨fun _ => readable, ?_⟩, fun _ => .inl ⟨rfl, left⟩, ?_⟩
      · rintro - _ ⟨⟩
      · rintro _ ⟨⟩
  · have ran := run_unread (s := begun) settled borrowing stopped
    rw [played, ran]
    have broken : ¬ ∀ node ∈ s.1.settings.clients, node.readable (Connection.nodeDefaults s.1.settings) = true :=
      fun all => by simp [all node member] at unreadable
    refine ⟨⟨fun own => ?_, fun all => absurd all broken⟩, fun all => absurd all broken, ?_⟩
    · have own' := own failure rfl
      rw [foreign] at own'
      cases own'
    · rintro _ ⟨⟩ _
      exact ⟨⟨node, member, failed⟩, unconnected_down _, rfl⟩

-- Up or down, whatever happened to the store before.
theorem start_blames_nodes (settings : StoreSettings) (client : Client) (session : Session)
    (turns : List (Turn Command)) {replies : List Reply} (calm : Calm replies) :
    let s := Turn.after perform turns (make settings (some client), session)
    Started s (Turn.play perform ⟨.run, replies⟩ s) := by
  obtain ⟨settled, borrowing⟩ := reached_borrowing settings client session turns
  exact started settled borrowing calm

def halfReadable : StoreSettings :=
  { clients := [.url "search.internal", .mapping (Entries.ofFields [("path", .int 1)])] }

theorem start_blames_nodes_halfReadable :
    let s : Store × Session := (make halfReadable (some .given), {})
    let replies : List Reply := [.raised (.client "ConnectionError" "refused" [])]
    Calm replies ∧ Started s (Turn.play perform ⟨.run, replies⟩ s) := by
  intro s replies
  have calm : Calm replies := by
    rintro failure member
    cases List.mem_singleton.mp member
    rfl
  exact ⟨calm, start_blames_nodes halfReadable .given {} [] calm⟩

theorem start_port_foreign :
    let settings : StoreSettings := { clients := [.url "http://localhost:99999"] }
    let given := Entries.ofFields [("clients", .list [.str "http://localhost:99999"])]
    StoreSettings.ofNamed given = .ok settings ∧
      ∃ failure, (Turn.play perform ⟨.run, []⟩ (make settings (some .given), {})).1 = .error failure ∧
        failure.isStore = false :=
  ⟨rfl, .fault .badContent, rfl, rfl⟩

end Store
end SearchStore
