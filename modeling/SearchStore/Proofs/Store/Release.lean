import SearchStore.Proofs.Store.Lifecycle
namespace SearchStore.Store
open SearchStore.Action

-- The books of the connection are those of the store, and it has no client but one that it built.
structure Accounted (s : Store × Session) : Prop where
  given : s.1.given = none
  books : match s.1.connection with
    | none => Ledger s.2 none s.2.interrupted
    | some c => Connection.Sound s.2.interrupted (c, s.2) ∧ c.held = c.client

namespace Accounted
variable {s t : Store × Session}

theorem quiet (accounted : Accounted s) (given : t.1.given = s.1.given)
    (connection : t.1.connection = s.1.connection) (quiet : s.2.Quiet t.2) : Accounted t := by
  refine ⟨given.trans accounted.given, ?_⟩
  have books := accounted.books
  rw [connection, quiet.interrupted]
  cases found : s.1.connection with
  | none =>
    rw [found] at books
    exact Ledger.quiet books quiet
  | some c =>
    rw [found] at books
    exact ⟨⟨books.1.ledger.quiet quiet, books.1.usable⟩, books.2⟩

theorem ledger (accounted : Accounted s) : Ledger s.2 s.1.clientInUse s.2.interrupted := by
  have books := accounted.books
  unfold clientInUse
  cases found : s.1.connection with
  | none =>
    rw [found] at books
    exact books
  | some c =>
    rw [found] at books
    change Ledger s.2 c.client s.2.interrupted
    rw [← books.2]
    exact books.1.ledger

theorem expecting (accounted : Accounted s) (replies : List Reply) :
    Accounted (s.1, s.2.expecting replies) :=
  accounted.quiet rfl rfl (Session.quiet_expecting _ _)

theorem disconnect_ends (accounted : Accounted s) :
    Ends disconnect s (fun _ t => Accounted t ∧ t.1.connection = none) fun _ t => Accounted t := by
  have books := accounted.books
  rw [ends_disconnect]
  cases found : s.1.connection with
  | none => exact ⟨accounted, rfl⟩
  | some c =>
    rw [found] at books
    refine (Connection.close_sound books.1).mono ?_ ?_
    · rintro _ ⟨_, session⟩ ⟨rfl, sound, same⟩
      refine ⟨⟨accounted.given, ?_⟩, rfl⟩
      have ledger := sound.ledger
      dsimp only at same ledger ⊢
      rwa [Connection.released_held, ← same] at ledger
    · rintro _ ⟨_, session⟩ ⟨rfl, sound, same⟩
      refine ⟨accounted.given, ?_⟩
      dsimp only [putConnection] at same ⊢
      rw [same]
      exact ⟨sound, by simp⟩

theorem shutdown_ends (accounted : Accounted s) (settled : s.1.Up ∨ s.1.Down) :
    Ends shutdown s (fun _ t => Accounted t ∧ t.1.connection = none) fun _ t => Accounted t := by
  simp only [shutdown, ends_bind, ends_stopSweep (unbroken settled)]
  exact disconnect_ends (accounted.quiet rfl rfl (Std.Refl.refl _))

theorem reported_quiet (s : Store) (failure : Failure) (session : Session) :
    session.Quiet (s.reported failure session) := by
  unfold reported
  split
  · exact Session.quiet_logged _ _
  · exact Std.Refl.refl _

theorem given_up {c : Connection} {session : Session} {lost : List Client}
    (sound : Connection.Sound lost (c, session)) (own : c.held = c.client) :
    Ledger session none (lost ++ c.client.toList) := by
  have ledger := sound.ledger
  dsimp only at ledger
  rw [own] at ledger
  cases found : c.client with
  | none =>
    rw [found] at ledger
    simpa using ledger
  | some client =>
    rw [found] at ledger
    exact ledger.lose

theorem run_ends (accounted : Accounted s) (settled : s.1.Up ∨ s.1.Down) :
    Ends run s (fun _ t => Accounted t) fun _ t => Accounted t := by
  simp only [run, ends_bind]
  refine (accounted.shutdown_ends settled).mono ?_ fun _ _ kept => kept
  rintro _ ⟨s', session⟩ ⟨accounted', disconnected⟩
  have given := accounted'.given
  have books := accounted'.books
  rw [disconnected] at books
  dsimp only at given disconnected books
  simp only [ends_get]
  cases made : Connection.make s'.settings s'.given with
  | error failure => exact accounted'
  | ok c =>
    obtain ⟨-, empty, unowned, unready⟩ := Connection.make_parts made
    rw [given] at empty
    have unheld : c.held = none := by simp [Connection.held, unowned]
    have sound : Connection.Sound session.interrupted (c, session) :=
      ⟨by rwa [unheld], fun ready => by simp [unready] at ready⟩
    simp only [ends_lift_ok, ends_connect]
    refine (Connection.start_sound sound).mono ?_ ?_
    · rintro _ ⟨c', session'⟩ ⟨-, own, sound', same⟩
      dsimp only at own same
      rw [← same] at sound'
      have kept : Accounted (putConnection c' s', session') :=
        ⟨given, sound', own (unheld.trans empty.symm)⟩
      simp only [ends_modify, ends_log, Action.ends_get]
      exact kept.quiet rfl rfl (Session.quiet_logged _ _)
    · rintro failure ⟨c', session'⟩ ⟨own, sound', gone⟩
      dsimp only at own gone
      have books' := given_up sound' (own (unheld.trans empty.symm))
      rw [← gone] at books'
      have kept : Accounted (s', session') := by
        refine ⟨given, ?_⟩
        rw [disconnected]
        exact books'
      exact kept.quiet rfl rfl (reported_quiet _ _ _)

theorem play (accounted : Accounted s) (settled : s.1.Up ∨ s.1.Down) (turn : Turn Command) :
    Accounted (turn.play perform s).2 := by
  have accounted' := accounted.expecting turn.replies
  refine perform_holds Accounted ?_ (accounted'.run_ends settled) ?_ turn.command
  · intro t serving
    exact accounted'.quiet serving.given serving.connection serving.quiet
  · exact (accounted'.shutdown_ends settled).mono (fun _ _ kept => kept.1) fun _ _ kept => kept

end Accounted

theorem released_unless_interrupted (settings : StoreSettings) (session : Session)
    (turns : List (Turn Command)) :
    let s := Turn.after perform turns (make settings none, { session with exchanges := [] })
    ∀ client ∈ s.2.constructed,
      (s.1.clientInUse = some client ∨ client ∈ s.2.closed) ↔ client ∉ s.2.interrupted := by
  intro s client built
  have step : ∀ (turn : Turn Command) t, (t.1.Up ∨ t.1.Down) ∧ Accounted t →
      ((turn.play perform t).2.1.Up ∨ (turn.play perform t).2.1.Down) ∧ Accounted (turn.play perform t).2 :=
    fun turn t holds => ⟨play_settled turn t holds.1, holds.2.play holds.1 turn⟩
  have start : Accounted (make settings none, { session with exchanges := [] }) :=
    ⟨rfl, Ledger.opened session⟩
  have reached := Turn.after_holds step turns ⟨.inr ⟨rfl, rfl⟩, start⟩
  have ledger := reached.2.ledger
  have settled := ledger.settled client built
  constructor
  · rintro (inUse | closed) interrupted
    · exact ledger.apart client inUse interrupted
    · exact settled.mpr (.inr interrupted) closed
  · intro uninterrupted
    by_cases closed : client ∈ s.2.closed
    · exact .inr closed
    · exact .inl ((settled.mp closed).resolve_right uninterrupted)

def threeRuns : List (Turn Command) :=
  [⟨.run, [.usual, .raised (.interrupt "CancelledError" "" [])]⟩,
    ⟨.run, [.usual, .returned (.bool false), .raised (.client "RuntimeError" "close" [])]⟩, ⟨.run, []⟩]

theorem released_unless_interrupted_threeRuns :
    let s := Turn.after perform threeRuns (make { clients := [] } none, {})
    .built 2 ∈ s.2.constructed ∧
      ((s.1.clientInUse = some (.built 2) ∨ .built 2 ∈ s.2.closed) ↔ .built 2 ∉ s.2.interrupted) := by
  have built : Client.built 2 ∈
      (Turn.after perform threeRuns (make { clients := [] } none, {})).2.constructed := by decide
  exact ⟨built, released_unless_interrupted { clients := [] } {} threeRuns (.built 2) built⟩

theorem interrupted_run_abandons :
    let turn : Turn Command := ⟨.run, [.usual, .raised (.interrupt "CancelledError" "" [])]⟩
    let s := Turn.after perform [turn] (make { clients := [] } none, {})
    s.2.constructed = [.built 1] ∧ s.1.connection.isNone ∧ s.2.closed = [] := by
  decide

end SearchStore.Store
