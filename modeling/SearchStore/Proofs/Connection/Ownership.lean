import SearchStore.Connection
import SearchStore.Proofs.Client.Ledger
import SearchStore.Proofs.Client.Script
namespace SearchStore.Connection

inductive Command where
  | start | close | health | client

inductive Answer where
  | done
  | health (h : Health)
  | client (c : Option Client)

def serve : Command → Action (Connection × Session) Answer
  | .start => do start; return .done
  | .close => do close; return .done
  | .health => do return .health (← .onSecond (← Action.get).1.health)
  | .client => do return .client (← Action.get).1.client

def held (c : Connection) : Option Client := if c.owned then c.client else none

def released (c : Connection) : Connection :=
  { c with ready := false, client := none, owned := c.owned && c.client.isNone }

@[simp] theorem released_client (c : Connection) : c.released.client = none := rfl

@[simp] theorem released_ready (c : Connection) : c.released.ready = false := rfl

@[simp] theorem released_held (c : Connection) : c.released.held = none := by
  simp [held]

-- The books are in order, and a connection that calls itself ready has a client.
structure Sound (lost : List Client) (s : Connection × Session) : Prop where
  ledger : Ledger s.2 s.1.held lost
  usable : s.1.ready = true → s.1.client.isSome = true

section Steps
variable {c c' : Connection} {session : Session} {lost : List Client} {failed : Failure → Connection × Session → Prop}

theorem ends_close {done : Unit → Connection × Session → Prop} :
    Action.Ends close (c, session) done failed ↔ match c.held with
      | none => done () (c.released, session)
      | some client => Action.Ends (Session.call (some client) .close []) session
          (fun _ t => done () (c.released, t)) fun failure t => failed failure (c.released, t) := by
  cases owned : c.owned <;> cases found : c.client <;>
    simp [close, held, released, owned, found]

theorem ends_ensureClient {done : Connection → Connection × Session → Prop} :
    Action.Ends ensureClient (c, session) done failed ↔ match c.client with
      | some _ => done c (c, session)
      | none => Action.Ends c.buildClient session
          (fun client t =>
            let c' := { c with client := some client, owned := true }
            done c' (c', t))
          fun failure t => failed failure (c, t) := by
  cases found : c.client <;> simp [ensureClient, found]

theorem close_sound (sound : Sound lost (c, session)) :
    Action.Ends close (c, session)
      (fun _ t => t.1 = c.released ∧ Sound lost t ∧ t.2.interrupted = session.interrupted)
      fun _ t => t.1 = c.released ∧ Sound lost t ∧ t.2.interrupted = session.interrupted := by
  obtain ⟨ledger, usable⟩ := sound
  have settled : ∀ t : Session, Ledger t none lost ∧ t.interrupted = session.interrupted →
      Sound lost (c.released, t) ∧ t.interrupted = session.interrupted := by
    rintro t ⟨closed, same⟩
    exact ⟨⟨by simpa using closed, by simp⟩, same⟩
  rw [ends_close]
  dsimp only at ledger
  cases mine : c.held with
  | none =>
    rw [mine] at ledger
    exact ⟨rfl, settled session ⟨ledger, rfl⟩⟩
  | some client =>
    rw [mine] at ledger
    exact ledger.close_ends.mono (fun _ t closed => ⟨rfl, settled t closed⟩)
      fun _ t closed => ⟨rfl, settled t closed⟩

theorem lost_sound {α : Type} (sound : Sound lost (c, session)) (cause : Option Failure) :
    Action.Ends (c'.lost cause : Action (Connection × Session) α) (c, session) (fun _ _ => False)
      fun _ t => t.1 = c.released ∧ Sound lost t ∧ t.2.interrupted = session.interrupted := by
  simp only [Connection.lost, Action.ends_bind, Action.ends_onSecond, warn, Session.ends_log,
    Action.ends_fail]
  generalize noted : session.logged _ = session'
  have quiet : session.Quiet session' := noted ▸ Session.quiet_logged _ _
  have sound' : Sound lost (c, session') := ⟨sound.ledger.quiet quiet, sound.usable⟩
  rw [← quiet.interrupted]
  exact (close_sound sound').mono (fun _ _ ends => ends) fun _ _ ends => ends

theorem buildClient_ends (ledger : Ledger session none lost) :
    Action.Ends c.buildClient session
      (fun client t => Ledger t (some client) lost ∧ t.interrupted = session.interrupted)
      fun _ t => Ledger t none lost ∧ t.interrupted = session.interrupted := by
  simp only [buildClient, Action.ends_bind, Action.ends_get]
  split
  · exact ledger.build_ends c.clientArguments
  · exact ⟨ledger, rfl⟩

theorem ensureClient_sound (sound : Sound lost (c, session)) :
    Action.Ends ensureClient (c, session)
      (fun c' t => t.1 = c' ∧ c'.client.isSome = true ∧ (c.held = c.client → c'.held = c'.client) ∧
        Sound lost t ∧ t.2.interrupted = session.interrupted)
      fun _ t => t.1 = c ∧ c.client = none ∧ Sound lost t ∧ t.2.interrupted = session.interrupted := by
  rw [ends_ensureClient]
  cases found : c.client with
  | some client => exact ⟨rfl, rfl, fun own => own, sound, rfl⟩
  | none =>
    obtain ⟨ledger, usable⟩ := sound
    have unheld : c.held = none := by simp [held, found]
    dsimp only at ledger
    rw [unheld] at ledger
    refine (buildClient_ends ledger).mono ?_ ?_
    · rintro client t ⟨built, same⟩
      exact ⟨rfl, rfl, fun _ => rfl, ⟨built, fun _ => rfl⟩, same⟩
    · rintro failure t ⟨unbuilt, same⟩
      exact ⟨rfl, rfl, ⟨by rwa [← unheld] at unbuilt, usable⟩, same⟩

-- A start that fails leaves a client behind only when its ping was cancelled.
theorem start_sound (sound : Sound lost (c, session)) :
    Action.Ends start (c, session)
      (fun _ t => t.1.ready = true ∧ (c.held = c.client → t.1.held = t.1.client) ∧ Sound lost t ∧
        t.2.interrupted = session.interrupted)
      fun _ t => (c.held = c.client → t.1.held = t.1.client) ∧ Sound lost t ∧
        t.2.interrupted = session.interrupted ++ t.1.client.toList := by
  simp only [start, Action.ends_bind]
  refine (ensureClient_sound sound).mono ?_ ?_
  · rintro _ ⟨c', session'⟩ ⟨rfl, present, own, sound', same⟩
    dsimp only at present own same
    simp only [Action.ends_rescue, ping, Action.ends_onSecond]
    refine (sound'.ledger.ping_ends c'.client _).mono ?_ ?_
    · rintro alive t ⟨ledger, quiet⟩
      split
      · exact ⟨rfl, own, ⟨ledger, fun _ => present⟩, quiet.trans same⟩
      · have sound'' : Sound lost (c', t) := ⟨ledger, sound'.usable⟩
        refine (lost_sound sound'' none).mono (fun _ _ never => never.elim) ?_
        rintro failure ⟨_, u⟩ ⟨rfl, gone, unheard⟩
        refine ⟨fun _ => by simp, gone, ?_⟩
        simpa using unheard.trans (quiet.trans same)
    · rintro failure t ⟨ledger, interrupted⟩
      have sound'' : Sound lost (c', t) := ⟨ledger, sound'.usable⟩
      split
      · rename_i ordinary
        refine (lost_sound sound'' (some failure)).mono (fun _ _ never => never.elim) ?_
        rintro failure ⟨_, u⟩ ⟨rfl, gone, unheard⟩
        refine ⟨fun _ => by simp, gone, ?_⟩
        simpa [ordinary, same] using unheard.trans interrupted
      · rename_i cancelled
        exact ⟨own, sound'', by simpa [cancelled, same] using interrupted⟩
  · rintro failure ⟨_, t⟩ ⟨rfl, absent, sound', same⟩
    refine ⟨fun own => own, sound', ?_⟩
    dsimp only at absent same ⊢
    rw [absent, same, Option.toList_none, List.append_nil]

theorem lost_fails {α : Type} (cause : Option Failure) (s : Connection × Session) :
    Action.Ends (c'.lost cause : Action (Connection × Session) α) s (fun _ _ => False) fun _ _ => True := by
  simp only [Connection.lost, Action.ends_bind, Action.ends_onSecond, warn, Session.ends_log,
    Action.ends_fail]
  exact Action.Ends.trivial.mono (fun _ _ _ => True.intro) fun _ _ _ => True.intro

theorem start_usable (c : Connection) (session : Session) :
    Action.Ends start (c, session) (fun _ t => t.1.ready = true ∧ t.1.client.isSome = true)
      fun _ _ => True := by
  have ensured : Action.Ends ensureClient (c, session)
      (fun c' t => t.1 = c' ∧ c'.client.isSome = true) fun _ _ => True := by
    rw [ends_ensureClient]
    cases found : c.client with
    | some client => exact ⟨rfl, rfl⟩
    | none => exact Action.Ends.trivial.mono (fun _ _ _ => ⟨rfl, rfl⟩) fun _ _ _ => True.intro
  simp only [start, Action.ends_bind]
  refine ensured.mono ?_ fun _ _ _ => True.intro
  rintro _ ⟨c', session'⟩ ⟨rfl, present⟩
  simp only [Action.ends_rescue, ping, Action.ends_onSecond]
  refine Action.Ends.trivial.mono ?_ ?_
  · intro alive t _
    split
    · exact ⟨rfl, present⟩
    · exact (lost_fails none _).mono (fun _ _ never => never.elim) fun _ _ _ => True.intro
  · intro failure t _
    split
    · exact (lost_fails (some failure) _).mono (fun _ _ never => never.elim) fun _ _ _ => True.intro
    · exact True.intro

theorem health_script (c : Connection) : Session.Script c.health := by
  unfold health
  split
  · refine Session.Script.bind (.rescue ?_ fun _ => ?_) fun asked => ?_
    · exact (Session.Script.call c.client rfl []).bind fun _ => .pure _
    · exact (Session.Script.log _).bind fun _ => .pure _
    · cases asked with
      | ok response => exact .lift _
      | error text => exact .pure _
  · exact .pure _

theorem serve_sound (command : Command) {s : Connection × Session} (sound : Sound lost s) :
    Action.Ends (serve command) s (fun _ t => Sound lost t) fun _ t => Sound lost t := by
  obtain ⟨c, session⟩ := s
  cases command with
  | start =>
    simp only [serve, Action.ends_bind, Action.ends_pure]
    exact (start_sound sound).mono (fun _ _ ends => ends.2.2.1) fun _ _ ends => ends.2.1
  | close =>
    simp only [serve, Action.ends_bind, Action.ends_pure]
    exact (close_sound sound).mono (fun _ _ ends => ends.2.1) fun _ _ ends => ends.2.1
  | health =>
    simp only [serve, Action.ends_bind, Action.ends_get, Action.ends_onSecond, Action.ends_pure]
    have kept : ∀ t, session.Quiet t → Sound lost (c, t) :=
      fun t quiet => ⟨sound.ledger.quiet quiet, sound.usable⟩
    exact ((health_script c).quiet.ends session).mono (fun _ => kept) fun _ => kept
  | client => exact sound

theorem play_sound (turn : Turn Command) (s : Connection × Session) (sound : Sound lost s) :
    Sound lost (turn.play serve s).2 := by
  have expecting : Sound lost (s.1, s.2.expecting turn.replies) :=
    ⟨sound.ledger.quiet (Session.quiet_expecting _ _), sound.usable⟩
  exact (serve_sound turn.command expecting).final

end Steps

theorem make_parts {settings : StoreSettings} {given : Option Client} {c : Connection}
    (made : make settings given = .ok c) :
    c.settings = settings ∧ c.client = given ∧ c.owned = false ∧ c.ready = false := by
  unfold make at made
  cases hosts : Descriptor.hosts (.list (settings.clients.map Node.toValue)) (nodeDefaults settings) with
  | error failure => simp [hosts, Except.map] at made
  | ok found =>
    simp only [hosts, Except.map, Except.ok.injEq] at made
    subst made
    exact ⟨rfl, rfl, rfl, rfl⟩

-- What a connection owes the clients it was given and those it built.
structure Orderly (s : Connection × Session) : Prop where
  givenUnclosed : Client.given ∉ s.2.closed
  closedOnce : ∀ client, s.2.closed.count client ≤ 1
  openInUse : ∀ client ∈ s.2.constructed, client ∉ s.2.closed → s.1.client = some client
  oneOpen : (s.2.constructed.filter (· ∉ s.2.closed)).length ≤ 1
  usable : s.1.ready = true → s.1.client ≠ none

theorem Sound.orderly {s : Connection × Session} (sound : Sound [] s) : Orderly s := by
  obtain ⟨ledger, usable⟩ := sound
  refine ⟨?_, fun client => List.nodup_iff_count_le_one.mp ledger.closedOnce client, ?_,
    ledger.at_most_one_open, fun ready => Option.isSome_iff_ne_none.mp (usable ready)⟩
  · intro member
    obtain ⟨n, -, same⟩ := ledger.numbered _ (ledger.closedBuilt _ member)
    cases same
  · intro client built unclosed
    rcases (ledger.settled client built).mp unclosed with mine | lost
    · unfold held at mine
      split at mine
      · exact mine
      · cases mine
    · cases lost

-- Whatever a connection is asked and however its calls end, constructions and closes included.
theorem connection_orderly {settings : StoreSettings} {given : Option Client} {c : Connection}
    (made : make settings given = .ok c) (session : Session) (turns : List (Turn Command)) :
    Orderly (Turn.after serve turns (c, { session with exchanges := [] })) := by
  obtain ⟨-, -, unowned, unready⟩ := make_parts made
  have start : Sound [] (c, { session with exchanges := [] }) := by
    refine ⟨?_, fun ready => by simp [unready] at ready⟩
    simpa [held, unowned] using Ledger.opened session
  exact Sound.orderly (Turn.after_holds play_sound turns start)

def rough : List (Turn Command) :=
  [⟨.start, [.usual, .raised (.interrupt "CancelledError" "" [])]⟩,
    ⟨.start, [.returned (.bool false), .raised (.client "RuntimeError" "close" [])]⟩, ⟨.start, []⟩]

def withoutNodes : Connection := { settings := { clients := [] }, hosts := [], client := none }

theorem connection_orderly_rough :
    make { clients := [] } none = .ok withoutNodes ∧ Orderly (Turn.after serve rough (withoutNodes, {})) := by
  have made : make { clients := [] } none = .ok withoutNodes := rfl
  exact ⟨made, connection_orderly made {} rough⟩

example :
    let s := Turn.after serve rough (withoutNodes, {})
    s.1.client = some (.built 2) ∧ s.2.constructed = [.built 1, .built 2] ∧ s.2.closed = [.built 1] := by
  decide

end SearchStore.Connection
