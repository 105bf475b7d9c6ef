import SearchStore.Proofs.Store.Service
namespace SearchStore
open SearchStore.Action Session

namespace Registry

def BoundTo (client : Option Client) (r : Registry) : Prop := ∀ entry ∈ r.cached, entry.2.client = client

-- The sweep goes on, and new handles are bound to the client of the old ones.
structure Follows (client : Option Client) (before after : Registry) : Prop where
  running : before.running = true → after.running = true
  bound : before.BoundTo client → after.BoundTo client

instance (client : Option Client) : IsPreorder Registry (Follows client) where
  refl _ := ⟨fun running => running, fun bound => bound⟩
  trans _ _ _ first rest :=
    ⟨fun running => rest.running (first.running running), fun bound => rest.bound (first.bound bound)⟩

structure Tended (client : Option Client) (before after : Registry × Session) : Prop where
  follows : before.1.Follows client after.1
  quiet : before.2.Quiet after.2

instance (client : Option Client) : IsPreorder (Registry × Session) (Tended client) where
  refl _ := ⟨Std.Refl.refl _, Std.Refl.refl _⟩
  trans _ _ _ first rest :=
    ⟨IsTrans.trans _ _ _ first.follows rest.follows, IsTrans.trans _ _ _ first.quiet rest.quiet⟩

variable {client : Option Client}

theorem tended_session {r : Registry} {session session' : Session} (quiet : session.Quiet session') :
    Tended client (r, session) (r, session') := ⟨Std.Refl.refl r, quiet⟩

theorem sweep_tended : Keeps (Tended client) sweep := by
  have emptied : Keeps (Tended client)
      (.modify fun s : Registry × Session => ({ s.1 with cached := [] }, s.2)) := by
    refine keeps_modify fun s => ⟨⟨fun running => running, ?_⟩, Std.Refl.refl _⟩
    intro bound entry member
    cases member
  unfold sweep
  refine Keeps.bind keeps_get fun ⟨r, session⟩ => ?_
  dsimp only
  split
  · exact ((log_quiet _).onSecond fun _ _ _ => tended_session).bind fun _ => emptied
  · exact emptied

theorem elapse_tended (now : Rat) : Keeps (Tended client) (elapse now) := by
  unfold elapse
  refine Keeps.bind keeps_get fun ⟨r, session⟩ => ?_
  dsimp only
  split
  · split
    · refine Keeps.bind sweep_tended fun _ => ?_
      exact keeps_modify fun s => ⟨⟨fun _ => rfl, fun bound => bound⟩, Std.Refl.refl _⟩
    · exact keeps_pure _
  · exact keeps_pure _

theorem get_tended {make : String → Action Session Handle} (name : Value)
    (made : ∀ name session, Ends (make name) session
      (fun h t => h.client = client ∧ session.Quiet t) fun _ t => session.Quiet t) :
    Keeps (Tended client) (get make name) := by
  refine Ends.keeps fun s => ?_
  unfold get
  split
  · exact Std.Refl.refl s
  · rename_i name _
    obtain ⟨r, session⟩ := s
    simp only [ends_bind, ends_get]
    split
    · exact Std.Refl.refl _
    · simp only [ends_bind, ends_onSecond, ends_modify, ends_pure]
      refine (made name session).mono ?_ fun _ t quiet => tended_session quiet
      rintro h t ⟨same, quiet⟩
      refine ⟨⟨fun running => running, fun bound entry member => ?_⟩, quiet⟩
      rcases List.mem_append.mp member with old | new
      · exact bound entry old
      · rw [List.mem_singleton.mp new]
        exact same

end Registry

namespace Store

def clientInUse (s : Store) : Option Client := s.connection.bind Connection.client

structure Serving (before after : Store × Session) : Prop where
  given : after.1.given = before.1.given
  connection : after.1.connection = before.1.connection
  registry : Option.Rel (Registry.Follows before.1.clientInUse) before.1.registry after.1.registry
  quiet : before.2.Quiet after.2

theorem Serving.refl (s : Store × Session) : Serving s s := by
  refine ⟨rfl, rfl, ?_, Std.Refl.refl _⟩
  cases s.1.registry with
  | none => exact .none
  | some r => exact .some (Std.Refl.refl r)

theorem Serving.trans {a b c : Store × Session} (first : Serving a b) (rest : Serving b c) :
    Serving a c := by
  refine ⟨rest.given.trans first.given, rest.connection.trans first.connection, ?_,
    IsTrans.trans _ _ _ first.quiet rest.quiet⟩
  have same : b.1.clientInUse = a.1.clientInUse := by rw [clientInUse, clientInUse, first.connection]
  have earlier := first.registry
  have later := rest.registry
  rw [same] at later
  revert earlier later
  generalize a.1.registry = ra
  generalize b.1.registry = rb
  generalize c.1.registry = rc
  intro earlier later
  cases earlier with
  | none => exact later
  | some one =>
    cases later with
    | some two => exact .some (IsTrans.trans _ _ _ one two)

instance : IsPreorder (Store × Session) Serving where
  refl := Serving.refl
  trans _ _ _ := Serving.trans

theorem serving_session {s : Store} {session session' : Session} (quiet : session.Quiet session') :
    Serving (s, session) (s, session') := by
  obtain ⟨given, connection, registry, -⟩ := Serving.refl (s, session)
  exact ⟨given, connection, registry, quiet⟩

variable {α : Type}

theorem onSession_serving {x : Action Session α} (quiet : Keeps Quiet x) :
    Keeps Serving (.onSecond x) := quiet.onSecond fun _ _ _ => serving_session

theorem onRegistry_serving {s : Store × Session} {r : Registry} (found : s.1.registry = some r)
    {x : Action (Registry × Session) α} (tended : Keeps (Registry.Tended s.1.clientInUse) x) :
    Serving s (onPart r putRegistry x s).2 := by
  obtain ⟨follows, quiet⟩ := tended (r, s.2)
  refine ⟨rfl, rfl, ?_, quiet⟩
  rw [found]
  exact .some follows

theorem get_serving : Keeps Serving get := Serving.refl

theorem init_serving (config : Config) : Keeps Serving (init config) := by
  refine Keeps.bind get_serving fun s => ?_
  refine Keeps.bind (keeps_lift _) fun settings => keeps_modify fun s => ?_
  exact ⟨rfl, rfl, (Serving.refl s).registry, Std.Refl.refl _⟩

theorem makeHandle_bound (s : Store) (name : String) (session : Session) :
    Ends (s.makeHandle name) session (fun h t => h.client = s.clientInUse ∧ session.Quiet t)
      fun _ t => session.Quiet t :=
  ⟨rfl, quiet_of_exchanges rfl rfl⟩

theorem getIndex_serving (name : Value) : Keeps Serving (getIndex name) := by
  refine get_bind_keeps fun s => ?_
  cases found : s.1.registry with
  | none => exact Serving.refl s
  | some r => exact onRegistry_serving found (Registry.get_tended name (makeHandle_bound s.1))

theorem sweep_serving : Keeps Serving sweep := by
  refine get_bind_keeps fun s => ?_
  cases found : s.1.registry with
  | none => exact Serving.refl s
  | some r => exact onRegistry_serving found Registry.sweep_tended

theorem advance_serving (seconds : Rat) : Keeps Serving (advance seconds) := by
  refine Keeps.bind (keeps_modify fun s => serving_session (quiet_of_exchanges rfl rfl)) fun _ => ?_
  refine keeps_reading fun ⟨s, session⟩ => ?_
  dsimp only
  cases found : s.registry with
  | none => exact Serving.refl (s, session)
  | some r => exact onRegistry_serving (s := (s, session)) found (Registry.elapse_tended _)

end Store

theorem Store.perform_serving {command : Command} (other : command.isLifecycle = false) :
    Keeps Store.Serving (Store.perform command) := by
  by_cases set : command.configures = false
  · exact (Store.perform_service other set).keeps (fun script => Store.onSession_serving script.quiet)
      Store.getIndex_serving Store.sweep_serving Store.advance_serving
  · cases command with
    | init config => exact (Store.init_serving config).bind fun _ => keeps_pure _
    | _ => exact absurd rfl set

-- What holds after any command: it only has to survive service, and to be left by the two commands
-- that are more than service.
theorem Store.perform_holds (holds : Store × Session → Prop) {s : Store × Session}
    (served : ∀ t, Store.Serving s t → holds t)
    (run : Action.Ends Store.run s (fun _ t => holds t) fun _ t => holds t)
    (shutdown : Action.Ends Store.shutdown s (fun _ t => holds t) fun _ t => holds t)
    (command : Command) : holds (Store.perform command s).2 := by
  by_cases lifecycle : command.isLifecycle = false
  · exact served _ (Store.perform_serving lifecycle s)
  · refine Action.Ends.final (x := Store.perform command) ?_
    cases command with
    | run => simpa only [Store.perform, Action.ends_bind, Action.ends_pure] using run
    | shutdown => simpa only [Store.perform, Action.ends_bind, Action.ends_pure] using shutdown
    | _ => exact absurd rfl lifecycle

end SearchStore
