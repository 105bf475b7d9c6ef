import SearchStore.Proofs.Client.Alike
import SearchStore.Proofs.Client.Ledger
import SearchStore.Proofs.Store.Service
namespace SearchStore
open SearchStore.Action Session

namespace Session
variable {ρ α β : Type} {rel : α → β → Prop} {like : Session → Session → Prop}

theorem inStep_reading {f : ρ × Session → Action (ρ × Session) α} {g : ρ × Session → Action (ρ × Session) β}
    (each : ∀ r s t, like s t → InStep (Along like) rel (f (r, s)) (g (r, t))) :
    InStep (Along like) rel (Action.get >>= f) (Action.get >>= g) := by
  refine inStep_get.bind ?_
  rintro ⟨r, s⟩ ⟨_, t⟩ ⟨rfl, same⟩
  exact each r s t same

theorem inStep_changed {f : ρ × Session → ρ × Session} (beside : ∀ r s, (f (r, s)).2 = s)
    (blind : ∀ r s t, (f (r, s)).1 = (f (r, t)).1) : InStep (Along like) Eq (Action.modify f) (Action.modify f) := by
  refine inStep_modify ?_
  rintro ⟨r, s⟩ ⟨_, t⟩ ⟨rfl, same⟩
  refine ⟨blind r s t, ?_⟩
  rw [beside, beside]
  exact same

variable [Blind like]

theorem build_inStep (arguments : Entries) : InStep like Eq (build arguments) (build arguments) := by
  unfold build
  refine (inStep_modify fun s t same => ?_).next fun _ => ?_
  · exact Blind.moved same (f := fun s => { s with clientsBuilt := s.clientsBuilt + 1 }) fun _ => rfl
  · refine inStep_get.bind fun s t same => ?_
    have count : s.clientsBuilt = t.clientsBuilt := Blind.reads same fun _ => rfl
    rw [count]
    exact (told_perform _).inStep.next fun _ => inStep_pure _

end Session

namespace Connection
variable {α : Type} {like : Session → Session → Prop} [Blind like]

theorem close_inStep : InStep (Along like) Eq close close := by
  unfold close
  refine inStep_reading fun c s t same => ?_
  refine (inStep_set ⟨rfl, same⟩).next fun _ => ?_
  split
  · exact (inStep_onSecond (told_call _ _ _).inStep).next fun _ => inStep_pure _
  · exact inStep_pure _

theorem lost_inStep (c : Connection) (cause : Option Failure) :
    InStep (Along like) Eq (c.lost cause : Action (Connection × Session) α) (c.lost cause) :=
  (inStep_onSecond (told_log _).inStep).next fun _ => close_inStep.next fun _ => inStep_fail _

theorem buildClient_inStep (c : Connection) : InStep like Eq c.buildClient c.buildClient := by
  refine inStep_get.bind fun s t same => ?_
  have installed : s.libraryInstalled = t.libraryInstalled := Blind.reads same fun _ => rfl
  rw [installed]
  split
  · exact build_inStep _
  · exact inStep_fail _

theorem ensureClient_inStep : InStep (Along like) Eq ensureClient ensureClient := by
  have current : InStep (Along like) Eq (do return (← Action.get).1 : Action (Connection × Session) Connection)
      (do return (← Action.get).1) := inStep_reading fun c _ _ _ => inStep_pure c
  unfold ensureClient
  refine inStep_reading fun c s t same => ?_
  dsimp only
  split
  · refine (inStep_onSecond (buildClient_inStep c)).next fun client => ?_
    exact (inStep_changed (fun _ _ => rfl) fun _ _ _ => rfl).next fun _ => current
  · exact current

theorem start_inStep : InStep (Along like) Eq start start := by
  unfold start
  refine ensureClient_inStep.next fun c => ?_
  refine (InStep.rescue (inStep_onSecond (told_call _ _ _).inStep) fun failure => lost_inStep c _).next fun alive => ?_
  split
  · exact inStep_changed (fun _ _ => rfl) fun _ _ _ => rfl
  · exact lost_inStep c none

end Connection

namespace Registry
variable {like : Session → Session → Prop}

theorem get_inStep {make : String → Action Session Handle} (made : ∀ name, InStep like Eq (make name) (make name))
    (name : Value) : InStep (Along like) Eq (get make name) (get make name) := by
  unfold get
  split
  · exact inStep_pure _
  · refine inStep_reading fun r s t same => ?_
    dsimp only
    split
    · exact inStep_pure _
    · refine (inStep_onSecond (made _)).next fun h => ?_
      exact (inStep_changed (fun _ _ => rfl) fun _ _ _ => rfl).next fun _ => inStep_pure _

theorem stop_inStep : InStep (Along like) Eq stop stop := by
  unfold stop
  refine inStep_reading fun r s t same => ?_
  refine (inStep_set ⟨rfl, same⟩).next fun _ => ?_
  split
  · exact inStep_fail _
  · exact inStep_pure _

variable [Blind like]

theorem sweep_inStep : InStep (Along like) Eq sweep sweep := by
  unfold sweep
  refine inStep_reading fun r s t same => ?_
  dsimp only
  split
  · exact (inStep_onSecond (told_log _).inStep).next fun _ => inStep_changed (fun _ _ => rfl) fun _ _ _ => rfl
  · exact inStep_changed (fun _ _ => rfl) fun _ _ _ => rfl

theorem elapse_inStep (now : Rat) : InStep (Along like) Eq (elapse now) (elapse now) := by
  unfold elapse
  refine inStep_reading fun r s t same => ?_
  dsimp only
  split
  · split
    · exact sweep_inStep.next fun _ => inStep_changed (fun _ _ => rfl) fun _ _ _ => rfl
    · exact inStep_pure _
  · exact inStep_pure _

end Registry

namespace Store
variable {ρ α : Type} {like : Session → Session → Prop}

theorem look_inStep : InStep (Along like) Eq Store.get Store.get := fun _ _ same => ⟨.ok same.1, same⟩

theorem onPart_inStep (part : ρ) (put : ρ → Store → Store) {x : Action (ρ × Session) α}
    (alike : InStep (Along like) Eq x x) : InStep (Along like) Eq (onPart part put x) (onPart part put x) := by
  rintro ⟨s, session⟩ ⟨_, other⟩ ⟨rfl, same⟩
  obtain ⟨ended, kept, left⟩ := alike (part, session) (part, other) ⟨rfl, same⟩
  refine ⟨ended, ?_, left⟩
  exact congrArg (put · s) kept

theorem init_inStep (config : Config) : InStep (Along like) Eq (init config) (init config) := by
  refine look_inStep.next fun s => ?_
  exact (inStep_lift (.refl _)).next fun settings => inStep_changed (fun _ _ => rfl) fun _ _ _ => rfl

theorem stopSweep_inStep : InStep (Along like) Eq stopSweep stopSweep := by
  refine look_inStep.next fun s => ?_
  split
  · exact inStep_pure _
  · exact (onPart_inStep _ _ Registry.stop_inStep).next fun _ => inStep_changed (fun _ _ => rfl) fun _ _ _ => rfl

variable [Blind like]

theorem log_inStep (record : Store → Record) : InStep (Along like) Eq (log record) (log record) :=
  look_inStep.next fun s => inStep_onSecond (told_log (record s)).inStep

theorem makeHandle_inStep (s : Store) (name : String) : InStep like Eq (s.makeHandle name) (s.makeHandle name) := by
  refine inStep_get.bind fun session other same => ?_
  have count : session.handlesBuilt = other.handlesBuilt := Blind.reads same fun _ => rfl
  have counted := Blind.moved same (f := fun s => { s with handlesBuilt := s.handlesBuilt + 1 }) fun _ => rfl
  refine (inStep_set counted).next fun _ => ?_
  rw [count]
  exact inStep_pure _

theorem getIndex_inStep (name : Value) : InStep (Along like) Eq (getIndex name) (getIndex name) := by
  refine look_inStep.next fun s => ?_
  split
  · exact onPart_inStep _ _ (Registry.get_inStep s.makeHandle_inStep name)
  · exact inStep_fail _

theorem sweep_inStep : InStep (Along like) Eq sweep sweep := by
  refine look_inStep.next fun s => ?_
  split
  · exact onPart_inStep _ _ Registry.sweep_inStep
  · exact inStep_fail _

theorem advance_inStep (seconds : Rat) : InStep (Along like) Eq (advance seconds) (advance seconds) := by
  have later : InStep (Along (ρ := Store) like) Eq
      (Action.modify fun s => (s.1, { s.2 with now := s.2.now + seconds }))
      (Action.modify fun s => (s.1, { s.2 with now := s.2.now + seconds })) :=
    inStep_modify fun s t same =>
      ⟨same.1, Blind.moved same.2 (f := fun s => { s with now := s.now + seconds }) fun _ => rfl⟩
  refine later.next fun _ => inStep_reading fun s session other same => ?_
  have now : session.now = other.now := Blind.reads same fun _ => rfl
  dsimp only
  rw [now]
  split
  · exact onPart_inStep _ _ (Registry.elapse_inStep _)
  · exact inStep_pure _

theorem Service.inStep {x : Run α} (service : Service x) : InStep (Along like) Eq x x := by
  induction service with
  | lift result => exact inStep_lift (.refl result)
  | bind _ _ first rest => exact first.next rest
  | rescue _ _ first rest => exact first.rescue rest
  | get => exact look_inStep
  | session script => exact inStep_onSecond script.told.inStep
  | handle name => exact getIndex_inStep name
  | sweep => exact sweep_inStep
  | advance seconds => exact advance_inStep seconds

theorem disconnect_inStep : InStep (Along like) Eq disconnect disconnect := by
  refine look_inStep.next fun s => ?_
  split
  · exact inStep_pure _
  · exact (onPart_inStep _ _ Connection.close_inStep).next fun _ => inStep_changed (fun _ _ => rfl) fun _ _ _ => rfl

theorem shutdown_inStep : InStep (Along like) Eq shutdown shutdown := stopSweep_inStep.next fun _ => disconnect_inStep

theorem connect_inStep (c : Connection) : InStep (Along like) Eq (connect c) (connect c) := by
  rintro ⟨s, session⟩ ⟨_, other⟩ ⟨rfl, same⟩
  obtain ⟨ended, kept, left⟩ := Connection.start_inStep (c, session) (c, other) ⟨rfl, same⟩
  unfold connect
  rcases ran : Connection.start (c, session) with ⟨result, c', session'⟩
  rcases ran' : Connection.start (c, other) with ⟨result', d', other'⟩
  rw [ran, ran'] at ended kept left
  cases ended with
  | ok => exact ⟨.ok kept, rfl, left⟩
  | error failure =>
    have both {x : Run Connection} (alike : InStep (Along like) Eq x x) :=
      alike (s, session') (s, other') ⟨rfl, left⟩
    dsimp only
    cases isConnectivity failure with
    | true => exact both ((log_inStep _).next fun _ => inStep_fail _)
    | false => exact both (inStep_fail _)

theorem run_inStep : InStep (Along like) Eq run run := by
  refine shutdown_inStep.next fun _ => look_inStep.next fun s => ?_
  refine (inStep_lift (.refl _)).next fun c => (connect_inStep c).next fun c => ?_
  refine (inStep_changed (fun _ _ => rfl) fun _ _ _ => rfl).next fun _ => (log_inStep _).next fun _ => ?_
  refine inStep_reading fun t session other same => ?_
  have now : session.now = other.now := Blind.reads same fun _ => rfl
  dsimp only
  rw [now]
  exact inStep_changed (fun _ _ => rfl) fun _ _ _ => rfl

theorem perform_inStep (command : Command) : InStep (Along like) Eq (perform command) (perform command) := by
  by_cases lifecycle : command.isLifecycle = false
  · by_cases set : command.configures = false
    · exact (perform_service lifecycle set).inStep
    · cases command with
      | init config => exact (init_inStep config).next fun _ => inStep_pure _
      | _ => exact absurd rfl set
  · cases command with
    | run => exact run_inStep.next fun _ => inStep_pure _
    | shutdown => exact shutdown_inStep.next fun _ => inStep_pure _
    | _ => exact absurd rfl lifecycle

end Store
end SearchStore
