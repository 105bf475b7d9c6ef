import Mathlib.Data.List.Induction
import SearchStore.Proofs.Registry.Steps
import SearchStore.Proofs.Store.Service
namespace SearchStore
open SearchStore.Action Session

def Session.Unmade (before after : Session) : Prop := after.handlesBuilt = before.handlesBuilt

instance : IsPreorder Session Session.Unmade where
  refl _ := rfl
  trans _ _ _ first rest := Eq.trans rest first

theorem Session.Told.unmade {α : Type} {x : Action Session α} (told : Told x) : Keeps Unmade x := by
  intro s
  rw [told s]
  rfl

theorem Session.build_unmade (arguments : Entries) : Keeps Unmade (build arguments) := by
  refine Keeps.bind (keeps_modify fun s => rfl) fun _ => ?_
  exact Keeps.bind keeps_get fun s => (told_perform _).unmade.bind fun _ => keeps_pure _

namespace Connection

def Unmade (before after : Connection × Session) : Prop := before.2.Unmade after.2

instance : IsPreorder (Connection × Session) Unmade where
  refl _ := Eq.refl _
  trans _ _ _ first rest := Eq.trans rest first

variable {α : Type}

theorem onSession_unmade {x : Action Session α} (unmade : Keeps Session.Unmade x) :
    Keeps Unmade (onSecond x) := unmade.onSecond fun _ _ _ same => same

theorem call_unmade (client : Option Client) (method : Method) (arguments : Entries) :
    Keeps Session.Unmade (call client method arguments) := (told_call client method arguments).unmade

theorem close_unmade : Keeps Unmade close := by
  refine Ends.keeps fun ⟨c, session⟩ => ends_close.mpr ?_
  cases c.held with
  | none => exact Eq.refl _
  | some client => exact (call_unmade (some client) .close []).ends session

theorem lost_unmade (c : Connection) (cause : Option Failure) :
    Keeps Unmade (c.lost cause : Action (Connection × Session) α) := by
  refine (onSession_unmade (told_log _).unmade).bind fun _ => ?_
  exact close_unmade.bind fun _ => keeps_fail _

theorem ensureClient_unmade : Keeps Unmade ensureClient := by
  refine Ends.keeps fun ⟨c, session⟩ => ends_ensureClient.mpr ?_
  cases c.client with
  | some client => exact Eq.refl _
  | none =>
    have unmade : Keeps Session.Unmade c.buildClient := by
      refine Keeps.bind keeps_get fun s => ?_
      split
      · exact build_unmade _
      · exact keeps_fail _
    exact unmade.ends session

theorem start_unmade : Keeps Unmade start := by
  refine ensureClient_unmade.bind fun c => ?_
  refine Keeps.bind (Keeps.rescue ?_ fun failure => lost_unmade c (some failure)) fun alive => ?_
  · exact onSession_unmade (call_unmade _ _ _)
  · split
    · exact keeps_modify fun s => Eq.refl _
    · exact lost_unmade c none

end Connection

namespace Registry

structure Sheds (before after : Registry × Session) : Prop where
  cached : ∀ entry ∈ after.1.cached, entry ∈ before.1.cached
  unmade : before.2.Unmade after.2

instance : IsPreorder (Registry × Session) Sheds where
  refl _ := ⟨fun _ member => member, Eq.refl _⟩
  trans _ _ _ first rest :=
    ⟨fun entry member => first.cached entry (rest.cached entry member), Eq.trans rest.unmade first.unmade⟩

theorem sweep_sheds : Keeps Sheds sweep := by
  intro s
  rw [sweep_eq]
  refine ⟨?_, swept_handlesBuilt s⟩
  rintro entry ⟨⟩

theorem elapse_sheds (now : Rat) : Keeps Sheds (elapse now) := by
  refine Keeps.bind keeps_get fun ⟨r, session⟩ => ?_
  dsimp only
  split
  · split
    · exact sweep_sheds.bind fun _ => keeps_modify fun s => ⟨fun _ member => member, Eq.refl _⟩
    · exact keeps_pure _
  · exact keeps_pure _

theorem stop_sheds : Keeps Sheds stop := by
  rintro ⟨⟨period, cached, sweeping⟩, session⟩
  match sweeping with
  | none => exact ⟨fun _ member => member, Eq.refl _⟩
  | some (.waiting _) => exact ⟨fun _ member => member, Eq.refl _⟩
  | some .broken => exact ⟨fun _ member => member, Eq.refl _⟩

theorem start_cached (now : Rat) (r : Registry) : (start now r).cached = r.cached := by
  unfold start
  split <;> rfl

end Registry

namespace Store

def handles (s : Store) : List (String × Handle) := (s.registry.map Registry.cached).getD []

def Carries (s : Store) (h : Handle) : Prop :=
  h.debug = s.settings.debug ∧ h.docTypes = s.settings.docTypes ∧ h.logger = s.logger

structure Made (before after : Store × Session) (entry : String × Handle) : Prop where
  fresh : before.2.handlesBuilt ≤ entry.2.id
  counted : entry.2.id < after.2.handlesBuilt
  carries : before.1.Carries entry.2
  named : entry.2.name = Text.lower entry.1

-- The store is set to the same, and its handles are old ones and such that were made in between.
structure Steady (before after : Store × Session) : Prop where
  settings : after.1.settings = before.1.settings
  logger : after.1.logger = before.1.logger
  counts : before.2.handlesBuilt ≤ after.2.handlesBuilt
  handles : ∀ entry ∈ after.1.handles, entry ∈ before.1.handles ∨ Made before after entry

theorem Steady.carries {s t : Store × Session} (steady : Steady s t) {h : Handle} :
    t.1.Carries h ↔ s.1.Carries h := by
  unfold Carries
  rw [steady.settings, steady.logger]

instance : IsPreorder (Store × Session) Steady where
  refl _ := ⟨rfl, rfl, le_rfl, fun _ member => .inl member⟩
  trans a b c first rest := by
    refine ⟨rest.settings.trans first.settings, rest.logger.trans first.logger,
      first.counts.trans rest.counts, ?_⟩
    intro entry member
    rcases rest.handles entry member with old | ⟨fresh, counted, carries, named⟩
    · rcases first.handles entry old with older | ⟨fresh, counted, carries, named⟩
      · exact .inl older
      · exact .inr ⟨fresh, counted.trans_le rest.counts, carries, named⟩
    · exact .inr ⟨first.counts.trans fresh, counted, first.carries.mp carries, named⟩

theorem steady_of_sheds {s t : Store × Session} (settings : t.1.settings = s.1.settings)
    (logger : t.1.logger = s.1.logger) (handles : ∀ entry ∈ t.1.handles, entry ∈ s.1.handles)
    (unmade : s.2.Unmade t.2) : Steady s t :=
  ⟨settings, logger, Nat.le_of_eq unmade.symm, fun entry member => .inl (handles entry member)⟩

theorem steady_of_same {s t : Store × Session} (settings : t.1.settings = s.1.settings)
    (logger : t.1.logger = s.1.logger) (handles : t.1.handles = s.1.handles) (unmade : s.2.Unmade t.2) :
    Steady s t :=
  steady_of_sheds settings logger (fun _ member => handles ▸ member) unmade

variable {α : Type}

theorem onSession_steady {x : Action Session α} (unmade : Keeps Session.Unmade x) :
    Keeps Steady (onSecond x : Run α) :=
  unmade.onSecond fun _ _ _ same => steady_of_same rfl rfl rfl same

theorem onRegistry_steady {s : Store × Session} {r : Registry} (found : s.1.registry = some r)
    {x : Action (Registry × Session) α} (sheds : Keeps Registry.Sheds x) :
    Steady s (onPart r putRegistry x s).2 := by
  obtain ⟨cached, unmade⟩ := sheds (r, s.2)
  refine steady_of_sheds rfl rfl ?_ unmade
  intro entry member
  rw [handles, found]
  exact cached entry member

theorem onConnection_steady (c : Connection) (s : Store × Session) {x : Action (Connection × Session) α}
    (unmade : Keeps Connection.Unmade x) : Steady s (onPart c putConnection x s).2 :=
  steady_of_same rfl rfl rfl (unmade (c, s.2))

theorem makeHandle_builds (s : Store) : Registry.Builds s.makeHandle := by
  constructor
  · rintro name session _ _ ⟨⟩
    exact ⟨le_rfl, Nat.lt_succ_self _⟩
  · rintro name session _ _ ⟨⟩
    exact Nat.le_succ _
  · rintro name session _ _ ⟨⟩
    rfl

theorem getIndex_found {s : Store × Session} {r : Registry} (found : s.1.registry = some r) (name : Value) :
    getIndex name s = onPart r putRegistry (Registry.get s.1.makeHandle name) s := by
  unfold getIndex
  rw [bind_ok (rfl : get s = (.ok s.1, s)), found]

theorem getIndex_steady (name : Value) : Keeps Steady (getIndex name) := by
  refine get_bind_keeps fun s => ?_
  cases found : s.1.registry with
  | none => exact Std.Refl.refl s
  | some r =>
    change Steady s (onPart r putRegistry (Registry.get s.1.makeHandle name) s).2
    obtain ⟨result, r', session, ran, fetched⟩ := Registry.get_fetched s.1.makeHandle name r s.2
    have after : (onPart r putRegistry (Registry.get s.1.makeHandle name) s).2 = (putRegistry r' s.1, session) := by
      unfold onPart
      rw [ran]
    have listed : s.1.handles = r.cached := by rw [handles, found]; rfl
    rw [after]
    cases fetched with
    | unnamed => exact steady_of_same rfl rfl listed.symm (Eq.refl _)
    | cached => exact steady_of_same rfl rfl listed.symm (Eq.refl _)
    | made named missing made =>
      refine ⟨rfl, rfl, (makeHandle_builds s.1).counts made, ?_⟩
      intro entry member
      rcases List.mem_append.mp member with old | new
      · exact .inl (listed ▸ old)
      · obtain rfl := List.mem_singleton.mp new
        obtain ⟨fresh, counted⟩ := (makeHandle_builds s.1).fresh made
        cases made
        exact .inr ⟨fresh, counted, ⟨rfl, rfl, rfl⟩, rfl⟩
    | failed _ _ failed => cases failed

theorem sweep_steady : Keeps Steady sweep := by
  refine get_bind_keeps fun s => ?_
  cases found : s.1.registry with
  | none => exact Std.Refl.refl s
  | some r => exact onRegistry_steady found Registry.sweep_sheds

theorem advance_steady (seconds : Rat) : Keeps Steady (advance seconds) := by
  refine Keeps.bind (keeps_modify fun s => steady_of_same rfl rfl rfl (Eq.refl _)) fun _ => ?_
  refine keeps_reading fun ⟨s, session⟩ => ?_
  dsimp only
  cases found : s.registry with
  | none => exact Std.Refl.refl (s, session)
  | some r => exact onRegistry_steady (s := (s, session)) found (Registry.elapse_sheds _)

theorem Service.steady {x : Run α} (service : Service x) : Keeps Steady x :=
  service.keeps (fun script => onSession_steady script.told.unmade) getIndex_steady sweep_steady advance_steady

theorem stopSweep_steady : Keeps Steady stopSweep := by
  refine get_bind_keeps fun s => ?_
  cases found : s.1.registry with
  | none => exact Std.Refl.refl s
  | some r =>
    refine kept_bind (onRegistry_steady found Registry.stop_sheds) fun _ => keeps_modify fun t => ?_
    refine steady_of_sheds rfl rfl ?_ (Eq.refl _)
    rintro entry ⟨⟩

theorem disconnect_steady : Keeps Steady disconnect := by
  refine get_bind_keeps fun s => ?_
  cases s.1.connection with
  | none => exact Std.Refl.refl s
  | some c =>
    refine kept_bind (onConnection_steady c s Connection.close_unmade) fun _ => keeps_modify fun t => ?_
    exact steady_of_same rfl rfl rfl (Eq.refl _)

theorem shutdown_steady : Keeps Steady shutdown := stopSweep_steady.bind fun _ => disconnect_steady

theorem connect_steady (c : Connection) : Keeps Steady (connect c) := by
  intro s
  have unmade : Session.Unmade s.2 (Connection.start (c, s.2)).2.2 := Connection.start_unmade (c, s.2)
  unfold connect
  rcases ran : Connection.start (c, s.2) with ⟨failure | done, ⟨c', session⟩⟩
  · rw [ran] at unmade
    have started : Steady s (s.1, session) := steady_of_same rfl rfl rfl unmade
    dsimp only
    split
    · refine IsTrans.trans _ _ _ started (Keeps.bind ?_ (fun _ => keeps_fail _) (s.1, session))
      exact (log_service _).steady
    · exact started
  · rw [ran] at unmade
    exact steady_of_same rfl rfl rfl unmade

theorem run_steady : Keeps Steady run := by
  have same : ∀ c, Keeps Steady (modify (putConnection c)) := fun c =>
    keeps_modify fun s => steady_of_same rfl rfl rfl (Eq.refl _)
  refine shutdown_steady.bind fun _ => Keeps.bind Service.get.steady fun s => ?_
  refine Keeps.bind (keeps_lift _) fun c => (connect_steady c).bind fun c => (same c).bind fun _ => ?_
  refine Keeps.bind (log_service _).steady fun _ => Keeps.bind keeps_get fun t => keeps_modify fun u => ?_
  refine steady_of_sheds rfl rfl ?_ (Eq.refl _)
  intro entry member
  change entry ∈ (Registry.start _ _).cached at member
  rw [Registry.start_cached] at member
  cases member

theorem perform_steady {command : Command} (set : command.configures = false) : Keeps Steady (perform command) := by
  by_cases lifecycle : command.isLifecycle = false
  · exact (perform_service lifecycle set).steady
  · cases command with
    | run => exact run_steady.bind fun _ => keeps_pure _
    | shutdown => exact shutdown_steady.bind fun _ => keeps_pure _
    | _ => exact absurd rfl lifecycle

theorem init_run (s : Store × Session) (v : Value) : init (.value v) s =
    match s.1.settings.configure v with
    | .ok settings => (.ok (), ({ s.1 with settings := settings, logger := settings.loggerName }, s.2))
    | .error failure => (.error failure, s) := by
  cases read : s.1.settings.configure v with
  | ok settings => exact bind_ok (congrArg (·, s) read)
  | error failure =>
    have refused : (lift (s.1.settings.configure v) : Run StoreSettings) s = (.error failure, s) := by
      rw [lift, read]
    exact bind_error (x := lift _) refused

theorem init_handles (config : Config) (s : Store × Session) :
    (init config s).2.1.handles = s.1.handles ∧ (init config s).2.2 = s.2 := by
  cases config with
  | settings settings => exact ⟨rfl, rfl⟩
  | value v =>
    rw [init_run]
    cases s.1.settings.configure v with
    | ok settings => exact ⟨rfl, rfl⟩
    | error failure => exact ⟨rfl, rfl⟩

theorem play_steady (turn : Turn Command) (set : turn.command.configures = false) (s : Store × Session) :
    Steady s (turn.play perform s).2 := by
  obtain ⟨settings, logger, counts, handles⟩ := perform_steady set (s.1, s.2.expecting turn.replies)
  refine ⟨settings, logger, counts, fun entry member => ?_⟩
  exact (handles entry member).imp id fun ⟨fresh, counted, carries, named⟩ => ⟨fresh, counted, carries, named⟩

theorem play_handles (turn : Turn Command) (s : Store × Session) : ∀ entry ∈ (turn.play perform s).2.1.handles,
    entry ∈ s.1.handles ∨ Made s (turn.play perform s).2 entry := by
  obtain ⟨command, replies⟩ := turn
  by_cases set : command.configures = false
  · exact (play_steady ⟨command, replies⟩ set s).handles
  · cases command with
    | init config =>
      have kept := (init_handles config (s.1, s.2.expecting replies)).1
      have served : ((Turn.mk (.init config) replies).play perform s).2 =
          (init config (s.1, s.2.expecting replies)).2 := 
        congrArg Prod.snd (bind_pure_run (init config) (fun _ => Outcome.done) _)
      intro entry member
      rw [served, kept] at member
      exact .inl member
    | _ => exact absurd rfl set

section History
variable {start : Store × Session} {turns made : List (Turn Command)}

structure MadeAfter (start : Store × Session) (turns made : List (Turn Command)) (h : Handle) : Prop where
  within : made <+: turns
  fresh : (Turn.after perform made start).2.handlesBuilt ≤ h.id
  counted : ∀ turn, made ++ [turn] <+: turns →
    h.id < (Turn.after perform (made ++ [turn]) start).2.handlesBuilt

-- The induction is on the history from its end, since what a turn does depends on what came before.
theorem handles_made (none : start.1.handles = []) (turns : List (Turn Command)) {entry : String × Handle}
    (member : entry ∈ (Turn.after perform turns start).1.handles) : ∃ made turn, made ++ [turn] <+: turns ∧
      Made (Turn.after perform made start) (Turn.after perform (made ++ [turn]) start) entry := by
  induction turns using List.reverseRecOn with
  | nil =>
    change entry ∈ start.1.handles at member
    rw [none] at member
    cases member
  | append_singleton turns turn ih =>
    have ends := Turn.after_concat perform turns turn start
    rw [ends] at member
    rcases play_handles turn _ entry member with old | new
    · obtain ⟨made, next, within, origin⟩ := ih old
      exact ⟨made, next, within.trans (List.prefix_append _ _), origin⟩
    · rw [← ends] at new
      exact ⟨turns, turn, List.prefix_rfl, new⟩

theorem after_steady {later : List (Turn Command)} (set : ∀ turn ∈ later, turn.command.configures = false)
    (s : Store × Session) : Steady s (Turn.after perform later s) := by
  induction later generalizing s with
  | nil => exact Std.Refl.refl s
  | cons turn rest ih =>
    have first := play_steady turn (set turn List.mem_cons_self) s
    exact IsTrans.trans _ _ _ first (ih (fun turn member => set turn (List.mem_cons_of_mem _ member)) _)

end History
end Store
end SearchStore
