import Mathlib.Data.NNRat.Defs
import SearchStore.Proofs.Action
import SearchStore.Proofs.Client.Ledger
import SearchStore.Proofs.Registry.Period
namespace SearchStore.Registry
open SearchStore.Action

inductive Command where
  | get (name : Value)
  | contains (name : Value)
  | sweep
  | start
  | stop
  | advance (seconds : NNRat)

inductive Answer where
  | done
  | flag (b : Bool)
  | handle (h : Option Handle)

def serve (make : String → Action Session Handle) : Command → Action (Registry × Session) Answer
  | .get name => do return .handle (← get make name)
  | .contains name => do return .flag ((← Action.get).1.contains name)
  | .sweep => do sweep; return .done
  | .start => do .modify fun s => (s.1.start s.2.now, s.2); return .done
  | .stop => do stop; return .done
  | .advance seconds => do
    .modify fun s => (s.1, { s.2 with now := s.2.now + seconds })
    elapse (← Action.get).2.now
    return .done

-- Every handle that is made is another one, and making it takes no time. It may fail, always or for some
-- names only.
structure Builds (make : String → Action Session Handle) : Prop where
  fresh {name : String} {session session' : Session} {h : Handle} : make name session = (.ok h, session') →
    session.handlesBuilt ≤ h.id ∧ h.id < session'.handlesBuilt
  counts {name : String} {session session' : Session} {result : Except Failure Handle} :
    make name session = (result, session') → session.handlesBuilt ≤ session'.handlesBuilt
  timeless {name : String} {session session' : Session} {result : Except Failure Handle} :
    make name session = (result, session') → session'.now = session.now

section Steps
variable {make : String → Action Session Handle} {r : Registry} {session session' : Session} {v : Value}
  {name : String} {h : Handle} {failure : Failure}

theorem nameOf_str {text : String} (full : text ≠ "") : nameOf (.str text) = some (Text.lower text) := by
  have filled : text.isEmpty = false := by simpa using full
  simp [nameOf, filled]

theorem nameOf_eq_some (named : nameOf v = some name) :
    ∃ text, v = .str text ∧ text ≠ "" ∧ name = Text.lower text := by
  cases v with
  | str text =>
    by_cases full : text = ""
    · subst full
      cases named
    · rw [nameOf_str full] at named
      exact ⟨text, rfl, full, (Option.some.inj named).symm⟩
  | _ => cases named

theorem handle?_mem (found : r.handle? name = some h) : (name, h) ∈ r.cached := by
  obtain ⟨entry, seen, rfl⟩ := Option.map_eq_some_iff.mp found
  have same : entry.1 = name := by simpa using List.find?_some seen
  rw [← same]
  exact List.mem_of_find?_eq_some seen

theorem handle?_absent (missing : r.handle? name = none) : name ∉ r.names := by
  have unseen := List.find?_eq_none.mp (Option.map_eq_none_iff.mp missing)
  intro member
  obtain ⟨entry, cached, rfl⟩ := List.mem_map.mp member
  exact unseen entry cached (beq_self_eq_true _)

theorem get_unnamed (unnamed : nameOf v = none) (s : Registry × Session) : get make v s = (.ok none, s) := by
  unfold get
  rw [unnamed]
  rfl

theorem get_named (named : nameOf v = some name) : get make v (r, session) =
    (match r.handle? name with
      | some h => pure (some h)
      | none => do
        let h ← onSecond (make name)
        .modify fun s => ({ s.1 with cached := s.1.cached ++ [(name, h)] }, s.2)
        return some h : Action (Registry × Session) (Option Handle)) (r, session) := by
  unfold get
  rw [named]
  rfl

theorem get_cached (named : nameOf v = some name) (cached : r.handle? name = some h) :
    get make v (r, session) = (.ok (some h), (r, session)) := by
  rw [get_named named, cached]
  rfl

theorem get_made (named : nameOf v = some name) (uncached : r.handle? name = none)
    (made : make name session = (.ok h, session')) :
    get make v (r, session) = (.ok (some h), ({ r with cached := r.cached ++ [(name, h)] }, session')) := by
  rw [get_named named, uncached]
  exact bind_ok (onSecond_run made)

theorem get_failed (named : nameOf v = some name) (uncached : r.handle? name = none)
    (failed : make name session = (.error failure, session')) :
    get make v (r, session) = (.error failure, (r, session')) := by
  rw [get_named named, uncached]
  exact bind_error (onSecond_run failed)

inductive Fetched (make : String → Action Session Handle) (v : Value) (r : Registry) (session : Session) :
    Except Failure (Option Handle) → Registry → Session → Prop
  | unnamed : nameOf v = none → Fetched make v r session (.ok none) r session
  | cached {name : String} {h : Handle} : nameOf v = some name → r.handle? name = some h →
      Fetched make v r session (.ok (some h)) r session
  | made {name : String} {h : Handle} {session' : Session} : nameOf v = some name → r.handle? name = none →
      make name session = (.ok h, session') →
      Fetched make v r session (.ok (some h)) { r with cached := r.cached ++ [(name, h)] } session'
  | failed {name : String} {failure : Failure} {session' : Session} : nameOf v = some name → r.handle? name = none →
      make name session = (.error failure, session') →
      Fetched make v r session (.error failure) r session'

theorem get_fetched (make : String → Action Session Handle) (v : Value) (r : Registry) (session : Session) :
    ∃ result r' session', get make v (r, session) = (result, (r', session')) ∧
      Fetched make v r session result r' session' := by
  cases named : nameOf v with
  | none => exact ⟨_, _, _, get_unnamed named _, .unnamed named⟩
  | some name =>
    cases found : r.handle? name with
    | some h => exact ⟨_, _, _, get_cached named found, .cached named found⟩
    | none =>
      rcases made : make name session with ⟨failure | h, session'⟩
      · exact ⟨_, _, _, get_failed named found made, .failed named found made⟩
      · exact ⟨_, _, _, get_made named found made, .made named found made⟩

def swept (s : Registry × Session) : Registry × Session :=
  ({ s.1 with cached := [] }, if s.1.cached.isEmpty then s.2
    else s.2.logged (.debug logger "Sweeping %d cached index handles" [.int s.1.cached.length]))

theorem sweep_eq (s : Registry × Session) : sweep s = (.ok (), swept s) := by
  obtain ⟨⟨period, cached, sweeping⟩, session⟩ := s
  cases cached with
  | nil => rfl
  | cons entry rest => rfl

def rescheduled (sweeping : Option Sweep) (s : Registry × Session) : Registry × Session :=
  ({ s.1 with sweeping := sweeping }, s.2)

def clockAt (time : Rat) (s : Registry × Session) : Registry × Session := (s.1, { s.2 with now := time })

theorem swept_clockAt (time : Rat) (s : Registry × Session) : swept (clockAt time s) = clockAt time (swept s) := by
  unfold swept clockAt Session.logged
  dsimp only
  split
  · rfl
  · split <;> rfl

theorem elapse_due {due seconds now : Rat} {s : Registry × Session}
    (waiting : s.1.sweeping = some (.waiting (some due))) (every : s.1.period = .every seconds)
    (come : due ≤ now) : elapse now s =
      (.ok (), rescheduled (some (.waiting (some (dueAfter due seconds now)))) (swept s)) := by
  obtain ⟨⟨period, cached, sweeping⟩, session⟩ := s
  obtain rfl : sweeping = some (.waiting (some due)) := waiting
  obtain rfl : period = .every seconds := every
  change (if due ≤ now then _ else pure () : Action (Registry × Session) Unit) _ = _
  rw [if_pos come]
  exact bind_ok (sweep_eq _)

theorem elapse_undue {now : Rat} {s : Registry × Session}
    (undue : ∀ due, s.1.sweeping = some (.waiting (some due)) → now < due) : elapse now s = (.ok (), s) := by
  obtain ⟨⟨period, cached, sweeping⟩, session⟩ := s
  match sweeping, period with
  | some (.waiting (some due)), .every seconds =>
    change (if due ≤ now then _ else pure () : Action (Registry × Session) Unit) _ = _
    rw [if_neg (not_le.mpr (undue due rfl))]
    rfl
  | some (.waiting (some due)), .never => rfl
  | some (.waiting (some due)), .unusable => rfl
  | some (.waiting none), _ => rfl
  | some .broken, _ => rfl
  | none, _ => rfl

theorem elapse_waiting {begun : Option Rat} {now later : Rat} (positive : r.period.Positive)
    (waits : r.sweeping = begun.map fun begun => .waiting (r.period.due begun now)) (order : now ≤ later) :
    elapse later (r, session) = (.ok (),
      rescheduled (begun.map fun begun => .waiting (r.period.due begun later))
        (if r.period.strikes begun now later then swept (r, session) else (r, session))) := by
  obtain ⟨period, cached, sweeping⟩ := r
  dsimp only at positive waits ⊢
  subst waits
  cases begun with
  | none => exact elapse_undue fun due waiting => by cases waiting
  | some begun =>
    by_cases come : period.struck begun now < period.struck begun later
    · have strikes : period.strikes (some begun) now later = true := by simpa [Period.strikes] using come
      rw [if_pos strikes]
      cases period with
      | every seconds =>
        have rearmed := Period.dueAfter_eq positive begun later
          ((Period.every seconds).struck begun now + 1)
        push_cast at rearmed
        rw [elapse_due rfl rfl ((Period.due_le_iff positive).mpr come), rearmed]
        rfl
      | never => exact absurd come (lt_irrefl _)
      | unusable => cases positive
    · have same : period.struck begun now = period.struck begun later :=
        le_antisymm (Period.struck_mono positive order) (not_lt.mp come)
      have quiet : period.strikes (some begun) now later = false := by simpa [Period.strikes] using come
      rw [if_neg (by simp [quiet]), elapse_undue]
      · simp only [rescheduled, Option.map_some, Period.due_of_struck same]
      · intro due waiting
        cases period with
        | every seconds =>
          cases waiting
          exact not_le.mp fun before => come ((Period.due_le_iff positive).mp before)
        | never => cases waiting
        | unusable => cases waiting

theorem stop_eq (unbroken : r.sweeping ≠ some .broken) :
    stop (r, session) = (.ok (), rescheduled none (r, session)) := by
  obtain ⟨period, cached, sweeping⟩ := r
  match sweeping with
  | none => rfl
  | some (.waiting _) => rfl
  | some .broken => exact absurd rfl unbroken

theorem serve_get (v : Value) (s : Registry × Session) :
    serve make (.get v) s = ((get make v s).1.map .handle, (get make v s).2) :=
  bind_pure_run (get make v) Answer.handle s

theorem serve_sweep (s : Registry × Session) : serve make .sweep s = (.ok .done, swept s) :=
  bind_ok (sweep_eq s)

end Steps

-- The sweep that was begun, if one was, waits for the next instant of its schedule.
structure Scheduled (period : Period) (begun : Option Rat) (s : Registry × Session) : Prop where
  positive : period.Positive
  constant : s.1.period = period
  waits : s.1.sweeping = begun.map fun begun => .waiting (period.due begun s.2.now)
  before : ∀ start ∈ begun, start ≤ s.2.now

theorem swept_session (s : Registry × Session) : ∃ records, (swept s).2 = { s.2 with records := records } := by
  unfold swept Session.logged
  dsimp only
  split
  · exact ⟨_, rfl⟩
  · split
    · exact ⟨_, rfl⟩
    · exact ⟨_, rfl⟩

theorem swept_now (s : Registry × Session) : (swept s).2.now = s.2.now := by
  obtain ⟨records, same⟩ := swept_session s
  rw [same]

theorem swept_handlesBuilt (s : Registry × Session) : (swept s).2.handlesBuilt = s.2.handlesBuilt := by
  obtain ⟨records, same⟩ := swept_session s
  rw [same]

namespace Command

def passes : Command → NNRat
  | .advance seconds => seconds
  | _ => 0

def begins (now : Rat) (begun : Option Rat) : Command → Option Rat
  | .start => begun.or (some now)
  | .stop => none
  | _ => begun

end Command

section Scheduled
variable {make : String → Action Session Handle} {period : Period} {begun : Option Rat}
  {s : Registry × Session}

theorem Scheduled.running (scheduled : Scheduled period begun s) : s.1.running = begun.isSome := by
  unfold Registry.running
  rw [scheduled.waits]
  cases begun with
  | none => rfl
  | some start => rfl

theorem Scheduled.keep (scheduled : Scheduled period begun s) {t : Registry × Session}
    (constant : t.1.period = s.1.period) (sweeping : t.1.sweeping = s.1.sweeping)
    (now : t.2.now = s.2.now) : Scheduled period begun t := by
  refine ⟨scheduled.positive, constant.trans scheduled.constant, ?_, ?_⟩
  · rw [sweeping, scheduled.waits, now]
  · rw [now]
    exact scheduled.before

theorem serve_start (scheduled : Scheduled period begun s) : serve make .start s = (.ok .done, rescheduled
    ((begun.or (some s.2.now)).map fun begun => .waiting (period.due begun s.2.now)) s) := by
  obtain ⟨positive, rfl, waits, -⟩ := scheduled
  obtain ⟨⟨every, cached, _⟩, session⟩ := s
  dsimp only at positive waits ⊢
  subst waits
  cases begun with
  | none =>
    have served : serve make .start (⟨every, cached, none⟩, session) =
      (.ok .done, (⟨every, cached, some (firstSweep every session.now)⟩, session)) := rfl
    rw [Period.firstSweep_eq positive] at served
    exact served
  | some start => rfl

theorem serve_stop (scheduled : Scheduled period begun s) :
    serve make .stop s = (.ok .done, rescheduled none s) := by
  refine bind_ok (stop_eq ?_)
  rw [scheduled.waits]
  cases begun with
  | none => simp
  | some start => simp

theorem serve_elapse (seconds : NNRat) (s : Registry × Session) : (serve make (.advance seconds) s).2 =
    (elapse (s.2.now + seconds) (clockAt (s.2.now + seconds) s)).2 :=
  congrArg Prod.snd (bind_pure_run (elapse (s.2.now + seconds)) (fun _ => Answer.done) _)

variable (make) in
theorem serve_advance (scheduled : Scheduled period begun s) (seconds : NNRat) :
    serve make (.advance seconds) s = (.ok .done,
      rescheduled (begun.map fun begun => .waiting (period.due begun (s.2.now + seconds)))
        (clockAt (s.2.now + seconds)
          (if period.strikes begun s.2.now (s.2.now + seconds) then swept s else s))) := by
  obtain ⟨positive, rfl, waits, -⟩ := scheduled
  have order : s.2.now ≤ s.2.now + seconds := le_add_of_nonneg_right seconds.2
  have moved : clockAt (s.2.now + seconds) s = (s.1, { s.2 with now := s.2.now + seconds }) := rfl
  rw [apply_ite (clockAt (s.2.now + seconds)), ← swept_clockAt, moved]
  have elapsed : elapse (s.2.now + seconds) (s.1, { s.2 with now := s.2.now + seconds }) = _ :=
    elapse_waiting positive waits order
  exact bind_ok elapsed

theorem serve_now (builds : Builds make) (command : Command) (scheduled : Scheduled period begun s) :
    (serve make command s).2.2.now = s.2.now + command.passes := by
  have still : s.2.now = s.2.now + (0 : NNRat) := (add_zero s.2.now).symm
  cases command with
  | get v =>
    obtain ⟨result, r, session, ran, fetched⟩ := get_fetched make v s.1 s.2
    rw [serve_get, ran]
    cases fetched with
    | unnamed => exact still
    | cached => exact still
    | made _ _ made => exact (builds.timeless made).trans still
    | failed _ _ failed => exact (builds.timeless failed).trans still
  | contains v => exact still
  | sweep =>
    rw [serve_sweep]
    exact (swept_now s).trans still
  | start =>
    rw [serve_start scheduled]
    exact still
  | stop =>
    rw [serve_stop scheduled]
    exact still
  | advance seconds =>
    rw [serve_advance make scheduled]
    rfl

theorem serve_scheduled (builds : Builds make) (command : Command) (scheduled : Scheduled period begun s) :
    Scheduled period (command.begins s.2.now begun) (serve make command s).2 := by
  have now := serve_now builds command scheduled
  have later : s.2.now ≤ (serve make command s).2.2.now := by
    rw [now]
    exact le_add_of_nonneg_right command.passes.2
  have before : ∀ start ∈ begun, start ≤ (serve make command s).2.2.now :=
    fun start running => le_trans (scheduled.before start running) later
  cases command with
  | get v =>
    have unmoved := now.trans (add_zero s.2.now)
    obtain ⟨result, r, session, ran, fetched⟩ := get_fetched make v s.1 s.2
    have served : (serve make (.get v) s).2 = (r, session) := by rw [serve_get, ran]
    rw [served] at unmoved ⊢
    cases fetched with
    | unnamed => exact scheduled
    | cached => exact scheduled
    | made => exact scheduled.keep rfl rfl unmoved
    | failed => exact scheduled.keep rfl rfl unmoved
  | contains v => exact scheduled
  | sweep =>
    rw [serve_sweep]
    exact scheduled.keep rfl rfl (swept_now s)
  | start =>
    rw [serve_start scheduled] at before ⊢
    refine ⟨scheduled.positive, scheduled.constant, rfl, ?_⟩
    cases begun with
    | none =>
      rintro start ⟨⟩
      exact le_rfl
    | some start => exact before
  | stop =>
    rw [serve_stop scheduled]
    refine ⟨scheduled.positive, scheduled.constant, rfl, ?_⟩
    rintro start ⟨⟩
  | advance seconds =>
    refine ⟨scheduled.positive, ?_, ?_, before⟩
    · rw [serve_advance make scheduled]
      split <;> exact scheduled.constant
    · rw [now, serve_advance make scheduled]
      rfl

end Scheduled
end SearchStore.Registry
