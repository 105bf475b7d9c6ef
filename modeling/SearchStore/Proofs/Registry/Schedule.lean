import Mathlib.Algebra.Order.Archimedean.Basic
import SearchStore.Proofs.Registry.Names
namespace SearchStore.Registry

-- Time goes on up to an instant, included: whenever the sweep is due everything is dropped, and it waits for
-- one more period.
inductive Strikes (later : Rat) : Registry × Session → List Rat → Registry × Session → Prop
  | rest {s : Registry × Session} : (∀ due, s.1.sweeping = some (.waiting (some due)) → later < due) →
      Strikes later s [] (clockAt later s)
  | strike {s t : Registry × Session} {due seconds : Rat} {times : List Rat} :
      s.1.sweeping = some (.waiting (some due)) → s.1.period = .every seconds → due ≤ later →
      Strikes later (rescheduled (some (.waiting (some (due + seconds)))) (swept (clockAt due s))) times t →
      Strikes later s (due :: times) t

def SweepsAt (later : Rat) (s t : Registry × Session) (due : Rat → Prop) : Prop :=
  ∃ times, Strikes later s times t ∧ times.Pairwise (· < ·) ∧ ∀ time, time ∈ times ↔ due time

section Strikes
variable {s : Registry × Session} {due seconds later : Rat}

theorem dueAfter_step (positive : 0 < seconds) :
    dueAfter (due + seconds) seconds later = dueAfter due seconds later := by
  have here := Period.dueAfter_eq positive due later 0
  have next := Period.dueAfter_eq positive due later 1
  rw [Int.cast_zero, mul_zero, add_zero] at here
  rw [Int.cast_one, mul_one, ← here] at next
  exact Option.some.inj next

theorem dueAfter_next (positive : 0 < seconds) (come : due ≤ later) (undue : later < due + seconds) :
    dueAfter due seconds later = due + seconds := by
  have once : (Period.every seconds).struck due later = 0 := by
    have least : 0 ≤ (Period.every seconds).struck due later := Period.struck_nonneg positive come
    have most : ¬1 ≤ (Period.every seconds).struck due later := by
      rw [Period.le_struck_iff positive, Int.cast_one, one_mul]
      exact not_le.mpr undue
    omega
  have here := Period.dueAfter_eq positive due later 0
  rw [Int.cast_zero, mul_zero, add_zero, Period.due, once, Int.cast_zero, zero_add, mul_one] at here
  exact Option.some.inj here

theorem elapse_strike (positive : 0 < seconds) (waiting : s.1.sweeping = some (.waiting (some due)))
    (every : s.1.period = .every seconds) (come : due ≤ later) :
    elapse later (clockAt later s) = elapse later (clockAt later
      (rescheduled (some (.waiting (some (due + seconds)))) (swept (clockAt due s)))) := by
  generalize struck :
    clockAt later (rescheduled (some (.waiting (some (due + seconds)))) (swept (clockAt due s))) = t
  have waiting' : t.1.sweeping = some (.waiting (some (due + seconds))) := by
    rw [← struck]
    rfl
  have every' : t.1.period = .every seconds := by
    rw [← struck]
    exact every
  have empty : swept t = t := by
    rw [← struck]
    rfl
  have same : ∀ sweeping, rescheduled sweeping (swept (clockAt later s)) = rescheduled sweeping t := by
    intro sweeping
    rw [← struck, swept_clockAt, swept_clockAt]
    rfl
  rw [elapse_due (s := clockAt later s) waiting every come, same]
  by_cases again : due + seconds ≤ later
  · rw [elapse_due waiting' every' again, dueAfter_step positive, empty]
  · have still : elapse later t = (.ok (), t) := by
      refine elapse_undue fun next waits => ?_
      cases waiting'.symm.trans waits
      exact not_le.mp again
    rw [still, dueAfter_next positive come (not_le.mp again), ← waiting']
    rfl

theorem instant_from (positive : 0 < seconds) {i : Int} (counted : 0 ≤ i) : due ≤ due + i * seconds := by
  have : (0 : Rat) ≤ i := by exact_mod_cast counted
  exact le_add_of_nonneg_right (mul_nonneg this positive.le)

theorem instants_from_iff (due seconds time : Rat) : (∃ i : Int, 0 ≤ i ∧ time = due + i * seconds) ↔
    time = due ∨ ∃ i : Int, 0 ≤ i ∧ time = due + seconds + i * seconds := by
  constructor
  · rintro ⟨i, counted, rfl⟩
    by_cases first : i = 0
    · subst first
      exact .inl (by simp)
    · refine .inr ⟨i - 1, by omega, ?_⟩
      push_cast
      ring
  · rintro (rfl | ⟨i, counted, rfl⟩)
    · exact ⟨0, le_rfl, by simp⟩
    · refine ⟨i + 1, by omega, ?_⟩
      push_cast
      ring

theorem elapse_rest (rest : ∀ due, s.1.sweeping = some (.waiting (some due)) → later < due)
    {instant : Rat → Prop} (none : ∀ time, ¬instant time) :
    SweepsAt later s (elapse later (clockAt later s)).2 instant := by
  rw [elapse_undue (s := clockAt later s) rest]
  refine ⟨[], .rest rest, List.Pairwise.nil, fun time => ?_⟩
  simpa using none time

theorem elapse_early (positive : 0 < seconds) (waiting : s.1.sweeping = some (.waiting (some due)))
    (early : later < due) : SweepsAt later s (elapse later (clockAt later s)).2
      fun time => time ≤ later ∧ ∃ i : Int, 0 ≤ i ∧ time = due + i * seconds := by
  refine elapse_rest ?_ ?_
  · intro next waits
    cases waiting.symm.trans waits
    exact early
  · rintro time ⟨come, i, counted, rfl⟩
    exact absurd (le_trans (instant_from positive counted) come) (not_le.mpr early)

-- The induction is on a number of periods after which nothing is due any more.
theorem elapse_strikes (positive : 0 < seconds) (n : Nat) (waiting : s.1.sweeping = some (.waiting (some due)))
    (every : s.1.period = .every seconds) (bound : later < due + n * seconds) :
    SweepsAt later s (elapse later (clockAt later s)).2
      fun time => time ≤ later ∧ ∃ i : Int, 0 ≤ i ∧ time = due + i * seconds := by
  induction n generalizing s due with
  | zero => exact elapse_early positive waiting (by simpa using bound)
  | succ n ih =>
    by_cases come : due ≤ later
    · have further : later < due + seconds + n * seconds := by
        push_cast at bound
        linarith
      obtain ⟨times, strikes, order, listed⟩ := ih
        (s := rescheduled (some (.waiting (some (due + seconds)))) (swept (clockAt due s))) rfl every further
      rw [← elapse_strike positive waiting every come] at strikes
      refine ⟨due :: times, .strike waiting every come strikes, List.pairwise_cons.mpr ⟨?_, order⟩, ?_⟩
      · intro time member
        obtain ⟨-, i, counted, rfl⟩ := (listed time).mp member
        have after : due + seconds ≤ due + seconds + i * seconds := instant_from positive counted
        linarith
      · intro time
        rw [List.mem_cons, listed]
        dsimp only
        rw [instants_from_iff due]
        constructor
        · rintro (rfl | ⟨before, instant⟩)
          · exact ⟨come, .inl rfl⟩
          · exact ⟨before, .inr instant⟩
        · rintro ⟨before, rfl | instant⟩
          · exact .inl rfl
          · exact .inr ⟨before, instant⟩
    · exact elapse_early positive waiting (not_le.mp come)

end Strikes

theorem advance_sweeps (make : String → Action Session Handle) {period : Period} {begun : Option Rat}
    {s : Registry × Session} (scheduled : Scheduled period begun s) (seconds : NNRat) :
    SweepsAt (s.2.now + seconds) s (serve make (.advance seconds) s).2 fun time =>
      s.2.now < time ∧ time ≤ s.2.now + seconds ∧ ∃ start ∈ begun, period.Instant start time := by
  rw [serve_elapse]
  obtain ⟨positive, constant, waits, before⟩ := scheduled
  cases begun with
  | none =>
    refine elapse_rest (fun due waiting => ?_) ?_
    · cases waits.symm.trans waiting
    · rintro time ⟨-, -, start, ⟨⟩, -⟩
  | some start =>
    have order : start ≤ s.2.now := before start rfl
    cases period with
    | unusable => cases positive
    | never =>
      refine elapse_rest (fun due waiting => ?_) ?_
      · cases waits.symm.trans waiting
      · rintro time ⟨-, -, _, -, ⟨⟩⟩
    | every interval =>
      have positive : 0 < interval := positive
      obtain ⟨n, far⟩ := exists_nat_gt
        ((s.2.now + seconds - (start + interval * ((Period.every interval).struck start s.2.now + 1))) / interval)
      rw [div_lt_iff₀ positive, sub_lt_iff_lt_add'] at far
      obtain ⟨times, strikes, increasing, listed⟩ := elapse_strikes positive n waits constant far
      refine ⟨times, strikes, increasing, fun time => ?_⟩
      have instants : (s.2.now < time ∧ _) ↔ _ := Period.instant_after_iff positive order
      rw [listed]
      constructor
      · rintro ⟨come, later⟩
        obtain ⟨after, instant⟩ := instants.mpr later
        exact ⟨after, come, start, rfl, instant⟩
      · rintro ⟨after, come, _, ⟨⟩, instant⟩
        exact ⟨come, instants.mp ⟨after, instant⟩⟩

theorem strikes_or {period : Period} (positive : period.Positive) (begun : Option Rat) {now between later : Rat}
    (first : now ≤ between) (second : between ≤ later) : period.strikes begun now later =
      (period.strikes begun now between || period.strikes begun between later) := by
  cases begun with
  | none => rfl
  | some start =>
    have before : period.struck start now ≤ period.struck start between := Period.struck_mono positive first
    have after : period.struck start between ≤ period.struck start later := Period.struck_mono positive second
    rw [Bool.eq_iff_iff]
    simp only [Period.strikes, Option.any_some, Bool.or_eq_true, decide_eq_true_eq]
    omega

section Chronicle
variable {make : String → Action Session Handle} {period : Period} {begun : Option Rat} {s : Registry × Session}

theorem advance_advance (builds : Builds make) (scheduled : Scheduled period begun s) (a b : NNRat) :
    (serve make (.advance b) (serve make (.advance a) s).2).2 = (serve make (.advance (a + b)) s).2 := by
  have first : s.2.now ≤ s.2.now + a := le_add_of_nonneg_right a.2
  have second : s.2.now + a ≤ s.2.now + (a + b : NNRat) := by
    rw [NNRat.coe_add, ← add_assoc]
    exact le_add_of_nonneg_right b.2
  have between : Scheduled period begun (serve make (.advance a) s).2 :=
    serve_scheduled builds (.advance a) scheduled
  have now : (serve make (.advance a) s).2.2.now = s.2.now + a := serve_now builds (.advance a) scheduled
  have total : s.2.now + a + b = s.2.now + (a + b : NNRat) := by rw [NNRat.coe_add, add_assoc]
  rw [serve_advance make between, now, total, serve_advance make scheduled (a + b), serve_advance make scheduled a,
    strikes_or scheduled.positive begun first second]
  cases period.strikes begun s.2.now (s.2.now + a) with
  | true =>
    -- Nothing is left that a second sweep could drop.
    cases period.strikes begun (s.2.now + a) (s.2.now + (a + b : NNRat)) <;> rfl
  | false =>
    cases period.strikes begun (s.2.now + a) (s.2.now + (a + b : NNRat)) with
    | true =>
      change rescheduled _ (clockAt _ (rescheduled _ (swept (clockAt _ s)))) = _
      rw [swept_clockAt]
      rfl
    | false => rfl

-- Whatever was got since the last sweep was got no earlier than the latest instant that has come.
def Chronicle.Fresh (c : Chronicle) : Prop :=
  ∀ g ∈ c.since, ∀ start ∈ c.begun, ∀ time, c.period.Instant start time → time ≤ c.now → time ≤ g.time

theorem instant_after {time start : Rat} (positive : period.Positive) (instant : period.Instant start time) :
    start < time := by
  cases period with
  | every seconds =>
    have positive : 0 < seconds := positive
    obtain ⟨k, counted, rfl⟩ := instant
    have whole : (0 : Rat) < k := by exact_mod_cast counted
    exact lt_add_of_pos_right start (mul_pos whole positive)
  | never => cases instant
  | unusable => cases instant

theorem gets_now {command : Command} {now : Rat} {answer : Except Failure Answer} {g : Got}
    (got : g ∈ command.gets now answer) : g.time = now := by
  unfold Command.gets at got
  split at got
  · split at got
    · rw [List.mem_singleton.mp got]
    · cases got
  · cases got

theorem le_of_unstruck {now later start time : Rat} (positive : period.Positive) (running : start ∈ begun)
    (quiet : period.strikes begun now later = false) (instant : period.Instant start time)
    (come : time ≤ later) : time ≤ now := by
  obtain rfl : begun = some start := running
  have same : period.struck start later ≤ period.struck start now := by
    simpa [Period.strikes] using quiet
  exact instant.le_of_struck positive same come

theorem next_fresh {c : Chronicle} (builds : Builds make) (scheduled : c.Scheduled) (fresh : c.Fresh)
    (command : Command) : (c.next make command).Fresh := by
  have now : (c.next make command).now = c.now + command.passes := serve_now builds command scheduled
  intro g got start running time instant come
  rw [now] at come
  have still : command.passes = 0 → time ≤ c.now := by
    intro none
    simpa [none] using come
  cases command with
  | get v =>
    rcases List.mem_append.mp got with old | new
    · exact fresh g old start running time instant (still rfl)
    · rw [gets_now new]
      exact still rfl
  | contains v =>
    rcases List.mem_append.mp got with old | ⟨⟨⟩⟩
    exact fresh g old start running time instant (still rfl)
  | sweep => cases got
  | start =>
    rcases List.mem_append.mp got with old | ⟨⟨⟩⟩
    change start ∈ c.begun.or (some c.now) at running
    cases found : c.begun with
    | none =>
      rw [found] at running
      cases running
      exact absurd (still rfl) (not_le.mpr (instant_after scheduled.positive instant))
    | some begun =>
      rw [found] at running
      exact fresh g old start (found.trans running) time instant (still rfl)
  | stop => cases running
  | advance seconds =>
    have served := serve_advance make scheduled seconds
    rw [Chronicle.next_eq served] at got
    change g ∈ (if c.period.strikes c.begun c.now (c.now + seconds) then [] else c.since ++ []) at got
    cases struck : c.period.strikes c.begun c.now (c.now + seconds) with
    | true =>
      rw [struck] at got
      cases got
    | false =>
      rw [struck, if_neg Bool.false_ne_true, List.append_nil] at got
      exact fresh g got start running time instant (le_of_unstruck scheduled.positive running struck instant come)

theorem serve_unswept (scheduled : Scheduled period begun s) {command : Command}
    (unswept : command.sweeps period s.2.now begun = false) : s.1.cached <+: (serve make command s).2.1.cached := by
  cases command with
  | get v =>
    obtain ⟨result, r, session, ran, fetched⟩ := get_fetched make v s.1 s.2
    rw [serve_get, ran]
    cases fetched with
    | made => exact List.prefix_append _ _
    | _ => exact List.prefix_rfl
  | contains v => exact List.prefix_rfl
  | sweep => cases unswept
  | start =>
    rw [serve_start scheduled]
    exact List.prefix_rfl
  | stop =>
    rw [serve_stop scheduled]
    exact List.prefix_rfl
  | advance seconds =>
    have quiet : period.strikes begun s.2.now (s.2.now + seconds) = false := unswept
    rw [serve_advance make scheduled, quiet]
    exact List.prefix_rfl

end Chronicle

theorem Chronicle.after_period (make : String → Action Session Handle) (commands : List Command) (c : Chronicle) :
    (c.after make commands).period = c.period := by
  induction commands generalizing c with
  | nil => rfl
  | cons command rest ih => exact ih (c.next make command)

theorem after_fresh {make : String → Action Session Handle} (builds : Builds make) {period : Period}
    (positive : period.Positive) (session : Session) (commands : List Command) :
    ((Chronicle.opened period session).after make commands).Fresh := by
  have step : ∀ c command, Chronicle.Sound c ∧ c.Fresh →
      (Chronicle.next make c command).Sound ∧ (Chronicle.next make c command).Fresh := by
    rintro c command ⟨sound, fresh⟩
    exact ⟨Chronicle.next_sound builds c command sound, next_fresh builds sound.scheduled fresh command⟩
  have opened : (Chronicle.opened period session).Fresh := by
    rintro g ⟨⟩
  exact (Chronicle.after_holds step commands ⟨Chronicle.opened_sound positive session, opened⟩).2

-- A registry whose sweep keeps to the schedule of the start that it goes back to.
structure Punctual (make : String → Action Session Handle) (ttl : Int) (c : Chronicle) : Prop where
  running : c.registry.running = c.begun.isSome
  restarted : c.registry.running = true → serve make .start c.state = (.ok .done, c.state)
  stopped : serve make .stop c.state = (.ok .done, ({ c.registry with sweeping := none }, c.state.2))
  timed : ∀ seconds : NNRat, SweepsAt (c.now + seconds) c.state (serve make (.advance seconds) c.state).2
    fun time => c.now < time ∧ time ≤ c.now + seconds ∧
      ∃ start ∈ c.begun, ∃ k : Int, 1 ≤ k ∧ time = start + k * ttl
  untimed : ∀ command : Command, command.sweeps c.period c.now c.begun = false →
    c.registry.cached <+: (serve make command c.state).2.1.cached
  -- Every cached handle was got, and not before the latest instant.
  recent : ∀ entry ∈ c.registry.cached, (∃ g ∈ c.since, (g.name, g.handle) = entry) ∧
    ∀ epoch ∈ c.epochs, ∀ g ∈ epoch, g.handle = entry.2 → ∀ start ∈ c.begun, ∀ k : Int, 1 ≤ k →
      start + k * ttl ≤ c.now → start + k * ttl ≤ g.time
  divided : ∀ a b : NNRat, (serve make (.advance b) (serve make (.advance a) c.state).2).2 =
    (serve make (.advance (a + b)) c.state).2

theorem registry_punctual {make : String → Action Session Handle} (builds : Builds make) {ttl : Int}
    (positive : 0 < ttl) (session : Session) (commands : List Command) :
    Punctual make ttl ((Chronicle.opened (.ofValue (.int ttl)) session).after make commands) := by
  have every : Period.ofValue (.int ttl) = .every ttl := rfl
  have usable : (Period.every ttl).Positive := by
    change (0 : Rat) < ttl
    exact_mod_cast positive
  rw [every]
  have sound := Chronicle.after_sound builds usable session commands
  have fresh := after_fresh builds usable session commands
  have period := Chronicle.after_period make commands (Chronicle.opened (.every ttl) session)
  generalize (Chronicle.opened (.every ttl) session).after make commands = c at sound fresh period ⊢
  have period : c.period = .every ttl := period
  obtain ⟨scheduled, kept⟩ := sound
  refine ⟨scheduled.running, ?_, serve_stop scheduled, ?_, fun command => serve_unswept scheduled, ?_,
    advance_advance builds scheduled⟩
  · intro running
    obtain ⟨start, found⟩ := Option.isSome_iff_exists.mp (scheduled.running.symm.trans running)
    have waits := scheduled.waits
    rw [serve_start scheduled, found, Option.some_or, ← found, ← waits]
    rfl
  · have sweeps := advance_sweeps make scheduled
    rw [period] at sweeps
    exact sweeps
  · intro entry member
    obtain ⟨last, got, same⟩ := kept.got entry member
    refine ⟨⟨last, got, same⟩, ?_⟩
    intro epoch among g seen handle start running k counted come
    have instant : c.period.Instant start (start + k * ttl) := by
      rw [period]
      exact ⟨k, counted, rfl⟩
    rcases List.mem_cons.mp among with rfl | earlier
    · exact fresh g seen start running _ instant come
    · have newer := (List.pairwise_cons.mp kept.newer).1 epoch earlier last got g seen
      rw [handle, ← same] at newer
      exact absurd newer (lt_irrefl _)

def restarts : List Command :=
  [.start, .get (.str "users"), .advance 130, .get (.str "logs"), .start, .stop, .start, .advance 59]

theorem registry_punctual_restarts :
    Builds (makeUnless ["broken"]) ∧ (0 : Int) < 60 ∧ Punctual (makeUnless ["broken"]) 60
      ((Chronicle.opened (.ofValue (.int 60)) {}).after (makeUnless ["broken"]) restarts) := by
  have builds := makeUnless_builds ["broken"]
  have positive : (0 : Int) < 60 := by decide
  exact ⟨builds, positive, registry_punctual builds positive {} restarts⟩

example :
    let c := (Chronicle.opened (.ofValue (.int 60)) {}).after (makeUnless ["broken"]) restarts
    c.begun = some 130 ∧ c.now = 189 ∧ c.registry.names = ["logs"] ∧
      c.registry.sweeping = some (.waiting (some 190)) := by
  decide +kernel

end SearchStore.Registry
