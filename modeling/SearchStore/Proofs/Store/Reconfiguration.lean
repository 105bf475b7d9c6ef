import SearchStore.Proofs.Settings.Override
import SearchStore.Proofs.Store.Handles
namespace SearchStore.Store
open Entries

-- What a store is after a configuration was written over its settings. `said` is what that gives alone.
structure Reconfigured (before : Store) (c : Entries) (said : StoreSettings) (after : Store) : Prop where
  settings : ∀ path, StoreSettings.Setting path →
    Overridden (some (.map c)) before.settings.dump said.dump after.settings.dump path
  switches : ∀ b, get? c "debug" = some (.bool b) → after.settings.debug = ⟨b, b, b, b⟩
  logger : after.logger = after.settings.loggerName
  others : after = { before with settings := after.settings, logger := after.logger }

variable {s : Store} {c : Entries} {said : StoreSettings}

theorem init_refused (kept : StoreSettings.readFields s.settings.toEntries = .valid s.settings)
    (keyed : Value.Keyed (.map c)) (refused : (StoreSettings.readFields c).isValid = false) (session : Session) :
    ∃ failure, init (.value (.map c)) (s, session) = (.error failure, (s, session)) := by
  rw [← StoreSettings.isValid_overridden keyed kept] at refused
  rw [init_run, StoreSettings.configure_eq kept]
  cases read : StoreSettings.readFields (c.foldl StoreSettings.override s.settings.toEntries) with
  | valid after =>
    rw [read] at refused
    cases refused
  | invalid details => exact ⟨_, rfl⟩
  | failed fault => exact ⟨_, rfl⟩

theorem init_reconfigures (kept : StoreSettings.readFields s.settings.toEntries = .valid s.settings)
    (keyed : Value.Keyed (.map c)) (alone : StoreSettings.readFields c = .valid said) (session : Session) :
    ∃ after, init (.value (.map c)) (s, session) = (.ok (), (after, session)) ∧ Reconfigured s c said after ∧
      StoreSettings.readFields after.settings.toEntries = .valid after.settings := by
  have accepted := StoreSettings.isValid_overridden keyed kept
  rw [alone] at accepted
  obtain ⟨settings, valid⟩ := Verdict.isValid_iff.mp accepted
  refine ⟨{ s with settings := settings, logger := settings.loggerName }, ?_, ?_, ?_⟩
  · rw [init_run, StoreSettings.configure_eq kept, valid]
    rfl
  · refine ⟨StoreSettings.overrides keyed kept alone valid, fun b given => ?_, rfl, rfl⟩
    exact StoreSettings.switches_together keyed.distinct given valid
  · exact StoreSettings.readFields_toEntries valid

theorem Reconfigured.again {after twice : Store} (once : Reconfigured s c said after)
    (second : Reconfigured after c said twice) : twice = after := by
  have settings : twice.settings = after.settings :=
    StoreSettings.eq_of_settings fun path setting => (once.settings path setting).again (second.settings path setting)
  have logger : twice.logger = after.logger := by rw [second.logger, settings, once.logger]
  rw [second.others, settings, logger]

-- A configuration is refused if it would be refused alone, and then nothing has happened. Otherwise it decides what
-- it speaks of and nothing else, and to give it again changes nothing.
theorem init_overrides (validated : ∃ v, StoreSettings.read v = .valid s.settings) (keyed : Value.Keyed (.map c))
    (session : Session) :
    match StoreSettings.read (.map c) with
    | .valid said => ∃ after, init (.value (.map c)) (s, session) = (.ok (), (after, session)) ∧
        Reconfigured s c said after ∧ init (.value (.map c)) (after, session) = (.ok (), (after, session))
    | _ => ∃ failure, init (.value (.map c)) (s, session) = (.error failure, (s, session)) := by
  obtain ⟨v, validated⟩ := validated
  have kept := StoreSettings.read_again validated
  have whole : StoreSettings.read (.map c) = StoreSettings.readFields c := rfl
  rw [whole]
  cases alone : StoreSettings.readFields c with
  | valid said =>
    obtain ⟨after, ran, once, kept'⟩ := init_reconfigures kept keyed alone session
    obtain ⟨twice, again, second, -⟩ := init_reconfigures kept' keyed alone session
    rw [once.again second] at again
    exact ⟨after, ran, once, again⟩
  | invalid details => exact init_refused kept keyed (by rw [alone]; rfl) session
  | failed fault => exact init_refused kept keyed (by rw [alone]; rfl) session

theorem init_overrides_partly :
    let s := make {} none
    let c : Entries := [(.str "options", .map [(.str "maxsize", .int 5)]), (.str "debug", .bool false)]
    ∃ after, init (.value (.map c)) (s, ({} : Session)) = (.ok (), (after, {})) ∧
      after.settings.debug = ⟨false, false, false, false⟩ ∧
      reach after.settings.dump ["options", "maxsize"] = some (.int 5) ∧
      reach after.settings.dump ["options", "dead_timeout"] = some (.float (.finite 30)) := by
  intro s c
  have keyed : Value.Keyed (.map c) := by
    refine .map (by decide) fun entry member => ?_
    simp only [c, List.mem_cons, List.not_mem_nil, or_false] at member
    rcases member with rfl | rfl
    · exact Value.keyed_flat (by decide) (by simp [Value.isMapping])
    · exact .leaf rfl
  have alone : StoreSettings.read (.map c) =
    .valid { options := { maxSize := 5 }, debug := ⟨false, false, false, false⟩ } := rfl
  have all := init_overrides (s := s) ⟨.map [], rfl⟩ keyed {}
  rw [alone] at all
  obtain ⟨after, ran, once, -⟩ := all
  refine ⟨after, ran, once.switches false rfl, ?_, ?_⟩
  · exact once.settings ["options", "maxsize"] (.option (by decide))
  · exact once.settings ["options", "dead_timeout"] (.option (by decide))

end SearchStore.Store
