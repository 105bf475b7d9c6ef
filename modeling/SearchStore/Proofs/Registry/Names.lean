import SearchStore.Proofs.Registry.Steps
namespace SearchStore.Registry

structure Got where
  time : Rat
  name : String
  handle : Handle

namespace Command

def sweeps (period : Period) (now : Rat) (begun : Option Rat) : Command → Bool
  | .sweep => true
  | .advance seconds => period.strikes begun now (now + seconds)
  | _ => false

def gets (now : Rat) (answer : Except Failure Answer) : Command → List Got
  | .get (.str text) => match answer with
    | .ok (.handle (some h)) => [⟨now, Text.lower text, h⟩]
    | _ => []
  | _ => []

end Command

structure Chronicle where
  period : Period
  state : Registry × Session
  begun : Option Rat := none
  since : List Got := []
  -- What was got between earlier sweeps, the latest first.
  past : List (List Got) := []

namespace Chronicle

def opened (period : Period) (session : Session) : Chronicle :=
  { period := period, state := ({ period := period }, session) }

def registry (c : Chronicle) : Registry := c.state.1

def now (c : Chronicle) : Rat := c.state.2.now

def names (c : Chronicle) : List String := c.since.map Got.name

def epochs (c : Chronicle) : List (List Got) := c.since :: c.past

def next (make : String → Action Session Handle) (c : Chronicle) (command : Command) : Chronicle :=
  let served := serve make command c.state
  let got := command.gets c.now served.1
  let swept := command.sweeps c.period c.now c.begun
  { c with
    state := served.2
    begun := command.begins c.now c.begun
    since := if swept then got else c.since ++ got
    past := if swept then c.since :: c.past else c.past }

def after (make : String → Action Session Handle) (commands : List Command) (c : Chronicle) : Chronicle :=
  commands.foldl (next make) c

theorem after_holds {make : String → Action Session Handle} {holds : Chronicle → Prop}
    (step : ∀ c command, holds c → holds (c.next make command)) (commands : List Command) {c : Chronicle}
    (start : holds c) : holds (c.after make commands) := by
  induction commands generalizing c with
  | nil => exact start
  | cons command rest ih => exact ih (step c command start)

def Scheduled (c : Chronicle) : Prop := Registry.Scheduled c.period c.begun c.state

theorem opened_scheduled {period : Period} (positive : period.Positive) (session : Session) :
    (opened period session).Scheduled := by
  refine ⟨positive, rfl, rfl, ?_⟩
  rintro start ⟨⟩

end Chronicle

def Alike (epoch : List Got) : Prop :=
  ∀ g ∈ epoch, ∀ g' ∈ epoch, g.name = g'.name → g.handle = g'.handle

def Newer (late early : List Got) : Prop := ∀ g ∈ late, ∀ g' ∈ early, g'.handle.id < g.handle.id

-- How the cached handles, and the number of those ever made, go together with what was got.
structure Kept (cached : List (String × Handle)) (made : Nat) (since : List Got) (past : List (List Got)) :
    Prop where
  names : cached.map Prod.fst = (since.map Got.name).eraseDups
  distinct : (cached.map Prod.fst).Nodup
  held : ∀ g ∈ since, (g.name, g.handle) ∈ cached
  got : ∀ entry ∈ cached, ∃ g ∈ since, (g.name, g.handle) = entry
  numbered : ∀ epoch ∈ since :: past, ∀ g ∈ epoch, g.handle.id < made
  alike : ∀ epoch ∈ past, Alike epoch
  newer : (since :: past).Pairwise Newer

section Kept
variable {cached : List (String × Handle)} {made made' : Nat} {since : List Got} {past : List (List Got)}
  {name : String} {h : Handle}

theorem eraseDups_concat (names : List String) (name : String) :
    (names ++ [name]).eraseDups = if name ∈ names then names.eraseDups else names.eraseDups ++ [name] := by
  rw [List.eraseDups_append]
  split
  · rename_i known
    simp [List.removeAll, known]
  · rename_i unknown
    simp [List.removeAll, unknown, List.eraseDups_cons]

theorem Kept.alike_since (kept : Kept cached made since past) : Alike since := by
  intro g member g' member' same
  have entry := kept.held g member
  have entry' := kept.held g' member'
  have one : (g.name, g.handle) = (g'.name, g'.handle) :=
    List.inj_on_of_nodup_map kept.distinct entry entry' same
  exact (Prod.mk.inj one).2

theorem kept_nothing : Kept [] made [] [] := by
  refine ⟨rfl, List.nodup_nil, ?_, ?_, ?_, ?_, List.pairwise_singleton _ _⟩
  · rintro g ⟨⟩
  · rintro entry ⟨⟩
  · intro epoch member g got
    rw [List.mem_singleton.mp member] at got
    cases got
  · rintro epoch ⟨⟩

theorem Kept.grow (kept : Kept cached made since past) (more : made ≤ made') :
    Kept cached made' since past :=
  { kept with numbered := fun epoch member g got =>
      Nat.lt_of_lt_of_le (kept.numbered epoch member g got) more }

theorem Kept.drop (kept : Kept cached made since past) : Kept [] made [] (since :: past) := by
  refine ⟨rfl, List.nodup_nil, ?_, ?_, ?_, ?_, List.pairwise_cons.mpr ⟨?_, kept.newer⟩⟩
  · rintro g ⟨⟩
  · rintro entry ⟨⟩
  · intro epoch member g got
    rcases List.mem_cons.mp member with rfl | earlier
    · cases got
    · exact kept.numbered epoch earlier g got
  · intro epoch member
    rcases List.mem_cons.mp member with rfl | earlier
    · exact kept.alike_since
    · exact kept.alike epoch earlier
  · rintro early _ g ⟨⟩

theorem Kept.again (kept : Kept cached made since past) (entry : (name, h) ∈ cached) (time : Rat) :
    Kept cached made (since ++ [⟨time, name, h⟩]) past := by
  obtain ⟨first, before, same⟩ := kept.got _ entry
  obtain ⟨rfl, rfl⟩ := Prod.mk.inj same
  have known : first.name ∈ since.map Got.name := List.mem_map_of_mem before
  refine { kept with names := ?_, held := ?_, got := ?_, numbered := ?_, newer := ?_ }
  · rw [List.map_append, List.map_singleton, eraseDups_concat, if_pos known]
    exact kept.names
  · intro g member
    rcases List.mem_append.mp member with old | new
    · exact kept.held g old
    · rw [List.mem_singleton.mp new]
      exact entry
  · intro other member
    obtain ⟨g, got, same⟩ := kept.got other member
    exact ⟨g, List.mem_append_left _ got, same⟩
  · intro epoch member g got
    rcases List.mem_cons.mp member with rfl | earlier
    · rcases List.mem_append.mp got with old | new
      · exact kept.numbered since List.mem_cons_self g old
      · rw [List.mem_singleton.mp new]
        exact kept.numbered since List.mem_cons_self first before
    · exact kept.numbered epoch (List.mem_cons_of_mem _ earlier) g got
  · obtain ⟨last, rest⟩ := List.pairwise_cons.mp kept.newer
    refine List.pairwise_cons.mpr ⟨?_, rest⟩
    intro early member g got
    rcases List.mem_append.mp got with old | new
    · exact last early member g old
    · rw [List.mem_singleton.mp new]
      exact last early member first before

theorem Kept.add (kept : Kept cached made since past) (absent : name ∉ cached.map Prod.fst)
    (fresh : made ≤ h.id) (counted : h.id < made') (time : Rat) :
    Kept (cached ++ [(name, h)]) made' (since ++ [⟨time, name, h⟩]) past := by
  have unknown : name ∉ since.map Got.name := by
    rw [kept.names, List.mem_eraseDups] at absent
    exact absent
  refine ⟨?_, ?_, ?_, ?_, ?_, kept.alike, ?_⟩
  · rw [List.map_append, List.map_append, List.map_singleton, List.map_singleton, eraseDups_concat,
      if_neg unknown, kept.names]
  · rw [List.map_append, List.map_singleton, ← List.concat_eq_append]
    exact kept.distinct.concat absent
  · intro g member
    rcases List.mem_append.mp member with old | new
    · exact List.mem_append_left _ (kept.held g old)
    · rw [List.mem_singleton.mp new]
      exact List.mem_append_right _ (List.mem_singleton_self _)
  · intro entry member
    rcases List.mem_append.mp member with old | new
    · obtain ⟨g, got, same⟩ := kept.got entry old
      exact ⟨g, List.mem_append_left _ got, same⟩
    · rw [List.mem_singleton.mp new]
      exact ⟨_, List.mem_append_right _ (List.mem_singleton_self _), rfl⟩
  · intro epoch member g got
    rcases List.mem_cons.mp member with rfl | earlier
    · rcases List.mem_append.mp got with old | new
      · exact (kept.numbered since List.mem_cons_self g old).trans (Nat.lt_of_le_of_lt fresh counted)
      · rw [List.mem_singleton.mp new]
        exact counted
    · exact (kept.numbered epoch (List.mem_cons_of_mem _ earlier) g got).trans
        (Nat.lt_of_le_of_lt fresh counted)
  · obtain ⟨last, rest⟩ := List.pairwise_cons.mp kept.newer
    refine List.pairwise_cons.mpr ⟨?_, rest⟩
    intro early member g got
    rcases List.mem_append.mp got with old | new
    · exact last early member g old
    · rw [List.mem_singleton.mp new]
      intro g' got'
      exact Nat.lt_of_lt_of_le (kept.numbered early (List.mem_cons_of_mem _ member) g' got') fresh

end Kept

theorem contains_iff {r : Registry} {v : Value} :
    r.contains v = true ↔ ∃ text, v = .str text ∧ Text.lower text ∈ r.names := by
  cases v with
  | str text => simp [Registry.contains]
  | _ => simp [Registry.contains]

namespace Chronicle
variable {make : String → Action Session Handle} {c : Chronicle}

def Kept (c : Chronicle) : Prop :=
  Registry.Kept c.registry.cached c.state.2.handlesBuilt c.since c.past

theorem next_eq {command : Command} {result : Except Failure Answer} {t : Registry × Session}
    (served : serve make command c.state = (result, t)) : c.next make command =
      { c with
        state := t
        begun := command.begins c.now c.begun
        since := if command.sweeps c.period c.now c.begun then command.gets c.now result
          else c.since ++ command.gets c.now result
        past := if command.sweeps c.period c.now c.begun then c.since :: c.past else c.past } := by
  unfold next
  rw [served]

theorem next_get {v : Value} {result : Except Failure (Option Handle)} {t : Registry × Session}
    (ran : get make v c.state = (result, t)) : c.next make (.get v) =
      { c with state := t, since := c.since ++ (Command.get v).gets c.now (result.map .handle) } := by
  have served : serve make (.get v) c.state = (result.map .handle, t) := by rw [serve_get, ran]
  exact next_eq served

theorem gets_handle {v : Value} {name : String} (named : nameOf v = some name) (now : Rat) (h : Handle) :
    (Command.get v).gets now (.ok (.handle (some h))) = [⟨now, name, h⟩] := by
  obtain ⟨text, rfl, -, rfl⟩ := nameOf_eq_some named
  rfl

theorem gets_nothing (v : Value) (now : Rat) : (Command.get v).gets now (.ok (.handle none)) = [] := by
  cases v <;> rfl

theorem gets_failure (v : Value) (now : Rat) (failure : Failure) :
    (Command.get v).gets now (.error failure) = [] := by
  cases v <;> rfl

theorem gets_done (command : Command) (now : Rat) : command.gets now (.ok .done) = [] := by
  cases command with
  | get v => cases v <;> rfl
  | _ => rfl

theorem next_got (builds : Builds make) (kept : c.Kept) (v : Value) : (c.next make (.get v)).Kept := by
  obtain ⟨result, r, session, ran, fetched⟩ := get_fetched make v c.registry c.state.2
  rw [next_get ran]
  cases fetched with
  | unnamed =>
    change Registry.Kept _ _ (c.since ++ (Command.get v).gets c.now (.ok (.handle none))) _
    rw [gets_nothing, List.append_nil]
    exact kept
  | cached named found =>
    change Registry.Kept _ _ (c.since ++ (Command.get v).gets c.now (.ok (.handle (some _)))) _
    rw [gets_handle named]
    exact kept.again (handle?_mem found) _
  | made named missing made =>
    obtain ⟨fresh, counted⟩ := builds.fresh made
    change Registry.Kept _ _ (c.since ++ (Command.get v).gets c.now (.ok (.handle (some _)))) _
    rw [gets_handle named]
    exact kept.add (handle?_absent missing) fresh counted _
  | failed named missing failed =>
    change Registry.Kept _ _ (c.since ++ (Command.get v).gets c.now (.error _)) _
    rw [gets_failure, List.append_nil]
    exact kept.grow (builds.counts failed)

theorem next_swept (kept : c.Kept) {command : Command} {t : Registry × Session}
    (served : serve make command c.state = (.ok .done, t))
    (swept : command.sweeps c.period c.now c.begun = true) (emptied : t.1.cached = [])
    (made : t.2.handlesBuilt = c.state.2.handlesBuilt) : (c.next make command).Kept := by
  rw [next_eq served, swept, gets_done]
  change Registry.Kept t.1.cached t.2.handlesBuilt [] (c.since :: c.past)
  rw [emptied, made]
  exact kept.drop

theorem next_unswept (kept : c.Kept) {command : Command} {t : Registry × Session}
    (served : serve make command c.state = (.ok .done, t))
    (unswept : command.sweeps c.period c.now c.begun = false) (left : t.1.cached = c.registry.cached)
    (made : t.2.handlesBuilt = c.state.2.handlesBuilt) : (c.next make command).Kept := by
  rw [next_eq served, unswept, gets_done]
  change Registry.Kept t.1.cached t.2.handlesBuilt (c.since ++ []) c.past
  rw [left, made, List.append_nil]
  exact kept

theorem next_kept (builds : Builds make) (scheduled : c.Scheduled) (kept : c.Kept) (command : Command) :
    (c.next make command).Kept := by
  cases command with
  | get v => exact next_got builds kept v
  | contains v =>
    have same : c.next make (.contains v) = { c with since := c.since ++ [] } := rfl
    rw [same, List.append_nil]
    exact kept
  | sweep => exact next_swept kept (serve_sweep c.state) rfl rfl (swept_handlesBuilt c.state)
  | start => exact next_unswept kept (serve_start scheduled) rfl rfl rfl
  | stop => exact next_unswept kept (serve_stop scheduled) rfl rfl rfl
  | advance seconds =>
    have served := serve_advance make scheduled seconds
    cases struck : c.period.strikes c.begun c.state.2.now (c.state.2.now + seconds) with
    | true =>
      rw [struck, if_pos rfl] at served
      exact next_swept kept served struck rfl (swept_handlesBuilt c.state)
    | false =>
      rw [struck, if_neg Bool.false_ne_true] at served
      exact next_unswept kept served struck rfl rfl

structure Sound (c : Chronicle) : Prop where
  scheduled : c.Scheduled
  kept : c.Kept

theorem next_sound (builds : Builds make) (c : Chronicle) (command : Command) (sound : c.Sound) :
    (c.next make command).Sound := by
  obtain ⟨scheduled, kept⟩ := sound
  exact ⟨serve_scheduled builds command scheduled, next_kept builds scheduled kept command⟩

theorem opened_sound {period : Period} (positive : period.Positive) (session : Session) :
    (opened period session).Sound := ⟨opened_scheduled positive session, kept_nothing⟩

theorem after_sound (builds : Builds make) {period : Period} (positive : period.Positive) (session : Session)
    (commands : List Command) : ((opened period session).after make commands).Sound :=
  after_holds (next_sound builds) commands (opened_sound positive session)

end Chronicle

-- A registry that stands for the set of names that were got since the last sweep.
structure Represents (make : String → Action Session Handle) (c : Chronicle) : Prop where
  names : c.registry.names = c.names.eraseDups
  distinct : c.registry.names.Nodup
  size : c.registry.cached.length = c.names.eraseDups.length
  contains : ∀ v, c.registry.contains v = true ↔ ∃ text, v = .str text ∧ Text.lower text ∈ c.names
  -- One handle for each name, until a sweep.
  same : ∀ epoch ∈ c.epochs, ∀ g ∈ epoch, ∀ g' ∈ epoch, g.name = g'.name → g.handle = g'.handle
  -- After a sweep they are all new ones.
  others : c.epochs.Pairwise fun late early => ∀ g ∈ late, ∀ g' ∈ early, g.handle.id ≠ g'.handle.id
  unnamed : ∀ v, (∀ text, v = .str text → text = "") → get make v c.state = (.ok none, c.state)
  -- A handle is got, or making it fails and the registry is as it was.
  named : ∀ text, text ≠ "" → (∃ h, (get make (.str text) c.state).1 = .ok (some h)) ∨
    ∃ failure, (make (Text.lower text) c.state.2).1 = .error failure ∧
      (get make (.str text) c.state).1 = .error failure ∧ (get make (.str text) c.state).2.1 = c.registry

theorem registry_represents {make : String → Action Session Handle} (builds : Builds make) {period : Period}
    (positive : period.Positive) (session : Session) (commands : List Command) :
    Represents make ((Chronicle.opened period session).after make commands) := by
  have kept := (Chronicle.after_sound builds positive session commands).kept
  generalize (Chronicle.opened period session).after make commands = c at kept ⊢
  have names : c.registry.names = c.names.eraseDups := kept.names
  refine ⟨names, kept.distinct, ?_, ?_, ?_, ?_, ?_, ?_⟩
  · rw [← names, Registry.names, List.length_map]
  · intro v
    rw [contains_iff, names]
    simp only [List.mem_eraseDups]
  · intro epoch member
    rcases List.mem_cons.mp member with rfl | earlier
    · exact kept.alike_since
    · exact kept.alike epoch earlier
  · refine kept.newer.imp ?_
    intro late early newer g got g' got'
    exact Nat.ne_of_gt (newer g got g' got')
  · intro v empty
    refine get_unnamed ?_ c.state
    cases named : nameOf v with
    | none => rfl
    | some name =>
      obtain ⟨text, is, full, -⟩ := nameOf_eq_some named
      exact absurd (empty text is) full
  · intro text full
    obtain ⟨result, r, session, ran, fetched⟩ := get_fetched make (.str text) c.registry c.state.2
    have ran : get make (.str text) c.state = (result, (r, session)) := ran
    rw [ran]
    have name := nameOf_str full
    cases fetched with
    | unnamed unnamed => rw [name] at unnamed; cases unnamed
    | cached => exact .inl ⟨_, rfl⟩
    | made => exact .inl ⟨_, rfl⟩
    | failed named missing failed =>
      obtain rfl := Option.some.inj (name.symm.trans named)
      exact .inr ⟨_, congrArg Prod.fst failed, rfl, rfl⟩

def makeUnless (refused : List String) (name : String) : Action Session Handle := fun session =>
  if refused.contains name then (.error (.client "RuntimeError" "factory" []), session)
  else (.ok (Handle.make session.handlesBuilt name (some .given) Handle.ownLogger {} false),
    { session with handlesBuilt := session.handlesBuilt + 1 })

theorem makeUnless_builds (refused : List String) : Builds (makeUnless refused) := by
  constructor
  · intro name session session' h made
    unfold makeUnless at made
    split at made
    · cases made
    · cases made
      exact ⟨le_rfl, Nat.lt_succ_self _⟩
  · intro name session session' result made
    unfold makeUnless at made
    split at made
    · cases made
      exact le_rfl
    · cases made
      exact Nat.le_succ _
  · intro name session session' result made
    unfold makeUnless at made
    split at made <;> cases made <;> rfl

def busy : List Command :=
  [.start, .get (.str "Users"), .get (.str "logs"), .get (.str "broken"), .get (.str "USERS"), .sweep,
    .get (.str "Logs"), .advance 60, .get (.str "users"), .get (.str "logs")]

theorem registry_represents_busy :
    let period := Period.ofValue (.int 60)
    Builds (makeUnless ["broken"]) ∧ period.Positive ∧
      Represents (makeUnless ["broken"]) ((Chronicle.opened period {}).after (makeUnless ["broken"]) busy) := by
  intro period
  have builds := makeUnless_builds ["broken"]
  have positive : period.Positive := by
    change (0 : Rat) < (60 : Int)
    norm_num
  exact ⟨builds, positive, registry_represents builds positive {} busy⟩

example :
    let c := (Chronicle.opened (.ofValue (.int 60)) {}).after (makeUnless ["broken"]) busy
    c.registry.names = ["users", "logs"] ∧
      c.epochs.map (List.map fun g => (g.name, g.handle.id)) =
        [[("users", 3), ("logs", 4)], [("logs", 2)], [("users", 0), ("logs", 1), ("users", 0)]] := by
  decide +kernel

end SearchStore.Registry
