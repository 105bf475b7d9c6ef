import SearchStore.Proofs.Store.Handles
import SearchStore.Proofs.Store.Lifecycle
namespace SearchStore
open SearchStore.Action Session

namespace Handle

def effects (h : Handle) (op : Operation) (positional : List Value) (named : Entries) (session : Session) :
    Except Failure Answer × List Exchange × List Record :=
  let ran := h.invoke op positional named session
  (ran.1, ran.2.exchanges, ran.2.records)

section Effects
variable {h h' : Handle}

theorem effects_of_same (name : h.name = h'.name) (client : h.client = h'.client)
    (made : h.debug = h'.debug ∧ h.docTypes = h'.docTypes ∧ h.logger = h'.logger) : h.effects = h'.effects := by
  obtain ⟨id, _, _, _, _, _⟩ := h
  obtain ⟨id', _, _, _, _, _⟩ := h'
  obtain ⟨debug, docTypes, logger⟩ := made
  dsimp only at name client debug docTypes logger
  subst name client debug docTypes logger
  rfl

-- As long as debug records are kept, all records are.
theorem effects_heard {level : Nat} (all : level ≤ Level.debug.number) (op : Operation) (positional : List Value)
    (named : Entries) (replies : List Reply) :
    h.effects op positional named { replies := replies, threshold := level } =
      h.effects op positional named { replies := replies } := by
  have every : ∀ records : List Record, records.filter (fun record => level ≤ record.level.number) = records := by
    intro records
    refine List.filter_eq_self.mpr fun record _ => decide_eq_true (le_trans all ?_)
    cases record.level <;> decide
  unfold effects
  rw [(invoke_script h op positional named).filtered replies level]
  dsimp only [heard]
  rw [every]

-- Operations from whose records and requests can be read off what a handle was made with.
theorem logger_told : (h.effects .find [.null] [] {}).2.2.map Record.logger = [h.logger] := rfl

theorem docTypes_told {client : Client} (bound : h.client = some client) :
    (h.effects .create [.str ""] [] {}).2.1.map (fun e => Entries.has e.call.arguments "doc_type") =
      [h.docTypes] := by
  obtain ⟨id, name, _, logger, ⟨create, read, update, delete⟩, docTypes⟩ := h
  subst bound
  cases create <;> cases docTypes <;> rfl

def traces (h : Handle) (op : Operation) (positional : List Value) : Bool :=
  !(h.effects op positional [] {}).2.2.isEmpty

theorem debug_told {client : Client} (bound : h.client = some client) : h.debug =
    ⟨h.traces .create [.str ""], h.traces .findRaw [.str "", .null], h.traces .update [.str "", .str ""],
      h.traces .destroy [.str "", .str ""]⟩ := by
  obtain ⟨id, name, _, logger, ⟨create, read, update, delete⟩, docTypes⟩ := h
  subst bound
  refine DebugSwitches.mk.injEq .. |>.mpr ⟨?_, ?_, ?_, ?_⟩
  · cases create <;> cases docTypes <;> rfl
  · cases read <;> cases docTypes <;> rfl
  · cases update <;> cases docTypes <;> rfl
  · cases delete <;> cases docTypes <;> rfl

theorem same_of_effects {client : Client} (bound : h.client = some client) (bound' : h'.client = some client)
    (same : ∀ op positional named, h.effects op positional named {} = h'.effects op positional named {}) :
    h.debug = h'.debug ∧ h.docTypes = h'.docTypes ∧ h.logger = h'.logger := by
  have docTypes := docTypes_told bound
  have logger := logger_told (h := h)
  rw [same, docTypes_told bound'] at docTypes
  rw [same, logger_told] at logger
  refine ⟨?_, (List.singleton_inj.mp docTypes).symm, (List.singleton_inj.mp logger).symm⟩
  rw [debug_told bound, debug_told bound']
  simp only [traces, same]

end Effects
end Handle

namespace Store

def effects (turn : Turn Command) (s : Store × Session) : Except Failure Outcome × List Exchange × List Record :=
  let played := turn.play perform s
  (played.1, played.2.2.exchanges.drop s.2.exchanges.length, played.2.2.records.drop s.2.records.length)

-- Whether the handles were swept just before makes no difference to any operation.
def Unnoticed (name : String) (s : Store × Session) : Prop :=
  ∀ op positional named replies,
    effects ⟨.onIndex (.str name) op positional named, replies⟩ (sweep s).2 =
      effects ⟨.onIndex (.str name) op positional named, replies⟩ s

def newHandle (name : String) (s : Store × Session) : Handle :=
  Handle.make s.2.handlesBuilt (Text.lower name) s.1.clientInUse s.1.logger s.1.settings.debug
    s.1.settings.docTypes

def handleFor (name : String) (s : Store × Session) : Handle :=
  (s.1.registry.bind fun r => r.handle? (Text.lower name)).getD (newHandle name s)

section Asked
variable {s : Store × Session} {r : Registry} {name : String} (found : s.1.registry = some r) (full : name ≠ "")
include found full

theorem getIndex_handleFor : ∃ t, getIndex (.str name) s = (.ok (some (handleFor name s)), t) ∧
    t.2.unwritten = s.2.unwritten ∧ t.2.exchanges = s.2.exchanges ∧ t.2.records = s.2.records := by
  rw [getIndex_found found]
  have named := Registry.nameOf_str full
  unfold handleFor
  rw [found, Option.bind_some]
  cases cached : r.handle? (Text.lower name) with
  | some h =>
    refine ⟨(putRegistry r s.1, s.2), ?_, rfl, rfl, rfl⟩
    unfold onPart
    rw [Registry.get_cached named cached]
    rfl
  | none =>
    have made : s.1.makeHandle (Text.lower name) s.2 =
        (.ok (newHandle name s), { s.2 with handlesBuilt := s.2.handlesBuilt + 1 }) := rfl
    refine ⟨(putRegistry { r with cached := r.cached ++ [(Text.lower name, newHandle name s)] } s.1,
      { s.2 with handlesBuilt := s.2.handlesBuilt + 1 }), ?_, rfl, rfl, rfl⟩
    unfold onPart
    rw [Registry.get_made named cached made]
    rfl

theorem effects_onIndex (op : Operation) (positional : List Value) (named : Entries) (replies : List Reply) :
    effects ⟨.onIndex (.str name) op positional named, replies⟩ s =
      let shown := (handleFor name s).effects op positional named { replies := replies, threshold := s.2.threshold }
      (shown.1.map .answer, shown.2) := by
  obtain ⟨t, ran, unwritten, exchanges, records⟩ := getIndex_handleFor
    (s := (s.1, s.2.expecting replies)) found full
  generalize handle : handleFor name s = h
  have same : handleFor name (s.1, s.2.expecting replies) = h := handle
  have told := (Handle.invoke_script h op positional named).told t.2
  rw [same] at ran
  rw [unwritten] at told
  have invoked : invoke (.str name) op positional named (s.1, s.2.expecting replies) =
      onSecond (h.invoke op positional named) t := bind_ok ran
  rw [onSecond_run (s := t.1) told] at invoked
  have played : Turn.play perform ⟨.onIndex (.str name) op positional named, replies⟩ s = _ :=
    bind_pure_run (invoke (.str name) op positional named) Outcome.answer (s.1, s.2.expecting replies)
  rw [invoked] at played
  have exchanges : t.2.exchanges = s.2.exchanges := exchanges
  have records : t.2.records = s.2.records := records
  unfold effects
  rw [played]
  dsimp only [Session.after]
  rw [exchanges, records, List.drop_left, List.drop_left]
  rfl

end Asked

theorem sweep_found {s : Store × Session} {r : Registry} (found : s.1.registry = some r) (name : String) :
    (sweep s).2.1.registry = some { r with cached := [] } ∧ (sweep s).2.2.threshold = s.2.threshold ∧
      handleFor name (sweep s).2 = newHandle name s := by
  obtain ⟨records, same⟩ := Registry.swept_session (r, s.2)
  have ran : onPart r putRegistry Registry.sweep s =
      (.ok (), (putRegistry { r with cached := [] } s.1, { s.2 with records := records })) := by
    unfold onPart
    rw [Registry.sweep_eq, ← same]
    rfl
  have swept : sweep s = onPart r putRegistry Registry.sweep s := by
    unfold sweep
    rw [bind_ok (rfl : get s = (.ok s.1, s)), found]
  rw [swept, ran]
  exact ⟨rfl, rfl, rfl⟩

theorem answer_inj {a b : Except Failure Answer} (same : a.map Outcome.answer = b.map Outcome.answer) : a = b := by
  cases a with
  | error failure =>
    cases b with
    | error failure' =>
      cases same
      rfl
    | ok b => cases same
  | ok a =>
    cases b with
    | error failure => cases same
    | ok b =>
      cases same
      rfl

theorem unnoticed_iff {s : Store × Session} {r : Registry} {name : String} (found : s.1.registry = some r)
    (full : name ≠ "") : Unnoticed name s ↔ ∀ op positional named replies,
      (newHandle name s).effects op positional named { replies := replies, threshold := s.2.threshold } =
        (handleFor name s).effects op positional named { replies := replies, threshold := s.2.threshold } := by
  obtain ⟨emptied, threshold, fresh⟩ := sweep_found found name
  unfold Unnoticed
  refine forall_congr' fun op => forall_congr' fun positional => forall_congr' fun named =>
    forall_congr' fun replies => ?_
  rw [effects_onIndex found full, effects_onIndex emptied full, fresh, threshold]
  constructor
  · intro same
    obtain ⟨answered, rest⟩ := Prod.mk.inj same
    exact Prod.ext (answer_inj answered) rest
  · intro same
    dsimp only
    rw [same]

theorem handleFor_client {s : Store × Session} {r : Registry} {client : Option Client}
    (found : s.1.registry = some r) (bound : r.BoundTo client) (inUse : s.1.clientInUse = client) (name : String) :
    (handleFor name s).client = client := by
  unfold handleFor
  rw [found, Option.bind_some]
  cases cached : r.handle? (Text.lower name) with
  | some h => exact bound _ (Registry.handle?_mem cached)
  | none => exact inUse

-- What is known of the handle that a running store has for a name, made after some part of a history.
structure Dated (start : Store × Session) (turns made : List (Turn Command)) (name : String) (h : Handle) :
    Prop where
  got : ∃ t, getIndex (.str name) (Turn.after perform turns start) = (.ok (some h), t)
  madeAfter : MadeAfter start turns made h
  carried : (Turn.after perform made start).1.Carries h
  -- It is up to date unless the store was set up anew since then.
  untouched : (∀ turn ∈ turns.drop made.length, turn.command.configures = false) →
    (Turn.after perform turns start).1.Carries h
  unnoticed : (Turn.after perform turns start).1.Carries h → Unnoticed name (Turn.after perform turns start)
  noticed : (Turn.after perform turns start).2.threshold ≤ Level.debug.number →
    Unnoticed name (Turn.after perform turns start) → (Turn.after perform turns start).1.Carries h

section History
variable {start : Store × Session} {turns made : List (Turn Command)}

theorem handleFor_made (none : start.1.handles = []) {r : Registry}
    (found : (Turn.after perform turns start).1.registry = some r) (name : String) :
    let h := handleFor name (Turn.after perform turns start)
    h.name = Text.lower (Text.lower name) ∧ ∃ made, MadeAfter start turns made h ∧
      (Turn.after perform made start).1.Carries h := by
  intro h
  have handle : h = handleFor name (Turn.after perform turns start) := rfl
  unfold handleFor at handle
  rw [found, Option.bind_some] at handle
  cases cached : r.handle? (Text.lower name) with
  | some old =>
    rw [cached, Option.getD_some] at handle
    have listed : (Text.lower name, h) ∈ (Turn.after perform turns start).1.handles := by
      rw [handles, found, handle]
      exact Registry.handle?_mem cached
    obtain ⟨made, next, within, origin⟩ := handles_made none turns listed
    refine ⟨origin.named, made, ⟨(List.prefix_append made [next]).trans within, origin.fresh, ?_⟩, origin.carries⟩
    intro turn further
    have same : made ++ [turn] <+: made ++ [next] :=
      List.prefix_of_prefix_length_le further within (by simp)
    rw [same.eq_of_length (by simp)]
    exact origin.counted
  | none =>
    rw [cached, Option.getD_none] at handle
    rw [handle]
    refine ⟨rfl, turns, ⟨List.prefix_rfl, le_rfl, ?_⟩, ⟨rfl, rfl, rfl⟩⟩
    intro turn further
    have longer := further.length_le
    simp at longer

end History

-- Dropping the handles of a store goes unnoticed as long as the store is set to what it was set to when the
-- handle that is at hand was made, and no longer.
theorem handle_dated (settings : StoreSettings) (given : Option Client) (session : Session)
    (turns : List (Turn Command)) {name : String} (full : name ≠ "")
    (up : (Turn.after perform turns (make settings given, session)).1.Up) :
    ∃ made h, Dated (make settings given, session) turns made name h := by
  obtain ⟨-, client, r, raw, found, -, bound⟩ := up
  obtain ⟨named, made, madeAfter, carried⟩ := @handleFor_made (make settings given, session) turns rfl r found name
  have inUse := clientInUse_of_rawClient raw
  have client := handleFor_client found bound inUse name
  obtain ⟨t, got, -⟩ := getIndex_handleFor found full
  have seen := unnoticed_iff found full
  generalize handleFor name _ = h at named madeAfter carried client got seen
  refine ⟨made, h, ⟨t, got⟩, madeAfter, carried, ?_, ?_, ?_⟩
  · intro set
    obtain ⟨rest, rfl⟩ := madeAfter.within
    rw [List.drop_left] at set
    rw [Turn.after_append]
    exact (after_steady set _).carries.mpr carried
  · rintro ⟨debug, docTypes, logger⟩
    rw [seen]
    intro op positional named' replies
    have same : h.effects = Handle.effects (newHandle name _) :=
      Handle.effects_of_same named (client.trans inUse.symm) ⟨debug, docTypes, logger⟩
    rw [same]
  · intro all unnoticed
    rw [seen] at unnoticed
    have same : ∀ op positional named, h.effects op positional named {} =
        (newHandle name (Turn.after perform turns (make settings given, session))).effects op positional named
          {} := by
      intro op positional named'
      have quiet := unnoticed op positional named' []
      rw [Handle.effects_heard all, Handle.effects_heard all] at quiet
      exact quiet.symm
    exact Handle.same_of_effects client inUse same

def retyped : List (Turn Command) :=
  [⟨.run, []⟩, ⟨.getIndex (.str "Users"), []⟩, ⟨.init (.value (.record [("doc_types", .bool true)])), []⟩]

def withoutNodes : StoreSettings := { clients := [] }

theorem retyped_up : (Turn.after perform retyped (make withoutNodes (some .given), {})).1.Up := by
  have start : (make withoutNodes (some .given)).Up ∨ (make withoutNodes (some .given)).Down := .inr ⟨rfl, rfl⟩
  have settled := Turn.after_holds (s := (make withoutNodes (some .given), {})) play_settled retyped start
  refine settled.resolve_right fun down => ?_
  have unlisted := down.registry
  have listed : (Turn.after perform retyped (make withoutNodes (some .given), {})).1.registry.isSome = true := by
    decide +kernel
  rw [unlisted] at listed
  cases listed

theorem handle_dated_retyped :
    let s := Turn.after perform retyped (make withoutNodes (some .given), {})
    "Users" ≠ "" ∧ s.1.Up ∧ ∃ made h, Dated (make withoutNodes (some .given), {}) retyped made "Users" h := by
  intro s
  have full : "Users" ≠ "" := by decide
  exact ⟨full, retyped_up, handle_dated withoutNodes (some .given) {} retyped full retyped_up⟩

theorem eviction_noticed :
    let s := Turn.after perform retyped (make withoutNodes (some .given), {})
    s.1.Up ∧ s.1.settings.docTypes = true ∧ ¬Unnoticed "Users" s := by
  intro s
  refine ⟨retyped_up, by decide +kernel, ?_⟩
  intro unnoticed
  have same := unnoticed .count [.str "user"] [] []
  have typed := congrArg (fun shown => shown.2.1.map fun e => Entries.has e.call.arguments "doc_type") same
  revert typed
  decide +kernel

end Store
end SearchStore
