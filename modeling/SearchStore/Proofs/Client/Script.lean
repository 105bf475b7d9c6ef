import SearchStore.Proofs.Client.Ledger
namespace SearchStore
open SearchStore.Action

def Reply.result (method : Method) : Reply → Except Failure Value
  | .usual => .ok method.usual
  | .returned value => .ok value
  | .raised failure => .error failure

namespace Session

def unwritten (s : Session) : Session := { replies := s.replies, threshold := s.threshold }

-- A session once all that happened in another one has happened in it as well.
def after (s t : Session) : Session :=
  { s with replies := t.replies, exchanges := s.exchanges ++ t.exchanges, records := s.records ++ t.records }

-- The action does in any session what it does in an unwritten one.
def Told {α : Type} (x : Action Session α) : Prop :=
  ∀ s, x s = ((x s.unwritten).1, s.after (x s.unwritten).2)

section Told
variable {α β : Type}

theorem after_after (s t u : Session) : (s.after t).after u = s.after (t.after u) := by
  simp [after]

theorem told_lift (result : Except Failure α) : Told (lift result) := fun s => by
  simp [lift, after, unwritten]

theorem told_log (record : Record) : Told (log record) := by
  intro s
  change (Except.ok (), s.logged record) = (.ok (), s.after (s.unwritten.logged record))
  by_cases kept : s.threshold ≤ record.level.number <;> simp [logged, unwritten, after, kept]

theorem perform_eq (call : Call) (s : Session) :
    perform call s = (s.next.result call.method, s.exchanged call) := by
  obtain ⟨replies⟩ := s
  cases replies with
  | nil => rfl
  | cons reply rest => cases reply <;> rfl

theorem told_perform (call : Call) : Told (perform call) := by
  intro s
  simp [perform_eq, exchanged, next, unwritten, after]

theorem told_call (client : Option Client) (method : Method) (arguments : Entries) :
    Told (call client method arguments) := by
  cases client with
  | none => exact told_lift _
  | some client =>
    unfold call
    dsimp only
    split
    · exact told_perform _
    · exact told_lift _

theorem Told.unwritten_eq {x : Action Session α} (told : Told x) {s t : Session} {result : Except Failure α}
    (run : x s.unwritten = (result, t)) : (s.after t).unwritten = t.unwritten := by
  have wrote : (x s.unwritten).2 = s.unwritten.after (x s.unwritten).2 := congrArg Prod.snd (told s.unwritten)
  rw [run] at wrote
  change t = s.unwritten.after t at wrote
  rw [wrote]
  rfl

theorem told_bind {x : Action Session β} {f : β → Action Session α} (first : Told x) (rest : ∀ b, Told (f b)) :
    Told (x >>= f) := by
  intro s
  change Action.bind x f s = ((Action.bind x f s.unwritten).1, s.after (Action.bind x f s.unwritten).2)
  unfold Action.bind
  rw [first s]
  rcases run : x s.unwritten with ⟨failure | b, t⟩
  · rfl
  · change f b (s.after t) = ((f b t).1, s.after (f b t).2)
    rw [rest b (s.after t), rest b t, first.unwritten_eq run, after_after]

theorem told_rescue {x : Action Session α} {handler : Failure → Action Session α} (first : Told x)
    (rest : ∀ failure, Told (handler failure)) : Told (rescue x handler) := by
  intro s
  unfold rescue
  rw [first s]
  rcases run : x s.unwritten with ⟨failure | a, t⟩
  · by_cases ordinary : failure.isOrdinary
    · simp only [ordinary, if_true]
      rw [rest failure (s.after t), rest failure t, first.unwritten_eq run, after_after]
    · simp [ordinary]
  · rfl

end Told

def heard (level : Nat) (s : Session) : Session :=
  { s with threshold := level, records := s.records.filter fun record => level ≤ record.level.number }

-- The action does the same at every threshold; only the records that are kept differ.
def Filtered {α : Type} (x : Action Session α) : Prop := ∀ replies level,
  x { replies := replies, threshold := level } =
    ((x { replies := replies }).1, (x { replies := replies }).2.heard level)

section Filtered
variable {α β : Type} {level : Nat}

theorem heard_after (s t : Session) : (s.heard level).after (t.heard level) = (s.after t).heard level := by
  simp [heard, after]

theorem filtered_lift (result : Except Failure α) : Filtered (lift result) := fun _ _ => rfl

theorem filtered_log (record : Record) : Filtered (log record) := by
  intro replies level
  change (Except.ok (), logged _ _) = (.ok (), (logged _ _).heard level)
  by_cases kept : level ≤ record.level.number <;> simp [logged, heard, kept]

theorem filtered_perform (call : Call) : Filtered (perform call) := by
  intro replies level
  simp [perform_eq, exchanged, next, heard]

theorem filtered_call (client : Option Client) (method : Method) (arguments : Entries) :
    Filtered (call client method arguments) := by
  cases client with
  | none => exact filtered_lift _
  | some client =>
    unfold call
    dsimp only
    split
    · exact filtered_perform _
    · exact filtered_lift _

theorem Filtered.follow {x : Action Session β} {f : Action Session α} {replies : List Reply} {t : Session}
    {result : Except Failure β} (told : Told x) (next : Told f) (filtered : Filtered f)
    (run : x { replies := replies } = (result, t)) : f (t.heard level) = ((f t).1, (f t).2.heard level) := by
  have loud : t.threshold = 0 := by
    have wrote := congrArg (Session.threshold ∘ Prod.snd) (told { replies := replies })
    rw [run] at wrote
    exact wrote
  have silent : t.unwritten = { replies := t.replies } := by rw [unwritten, loud]
  have same : (t.heard level).unwritten = { replies := t.replies, threshold := level } := rfl
  rw [next t, next (t.heard level), same, silent, filtered, heard_after]

theorem filtered_bind {x : Action Session β} {f : β → Action Session α} (first : Told x) (rest : ∀ b, Told (f b))
    (filtered : Filtered x) (after : ∀ b, Filtered (f b)) : Filtered (x >>= f) := by
  intro replies level
  change Action.bind x f _ = ((Action.bind x f _).1, (Action.bind x f _).2.heard level)
  unfold Action.bind
  rw [filtered replies level]
  rcases run : x { replies := replies } with ⟨failure | b, t⟩
  · rfl
  · exact (after b).follow first (rest b) run

theorem filtered_rescue {x : Action Session α} {handler : Failure → Action Session α} (first : Told x)
    (rest : ∀ failure, Told (handler failure)) (filtered : Filtered x)
    (after : ∀ failure, Filtered (handler failure)) : Filtered (rescue x handler) := by
  intro replies level
  unfold rescue
  rw [filtered replies level]
  rcases run : x { replies := replies } with ⟨failure | a, t⟩
  · by_cases ordinary : failure.isOrdinary
    · simp only [ordinary, if_true]
      exact (after failure).follow first (rest failure) run
    · simp [ordinary]
  · rfl

end Filtered

inductive Script : {α : Type} → Action Session α → Prop
  | lift {α : Type} (result : Except Failure α) : Script (lift result)
  | bind {α β : Type} {x : Action Session β} {f : β → Action Session α} :
      Script x → (∀ b, Script (f b)) → Script (x >>= f)
  | rescue {α : Type} {x : Action Session α} {handler : Failure → Action Session α} :
      Script x → (∀ failure, Script (handler failure)) → Script (rescue x handler)
  | log (record : Record) : Script (log record)
  | call (client : Option Client) {method : Method} (other : method.isLifecycle = false)
      (arguments : Entries) : Script (call client method arguments)

namespace Script
variable {α : Type} {x : Action Session α}

theorem pure (a : α) : Script (pure a : Action Session α) := .lift (.ok a)

theorem fail (failure : Failure) : Script (fail failure : Action Session α) := .lift (.error failure)

theorem logAll (records : List Record) : Script (Session.logAll records) := by
  induction records with
  | nil => exact pure _
  | cons record rest ih => exact (log record).bind fun _ => ih

theorem told (script : Script x) : Told x := by
  induction script with
  | lift result => exact told_lift result
  | bind _ _ first rest => exact told_bind first rest
  | rescue _ _ first rest => exact told_rescue first rest
  | log record => exact told_log record
  | call client other arguments => exact told_call client _ arguments

theorem filtered (script : Script x) : Filtered x := by
  induction script with
  | lift result => exact filtered_lift result
  | bind first rest ih after => exact filtered_bind first.told (fun b => (rest b).told) ih after
  | rescue first rest ih after => exact filtered_rescue first.told (fun failure => (rest failure).told) ih after
  | log record => exact filtered_log record
  | call client other arguments => exact filtered_call client _ arguments

theorem quiet (script : Script x) : Keeps Quiet x := by
  induction script with
  | lift result => exact keeps_lift result
  | bind _ _ first rest => exact first.bind rest
  | rescue _ _ first rest => exact first.rescue rest
  | log record => exact log_quiet record
  | call client other arguments => exact call_quiet client other arguments

end Script
end Session
end SearchStore
