import Mathlib.Data.List.Nodup
import Mathlib.Data.List.Perm.Subperm
import SearchStore.Proofs.Action
namespace SearchStore

def Reply.isRaised : Reply → Bool
  | .raised _ => true
  | _ => false

def Reply.interrupts : Reply → Bool
  | .raised failure => !failure.isOrdinary
  | _ => false

namespace Exchange

def constructs (e : Exchange) : Bool := e.call.method == .construct && !e.reply.isRaised

def closes (e : Exchange) : Bool := e.call.method == .close

def interruptsPing (e : Exchange) : Bool := e.call.method == .ping && e.reply.interrupts

end Exchange

def Method.isLifecycle : Method → Bool
  | .construct | .ping | .close => true
  | _ => false

namespace Session

def clientsIn (kind : Exchange → Bool) (s : Session) : List Client :=
  (s.exchanges.filter kind).map fun e => e.call.client

def constructed : Session → List Client := clientsIn Exchange.constructs

def closed : Session → List Client := clientsIn Exchange.closes

def interrupted : Session → List Client := clientsIn Exchange.interruptsPing

def next (s : Session) : Reply := s.replies.headD .usual

def exchanged (s : Session) (call : Call) : Session :=
  { s with replies := s.replies.tail, exchanges := s.exchanges ++ [⟨call, s.next⟩] }

def logged (s : Session) (record : Record) : Session :=
  if s.threshold ≤ record.level.number then { s with records := s.records ++ [record] } else s

theorem clientsIn_exchanged (kind : Exchange → Bool) (s : Session) (call : Call) :
    (s.exchanged call).clientsIn kind =
      s.clientsIn kind ++ if kind ⟨call, s.next⟩ then [call.client] else [] := by
  by_cases found : kind ⟨call, s.next⟩ <;> simp [clientsIn, exchanged, found]

def counted (s : Session) : Session := { s with clientsBuilt := s.clientsBuilt + 1 }

@[simp] theorem clientsIn_counted (kind : Exchange → Bool) (s : Session) :
    s.counted.clientsIn kind = s.clientsIn kind := rfl

@[simp] theorem next_counted (s : Session) : s.counted.next = s.next := rfl

structure Quiet (before after : Session) : Prop where
  constructed : after.constructed = before.constructed
  closed : after.closed = before.closed
  interrupted : after.interrupted = before.interrupted
  built : after.clientsBuilt = before.clientsBuilt

instance : IsPreorder Session Quiet where
  refl _ := ⟨rfl, rfl, rfl, rfl⟩
  trans _ _ _ first rest :=
    ⟨rest.constructed.trans first.constructed, rest.closed.trans first.closed,
      rest.interrupted.trans first.interrupted, rest.built.trans first.built⟩

theorem quiet_of_exchanges {before after : Session} (same : after.exchanges = before.exchanges)
    (built : after.clientsBuilt = before.clientsBuilt) : Quiet before after := by
  refine ⟨?_, ?_, ?_, built⟩ <;>
    simp only [Session.constructed, Session.closed, Session.interrupted, clientsIn, same]

theorem quiet_logged (s : Session) (record : Record) : Quiet s (s.logged record) := by
  unfold logged
  split
  · exact quiet_of_exchanges rfl rfl
  · exact Std.Refl.refl s

theorem quiet_exchanged (s : Session) {call : Call} (other : call.method.isLifecycle = false) :
    Quiet s (s.exchanged call) := by
  have apart : ∀ method, method.isLifecycle = true → (call.method == method) = false := by
    intro method lifecycle
    refine beq_eq_false_iff_ne.mpr fun same => ?_
    rw [same, lifecycle] at other
    cases other
  refine ⟨?_, ?_, ?_, rfl⟩
  · simp [constructed, clientsIn_exchanged, Exchange.constructs, apart .construct rfl]
  · simp [closed, clientsIn_exchanged, Exchange.closes, apart .close rfl]
  · simp [interrupted, clientsIn_exchanged, Exchange.interruptsPing, apart .ping rfl]

section Ends
variable {s : Session} {failed : Failure → Session → Prop}

@[simp] theorem ends_log {done : Unit → Session → Prop} (record : Record) :
    Action.Ends (log record) s done failed ↔ done () (s.logged record) := Iff.rfl

theorem ends_nextReply {done : Reply → Session → Prop} :
    Action.Ends nextReply s done failed ↔ done s.next { s with replies := s.replies.tail } := by
  unfold Action.Ends nextReply next
  cases s with
  | mk replies => cases replies <;> rfl

theorem ends_perform {done : Value → Session → Prop} (call : Call) :
    Action.Ends (perform call) s done failed ↔ match s.next with
      | .usual => done call.method.usual (s.exchanged call)
      | .returned value => done value (s.exchanged call)
      | .raised failure => failed failure (s.exchanged call) := by
  simp only [perform, Action.ends_bind, ends_nextReply, Action.ends_modify]
  cases reply : s.next <;> simp [exchanged, reply]

theorem ends_build {done : Client → Session → Prop} (arguments : Entries) :
    Action.Ends (build arguments) s done failed ↔
      let client := Client.built (s.clientsBuilt + 1)
      let after := s.counted.exchanged ⟨client, .construct, arguments⟩
      match s.next with
      | .usual | .returned _ => done client after
      | .raised failure => failed failure after := by
  simp only [build, Action.ends_bind, Action.ends_modify, Action.ends_get, ends_perform]
  change (match s.next with | .usual => _ | .returned _ => _ | .raised _ => _) ↔ _
  cases s.next <;> rfl

theorem perform_exchanged {call : Call} {holds : Session → Prop} (after : holds (s.exchanged call)) :
    Action.Ends (perform call) s (fun _ t => holds t) fun _ t => holds t := by
  rw [ends_perform]
  cases s.next <;> exact after

end Ends

theorem log_quiet (record : Record) : Action.Keeps Quiet (log record) := fun s => quiet_logged s record

theorem perform_quiet (call : Call) (other : call.method.isLifecycle = false) :
    Action.Keeps Quiet (perform call) :=
  Action.Ends.keeps fun s => perform_exchanged (quiet_exchanged s other)

theorem call_quiet (client : Option Client) {method : Method} (other : method.isLifecycle = false)
    (arguments : Entries) : Action.Keeps Quiet (call client method arguments) := by
  cases client with
  | none => exact Action.keeps_fail _
  | some client =>
    by_cases named : Entries.hasTextKeys arguments
    · simpa [call, named] using perform_quiet ⟨client, method, arguments⟩ other
    · simpa [call, named] using Action.keeps_fail _

end Session

-- Every client that was built was closed once, is the one that is held, or is among the lost ones.
structure Ledger (s : Session) (held : Option Client) (lost : List Client) : Prop where
  numbered : ∀ client ∈ s.constructed, ∃ n ≤ s.clientsBuilt, client = .built n
  distinct : s.constructed.Nodup
  closedOnce : s.closed.Nodup
  closedBuilt : ∀ client ∈ s.closed, client ∈ s.constructed
  heldBuilt : ∀ client, held = some client → client ∈ s.constructed
  lostBuilt : ∀ client ∈ lost, client ∈ s.constructed
  apart : ∀ client, held = some client → client ∉ lost
  settled : ∀ client ∈ s.constructed, client ∉ s.closed ↔ held = some client ∨ client ∈ lost

namespace Ledger
variable {s t : Session} {held : Option Client} {lost : List Client} {client : Client}

theorem opened (s : Session) : Ledger { s with exchanges := [] } none [] := by
  refine ⟨?_, ?_, ?_, ?_, ?_, ?_, ?_, ?_⟩ <;>
    simp [Session.constructed, Session.closed, Session.clientsIn]

-- Numbers may be skipped: a construction that failed used one up.
theorem same (ledger : Ledger s held lost) (constructed : t.constructed = s.constructed)
    (closed : t.closed = s.closed) (built : s.clientsBuilt ≤ t.clientsBuilt) : Ledger t held lost := by
  obtain ⟨numbered, distinct, closedOnce, closedBuilt, heldBuilt, lostBuilt, apart, settled⟩ := ledger
  rw [← constructed] at numbered distinct closedBuilt heldBuilt lostBuilt settled
  rw [← closed] at closedOnce closedBuilt settled
  refine ⟨?_, distinct, closedOnce, closedBuilt, heldBuilt, lostBuilt, apart, settled⟩
  intro client member
  obtain ⟨n, bound, same⟩ := numbered client member
  exact ⟨n, Nat.le_trans bound built, same⟩

theorem quiet (ledger : Ledger s held lost) (quiet : s.Quiet t) : Ledger t held lost :=
  ledger.same quiet.constructed quiet.closed (Nat.le_of_eq quiet.built.symm)

theorem at_most_one_open (ledger : Ledger s held []) : (s.constructed.filter (· ∉ s.closed)).length ≤ 1 := by
  have among : s.constructed.filter (· ∉ s.closed) ⊆ held.toList := by
    intro client member
    obtain ⟨built, unclosed⟩ := List.mem_filter.mp member
    rcases (ledger.settled client built).mp (of_decide_eq_true unclosed) with mine | lost
    · exact Option.mem_toList.mpr mine
    · cases lost
  have bound : held.toList.length ≤ 1 := by cases held <;> simp
  exact Nat.le_trans (List.Nodup.subperm (ledger.distinct.filter _) among).length_le bound

theorem fresh (ledger : Ledger s held lost) : .built (s.clientsBuilt + 1) ∉ s.constructed := by
  intro member
  obtain ⟨n, bound, same⟩ := ledger.numbered _ member
  cases same
  omega

theorem hold (ledger : Ledger s none lost)
    (constructed : t.constructed = s.constructed ++ [.built (s.clientsBuilt + 1)])
    (closed : t.closed = s.closed) (built : t.clientsBuilt = s.clientsBuilt + 1) :
    Ledger t (some (.built (s.clientsBuilt + 1))) lost := by
  have fresh := ledger.fresh
  refine ⟨?_, ?_, ?_, ?_, ?_, ?_, ?_, ?_⟩
  · intro client member
    rw [constructed] at member
    rcases List.mem_append.mp member with old | new
    · obtain ⟨n, bound, same⟩ := ledger.numbered client old
      exact ⟨n, by omega, same⟩
    · exact ⟨s.clientsBuilt + 1, by omega, List.mem_singleton.mp new⟩
  · rw [constructed, ← List.concat_eq_append]
    exact (List.nodup_concat _ _).mpr ⟨fresh, ledger.distinct⟩
  · rw [closed]
    exact ledger.closedOnce
  · intro client member
    rw [closed] at member
    rw [constructed]
    exact List.mem_append_left _ (ledger.closedBuilt client member)
  · rintro client ⟨⟩
    rw [constructed]
    exact List.mem_append_right _ (List.mem_singleton.mpr rfl)
  · intro client member
    rw [constructed]
    exact List.mem_append_left _ (ledger.lostBuilt client member)
  · rintro client ⟨⟩ member
    exact fresh (ledger.lostBuilt _ member)
  · intro client member
    rw [closed]
    rw [constructed] at member
    rcases List.mem_append.mp member with old | new
    · have distinct : Client.built (s.clientsBuilt + 1) ≠ client := fun equal => fresh (equal ▸ old)
      simpa [distinct] using ledger.settled client old
    · rw [List.mem_singleton.mp new]
      exact ⟨fun _ => .inl rfl, fun _ member => fresh (ledger.closedBuilt _ member)⟩

theorem release (ledger : Ledger s (some client) lost) (constructed : t.constructed = s.constructed)
    (closed : t.closed = s.closed ++ [client]) (built : t.clientsBuilt = s.clientsBuilt) :
    Ledger t none lost := by
  have member := ledger.heldBuilt client rfl
  have unclosed : client ∉ s.closed := (ledger.settled client member).mpr (.inl rfl)
  refine ⟨?_, ?_, ?_, ?_, ?_, ?_, ?_, ?_⟩
  · rw [constructed, built]
    exact ledger.numbered
  · rw [constructed]
    exact ledger.distinct
  · rw [closed, ← List.concat_eq_append]
    exact (List.nodup_concat _ _).mpr ⟨unclosed, ledger.closedOnce⟩
  · intro other present
    rw [closed] at present
    rw [constructed]
    rcases List.mem_append.mp present with old | new
    · exact ledger.closedBuilt other old
    · rwa [List.mem_singleton.mp new]
  · rintro other ⟨⟩
  · rw [constructed]
    exact ledger.lostBuilt
  · rintro other ⟨⟩
  · intro other present
    rw [constructed] at present
    rw [closed]
    have before := ledger.settled other present
    by_cases same : other = client
    · subst same
      simp [ledger.apart other rfl]
    · have flipped : client ≠ other := fun equal => same equal.symm
      simpa [same, flipped] using before

theorem lose (ledger : Ledger s (some client) lost) : Ledger s none (lost ++ [client]) := by
  have member := ledger.heldBuilt client rfl
  refine ⟨ledger.numbered, ledger.distinct, ledger.closedOnce, ledger.closedBuilt, ?_, ?_, ?_, ?_⟩
  · rintro other ⟨⟩
  · intro other present
    rcases List.mem_append.mp present with old | new
    · exact ledger.lostBuilt other old
    · rwa [List.mem_singleton.mp new]
  · rintro other ⟨⟩
  · intro other present
    rw [ledger.settled other present]
    constructor
    · rintro (held | old)
      · cases held
        exact .inr (List.mem_append_right _ (List.mem_singleton.mpr rfl))
      · exact .inr (List.mem_append_left _ old)
    · rintro (⟨⟨⟩⟩ | present)
      rcases List.mem_append.mp present with old | new
      · exact .inr old
      · exact .inl (congrArg some (List.mem_singleton.mp new).symm)

theorem build_ends (ledger : Ledger s none lost) (arguments : Entries) :
    Action.Ends (Session.build arguments) s
      (fun client t => Ledger t (some client) lost ∧ t.interrupted = s.interrupted)
      fun _ t => Ledger t none lost ∧ t.interrupted = s.interrupted := by
  rw [Session.ends_build]
  dsimp only
  generalize made : Call.mk (.built (s.clientsBuilt + 1)) .construct arguments = call
  have closed : (s.counted.exchanged call).closed = s.closed := by
    simp [Session.closed, Session.clientsIn_exchanged, Exchange.closes, ← made]
  have interrupted : (s.counted.exchanged call).interrupted = s.interrupted := by
    simp [Session.interrupted, Session.clientsIn_exchanged, Exchange.interruptsPing, ← made]
  have constructed : (s.counted.exchanged call).constructed = s.constructed ++
      if s.next.isRaised then [] else [.built (s.clientsBuilt + 1)] := by
    cases raised : s.next.isRaised <;>
      simp [Session.constructed, Session.clientsIn_exchanged, Exchange.constructs, ← made, raised]
  cases reply : s.next with
  | usual | returned value =>
    exact ⟨ledger.hold (by simpa [reply, Reply.isRaised] using constructed) closed rfl, interrupted⟩
  | raised failure =>
    exact ⟨ledger.same (by simpa [reply, Reply.isRaised] using constructed) closed (Nat.le_succ _), interrupted⟩

theorem ping_ends (ledger : Ledger s held lost) (client : Option Client) (arguments : Entries) :
    Action.Ends (Session.call client .ping arguments) s
      (fun _ t => Ledger t held lost ∧ t.interrupted = s.interrupted)
      fun failure t => Ledger t held lost ∧
        t.interrupted = s.interrupted ++ if failure.isOrdinary then [] else client.toList := by
  cases client with
  | none => exact ⟨ledger, by simp [Failure.isOrdinary]⟩
  | some client =>
    by_cases named : Entries.hasTextKeys arguments
    · simp only [Session.call, named, if_true, Session.ends_perform]
      generalize made : Call.mk client .ping arguments = call
      have after : Ledger (s.exchanged call) held lost := by
        refine ledger.same ?_ ?_ (Nat.le_refl _)
        · simp [Session.constructed, Session.clientsIn_exchanged, Exchange.constructs, ← made]
        · simp [Session.closed, Session.clientsIn_exchanged, Exchange.closes, ← made]
      have interrupted : (s.exchanged call).interrupted =
          s.interrupted ++ if s.next.interrupts then [client] else [] := by
        cases cancelled : s.next.interrupts <;>
          simp [Session.interrupted, Session.clientsIn_exchanged, Exchange.interruptsPing, ← made, cancelled]
      cases reply : s.next with
      | usual | returned value => exact ⟨after, by simpa [reply, Reply.interrupts] using interrupted⟩
      | raised failure =>
        refine ⟨after, interrupted.trans ?_⟩
        cases ordinary : failure.isOrdinary <;> simp [reply, Reply.interrupts, ordinary]
    · simp [Session.call, named, Failure.isOrdinary, ledger]

-- The client counts as closed whatever the engine says to it.
theorem close_ends (ledger : Ledger s (some client) lost) :
    Action.Ends (Session.call (some client) .close []) s
      (fun _ t => Ledger t none lost ∧ t.interrupted = s.interrupted)
      fun _ t => Ledger t none lost ∧ t.interrupted = s.interrupted := by
  have named : Entries.hasTextKeys [] = true := rfl
  simp only [Session.call, named, if_true]
  refine Session.perform_exchanged ⟨ledger.release ?_ ?_ rfl, ?_⟩
  · simp [Session.constructed, Session.clientsIn_exchanged, Exchange.constructs]
  · simp [Session.closed, Session.clientsIn_exchanged, Exchange.closes]
  · simp [Session.interrupted, Session.clientsIn_exchanged, Exchange.interruptsPing]

end Ledger
end SearchStore

namespace SearchStore
variable {κ σ α : Type}

structure Turn (κ : Type) where
  command : κ
  replies : List Reply

def Session.expecting (replies : List Reply) (s : Session) : Session := { s with replies := replies }

theorem Session.quiet_expecting (replies : List Reply) (s : Session) : s.Quiet (s.expecting replies) :=
  Session.quiet_of_exchanges rfl rfl

namespace Turn

def play (serve : κ → Action (σ × Session) α) (turn : Turn κ) (s : σ × Session) :
    Except Failure α × (σ × Session) :=
  serve turn.command (s.1, s.2.expecting turn.replies)

-- The state at the end of a history. Its other boundaries are the ends of shorter ones.
def after (serve : κ → Action (σ × Session) α) (turns : List (Turn κ)) (s : σ × Session) : σ × Session :=
  turns.foldl (fun s turn => (turn.play serve s).2) s

theorem after_append (serve : κ → Action (σ × Session) α) (made rest : List (Turn κ)) (s : σ × Session) :
    after serve (made ++ rest) s = after serve rest (after serve made s) := List.foldl_append

theorem after_concat (serve : κ → Action (σ × Session) α) (turns : List (Turn κ)) (turn : Turn κ)
    (s : σ × Session) : after serve (turns ++ [turn]) s = (turn.play serve (after serve turns s)).2 :=
  after_append serve turns [turn] s

theorem after_holds {serve : κ → Action (σ × Session) α} {holds : σ × Session → Prop}
    (step : ∀ (turn : Turn κ) s, holds s → holds (turn.play serve s).2) (turns : List (Turn κ))
    {s : σ × Session} (start : holds s) : holds (after serve turns s) := by
  induction turns generalizing s with
  | nil => exact start
  | cons turn rest ih => exact ih (step turn s start)

end Turn
end SearchStore
