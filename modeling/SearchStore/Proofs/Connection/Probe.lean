import SearchStore.Proofs.Client.Records
import SearchStore.Proofs.Connection.Ownership
namespace SearchStore
open SearchStore.Action Session

theorem Session.ends_call {client : Client} {method : Method} {arguments : Entries} {s : Session}
    {done : Value → Session → Prop} {failed : Failure → Session → Prop}
    (named : Entries.hasTextKeys arguments = true) : Ends (call (some client) method arguments) s done failed ↔
      match s.next.result method with
      | .ok v => done v (s.exchanged ⟨client, method, arguments⟩)
      | .error failure => failed failure (s.exchanged ⟨client, method, arguments⟩) := by
  unfold Ends
  rw [call_run client method named]
  cases s.next.result method <;> rfl

theorem Session.next_logged (s : Session) (record : Record) : (s.logged record).next = s.next := by
  unfold logged
  split <;> rfl

namespace Connection
variable {c : Connection} {client : Client} {session : Session} {cause : Option Failure}

def unreachable (cause : Option Failure) : Failure :=
  .reported .connectivity "Could not connect to client" .null .null cause []

-- What a connection that gives up ends with. A client of its own is closed first, and a failure to do so is
-- the one that gets out.
def surrender (own : Bool) (closing : Reply) (cause : Option Failure) : Failure :=
  match own, closing with
  | true, .raised broken => broken
  | _, _ => unreachable cause

theorem surrender_unreachable {own : Bool} {closing : Reply} : surrender own closing cause = unreachable cause ↔
    own = false ∨ ∀ broken, closing = .raised broken → broken = unreachable cause := by
  cases own <;> cases closing <;> simp [surrender]

theorem held_of_unowned (unowned : c.owned = false) : c.held = none := by simp [held, unowned]

theorem lost_surrenders {α : Type} (c' : Connection) (cause : Option Failure) :
    Ends (c'.lost cause : Action (Connection × Session) α) (c, session) (fun _ _ => False)
      fun failure t => failure = surrender c.held.isSome session.next cause ∧ t.1 = c.released := by
  simp only [lost, ends_bind, ends_onSecond, warn, ends_log, ends_close, ends_fail]
  cases c.held with
  | none => exact ⟨rfl, trivial⟩
  | some client =>
    dsimp only
    rw [ends_call rfl, next_logged]
    cases session.next <;> exact ⟨rfl, trivial⟩

theorem lost_unreachable {α : Type} (unowned : c.owned = false) (c' : Connection) (cause : Option Failure) :
    Ends (c'.lost cause : Action (Connection × Session) α) (c, session) (fun _ _ => False)
      fun failure _ => failure = unreachable cause := by
  refine (lost_surrenders c' cause).mono (fun _ _ => False.elim) ?_
  rintro _ _ ⟨rfl, -⟩
  rw [held_of_unowned unowned]
  rfl

theorem start_lent {expected : Failure → Prop} (lent : c.client = some client) (unowned : c.owned = false)
    (unreached : ∀ cause, expected (unreachable cause))
    (passed : ∀ failure, session.next = .raised failure → failure.isOrdinary = false → expected failure) :
    Ends start (c, session) (fun _ t => t.1.owned = false) fun failure _ => expected failure := by
  have given_up {α : Type} {done : α → Connection × Session → Prop} (cause : Option Failure) (t : Session) :
      Ends (c.lost cause) (c, t) done fun failure _ => expected failure :=
    (lost_unreachable unowned c cause).mono (fun _ _ => False.elim) fun _ _ same => same ▸ unreached cause
  simp only [start, ends_bind, ends_ensureClient, lent, ends_rescue, ping, ends_onSecond]
  rw [ends_call rfl]
  cases answered : session.next.result .ping with
  | ok alive =>
    dsimp only
    split
    · exact unowned
    · exact given_up none _
  | error failure =>
    have raised : session.next = .raised failure := by
      cases reply : session.next <;> simp_all [Reply.result]
    dsimp only
    split
    · exact given_up (some failure) _
    · rename_i interrupted
      exact passed failure raised (Bool.eq_false_iff.mpr interrupted)

inductive Denied : Reply → Option Failure → Prop
  | raised {failure : Failure} (ordinary : failure.isOrdinary = true) : Denied (.raised failure) (some failure)
  | falsy {answer : Value} (falsy : answer.truthy = false) : Denied (.returned answer) none

theorem start_denied (present : c.client = some client) (denied : Denied session.next cause) :
    Ends start (c, session) (fun _ _ => False) fun failure t =>
      failure = surrender c.held.isSome (session.replies.tail.headD .usual) cause ∧ t.1 = c.released := by
  simp only [start, ends_bind, ends_ensureClient, present, ends_rescue, ping, ends_onSecond]
  rw [ends_call rfl]
  generalize session.next = reply at denied ⊢
  cases denied with
  | raised ordinary =>
    simp only [Reply.result, ordinary, if_true]
    exact (lost_surrenders c _).mono (fun _ _ => False.elim) fun _ _ ended => ended
  | falsy falsy =>
    simp only [Reply.result, falsy]
    exact lost_surrenders c none

def equipped (c : Connection) (client : Client) : Connection := { c with client := some client, owned := true }

theorem start_builds {done : Unit → Connection × Session → Prop} {failed : Failure → Connection × Session → Prop}
    (absent : c.client = none) (installed : session.libraryInstalled = true) (made : session.next.isRaised = false) :
    Ends start (c, session) done failed ↔ Ends start (c.equipped (.built (session.clientsBuilt + 1)),
      session.counted.exchanged ⟨.built (session.clientsBuilt + 1), .construct, c.clientArguments⟩) done failed := by
  simp only [start, ends_bind, ends_ensureClient, absent, equipped, buildClient, ends_get, installed, if_true, ends_build]
  cases reply : session.next with
  | usual | returned value => rfl
  | raised failure =>
    rw [reply] at made
    cases made

-- The replies that are used up before a connection has a client to ping.
inductive Opening (c : Connection) (session : Session) : List Reply → Prop
  | present {client : Client} (present : c.client = some client) : Opening c session []
  | built {reply : Reply} (absent : c.client = none) (installed : session.libraryInstalled = true)
      (made : reply.isRaised = false) : Opening c session [reply]

variable {opening rest : List Reply} {probe : Reply}

theorem start_unanswered (opens : Opening c session opening) (script : session.replies = opening ++ probe :: rest)
    (denied : Denied probe cause) :
    Ends start (c, session) (fun _ _ => False) fun failure t =>
      failure = surrender (c.owned || c.client.isNone) (rest.headD .usual) cause ∧
        t.1.ready = false ∧ t.1.client = none := by
  cases opens with
  | present present =>
    have asked : Denied session.next cause := by
      rw [next, script]
      exact denied
    refine (start_denied present asked).mono (fun _ _ => False.elim) ?_
    rintro _ _ ⟨rfl, released⟩
    rw [released, script, held, present]
    cases c.owned <;> exact ⟨rfl, rfl, rfl⟩
  | @built reply absent installed made =>
    have first : session.next = reply := by rw [next, script]; rfl
    rw [start_builds absent installed (first ▸ made)]
    have left : session.replies.tail = probe :: rest := by rw [script]; rfl
    have asked : Denied (session.counted.exchanged
        ⟨.built (session.clientsBuilt + 1), .construct, c.clientArguments⟩).next cause := by
      rw [next, exchanged, counted, left]
      exact denied
    refine (start_denied rfl asked).mono (fun _ _ => False.elim) ?_
    rintro _ _ ⟨rfl, released⟩
    rw [released, exchanged, counted, left, absent, Option.isNone_none, Bool.or_true]
    exact ⟨rfl, rfl, rfl⟩

-- Which failure the caller of a start sees when the probe fails.
theorem unreachable_unless_unclosed (opens : Opening c session opening)
    (script : session.replies = opening ++ probe :: rest) (denied : Denied probe cause) :
    ∃ failure t, start (c, session) = (.error failure, t) ∧ t.1.ready = false ∧ t.1.client = none ∧
      (failure = unreachable cause ↔ (c.owned = false ∧ c.client.isSome = true) ∨
        ∀ broken, rest.headD .usual = .raised broken → broken = unreachable cause) ∧
      (∀ broken, c.owned = true ∨ c.client = none → rest.headD .usual = .raised broken → failure = broken) := by
  have ended := start_unanswered opens script denied
  unfold Ends at ended
  rcases ran : start (c, session) with ⟨failure | done, t⟩
  · rw [ran] at ended
    obtain ⟨rfl, unready, gone⟩ := ended
    refine ⟨_, t, rfl, unready, gone, ?_, ?_⟩
    · rw [surrender_unreachable]
      simp
    · intro broken own closing
      have mine : (c.owned || c.client.isNone) = true := by simpa using own
      rw [mine, closing]
      rfl
  · rw [ran] at ended
    exact ended.elim

def timedOut : Failure := .client "TimeoutError" "timed out" []

def stuck : Failure := .client "RuntimeError" "close" []

theorem unreachable_unless_unclosed_stuck :
    let session : Session := { replies := [.usual, .raised timedOut, .raised stuck] }
    Opening withoutNodes session [.usual] ∧ session.replies = [.usual] ++ .raised timedOut :: [.raised stuck] ∧
      Denied (.raised timedOut) (some timedOut) ∧
      ∃ t, start (withoutNodes, session) = (.error stuck, t) ∧ t.1.ready = false ∧ t.1.client = none := by
  intro session
  have opens : Opening withoutNodes session [.usual] := .built rfl rfl rfl
  have script : session.replies = [.usual] ++ .raised timedOut :: [.raised stuck] := rfl
  have denied : Denied (.raised timedOut) (some timedOut) := .raised rfl
  obtain ⟨failure, t, ran, unready, gone, -, broken⟩ := unreachable_unless_unclosed opens script denied
  cases broken stuck (.inr rfl) rfl
  exact ⟨opens, script, denied, t, ran, unready, gone⟩

theorem close_hides_probe :
    (start (withoutNodes, { replies := [.usual, .raised timedOut, .raised stuck] })).1 = .error stuck ∧
      stuck ≠ unreachable (some timedOut) := ⟨rfl, nofun⟩

end Connection
end SearchStore
