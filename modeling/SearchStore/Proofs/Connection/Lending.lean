import Mathlib.Data.List.Induction
import SearchStore.Proofs.Client.Calls
import SearchStore.Proofs.Connection.Probe
namespace SearchStore
open SearchStore.Action Session

def Reply.denies : Reply → Bool
  | .usual => false
  | .returned answer => !answer.truthy
  | .raised failure => failure.isOrdinary

def Turn.calls {κ σ α : Type} (serve : κ → Action (σ × Session) α) (turn : Turn κ)
    (s : σ × Session) : List Call :=
  (turn.play serve s).2.2.calls.drop s.2.calls.length

namespace Session
variable {kind : Call → Prop}

def Adds (kind : Call → Prop) (before after : Session) : Prop :=
  ∃ made, after.calls = before.calls ++ made ∧ ∀ call ∈ made, kind call

theorem Adds.trans {s t u : Session} (first : Adds kind s t) (rest : Adds kind t u) : Adds kind s u := by
  obtain ⟨made, calls, each⟩ := first
  obtain ⟨more, calls', each'⟩ := rest
  refine ⟨made ++ more, by rw [calls', calls, List.append_assoc], ?_⟩
  intro call member
  rcases List.mem_append.mp member with early | late
  · exact each call early
  · exact each' call late

instance : IsPreorder Session (Adds kind) where
  refl s := ⟨[], by simp, by simp⟩
  trans _ _ _ first rest := first.trans rest

theorem Silent.adds {s t : Session} (silent : s.Silent t) : Adds kind s t := by
  refine ⟨[], ?_, by simp⟩
  rw [List.append_nil]
  exact silent

theorem adds_exchanged {s : Session} {call : Call} (one : kind call) : Adds kind s (s.exchanged call) := by
  refine ⟨[call], calls_exchanged s call, ?_⟩
  simpa using one

theorem log_adds (record : Record) : Keeps (Adds kind) (log record) := fun s => (silent_logged s record).adds

theorem call_adds {client : Option Client} {method : Method} {arguments : Entries}
    (each : ∀ c, client = some c → kind ⟨c, method, arguments⟩) :
    Keeps (Adds kind) (call client method arguments) := by
  intro s
  refine ⟨_, call_sends client method arguments s, ?_⟩
  intro made member
  split at member
  · obtain ⟨c, present, rfl⟩ := List.mem_map.mp member
    exact each c (Option.mem_toList.mp present)
  · cases member

theorem adds_built {s : Session} {call : Call} (one : kind call) : Adds kind s (s.counted.exchanged call) := by
  refine ⟨[call], calls_exchanged s.counted call, ?_⟩
  simpa using one

end Session

namespace Connection
variable {c : Connection} {client : Client} {session : Session} {kind : Call → Prop}

theorem close_adds (each : ∀ client, c.held = some client → kind ⟨client, .close, []⟩) :
    Ends close (c, session) (fun _ t => t.1 = c.released ∧ Adds kind session t.2)
      fun _ t => t.1 = c.released ∧ Adds kind session t.2 := by
  rw [ends_close]
  cases mine : c.held with
  | none => exact ⟨rfl, Std.Refl.refl session⟩
  | some client =>
    have called : Keeps (Adds kind) (Session.call (some client) .close []) := by
      apply call_adds
      intro same equal
      cases equal
      exact each client mine
    exact (called.ends session).imp fun _ adds => ⟨rfl, adds⟩

theorem lost_adds {α : Type} (each : ∀ client, c.held = some client → kind ⟨client, .close, []⟩)
    (c' : Connection) (cause : Option Failure) :
    Ends (c'.lost cause : Action (Connection × Session) α) (c, session) (fun _ _ => False)
      fun _ t => t.1 = c.released ∧ Adds kind session t.2 := by
  simp only [lost, ends_bind, ends_onSecond, warn, ends_log, ends_fail]
  generalize noted : session.logged _ = session'
  have quiet : Adds kind session session' := noted ▸ (silent_logged _ _).adds
  exact (close_adds each).mono (fun _ _ ends => ⟨ends.1, quiet.trans ends.2⟩)
    fun _ _ ends => ⟨ends.1, quiet.trans ends.2⟩

theorem health_adds (each : ∀ client, c.client = some client → kind ⟨client, .health, []⟩) :
    Keeps (Adds kind) c.health := by
  unfold health
  split
  · apply Keeps.bind
    · apply Keeps.rescue
      · exact (call_adds each).bind fun _ => keeps_pure _
      · intro failure
        exact (log_adds _).bind fun _ => keeps_pure _
    · intro asked
      cases asked with
      | ok response => exact keeps_lift _
      | error text => exact keeps_pure _
  · exact keeps_pure _

def Apart (c : Connection) : Prop := c.client ≠ some .given

structure Lent (c : Connection) : Prop where
  client : c.client = some .given
  unowned : c.owned = false

def elsewhere (call : Call) : Prop := call.client ≠ .given

theorem Apart.calls (apart : c.Apart) {method : Method} {arguments : Entries} (client : Client)
    (present : c.client = some client) : elsewhere ⟨client, method, arguments⟩ := by
  intro given
  exact apart (present.trans (congrArg some given))

theorem Apart.held (apart : c.Apart) (client : Client) (mine : c.held = some client) :
    elsewhere ⟨client, .close, []⟩ := by
  unfold Connection.held at mine
  split at mine
  · exact apart.calls client mine
  · cases mine

theorem released_apart (c : Connection) : c.released.Apart := by simp [Apart]

def probe (c : Connection) (client : Client) : Call :=
  ⟨client, .ping, Entries.ofFields [("request_timeout", .float c.settings.options.requestTimeout)]⟩

def Probed (kind : Call → Prop) (c : Connection) (client : Client) (session : Session)
    (t : Connection × Session) : Prop :=
  Adds kind (session.exchanged (c.probe client)) t.2 ∧
    if session.next.denies then t.1 = c.released else t.1.client = c.client ∧ t.1.owned = c.owned

theorem start_probes (present : c.client = some client)
    (each : ∀ client, c.held = some client → kind ⟨client, .close, []⟩) :
    Ends start (c, session) (fun _ t => Probed kind c client session t)
      fun _ t => Probed kind c client session t := by
  simp only [start, ends_bind, ends_ensureClient, present, ends_rescue, ping, ends_onSecond]
  rw [ends_call rfl]
  have given_up {α : Type} (cause : Option Failure) (denied : session.next.denies = true) :
      Ends (c.lost cause : Action (Connection × Session) α) (c, session.exchanged (c.probe client)) (fun _ _ => False)
        fun _ t => Probed kind c client session t := by
    refine (lost_adds each c cause).mono (fun _ _ => False.elim) ?_
    intro failure t ended
    refine ⟨ended.2, ?_⟩
    rw [if_pos denied]
    exact ended.1
  have stays {ready : Bool} (heard : session.next.denies = false) :
      Probed kind c client session ({ c with ready := ready }, session.exchanged (c.probe client)) := by
    refine ⟨Std.Refl.refl _, ?_⟩
    simp [heard]
  cases answered : session.next with
  | usual => exact stays (by rw [answered]; rfl)
  | returned answer =>
    simp only [Reply.result]
    split
    · rename_i truthy
      exact stays (by simp [answered, Reply.denies, truthy])
    · rename_i falsy
      exact (given_up none (by simpa [answered, Reply.denies] using falsy)).mono
        (fun _ _ => False.elim) fun _ _ probed => probed
  | raised failure =>
    simp only [Reply.result]
    split
    · rename_i ordinary
      exact (given_up (some failure) (by simpa [answered, Reply.denies] using ordinary)).mono
        (fun _ _ => False.elim) fun _ _ probed => probed
    · rename_i interrupted
      exact stays (by simpa [answered, Reply.denies] using interrupted)

theorem Probed.apart {t : Connection × Session} (probed : Probed elsewhere c client session t) (apart : c.Apart)
    (present : c.client = some client) : t.1.Apart ∧ Adds elsewhere session t.2 := by
  obtain ⟨added, left⟩ := probed
  refine ⟨?_, (adds_exchanged (apart.calls client present)).trans added⟩
  split at left
  · exact left ▸ released_apart c
  · exact fun given => apart (left.1.symm.trans given)

theorem start_apart (apart : c.Apart) :
    Ends start (c, session) (fun _ t => t.1.Apart ∧ Adds elsewhere session t.2)
      fun _ t => t.1.Apart ∧ Adds elsewhere session t.2 := by
  cases found : c.client with
  | some client =>
    exact (start_probes found apart.held).imp fun _ probed => probed.apart apart found
  | none =>
    have own : (c.equipped (.built (session.clientsBuilt + 1))).Apart := by simp [Apart, equipped]
    have built : Adds elsewhere session (session.counted.exchanged
        ⟨.built (session.clientsBuilt + 1), .construct, c.clientArguments⟩) := adds_built (by simp [elsewhere])
    by_cases installed : session.libraryInstalled = true
    · cases made : session.next.isRaised with
      | false =>
        rw [start_builds found installed made]
        apply (start_probes rfl own.held).imp
        intro t probed
        obtain ⟨apart', asked⟩ := probed.apart own rfl
        exact ⟨apart', built.trans asked⟩
      | true =>
        simp only [start, ends_bind, ends_ensureClient, found, buildClient, ends_get, installed, if_true, ends_build]
        cases reply : session.next with
        | usual | returned value =>
          rw [reply] at made
          cases made
        | raised failure => exact ⟨apart, built⟩
    · simp only [start, ends_bind, ends_ensureClient, found, buildClient, ends_get, installed]
      exact ⟨apart, Std.Refl.refl session⟩

theorem serve_apart (command : Command) (apart : c.Apart) :
    Ends (serve command) (c, session) (fun _ t => t.1.Apart ∧ Adds elsewhere session t.2)
      fun _ t => t.1.Apart ∧ Adds elsewhere session t.2 := by
  cases command with
  | start =>
    simp only [serve, ends_bind, ends_pure]
    exact start_apart apart
  | close =>
    simp only [serve, ends_bind, ends_pure]
    apply (close_adds apart.held).imp
    intro t closed
    exact ⟨closed.1 ▸ released_apart c, closed.2⟩
  | health =>
    simp only [serve, ends_bind, ends_get, ends_onSecond, ends_pure]
    exact ((health_adds apart.calls).ends session).imp fun _ added => ⟨apart, added⟩
  | client => exact ⟨apart, Std.Refl.refl session⟩

theorem serve_empty {command : Command} (absent : c.client = none) (other : command ≠ .start) :
    Ends (serve command) (c, session) (fun _ t => t.1.client = none ∧ Adds kind session t.2)
      fun _ t => t.1.client = none ∧ Adds kind session t.2 := by
  cases command with
  | start => exact absurd rfl other
  | close =>
    simp only [serve, ends_bind, ends_pure]
    apply (close_adds (by simp [held, absent])).imp
    intro t closed
    exact ⟨closed.1 ▸ rfl, closed.2⟩
  | health =>
    simp only [serve, ends_bind, ends_get, ends_onSecond, ends_pure]
    exact ((health_adds (by simp [absent])).ends session).imp fun _ added => ⟨absent, added⟩
  | client => exact ⟨absent, Std.Refl.refl session⟩

deriving instance DecidableEq for Command

-- Whether a connection lets go of the client that it was given while it serves a command, as the first reply
-- decides that it gets on the way.
def Command.parts (first : Reply) : Command → Bool
  | .start => first.denies
  | .close => true
  | .health | .client => false

def parts (turn : Turn Command) : Bool := turn.command.parts (turn.replies.headD .usual)

def onGiven (call : Call) : Prop := call.client = .given ∧ call.method ≠ .construct

def asksGiven (made : List Call) : Prop := ∃ arguments, made = [⟨.given, .ping, arguments⟩]

-- What a command comes to while a connection has the client that it was given.
structure Lasting (command : Command) (session : Session) (t : Connection × Session) : Prop where
  calls : Adds onGiven session t.2
  asks : command = .start → ∃ made, t.2.calls = session.calls ++ made ∧ asksGiven made
  left : if command.parts session.next then t.1.client = none else t.1.Lent

theorem Lent.unheld (lent : c.Lent) : c.held = none := held_of_unowned lent.unowned

theorem serve_lent (command : Command) (lent : c.Lent) :
    Ends (serve command) (c, session) (fun _ t => Lasting command session t) fun _ t => Lasting command session t := by
  have unclosed (kind : Call → Prop) : ∀ client, c.held = some client → kind ⟨client, .close, []⟩ := by
    simp [lent.unheld]
  cases command with
  | start =>
    simp only [serve, ends_bind, ends_pure]
    have probed : Ends start (c, session) (fun _ t => Probed (fun _ => False) c .given session t)
        fun _ t => Probed (fun _ => False) c .given session t :=
      start_probes lent.client (unclosed fun _ => False)
    apply probed.imp
    intro t ended
    obtain ⟨⟨made, calls, nothing⟩, left⟩ := ended
    have empty : made = [] := List.eq_nil_iff_forall_not_mem.mpr nothing
    have asked : t.2.calls = session.calls ++ [c.probe .given] := by
      rw [calls, empty, List.append_nil, calls_exchanged]
    refine ⟨⟨_, asked, by simp [onGiven, probe]⟩, fun _ => ⟨_, asked, _, rfl⟩, ?_⟩
    unfold Command.parts
    split at left
    · rename_i denied
      rw [if_pos denied, left]
      rfl
    · rename_i answered
      rw [if_neg answered]
      exact ⟨left.1.trans lent.client, left.2.trans lent.unowned⟩
  | close =>
    simp only [serve, ends_bind, ends_pure]
    apply (close_adds (unclosed _)).imp
    intro t closed
    refine ⟨closed.2, by simp, ?_⟩
    rw [closed.1]
    rfl
  | health =>
    simp only [serve, ends_bind, ends_get, ends_onSecond, ends_pure]
    have asked : ∀ client, c.client = some client → onGiven ⟨client, .health, []⟩ := by
      simp [lent.client, onGiven]
    exact ((health_adds asked).ends session).imp fun _ added => ⟨added, by simp, lent⟩
  | client => exact ⟨Std.Refl.refl session, by simp, lent⟩

section History
variable {turns : List (Turn Command)} {s : Connection × Session}

-- What a history is to a client that was given, if the connection stays with it: no call goes elsewhere, nothing
-- is built, and every start asks it.
structure Loyal (turns : List (Turn Command)) (s : Connection × Session) : Prop where
  calls : ∀ call ∈ (Turn.after serve turns s).2.calls, call.client = .given ∧ call.method ≠ .construct
  asks : ∀ before turn rest, turns = before ++ turn :: rest → turn.command = .start →
    asksGiven (turn.calls serve (Turn.after serve before s))

-- Nothing is started once the connection has been closed or has failed a probe.
def Undisturbed (turns : List (Turn Command)) : Prop :=
  turns.Pairwise fun earlier later => later.command = .start → parts earlier = false

instance (turns : List (Turn Command)) : Decidable (Undisturbed turns) :=
  inferInstanceAs (Decidable (turns.Pairwise _))

theorem Undisturbed.kept {before rest : List (Turn Command)} {turn : Turn Command}
    (undisturbed : Undisturbed (before ++ turn :: rest)) (start : turn.command = .start) :
    before.any parts = false := by
  obtain ⟨-, -, across⟩ := List.pairwise_append.mp undisturbed
  apply List.any_eq_false.mpr
  intro earlier member
  simp [across earlier member turn List.mem_cons_self start]

theorem undisturbed_of_kept
    (kept : ∀ before turn rest, turns = before ++ turn :: rest → turn.command = .start →
      before.any parts = false) :
    Undisturbed turns := by
  induction turns using List.reverseRecOn with
  | nil => exact List.Pairwise.nil
  | append_singleton before turn ih =>
    apply List.pairwise_append.mpr
    refine ⟨?_, List.pairwise_singleton _ _, ?_⟩
    · apply ih
      intro first later rest split
      apply kept first later (rest ++ [turn])
      simp [split]
    · intro earlier member last same start
      cases List.mem_singleton.mp same
      have none := kept before turn [] rfl start
      exact Bool.eq_false_iff.mpr (List.any_eq_false.mp none earlier member)

theorem mem_calls {turn : Turn Command} {kind : Call → Prop} (adds : Adds kind s.2 (turn.play serve s).2.2) :
    ∀ call ∈ turn.calls serve s, kind call := by
  obtain ⟨made, calls, each⟩ := adds
  unfold Turn.calls
  rw [calls, List.drop_left]
  exact each

theorem play_lent (turn : Turn Command) (lent : s.1.Lent) :
    Lasting turn.command (s.2.expecting turn.replies) (turn.play serve s).2 := (serve_lent turn.command lent).final

theorem play_apart (turn : Turn Command) (apart : s.1.Apart) :
    (turn.play serve s).2.1.Apart ∧ Adds elsewhere s.2 (turn.play serve s).2.2 :=
  (serve_apart turn.command apart).final

theorem play_empty {turn : Turn Command} (absent : s.1.client = none) (other : turn.command ≠ .start) :
    (turn.play serve s).2.1.client = none ∧ Adds onGiven s.2 (turn.play serve s).2.2 :=
  (serve_empty absent other).final

theorem play_left (turn : Turn Command) (lent : s.1.Lent) :
    if parts turn then (turn.play serve s).2.1.client = none else (turn.play serve s).2.1.Lent :=
  (play_lent turn lent).left

theorem after_lent (lent : s.1.Lent) (kept : turns.any parts = false) : (Turn.after serve turns s).1.Lent := by
  induction turns generalizing s with
  | nil => exact lent
  | cons turn rest ih =>
    obtain ⟨stays, kept⟩ := Bool.or_eq_false_iff.mp kept
    have left := play_left turn lent
    rw [if_neg (Bool.eq_false_iff.mp stays)] at left
    exact ih left kept

theorem after_apart (lent : s.1.Lent) (parted : turns.any parts = true) : (Turn.after serve turns s).1.Apart := by
  induction turns generalizing s with
  | nil => cases parted
  | cons turn rest ih =>
    have left := play_left turn lent
    split at left
    · have stays : ∀ (turn : Turn Command) (s : Connection × Session),
          s.1.Apart → (turn.play serve s).2.1.Apart :=
        fun turn _ apart => (play_apart turn apart).1
      have apart : (turn.play serve s).2.1.Apart := by simp [Apart, left]
      exact Turn.after_holds stays rest apart
    · rename_i stays
      apply ih left
      rcases Bool.or_eq_true_iff.mp parted with here | later
      · exact absurd here stays
      · exact later

theorem Adds.calls {before after : Session} (adds : Adds kind before after)
    (each : ∀ call ∈ before.calls, kind call) :
    ∀ call ∈ after.calls, kind call := by
  obtain ⟨made, calls, new⟩ := adds
  intro call member
  rw [calls] at member
  rcases List.mem_append.mp member with old | added
  · exact each call old
  · exact new call added

theorem after_undisturbed (lent : s.1.Lent) (opened : s.2.exchanges = []) (undisturbed : Undisturbed turns) :
    (∀ call ∈ (Turn.after serve turns s).2.calls, onGiven call) ∧
      (turns.any parts = true → (Turn.after serve turns s).1.client = none) := by
  induction turns using List.reverseRecOn with
  | nil => exact ⟨by simp [Turn.after, Session.calls, opened], by simp⟩
  | append_singleton before turn ih =>
    obtain ⟨calls, gone⟩ := ih (List.pairwise_append.mp undisturbed).1
    rw [Turn.after_concat]
    cases parted : before.any parts with
    | false =>
      have still := after_lent lent parted
      refine ⟨Adds.calls (play_lent turn still).calls calls, ?_⟩
      intro here
      have left := play_left turn still
      rw [if_pos (by simpa [parted] using here)] at left
      exact left
    | true =>
      have idle : turn.command ≠ .start := by
        intro start
        have kept := undisturbed.kept start
        rw [kept] at parted
        cases parted
      have empty := play_empty (gone parted) idle
      exact ⟨Adds.calls empty.2 calls, fun _ => empty.1⟩

-- A connection is loyal to the client that it was given for as long as nothing disturbs it and no longer: once it
-- has let go of that client, it calls others only.
theorem loyal_until_parted {settings : StoreSettings} {c : Connection} (made : make settings (some .given) = .ok c)
    (session : Session) (turns : List (Turn Command)) :
    (Loyal turns (c, { session with exchanges := [] }) ↔ Undisturbed turns) ∧
      ∀ before turn rest, turns = before ++ turn :: rest → before.any parts = true →
        ∀ call ∈ turn.calls serve (Turn.after serve before (c, { session with exchanges := [] })),
          call.client ≠ .given := by
  obtain ⟨-, given, unowned, -⟩ := make_parts made
  generalize begun : (c, { session with exchanges := [] }) = s
  have lent : s.1.Lent := begun ▸ ⟨given, unowned⟩
  have opened : s.2.exchanges = [] := begun ▸ rfl
  have later (before : List (Turn Command)) (turn : Turn Command) (parted : before.any parts = true) :
      ∀ call ∈ turn.calls serve (Turn.after serve before s), call.client ≠ .given :=
    mem_calls (play_apart turn (after_apart lent parted)).2
  refine ⟨⟨?_, ?_⟩, fun before turn _ _ parted => later before turn parted⟩
  · intro loyal
    apply undisturbed_of_kept
    intro before turn rest split start
    apply Bool.eq_false_iff.mpr
    intro parted
    obtain ⟨arguments, asked⟩ := loyal.asks before turn rest split start
    apply later before turn parted ⟨.given, .ping, arguments⟩ _ rfl
    rw [asked]
    exact List.mem_singleton_self _
  · intro undisturbed
    refine ⟨(after_undisturbed lent opened undisturbed).1, ?_⟩
    intro before turn rest split start
    rw [split] at undisturbed
    have still := after_lent lent (undisturbed.kept start)
    obtain ⟨made, calls, asked⟩ := (play_lent turn still).asks start
    have same : turn.calls serve (Turn.after serve before s) = made := by
      unfold Turn.calls
      rw [calls]
      exact List.drop_left
    rwa [same]

end History

def lentOut : Connection := { settings := { clients := [] }, hosts := [], client := some .given }

def patient : List (Turn Command) :=
  [⟨.start, []⟩, ⟨.start, [.raised (.interrupt "CancelledError" "" [])]⟩, ⟨.start, [.raised timedOut]⟩]

theorem loyal_until_parted_patient :
    make { clients := [] } (some .given) = .ok lentOut ∧ Undisturbed patient ∧ Loyal patient (lentOut, {}) := by
  have made : make { clients := [] } (some .given) = .ok lentOut := rfl
  have undisturbed : Undisturbed patient := by decide
  exact ⟨made, undisturbed, (loyal_until_parted made {} patient).1.mpr undisturbed⟩

def resumed : List (Turn Command) := [⟨.start, []⟩, ⟨.close, []⟩, ⟨.start, []⟩]

theorem restart_builds :
    make { clients := [] } (some .given) = .ok lentOut ∧
      (Turn.after serve resumed (lentOut, {})).2.calls.map (fun call => (call.client, call.method)) =
        [(.given, .ping), (.built 1, .construct), (.built 1, .ping)] ∧
      ¬ Loyal resumed (lentOut, {}) := by
  have calls : (Turn.after serve resumed (lentOut, {})).2.calls.map (fun call => (call.client, call.method)) =
      [(.given, .ping), (.built 1, .construct), (.built 1, .ping)] := by decide
  have restarted : (Turn.calls serve ⟨.start, []⟩
      (Turn.after serve [⟨.start, []⟩, ⟨.close, []⟩] (lentOut, {}))).length = 2 := by decide
  refine ⟨rfl, calls, ?_⟩
  intro loyal
  obtain ⟨arguments, asked⟩ := loyal.asks [⟨.start, []⟩, ⟨.close, []⟩] ⟨.start, []⟩ [] rfl rfl
  rw [asked] at restarted
  cases restarted

end Connection
end SearchStore
