import SearchStore.Proofs.Client.Ledger
namespace SearchStore
open SearchStore.Action

namespace Session
variable {α β : Type}

def Silent (before after : Session) : Prop := after.calls = before.calls

instance : IsPreorder Session Silent where
  refl _ := rfl
  trans _ _ _ first rest := Eq.trans rest first

theorem silent_logged (s : Session) (record : Record) : s.Silent (s.logged record) := by
  unfold logged
  split
  · rfl
  · exact Std.Refl.refl s

theorem log_silent (record : Record) : Keeps Silent (log record) := fun s => silent_logged s record

theorem logAll_silent (records : List Record) : Keeps Silent (logAll records) := by
  induction records with
  | nil => exact keeps_pure _
  | cons record rest ih => exact (log_silent record).bind fun _ => ih

theorem calls_exchanged (s : Session) (call : Call) : (s.exchanged call).calls = s.calls ++ [call] := by
  simp [calls, exchanged]

def Makes (made : List Call) (x : Action Session α) : Prop :=
  Keeps (fun before after => after.calls = before.calls ++ made) x

section Makes
variable {made : List Call} {x : Action Session α}

theorem Makes.bind {f : α → Action Session β} (makes : Makes made x) (silent : ∀ a, Keeps Silent (f a)) :
    Makes made (x >>= f) := by
  refine Ends.keeps fun s => (ends_bind x f).mpr ?_
  refine (makes.ends s).mono (fun a t calls => ?_) fun _ _ calls => calls
  have same : ∀ u, t.Silent u → u.calls = s.calls ++ made := fun u silent => Eq.trans silent calls
  exact ((silent a).ends t).mono (fun _ => same) fun _ => same

theorem Makes.rescue {handler : Failure → Action Session α} (makes : Makes made x)
    (silent : ∀ failure, Keeps Silent (handler failure)) : Makes made (rescue x handler) := by
  refine Ends.keeps fun s => (ends_rescue x handler).mpr ?_
  refine (makes.ends s).mono (fun _ _ calls => calls) fun failure t calls => ?_
  have same : ∀ u, t.Silent u → u.calls = s.calls ++ made := fun u silent => Eq.trans silent calls
  split
  · exact ((silent failure).ends t).mono (fun _ => same) fun _ => same
  · exact calls

theorem log_makes (record : Record) (makes : Makes made x) : Makes made (log record >>= fun _ => x) := by
  refine Ends.keeps fun s => (ends_bind _ _).mpr ((ends_log record).mpr ?_)
  have calls : (s.logged record).calls = s.calls := silent_logged s record
  rw [← calls]
  exact makes.ends (s.logged record)

end Makes

theorem call_makes (client : Option Client) (method : Method) {arguments : Entries}
    (named : Entries.hasTextKeys arguments = true) :
    Makes (client.toList.map fun client => ⟨client, method, arguments⟩) (call client method arguments) := by
  cases client with
  | none =>
    intro s
    exact (List.append_nil s.calls).symm
  | some client =>
    have performed : call (some client) method arguments = perform ⟨client, method, arguments⟩ := by
      simp [call, named]
    rw [performed]
    exact Ends.keeps fun s => perform_exchanged (calls_exchanged s _)

theorem call_sends (client : Option Client) (method : Method) (arguments : Entries) (s : Session) :
    (call client method arguments s).2.calls = s.calls ++
      if Entries.hasTextKeys arguments then client.toList.map fun client => ⟨client, method, arguments⟩
      else [] := by
  cases texts : Entries.hasTextKeys arguments with
  | true => exact call_makes client method texts s
  | false =>
    have refused : (call client method arguments s).2 = s := by
      unfold call
      cases client with
      | none => rfl
      | some client =>
        rw [texts]
        rfl
    rw [refused]
    exact (List.append_nil _).symm

end Session
end SearchStore
