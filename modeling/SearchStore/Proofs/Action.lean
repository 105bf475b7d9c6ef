import Mathlib.Order.Defs.Unbundled
import SearchStore.Client.Session
namespace SearchStore

theorem parts_of_bind {ε α β : Type} {result : Except ε α} {f : α → Except ε β} {b : β} (done : result >>= f = .ok b) :
    ∃ a, result = .ok a ∧ f a = .ok b := by
  cases result with
  | error e => cases done
  | ok a => exact ⟨a, rfl, done⟩

end SearchStore

namespace SearchStore.Action
variable {σ τ α β : Type}

instance : LawfulMonad (Action σ) :=
  LawfulMonad.mk' (Action σ)
    (by
      intro α x
      funext s
      change Action.bind x Action.ok s = x s
      unfold Action.bind
      rcases x s with ⟨_ | _, _⟩ <;> rfl)
    (by intros; rfl)
    (by
      intro α β γ x f g
      funext s
      change Action.bind (Action.bind x f) g s = Action.bind x (fun a => Action.bind (f a) g) s
      unfold Action.bind
      rcases x s with ⟨_ | _, _⟩ <;> rfl)

section Runs
variable {x : Action σ α} {f : α → Action σ β} {s t : σ} {a : α} {failure : Failure}

theorem bind_ok (ran : x s = (.ok a, t)) : (x >>= f) s = f a t := by
  change Action.bind x f s = f a t
  unfold Action.bind
  rw [ran]

theorem bind_error (ran : x s = (.error failure, t)) : (x >>= f) s = (.error failure, t) := by
  change Action.bind x f s = (.error failure, t)
  unfold Action.bind
  rw [ran]

theorem bind_pure_run (x : Action σ α) (f : α → β) (s : σ) :
    (x >>= fun a => pure (f a)) s = ((x s).1.map f, (x s).2) := by
  rcases ran : x s with ⟨failure | a, t⟩
  · exact bind_error ran
  · exact bind_ok ran

theorem rescue_done {handler : Failure → Action σ α} (ran : x s = (.ok a, t)) :
    rescue x handler s = (.ok a, t) := by
  simp [rescue, ran]

theorem rescue_handled {handler : Failure → Action σ α} (ran : x s = (.error failure, t))
    (ordinary : failure.isOrdinary = true) : rescue x handler s = handler failure t := by
  simp [rescue, ran, ordinary]

theorem rescue_passed {handler : Failure → Action σ α} (ran : x s = (.error failure, t))
    (interrupted : failure.isOrdinary = false) : rescue x handler s = (.error failure, t) := by
  simp [rescue, ran, interrupted]

theorem onSecond_run {y : Action τ α} {u v : τ} {result : Except Failure α} (ran : y u = (result, v)) :
    onSecond y (s, u) = (result, (s, v)) := by
  unfold onSecond
  rw [ran]

end Runs

-- The way an action ends as the result of another one, which cannot fail any more.
def attempt (x : Action σ α) : Action σ (Except Failure α) := fun s => (.ok (x s).1, (x s).2)

section Attempts
variable {x : Action σ α} {s t : σ}

theorem attempt_run {result : Except Failure α} (ran : x s = (result, t)) : attempt x s = (.ok result, t) := by
  unfold attempt
  rw [ran]

theorem attempt_map (x : Action σ α) (f : α → β) :
    attempt (x >>= fun a => pure (f a)) = attempt x >>= fun result => pure (result.map f) := by
  funext s
  change (Except.ok ((x >>= fun a => pure (f a)) s).1, ((x >>= fun a => pure (f a)) s).2) = _
  rw [bind_pure_run]
  rfl

theorem rescue_bind (x : Action σ α) (handler : Failure → Action σ α) (f : α → Action σ β) :
    rescue x handler >>= f = attempt x >>= fun
      | .ok a => f a
      | .error failure => if failure.isOrdinary then handler failure >>= f else fail failure := by
  funext s
  rcases ran : x s with ⟨failure | a, t⟩
  · rw [bind_ok (attempt_run ran)]
    by_cases ordinary : failure.isOrdinary
    · simp only [ordinary, if_true]
      change Action.bind _ f s = Action.bind _ f t
      unfold Action.bind
      rw [rescue_handled ran ordinary]
    · rw [bind_error (rescue_passed ran (Bool.eq_false_iff.mpr ordinary))]
      simp [ordinary, fail]
  · rw [bind_ok (rescue_done ran), bind_ok (attempt_run ran)]

theorem lift_ok (a : α) : (lift (.ok a) : Action σ α) = pure a := rfl

theorem lift_bind (result : Except Failure α) (f : α → Except Failure β) :
    lift (result >>= f) = (lift result : Action σ α) >>= fun a => lift (f a) := by
  cases result <;> rfl

theorem lift_map (result : Except Failure α) (f : α → β) :
    (lift result : Action σ α) >>= (fun a => pure (f a)) = lift (result.map f) := by
  cases result <;> rfl

end Attempts

-- The action, begun in a state, ends with a result and a state for which `done` holds, or with a
-- failure and a state for which `failed` holds.
def Ends (x : Action σ α) (s : σ) (done : α → σ → Prop) (failed : Failure → σ → Prop) : Prop :=
  match x s with
  | (.ok a, t) => done a t
  | (.error failure, t) => failed failure t

section Ends
variable {s : σ} {done : α → σ → Prop} {failed : Failure → σ → Prop}

theorem Ends.mono {x : Action σ α} {done' : α → σ → Prop} {failed' : Failure → σ → Prop}
    (ends : Ends x s done failed) (onDone : ∀ a t, done a t → done' a t)
    (onFailed : ∀ failure t, failed failure t → failed' failure t) : Ends x s done' failed' := by
  unfold Ends at ends ⊢
  rcases run : x s with ⟨failure | a, t⟩
  · rw [run] at ends
    exact onFailed failure t ends
  · rw [run] at ends
    exact onDone a t ends

theorem Ends.trivial {x : Action σ α} : Ends x s (fun _ _ => True) fun _ _ => True := by
  unfold Ends
  rcases x s with ⟨_ | _, _⟩ <;> exact True.intro

theorem Ends.final {x : Action σ α} {holds : σ → Prop}
    (ends : Ends x s (fun _ t => holds t) fun _ t => holds t) : holds (x s).2 := by
  unfold Ends at ends
  rcases run : x s with ⟨failure | a, t⟩ <;> simpa [run] using ends

theorem Ends.imp {x : Action σ α} {holds left : σ → Prop} (ends : Ends x s (fun _ t => holds t) fun _ t => holds t)
    (each : ∀ t, holds t → left t) : Ends x s (fun _ t => left t) fun _ t => left t :=
  ends.mono (fun _ => each) fun _ => each

theorem Ends.succeeds {x : Action σ α} (ends : Ends x s done fun _ _ => False) :
    ∃ a t, x s = (.ok a, t) ∧ done a t := by
  unfold Ends at ends
  rcases ran : x s with ⟨failure | a, t⟩
  · rw [ran] at ends
    exact ends.elim
  · rw [ran] at ends
    exact ⟨a, t, rfl, ends⟩

theorem Ends.of_failed {x : Action σ α} (ends : Ends x s done failed) {failure : Failure}
    (ended : (x s).1 = .error failure) : failed failure (x s).2 := by
  unfold Ends at ends
  rcases ran : x s with ⟨_ | a, t⟩
  · rw [ran] at ends ended
    cases ended
    exact ends
  · rw [ran] at ended
    cases ended

@[simp] theorem ends_pure (a : α) : Ends (pure a) s done failed ↔ done a s := Iff.rfl

@[simp] theorem ends_bind (x : Action σ β) (f : β → Action σ α) :
    Ends (x >>= f) s done failed ↔ Ends x s (fun b t => Ends (f b) t done failed) failed := by
  change Ends (Action.bind x f) s done failed ↔ _
  unfold Ends Action.bind
  rcases x s with ⟨_ | _, _⟩ <;> rfl

@[simp] theorem ends_map (f : β → α) (x : Action σ β) :
    Ends (f <$> x) s done failed ↔ Ends x s (fun b t => done (f b) t) failed := by
  rw [← bind_pure_comp, ends_bind]
  rfl

@[simp] theorem ends_fail (failure : Failure) :
    Ends (fail failure : Action σ α) s done failed ↔ failed failure s := Iff.rfl

@[simp] theorem ends_get {done : σ → σ → Prop} : Ends get s done failed ↔ done s s := Iff.rfl

@[simp] theorem ends_set {done : Unit → σ → Prop} (t : σ) :
    Ends (set t) s done failed ↔ done () t := Iff.rfl

@[simp] theorem ends_modify {done : Unit → σ → Prop} (f : σ → σ) :
    Ends (modify f) s done failed ↔ done () (f s) := Iff.rfl

@[simp] theorem ends_lift_ok (a : α) : Ends (lift (.ok a)) s done failed ↔ done a s := Iff.rfl

@[simp] theorem ends_rescue (x : Action σ α) (handler : Failure → Action σ α) :
    Ends (rescue x handler) s done failed ↔ Ends x s done fun failure t =>
      if failure.isOrdinary then Ends (handler failure) t done failed else failed failure t := by
  unfold Ends rescue
  rcases x s with ⟨failure | a, t⟩
  · by_cases ordinary : failure.isOrdinary <;> simp [ordinary]
  · rfl

end Ends

@[simp] theorem ends_onSecond {x : Action τ α} {s : σ × τ} {done : α → σ × τ → Prop}
    {failed : Failure → σ × τ → Prop} :
    Ends (onSecond x) s done failed ↔
      Ends x s.2 (fun a t => done a (s.1, t)) fun failure t => failed failure (s.1, t) := by
  unfold Ends onSecond
  rcases x s.2 with ⟨_ | _, _⟩ <;> rfl

-- Whichever way the action ends, the state it leaves stands in the relation to the one it found.
def Keeps (rel : σ → σ → Prop) (x : Action σ α) : Prop := ∀ s, rel s (x s).2

theorem Ends.keeps {rel : σ → σ → Prop} {x : Action σ α}
    (ends : ∀ s, Ends x s (fun _ t => rel s t) fun _ t => rel s t) : Keeps rel x :=
  fun s => (ends s).final

theorem keeps_reading {rel : σ → σ → Prop} {next : σ → Action σ α} (each : ∀ s, rel s (next s s).2) :
    Keeps rel (get >>= next) := each

theorem keeps_modify {rel : σ → σ → Prop} {f : σ → σ} (moves : ∀ s, rel s (f s)) :
    Keeps rel (modify f) := moves

theorem Keeps.onSecond {rel : τ → τ → Prop} {whole : σ × τ → σ × τ → Prop} {x : Action τ α}
    (part : Keeps rel x) (widen : ∀ a t t', rel t t' → whole (a, t) (a, t')) :
    Keeps whole (onSecond x) := fun s => widen s.1 s.2 _ (part s.2)

theorem Ends.of_final {x : Action σ α} {s : σ} {holds : σ → Prop} (reached : holds (x s).2) :
    Ends x s (fun _ t => holds t) fun _ t => holds t := by
  unfold Ends
  rcases run : x s with ⟨failure | a, t⟩ <;> simpa [run] using reached

theorem Keeps.ends {rel : σ → σ → Prop} {x : Action σ α} (keeps : Keeps rel x) (s : σ) :
    Ends x s (fun _ t => rel s t) fun _ t => rel s t := Ends.of_final (keeps s)

section Keeps
variable {rel : σ → σ → Prop} [IsPreorder σ rel]

theorem keeps_pure (a : α) : Keeps rel (pure a : Action σ α) := fun s => Std.Refl.refl s

theorem keeps_fail (failure : Failure) : Keeps rel (fail failure : Action σ α) :=
  fun s => Std.Refl.refl s

theorem keeps_get : Keeps rel get := fun s => Std.Refl.refl s

theorem keeps_lift (result : Except Failure α) : Keeps rel (lift result) := fun s => Std.Refl.refl s

theorem kept_bind {x : Action σ α} {f : α → Action σ β} {s : σ} (first : rel s (x s).2)
    (rest : ∀ a, Keeps rel (f a)) : rel s ((x >>= f) s).2 := by
  change rel s (Action.bind x f s).2
  unfold Action.bind
  rcases run : x s with ⟨failure | a, t⟩
  · simpa [run] using first
  · rw [run] at first
    exact IsTrans.trans _ _ _ first (rest a t)

theorem Keeps.bind {x : Action σ α} {f : α → Action σ β} (first : Keeps rel x)
    (rest : ∀ a, Keeps rel (f a)) : Keeps rel (x >>= f) := fun s => kept_bind (first s) rest

theorem Keeps.rescue {x : Action σ α} {handler : Failure → Action σ α} (first : Keeps rel x)
    (rest : ∀ failure, Keeps rel (handler failure)) : Keeps rel (rescue x handler) := by
  intro s
  have reached := first s
  unfold Action.rescue
  rcases run : x s with ⟨failure | a, t⟩
  · rw [run] at reached
    by_cases ordinary : failure.isOrdinary
    · simpa [ordinary] using IsTrans.trans _ _ _ reached (rest failure t)
    · simpa [ordinary] using reached
  · simpa [run] using reached

end Keeps
end SearchStore.Action
