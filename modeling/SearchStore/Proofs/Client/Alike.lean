import SearchStore.Proofs.Client.Script
namespace SearchStore

inductive Paired {ε α β : Type} (rel : α → β → Prop) : Except ε α → Except ε β → Prop
  | ok {a : α} {b : β} (related : rel a b) : Paired rel (.ok a) (.ok b)
  | error (e : ε) : Paired rel (.error e) (.error e)

namespace Paired
variable {ε ε' α β γ δ : Type} {rel : α → β → Prop} {rel' : γ → δ → Prop}

theorem refl (result : Except ε α) : Paired Eq result result := by
  cases result with
  | ok a => exact .ok rfl
  | error e => exact .error e

theorem eq {x y : Except ε α} (paired : Paired Eq x y) : x = y := by
  cases paired with
  | ok same => exact congrArg _ same
  | error e => rfl

theorem bind {x : Except ε α} {y : Except ε β} {f : α → Except ε γ} {g : β → Except ε δ}
    (first : Paired rel x y) (rest : ∀ a b, rel a b → Paired rel' (f a) (g b)) :
    Paired rel' (x >>= f) (y >>= g) := by
  cases first with
  | ok related => exact rest _ _ related
  | error e => exact .error e

theorem mapError {x : Except ε α} {y : Except ε β} (f : ε → ε') (paired : Paired rel x y) :
    Paired rel (x.mapError f) (y.mapError f) := by
  cases paired with
  | ok related => exact .ok related
  | error e => exact .error (f e)

end Paired

namespace Action
variable {σ τ α β γ δ : Type} {like : σ → σ → Prop} {rel : α → β → Prop} {rel' : γ → δ → Prop}

def InStep (like : σ → σ → Prop) (rel : α → β → Prop) (x : Action σ α) (y : Action σ β) : Prop :=
  ∀ s t, like s t → Paired rel (x s).1 (y t).1 ∧ like (x s).2 (y t).2

theorem inStep_lift {result : Except Failure α} {other : Except Failure β} (paired : Paired rel result other) :
    InStep like rel (lift result) (lift other) := fun _ _ same => ⟨paired, same⟩

theorem inStep_pure (a : α) : InStep like Eq (pure a) (pure a) := inStep_lift (.refl (.ok a))

theorem inStep_fail (failure : Failure) : InStep like Eq (fail failure : Action σ α) (fail failure) :=
  inStep_lift (.refl (.error failure))

theorem inStep_set {s t : σ} (same : like s t) : InStep like Eq (set s) (set t) := fun _ _ _ => ⟨.ok rfl, same⟩

theorem inStep_modify {f g : σ → σ} (same : ∀ s t, like s t → like (f s) (g t)) :
    InStep like Eq (modify f) (modify g) := fun s t first => ⟨.ok rfl, same s t first⟩

theorem inStep_get : InStep like like get get := fun _ _ same => ⟨.ok same, same⟩

theorem InStep.bind {x : Action σ α} {y : Action σ β} {f : α → Action σ γ} {g : β → Action σ δ}
    (first : InStep like rel x y) (rest : ∀ a b, rel a b → InStep like rel' (f a) (g b)) :
    InStep like rel' (x >>= f) (y >>= g) := by
  intro s t same
  obtain ⟨ended, left⟩ := first s t same
  change Paired rel' (Action.bind x f s).1 (Action.bind y g t).1 ∧ like (Action.bind x f s).2 (Action.bind y g t).2
  unfold Action.bind
  rcases ran : x s with ⟨result, s'⟩
  rcases ran' : y t with ⟨other, t'⟩
  rw [ran, ran'] at ended left
  cases ended with
  | ok related => exact rest _ _ related s' t' left
  | error failure => exact ⟨.error failure, left⟩

theorem InStep.next {x y : Action σ α} {f : α → Action σ γ} {g : α → Action σ δ} (first : InStep like Eq x y)
    (rest : ∀ a, InStep like rel' (f a) (g a)) : InStep like rel' (x >>= f) (y >>= g) := by
  refine first.bind ?_
  rintro a _ rfl
  exact rest a

theorem InStep.attempt {x y : Action σ α} (first : InStep like Eq x y) :
    InStep like Eq (attempt x) (attempt y) := by
  intro s t same
  obtain ⟨ended, left⟩ := first s t same
  exact ⟨.ok ended.eq, left⟩

theorem InStep.rescue {x : Action σ α} {y : Action σ β} {handler : Failure → Action σ α}
    {handler' : Failure → Action σ β} (first : InStep like rel x y)
    (rest : ∀ failure, InStep like rel (handler failure) (handler' failure)) :
    InStep like rel (rescue x handler) (rescue y handler') := by
  intro s t same
  obtain ⟨ended, left⟩ := first s t same
  unfold Action.rescue
  rcases ran : x s with ⟨result, s'⟩
  rcases ran' : y t with ⟨other, t'⟩
  rw [ran, ran'] at ended left
  cases ended with
  | ok related => exact ⟨.ok related, left⟩
  | error failure =>
    by_cases ordinary : failure.isOrdinary
    · simpa [ordinary] using rest failure s' t' left
    · simpa [ordinary] using ⟨.error failure, left⟩

end Action

def Record.outline (r : Record) : Record := { r with arguments := [] }

namespace Session
open SearchStore.Action

-- A session without its past, and the past of one session before what another one has to come.
def bare (s : Session) : Session := { s with exchanges := [], records := [] }

def atop (s u : Session) : Session := { u with exchanges := s.exchanges, records := s.records }

-- Sessions in the relation differ in their pasts at most, and go on differing in nothing else.
class Blind (like : Session → Session → Prop) : Prop where
  bare : ∀ {s t}, like s t → s.bare = t.bare
  atop : ∀ {s t} (u : Session), like s t → like (s.atop u) (t.atop u)
  after : ∀ {s t} (u : Session), like s t → like (s.after u) (t.after u)

def Along {ρ : Type} (like : Session → Session → Prop) (s t : ρ × Session) : Prop := s.1 = t.1 ∧ like s.2 t.2

section Blind
variable {like : Session → Session → Prop} [Blind like] {s t : Session} {ρ α β : Type} {rel : α → β → Prop}

theorem Blind.reads (same : like s t) {f : Session → α} (blind : ∀ s, f s = f s.bare) : f s = f t := by
  rw [blind s, blind t, Blind.bare same]

theorem Blind.moved (same : like s t) {f : Session → Session} (blind : ∀ s, f s = s.atop (f s.bare)) :
    like (f s) (f t) := by
  rw [blind s, blind t, Blind.bare same]
  exact Blind.atop _ same

theorem Told.inStep {x : Action Session α} (told : Told x) : InStep like Eq x x := by
  intro s t same
  have unwritten : s.unwritten = t.unwritten := Blind.reads same fun _ => rfl
  rw [told s, told t, unwritten]
  exact ⟨.refl _, Blind.after _ same⟩

omit [Blind like] in
theorem inStep_onSecond {x : Action Session α} {y : Action Session β} (alike : InStep like rel x y) :
    InStep (Along (ρ := ρ) like) rel (onSecond x) (onSecond y) := by
  rintro ⟨a, s⟩ ⟨_, t⟩ ⟨rfl, same⟩
  obtain ⟨ended, left⟩ := alike s t same
  exact ⟨ended, rfl, left⟩

end Blind

def outlined (s : Session) : Session := { s with records := s.records.map Record.outline }

def Like (s t : Session) : Prop := s.outlined = t.outlined

def LikeWith {ρ : Type} (s t : ρ × Session) : Prop := s.1 = t.1 ∧ s.2.Like t.2

section Like
variable {s : Session} {record other : Record}

theorem Like.rfl : s.Like s := Eq.refl _

theorem outlined_logged (s : Session) (record : Record) :
    (s.logged record).outlined = s.outlined.logged record.outline := by
  unfold logged
  by_cases kept : s.threshold ≤ record.level.number <;> simp [outlined, Record.outline, kept]

theorem log_inStep (same : record.outline = other.outline) : InStep Like Eq (log record) (log other) := by
  intro s t like
  refine ⟨.ok (Eq.refl ()), ?_⟩
  change (s.logged record).outlined = (t.logged other).outlined
  rw [outlined_logged, outlined_logged, like, same]

theorem logAll_inStep {records others : List Record}
    (same : records.map Record.outline = others.map Record.outline) :
    InStep Like Eq (logAll records) (logAll others) := by
  induction records generalizing others with
  | nil =>
    cases others with
    | nil => exact inStep_pure ()
    | cons other rest => cases same
  | cons record rest ih =>
    cases others with
    | nil => cases same
    | cons other rest' =>
      obtain ⟨first, rest⟩ := List.cons.inj same
      exact (log_inStep first).next fun _ => ih rest

theorem outlined_after (s u : Session) : (s.after u).outlined = s.outlined.after u.outlined := by
  simp [outlined, after]

theorem outlined_atop (s u : Session) : (s.atop u).outlined = s.outlined.atop u := rfl

instance : Blind Like where
  bare {s t} same := by
    have bare : s.outlined.bare = t.outlined.bare := congrArg Session.bare same
    exact bare
  atop u same := by
    unfold Like
    rw [outlined_atop, outlined_atop, same]
  after u same := by
    unfold Like
    rw [outlined_after, outlined_after, same]

end Like
end Session
end SearchStore
