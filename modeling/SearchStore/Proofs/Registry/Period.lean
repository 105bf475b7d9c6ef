import Mathlib.Data.Rat.Floor
import Mathlib.Tactic.FieldSimp
import Mathlib.Tactic.Linarith
import Mathlib.Tactic.Ring
import SearchStore.Registry
namespace SearchStore.Period

def Positive : Period → Prop
  | every seconds => 0 < seconds
  | never => True
  | unusable => False

def Instant (period : Period) (begun time : Rat) : Prop :=
  match period with
  | every seconds => ∃ k : Int, 1 ≤ k ∧ time = begun + k * seconds
  | _ => False

def struck (period : Period) (begun now : Rat) : Int :=
  match period with
  | every seconds => ⌊(now - begun) / seconds⌋
  | _ => 0

def due (period : Period) (begun now : Rat) : Option Rat :=
  match period with
  | every seconds => some (begun + seconds * (period.struck begun now + 1))
  | _ => none

-- Some instant of the schedule lies after one time and not after another.
def strikes (period : Period) (begun : Option Rat) (now later : Rat) : Bool :=
  begun.any fun begun => period.struck begun now < period.struck begun later

variable {period : Period} {seconds begun now later time : Rat}

theorem le_struck_iff (positive : 0 < seconds) (k : Int) :
    k ≤ (every seconds).struck begun now ↔ begun + k * seconds ≤ now := by
  unfold struck
  rw [Int.le_floor, le_div_iff₀ positive]
  constructor <;> intro bound <;> linarith

theorem struck_mono (positive : period.Positive) (order : now ≤ later) :
    period.struck begun now ≤ period.struck begun later := by
  cases period with
  | every seconds =>
    rw [le_struck_iff positive]
    exact le_trans ((le_struck_iff positive _).mp le_rfl) order
  | never => exact le_rfl
  | unusable => exact le_rfl

theorem struck_nonneg (positive : period.Positive) (order : begun ≤ now) :
    0 ≤ period.struck begun now := by
  cases period with
  | every seconds =>
    rw [le_struck_iff positive]
    simpa using order
  | never => exact le_rfl
  | unusable => exact le_rfl

theorem Instant.le_of_struck (positive : period.Positive) (instant : period.Instant begun time)
    (same : period.struck begun later ≤ period.struck begun now) (come : time ≤ later) : time ≤ now := by
  cases period with
  | every seconds =>
    obtain ⟨k, -, rfl⟩ := instant
    rw [← le_struck_iff positive] at come ⊢
    exact le_trans come same
  | never => cases instant
  | unusable => cases instant

theorem firstSweep_eq (positive : period.Positive) :
    Registry.firstSweep period begun = .waiting (period.due begun begun) := by
  cases period with
  | every seconds => simp [Registry.firstSweep, due, struck]
  | never => rfl
  | unusable => cases positive

theorem due_of_struck (same : period.struck begun now = period.struck begun later) :
    period.due begun now = period.due begun later := by
  cases period with
  | every seconds => rw [due, due, same]
  | never => rfl
  | unusable => rfl

section Every
variable (positive : 0 < seconds)
include positive

theorem due_le_iff : begun + seconds * ((every seconds).struck begun now + 1) ≤ later ↔
    (every seconds).struck begun now < (every seconds).struck begun later := by
  rw [← Int.add_one_le_iff, le_struck_iff positive]
  push_cast
  rw [mul_comm seconds]

-- The schedule is the same whichever of its instants it is counted from.
theorem dueAfter_eq (begun now : Rat) (m : Int) :
    some (Registry.dueAfter (begun + seconds * m) seconds now) = (every seconds).due begun now := by
  have shifted : (now - (begun + seconds * m)) / seconds = (now - begun) / seconds - m := by
    field_simp
    ring
  have floor : ((now - (begun + seconds * m)) / seconds).floor = (every seconds).struck begun now - m := by
    rw [shifted]
    exact Int.floor_sub_intCast ((now - begun) / seconds) m
  unfold Registry.dueAfter due
  rw [if_pos positive, floor]
  push_cast
  ring_nf

-- From the first instant on that is still to come, every further period brings one.
theorem instant_after_iff (order : begun ≤ now) :
    (now < time ∧ (every seconds).Instant begun time) ↔ ∃ i : Int, 0 ≤ i ∧
      time = begun + seconds * ((every seconds).struck begun now + 1) + i * seconds := by
  have nonneg : 0 ≤ (every seconds).struck begun now := struck_nonneg positive order
  have whole : ∀ i : Int, begun + seconds * ((every seconds).struck begun now + 1) + i * seconds =
      begun + ((every seconds).struck begun now + 1 + i : Int) * seconds := by
    intro i
    push_cast
    ring
  have after : ∀ k : Int, now < begun + k * seconds ↔ (every seconds).struck begun now < k := by
    intro k
    rw [← not_le, ← le_struck_iff positive, Int.not_le]
  constructor
  · rintro ⟨ahead, k, -, rfl⟩
    rw [after] at ahead
    refine ⟨k - ((every seconds).struck begun now + 1), by omega, ?_⟩
    rw [whole, add_sub_cancel]
  · rintro ⟨i, counted, rfl⟩
    rw [whole, after]
    exact ⟨by omega, _, by omega, rfl⟩

end Every
end SearchStore.Period
