import SearchStore.Text.LetterCase
namespace SearchStore.Text

namespace CaseRun
variable {run other : CaseRun} {code low : Nat}

def start (run : CaseRun) : Nat := ((run.first : Int) + run.shift).toNat
def stop (run : CaseRun) : Nat := run.start + (run.last - run.first)

def spaced (run : CaseRun) : Bool := run.first == run.last || run.step == 2

-- Behind the other run, in front of it, or in the gaps between its letters.
def movesPast (run other : CaseRun) : Bool :=
  Nat.blt other.last run.start || Nat.blt run.stop other.first ||
    run.spaced && other.step == 2 && (run.start + other.first) % 2 == 1

theorem lower?_moved (moved : run.lower? code = some low) (positive : 0 ≤ run.first + run.shift) :
    run.start ≤ low ∧ low ≤ run.stop ∧ (run.spaced = true → low % 2 = run.start % 2) := by
  unfold lower? at moved
  split at moved
  · rename_i inside
    have place := Option.some.inj moved
    unfold start stop spaced
    obtain ⟨above, below, step⟩ := inside
    refine ⟨by omega, by unfold start; omega, fun gaps => ?_⟩
    rcases Bool.or_eq_true_iff.mp gaps with single | two
    · have := eq_of_beq single
      omega
    · rw [eq_of_beq two] at step
      omega
  · cases moved

theorem lower?_movesPast (past : run.movesPast other = true) (moved : run.lower? code = some low)
    (positive : 0 ≤ run.first + run.shift) : other.lower? low = none := by
  obtain ⟨above, below, gaps⟩ := lower?_moved moved positive
  refine if_neg ?_
  rintro ⟨above', below', step'⟩
  unfold movesPast at past
  simp only [Bool.or_eq_true, Bool.and_eq_true, Nat.blt_eq, beq_iff_eq] at past
  rcases past with (behind | front) | ⟨⟨spaced, two⟩, odd⟩
  · omega
  · omega
  · have even := gaps spaced
    rw [two] at step'
    omega

end CaseRun

-- The two letters that are not lowered by a run, as runs of their own.
def dottedRun : CaseRun := ⟨304, 304, 2, 0⟩
def sigmaRun : CaseRun := ⟨931, 931, 2, 0⟩

theorem runs_positive : ∀ run ∈ caseRuns, 0 ≤ run.first + run.shift := by decide +kernel

theorem runs_movePast :
    (caseRuns.all fun run => (dottedRun :: sigmaRun :: caseRuns).all run.movesPast) = true := by decide +kernel

structure Lowered (c : Char) : Prop where
  sigma : c ≠ 'Σ'
  same : lowerChar c = [c]

instance (c : Char) : Decidable (Lowered c) :=
  decidable_of_iff (c ≠ 'Σ' ∧ lowerChar c = [c]) ⟨fun h => ⟨h.1, h.2⟩, fun h => ⟨h.1, h.2⟩⟩

theorem lowerFrom_lowered {letters : List Char} (lowered : ∀ c ∈ letters, Lowered c) (before : List Char) :
    lowerFrom before letters = letters := by
  induction letters generalizing before with
  | nil => rfl
  | cons c rest ih =>
    obtain ⟨first, others⟩ := List.forall_mem_cons.mp lowered
    rw [lowerFrom, if_neg first.sigma, first.same, ih others]
    rfl

theorem moved_lowered {run : CaseRun} {code low : Nat} (member : run ∈ caseRuns)
    (moved : run.lower? code = some low) : Lowered (Char.ofNat low) := by
  have unmoved (other : CaseRun) (among : other ∈ dottedRun :: sigmaRun :: caseRuns) : other.lower? low = none := by
    have past := List.all_eq_true.mp (List.all_eq_true.mp runs_movePast run member) other among
    exact CaseRun.lower?_movesPast past moved (runs_positive run member)
  by_cases valid : low.isValidChar
  · have code : (Char.ofNat low).toNat = low := by
      rw [Char.ofNat, dif_pos valid]
      rfl
    refine ⟨fun sigma => ?_, ?_⟩
    · have stays := unmoved sigmaRun (by simp)
      rw [← code, sigma] at stays
      cases stays
    · have undotted : Char.ofNat low ≠ '\u0130' := fun dotted => by
        have stays := unmoved dottedRun (by simp)
        rw [← code, dotted] at stays
        cases stays
      have stays : caseRuns.findSome? (·.lower? (Char.ofNat low).toNat) = none := by
        rw [code]
        refine List.findSome?_eq_none_iff.mpr fun other among => ?_
        exact unmoved other (List.mem_cons_of_mem _ (List.mem_cons_of_mem _ among))
      rw [lowerChar, if_neg undotted, stays]
  · have zero : Char.ofNat low = '\u0000' := by
      rw [Char.ofNat, dif_neg valid]
      rfl
    rw [zero]
    decide +kernel

theorem lowerChar_lowered {c d : Char} (sigma : c ≠ 'Σ') (member : d ∈ lowerChar c) : Lowered d := by
  unfold lowerChar at member
  split at member
  · rcases List.mem_cons.mp member with rfl | member
    · decide +kernel
    · cases List.mem_singleton.mp member
      decide +kernel
  · rename_i undotted
    split at member
    · rename_i moved
      obtain ⟨run, among, moved⟩ := List.exists_of_findSome?_eq_some moved
      cases List.mem_singleton.mp member
      exact moved_lowered among moved
    · rename_i unmoved
      cases List.mem_singleton.mp member
      refine ⟨sigma, ?_⟩
      rw [lowerChar, if_neg undotted, unmoved]

theorem lowerFrom_all_lowered (letters before : List Char) : ∀ d ∈ lowerFrom before letters, Lowered d := by
  induction letters generalizing before with
  | nil =>
    rintro d ⟨⟩
  | cons c rest ih =>
    intro d member
    rcases List.mem_append.mp member with first | later
    · split at first
      · split at first <;> cases List.mem_singleton.mp first <;> decide +kernel
      · rename_i sigma
        exact lowerChar_lowered sigma first
    · exact ih _ d later

theorem lower_lower (s : String) : lower (lower s) = lower s := by
  unfold lower
  rw [String.toList_ofList, lowerFrom_lowered (lowerFrom_all_lowered _ _)]

end SearchStore.Text
