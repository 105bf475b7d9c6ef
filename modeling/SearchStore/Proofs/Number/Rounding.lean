import Mathlib.Algebra.Order.Field.Power
import Mathlib.Data.Rat.Floor
import Mathlib.Tactic.FieldSimp
import Mathlib.Tactic.Linarith
import Mathlib.Tactic.Ring
import SearchStore.Number.Binary64
namespace SearchStore.Binary64
variable {q gap : Rat} {k n s : Int}

theorem binade_le (positive : 0 < q) : (2 : Rat) ^ binade q ≤ q := by
  have parts : (q.num : Rat) / q.den = q := Rat.num_div_den q
  have numerator : 0 < q.num := Rat.num_pos.mpr positive
  have denominator : (0 : Rat) < q.den := by exact_mod_cast q.den_pos
  have lower : (2 : Rat) ^ (q.num.natAbs.log2 : Int) ≤ q.num := by
    have power : 2 ^ q.num.natAbs.log2 ≤ q.num.natAbs := Nat.log2_self_le (by omega)
    have whole : (2 : Int) ^ q.num.natAbs.log2 ≤ q.num := by
      zify at power
      rwa [abs_of_pos numerator] at power
    rw [zpow_natCast]
    exact_mod_cast whole
  have upper : (q.den : Rat) ≤ (2 : Rat) ^ ((q.den.log2 : Int) + 1) := by
    have power : q.den ≤ 2 ^ (q.den.log2 + 1) := le_of_lt Nat.lt_log2_self
    exact_mod_cast power
  unfold binade
  dsimp only
  split
  · assumption
  · calc (2 : Rat) ^ ((q.num.natAbs.log2 : Int) - (q.den.log2 : Int) - 1)
        = (2 : Rat) ^ (q.num.natAbs.log2 : Int) / (2 : Rat) ^ ((q.den.log2 : Int) + 1) := by
          rw [← zpow_sub₀ two_ne_zero]
          congr 1
          ring
      _ ≤ q.num / q.den := div_le_div₀ (by exact_mod_cast numerator.le) lower denominator upper
      _ = q := parts

theorem roundEven_ways (q : Rat) :
    roundEven q = ⌊q⌋ ∧ q ≤ ⌊q⌋ + 1 / 2 ∨ roundEven q = ⌊q⌋ + 1 ∧ ⌊q⌋ + 1 / 2 ≤ q := by
  have floor : q.floor = ⌊q⌋ := rfl
  unfold roundEven
  dsimp only
  rw [floor]
  split
  · exact .inl ⟨rfl, by linarith⟩
  · split
    · exact .inr ⟨rfl, by linarith⟩
    · split
      · exact .inl ⟨rfl, by linarith⟩
      · exact .inr ⟨rfl, by linarith⟩

theorem roundEven_le (below : q ≤ k) : roundEven q ≤ k := by
  have floor : ⌊q⌋ ≤ k := by exact_mod_cast (Int.floor_le q).trans below
  obtain ⟨down, -⟩ | ⟨up, half⟩ := roundEven_ways q
  · omega
  · have less : (⌊q⌋ : Rat) < k := by linarith
    have fewer : ⌊q⌋ < k := by exact_mod_cast less
    omega

theorem lt_roundEven (above : k + 1 / 2 < q) : k < roundEven q := by
  have floor : k ≤ ⌊q⌋ := Int.le_floor.mpr (by linarith)
  obtain ⟨down, half⟩ | ⟨up, -⟩ := roundEven_ways q
  · have less : (k : Rat) < ⌊q⌋ := by linarith
    have fewer : k < ⌊q⌋ := by exact_mod_cast less
    omega
  · omega

theorem unit_pos (q : Rat) : (0 : Rat) < 2 ^ lastPlace q := by positivity

theorem whole_on_grid (fine : lastPlace q ≤ 0) (k : Int) : ∃ steps : Int, (steps : Rat) * 2 ^ lastPlace q = k := by
  refine ⟨k * 2 ^ (-lastPlace q).toNat, ?_⟩
  have places : (((-lastPlace q).toNat : Nat) : Int) = -lastPlace q := Int.toNat_of_nonneg (by omega)
  push_cast
  rw [← zpow_natCast, places, mul_assoc, ← zpow_add₀ two_ne_zero, neg_add_cancel, zpow_zero, mul_one]

theorem nearest_le (fine : lastPlace q ≤ 0) (below : q ≤ k) : nearest q ≤ k := by
  obtain ⟨steps, whole⟩ := whole_on_grid fine k
  have scaled : q / 2 ^ lastPlace q ≤ steps := by
    rw [div_le_iff₀ (unit_pos q), whole]
    exact below
  have rounded : ((roundEven (q / 2 ^ lastPlace q) : Int) : Rat) ≤ steps := by
    exact_mod_cast roundEven_le scaled
  rw [← whole]
  exact mul_le_mul_of_nonneg_right rounded (unit_pos q).le

theorem lt_nearest (fine : lastPlace q ≤ 0) (above : k + 2 ^ lastPlace q / 2 < q) : k < nearest q := by
  obtain ⟨steps, whole⟩ := whole_on_grid fine k
  have scaled : (steps : Rat) + 1 / 2 < q / 2 ^ lastPlace q := by
    rw [lt_div_iff₀ (unit_pos q)]
    linarith
  have rounded : (steps : Rat) < (roundEven (q / 2 ^ lastPlace q) : Int) := by
    exact_mod_cast lt_roundEven scaled
  rw [← whole]
  exact mul_lt_mul_of_pos_right rounded (unit_pos q)

theorem lastPlace_fine (positive : 0 < q) (small : q < 2 ^ (53 : Int)) : lastPlace q ≤ 0 := by
  have power : (2 : Rat) ^ binade q < 2 ^ (53 : Int) := (binade_le positive).trans_lt small
  have exponent : binade q < 53 := (zpow_lt_zpow_iff_right₀ one_lt_two).mp power
  unfold lastPlace
  rw [Rat.abs_of_nonneg positive.le]
  omega

theorem half_unit_lt (positive : 0 < q) (tiny : (2 : Rat) ^ (-1075 : Int) < gap) (narrow : q / 2 ^ (53 : Int) < gap) :
    (2 : Rat) ^ lastPlace q / 2 < gap := by
  have halved (place : Int) : (2 : Rat) ^ place / 2 = 2 ^ (place - 1) := (zpow_sub_one₀ two_ne_zero place).symm
  unfold lastPlace
  rw [Rat.abs_of_nonneg positive.le, halved]
  cases le_total (-1074 : Int) (binade q - 52) with
  | inl fine =>
    rw [max_eq_right fine]
    calc (2 : Rat) ^ (binade q - 52 - 1)
        = 2 ^ binade q / 2 ^ (53 : Int) := by
          rw [← zpow_sub₀ two_ne_zero]
          congr 1
          ring
      _ ≤ q / 2 ^ (53 : Int) := by
          apply div_le_div_of_nonneg_right (binade_le positive)
          positivity
      _ < gap := narrow
  | inr coarse =>
    rw [max_eq_left coarse]
    exact tiny

theorem rat?_ofRat (finite : (nearest q).abs < 2 ^ (1024 : Int)) : (ofRat q).rat? = some (nearest q) := by
  unfold ofRat
  dsimp only
  split
  · rename_i zero
    rw [zero]
    unfold signedZero
    split <;> rfl
  · rw [if_neg (not_le.mpr finite)]
    rfl

-- A rational that is more than half a unit above the last whole number before it keeps its ceiling.
theorem ceil_nearest (fine : lastPlace q ≤ 0) (clear : (⌈q⌉ - 1 : Int) + (2 : Rat) ^ lastPlace q / 2 < q) :
    ⌈nearest q⌉ = ⌈q⌉ := by
  have upper : nearest q ≤ ⌈q⌉ := nearest_le fine (Int.le_ceil q)
  have lower : ((⌈q⌉ - 1 : Int) : Rat) < nearest q := lt_nearest fine clear
  apply Int.ceil_eq_iff.mpr
  constructor
  · push_cast at lower
    exact lower
  · exact upper

theorem nearest_finite (positive : 0 < q) (small : q < 2 ^ (53 : Int)) (same : ⌈nearest q⌉ = ⌈q⌉) :
    (nearest q).abs < 2 ^ (1024 : Int) := by
  have lower : (⌈q⌉ : Rat) < nearest q + 1 := by
    rw [← same]
    exact Int.ceil_lt_add_one _
  have first : (1 : Rat) ≤ ⌈q⌉ := by exact_mod_cast Int.one_le_ceil_iff.mpr positive
  have whole : ⌈q⌉ ≤ 2 ^ 53 := by
    apply Int.ceil_le.mpr
    push_cast
    exact small.le
  rw [Rat.abs_of_nonneg (by linarith)]
  calc nearest q
      ≤ ⌈q⌉ := by
        rw [← same]
        exact Int.le_ceil _
    _ ≤ 2 ^ (53 : Int) := by exact_mod_cast whole
    _ < 2 ^ (1024 : Int) := (zpow_lt_zpow_iff_right₀ one_lt_two).mpr (by decide)

theorem ceil?_ofRat (positive : 0 < q) (small : q < 2 ^ (53 : Int))
    (clear : (⌈q⌉ - 1 : Int) + (2 : Rat) ^ lastPlace q / 2 < q) : (ofRat q).ceil? = some ⌈q⌉ := by
  have same : ⌈nearest q⌉ = ⌈q⌉ := ceil_nearest (lastPlace_fine positive small) clear
  have ceiling : (nearest q).ceil = ⌈nearest q⌉ := Rat.ceil_eq_neg_floor_neg _
  unfold ceil?
  rw [rat?_ofRat (nearest_finite positive small same), Option.map_some, ceiling, same]

theorem below_quotient (positive : 1 ≤ s) : (⌈(n : Rat) / s⌉ - 1 : Int) + 1 / (s : Rat) ≤ (n : Rat) / s := by
  have divisor : (0 : Rat) < s := by exact_mod_cast positive
  have under : ((⌈(n : Rat) / s⌉ - 1 : Int) : Rat) < (n : Rat) / s := by
    have ceiling := Int.ceil_lt_add_one ((n : Rat) / s)
    push_cast
    linarith
  rw [lt_div_iff₀ divisor] at under
  have steps : (⌈(n : Rat) / s⌉ - 1) * s + 1 ≤ n := by exact_mod_cast under
  have whole : ((⌈(n : Rat) / s⌉ - 1 : Int) : Rat) * s + 1 ≤ n := by exact_mod_cast steps
  rw [le_div_iff₀ divisor, add_mul, one_div_mul_cancel divisor.ne']
  exact whole

theorem ceil?_zero : (ofRat 0).ceil? = some 0 := by
  have rounded : nearest 0 = 0 := by
    unfold nearest
    dsimp only
    have lower : (-1 : Int) < roundEven 0 := lt_roundEven (by norm_num)
    have upper : roundEven 0 ≤ 0 := roundEven_le (by norm_num)
    have whole : roundEven 0 = 0 := by omega
    rw [zero_div, whole, Int.cast_zero, zero_mul]
  unfold ceil?
  rw [rat?_ofRat (by rw [rounded]; norm_num), rounded]
  rfl

theorem ceil?_quotient (nonneg : 0 ≤ n) (small : n < 2 ^ 53) (positive : 1 ≤ s) (bounded : s < 2 ^ 53) :
    (ofRat ((n : Rat) / s)).ceil? = some ⌈(n : Rat) / s⌉ := by
  have divisor : (1 : Rat) ≤ s := by exact_mod_cast positive
  have dividend : (n : Rat) < 2 ^ (53 : Int) := by exact_mod_cast small
  have narrowed : (s : Rat) < 2 ^ (53 : Int) := by exact_mod_cast bounded
  cases nonneg.eq_or_lt with
  | inl zero =>
    subst zero
    simpa using ceil?_zero
  | inr counted =>
    have numerator : (0 : Rat) < n := by exact_mod_cast counted
    have quotient : 0 < (n : Rat) / s := by positivity
    have half : (2 : Rat) ^ lastPlace ((n : Rat) / s) / 2 < 1 / s := by
      apply half_unit_lt quotient
      · rw [lt_div_iff₀ (by linarith)]
        calc (2 : Rat) ^ (-1075 : Int) * s < 2 ^ (-1075 : Int) * 2 ^ (53 : Int) := by gcongr
          _ = 2 ^ (-1022 : Int) := by rw [← zpow_add₀ two_ne_zero]; rfl
          _ ≤ 2 ^ (0 : Int) := (zpow_le_zpow_iff_right₀ one_lt_two).mpr (by decide)
          _ = 1 := zpow_zero _
      · rw [div_right_comm]
        gcongr
        rw [div_lt_one (by positivity)]
        exact dividend
    apply ceil?_ofRat quotient
    · exact (div_le_self numerator.le divisor).trans_lt dividend
    · have reached := below_quotient (n := n) positive
      linarith

end SearchStore.Binary64
