/-
Quotients with the fraction cut off.

`IsTruncated` says what such a quotient is without a word on how it is found: what is left over is
smaller than the divisor, and it lies on the side of the dividend.  There is never more than one
(`IsTruncated.unique`), so a number that has the property is the quotient that is found, and how the
quotient behaves when signs change or a factor is cancelled is read off the property.

It is also the truncated quotient of the library (`divTowardZero_eq_tdiv`), so what is known of that
one holds of it.
-/
import Mathlib.Data.Int.Order.Basic
import Storefront.Pricing

namespace Storefront

/-! ### As the library has it -/

theorem divTowardZero_eq_tdiv (n d : Int) : divTowardZero n d = n.tdiv d := by
  have habs : (n.tdiv d).natAbs = n.natAbs / d.natAbs := Int.natAbs_tdiv n d
  unfold divTowardZero
  by_cases hsame : 0 ≤ n ↔ 0 < d
  · have hsign : 0 ≤ n.tdiv d := by
      by_cases hn : 0 ≤ n
      · exact Int.tdiv_nonneg hn (Int.le_of_lt (hsame.mp hn))
      · have hd : ¬0 < d := fun hd => hn (hsame.mpr hd)
        exact Int.tdiv_nonneg_of_nonpos_of_nonpos (by omega) (by omega)
    rw [if_pos hsame]
    omega
  · have hsign : n.tdiv d ≤ 0 := by
      by_cases hn : 0 ≤ n
      · have hd : ¬0 < d := fun hd => hsame (iff_of_true hn hd)
        exact Int.tdiv_nonpos_of_nonneg_of_nonpos hn (by omega)
      · have hd : 0 < d := by
          by_contra hd
          exact hsame (iff_of_false hn hd)
        have hopposite := Int.tdiv_nonneg (a := -n) (b := d) (by omega) (by omega)
        rw [Int.neg_tdiv] at hopposite
        omega
    rw [if_neg hsame]
    omega

theorem divTowardZero_of_nonneg {n : Int} (h : 0 ≤ n) (d : Int) : divTowardZero n d = n / d := by
  rw [divTowardZero_eq_tdiv, Int.tdiv_eq_ediv_of_nonneg h]

theorem divTowardZero_neg (n d : Int) : divTowardZero (-n) d = -divTowardZero n d := by
  rw [divTowardZero_eq_tdiv, divTowardZero_eq_tdiv, Int.neg_tdiv]

/-! ### What a quotient is -/

/-- A quotient of `n` and `d` with the fraction cut off: what is left over is smaller than the
divisor and, unless it is nothing, has the sign of the dividend. -/
def IsTruncated (n d q : Int) : Prop :=
  ∃ r, n = q * d + r ∧ r.natAbs < d.natAbs ∧ (r = 0 ∨ r.sign = n.sign)

namespace IsTruncated

variable {n d q : Int}

/-- What is left over is on the side of the dividend. -/
theorem nonneg_of_side {r : Int} (hside : r = 0 ∨ r.sign = n.sign) (hn : 0 ≤ n) : 0 ≤ r := by
  rcases hside with rfl | hside
  · exact le_rfl
  · rwa [← Int.sign_nonneg_iff, hside, Int.sign_nonneg_iff]

theorem nonpos_of_side {r : Int} (hside : r = 0 ∨ r.sign = n.sign) (hn : n ≤ 0) : r ≤ 0 := by
  rcases hside with rfl | hside
  · exact le_rfl
  · rwa [← Int.sign_nonpos_iff, hside, Int.sign_nonpos_iff]

/-- There is no more than one quotient. -/
theorem unique {q' : Int} (h : IsTruncated n d q) (h' : IsTruncated n d q') : q = q' := by
  obtain ⟨r, hn, hr, hside⟩ := h
  obtain ⟨r', hn', hr', hside'⟩ := h'
  -- two remainders on one side are less than a divisor apart
  have hclose : (r' - r).natAbs < d.natAbs := by
    rcases le_total 0 n with hpos | hneg
    · have hr₀ := nonneg_of_side hside hpos
      have hr₀' := nonneg_of_side hside' hpos
      omega
    · have hr₀ := nonpos_of_side hside hneg
      have hr₀' := nonpos_of_side hside' hneg
      omega
  have hapart : (q - q') * d = r' - r := by
    rw [Int.sub_mul]
    omega
  have hnone : (q - q').natAbs * d.natAbs < 1 * d.natAbs := by
    rwa [← Int.natAbs_mul, hapart, Nat.one_mul]
  have hlt : (q - q').natAbs < 1 := Nat.lt_of_mul_lt_mul_right hnone
  omega

theorem neg_left (h : IsTruncated n d q) : IsTruncated (-n) d (-q) := by
  obtain ⟨r, hn, hr, hside⟩ := h
  refine ⟨-r, ?_, by omega, ?_⟩
  · rw [Int.neg_mul]
    omega
  · rw [Int.sign_neg, Int.sign_neg]
    omega

theorem neg_right (h : IsTruncated n d q) : IsTruncated n (-d) (-q) := by
  obtain ⟨r, hn, hr, hside⟩ := h
  exact ⟨r, by rwa [Int.neg_mul_neg], by omega, hside⟩

/-- A factor that both have makes no difference. -/
theorem mul_left {k : Int} (hk : k ≠ 0) (h : IsTruncated n d q) :
    IsTruncated (k * n) (k * d) q := by
  obtain ⟨r, hn, hr, hside⟩ := h
  refine ⟨k * r, ?_, ?_, ?_⟩
  · rw [hn, Int.mul_add, Int.mul_left_comm]
  · rw [Int.natAbs_mul, Int.natAbs_mul]
    exact Nat.mul_lt_mul_of_pos_left hr (Int.natAbs_pos.mpr hk)
  · rcases hside with rfl | hside
    · exact Or.inl (Int.mul_zero k)
    · exact Or.inr (by rw [Int.sign_mul, Int.sign_mul, hside])

end IsTruncated

/-- The quotient that is found is one. -/
theorem isTruncated_divTowardZero {n d : Int} (hd : d ≠ 0) :
    IsTruncated n d (divTowardZero n d) := by
  refine ⟨n.tmod d, ?_, ?_, ?_⟩
  · rw [divTowardZero_eq_tdiv, Int.mul_comm]
    exact (Int.mul_tdiv_add_tmod n d).symm
  · rw [Int.natAbs_tmod]
    exact Nat.mod_lt _ (Int.natAbs_pos.mpr hd)
  · by_cases hdvd : d ∣ n
    · exact Or.inl (Int.tmod_eq_zero_of_dvd hdvd)
    · exact Or.inr (by rw [Int.sign_tmod, if_neg hdvd])

/-- **A division keeps the whole part of the exact quotient**: what it finds is a truncated quotient
and the only one, it changes its sign with either argument, and it does not see a common factor. -/
theorem divTowardZero_truncates {n d : Int} (hd : d ≠ 0) :
    (∀ q, divTowardZero n d = q ↔ IsTruncated n d q) ∧
      divTowardZero (-n) d = -divTowardZero n d ∧ divTowardZero n (-d) = -divTowardZero n d ∧
        ∀ k, k ≠ 0 → divTowardZero (k * n) (k * d) = divTowardZero n d := by
  have hfound := isTruncated_divTowardZero (n := n) hd
  have hnegated : -d ≠ 0 := Int.neg_ne_zero.mpr hd
  refine ⟨fun q => ⟨?_, fun hq => hfound.unique hq⟩, ?_, ?_, fun k hk => ?_⟩
  · rintro rfl
    exact hfound
  · exact (isTruncated_divTowardZero hd).unique hfound.neg_left
  · exact (isTruncated_divTowardZero hnegated).unique hfound.neg_right
  · exact (isTruncated_divTowardZero (Int.mul_ne_zero hk hd)).unique (hfound.mul_left hk)

/-- Seven halves below zero are three below zero, and one half is left over below zero. -/
theorem divTowardZero_truncates_seven_halves :
    (2 : Int) ≠ 0 ∧ IsTruncated (-7) 2 (-3) ∧ divTowardZero 7 2 = 3 ∧ divTowardZero (-7) (-2) = 3 ∧
      divTowardZero (-3 * -7) (-3 * 2) = -3 := by
  have htwo : (2 : Int) ≠ 0 := by decide
  obtain ⟨hquotient, hleft, hright, hfactor⟩ := divTowardZero_truncates (n := -7) htwo
  have hfound : divTowardZero (-7) 2 = -3 := by decide
  rw [hfound] at hleft hright hfactor
  exact ⟨htwo, (hquotient _).mp hfound, hleft, hright, hfactor (-3) (by decide)⟩

end Storefront
