import WallClock.Proofs.Binary64.Nearest
import WallClock.Proofs.Instant.Clip

/-!
# Shifts are monotone

Shifting by a double keeps the order of instants and follows that of the amounts, fractions
included, as far as the outcomes are valid (`Instant.shift_le_shift`), and the amounts with a valid
outcome are an interval (`Instant.isValid_shift_of_le_of_le`). No product on the way needs to be
exact for that: each of them, and the sum, goes to the nearest double, and then the fraction is cut
off. Every one of these steps is monotone.
-/

namespace WallClock

open Binary64

/-- The amount of a step in milliseconds grows with the amount in units. -/
theorem Step.delta_le_delta {a b : Binary64} (unit : TimeUnit) (h : a ≤ b) :
    (⟨unit, a⟩ : Step).delta ≤ (⟨unit, b⟩ : Step).delta := by
  have scale {k : Int} {a b : Binary64} (hk : 0 < k) (hle : k.natAbs ≤ 2 ^ 53) (h : a ≤ b) :
      .ofInt k * a ≤ .ofInt k * b := by
    have hunits := int?_eq_some_iff.1 (int?_ofInt (onGrid_of_le hle))
    exact mul_le_mul_left hunits (Int.mul_pos hk natCast_unitsPerOne_pos) h
  have seconds {a b : Binary64} (h : a ≤ b) : .ofInt 1000 * a ≤ .ofInt 1000 * b :=
    scale (by decide) (by decide) h
  have sixty {a b : Binary64} (h : a ≤ b) : .ofInt 60 * a ≤ .ofInt 60 * b :=
    scale (by decide) (by decide) h
  cases unit with
  | days => exact seconds (sixty (sixty (scale (by decide) (by decide) h)))
  | hours => exact seconds (sixty (sixty h))
  | minutes => exact seconds (sixty h)
  | seconds => exact seconds h
  | millis => exact h

namespace Instant

variable {t u : Instant} {a b c : Binary64} {unit : TimeUnit}

theorem isValid_of_isValid_shift {step : Step} (h : (t.shift step).isValid = true) :
    t.isValid = true := by
  cases t with
  | invalid =>
    rw [invalid_shift] at h
    exact h
  | valid => rfl

/-- A later instant shifted by more is later. -/
theorem shift_le_shift (htu : t ≤ u) (hab : a ≤ b) (ht : (t.shift ⟨unit, a⟩).isValid = true)
    (hu : (u.shift ⟨unit, b⟩).isValid = true) : t.shift ⟨unit, a⟩ ≤ u.shift ⟨unit, b⟩ := by
  obtain ⟨x, hx⟩ := isValid_iff.1 (isValid_of_isValid_shift ht)
  obtain ⟨y, hy⟩ := isValid_iff.1 (isValid_of_isValid_shift hu)
  have hmillis : t.millis ≤ u.millis := by
    rw [le_iff_of_int? (int?_millis hx) (int?_millis hy)]
    exact (le_iff_of_millis? hx hy).1 htu
  have hsum : t.millis + Step.delta ⟨unit, a⟩ ≤ u.millis + Step.delta ⟨unit, b⟩ :=
    add_le_add (int?_eq_some_iff.1 (int?_millis hx)) (int?_eq_some_iff.1 (int?_millis hy)) hmillis
      (Step.delta_le_delta unit hab)
  rw [shift_eq_addMillis] at ht hu ⊢
  rw [shift_eq_addMillis]
  exact ofMillis_le_ofMillis hsum ht hu

/-- What lies between two amounts that stay in range stays in range. -/
theorem isValid_shift_of_le_of_le (hac : a ≤ c) (hcb : c ≤ b)
    (ha : (t.shift ⟨unit, a⟩).isValid = true) (hb : (t.shift ⟨unit, b⟩).isValid = true) :
    (t.shift ⟨unit, c⟩).isValid = true := by
  obtain ⟨x, hx⟩ := isValid_iff.1 (isValid_of_isValid_shift ha)
  have hsum {a b : Binary64} (h : a ≤ b) :
      t.millis + Step.delta ⟨unit, a⟩ ≤ t.millis + Step.delta ⟨unit, b⟩ :=
    add_le_add_left (int?_eq_some_iff.1 (int?_millis hx)) (Step.delta_le_delta unit h)
  rw [shift_eq_addMillis, addMillis, isValid_ofMillis_iff] at ha hb ⊢
  exact ⟨Binary64.le_trans ha.1 (hsum hac), Binary64.le_trans (hsum hcb) hb.2⟩

theorem le_refl_of_isValid (h : t.isValid = true) : t ≤ t := by
  obtain ⟨x, hx⟩ := isValid_iff.1 h
  exact (le_iff_of_millis? hx hx).2 (Int.le_refl x)

theorem int?_ofInt_zero : (Binary64.ofInt 0).int? = some 0 := int?_ofInt (onGrid_of_le (by decide))

theorem le_shift (ha : .ofInt 0 ≤ a) (h : (t.shift ⟨unit, a⟩).isValid = true) :
    t ≤ t.shift ⟨unit, a⟩ := by
  have ht := isValid_of_isValid_shift h
  have hzero := shift_of_int?_eq_zero (t := t) unit int?_ofInt_zero
  have hle := shift_le_shift (le_refl_of_isValid ht) ha (hzero.symm ▸ ht) h
  rwa [hzero] at hle

theorem shift_le (ha : a ≤ .ofInt 0) (h : (t.shift ⟨unit, a⟩).isValid = true) :
    t.shift ⟨unit, a⟩ ≤ t := by
  have ht := isValid_of_isValid_shift h
  have hzero := shift_of_int?_eq_zero (t := t) unit int?_ofInt_zero
  have hle := shift_le_shift (le_refl_of_isValid ht) ha h (hzero.symm ▸ ht)
  rwa [hzero] at hle

/-- Shifts by every unit keep the order of instants and follow that of the amounts, whole or not, as
far as the outcomes are valid, and between two amounts with valid outcomes are only such. So nothing
is moved backwards by what is not negative, nor forwards by what is not positive. The products and
the sum on the way are the exact ones, rounded to the nearest double. -/
theorem shift_monotone (unit : TimeUnit) :
    (∀ (t u : Instant) (a b : Binary64), t ≤ u → a ≤ b → (t.shift ⟨unit, a⟩).isValid = true →
      (u.shift ⟨unit, b⟩).isValid = true → t.shift ⟨unit, a⟩ ≤ u.shift ⟨unit, b⟩) ∧
    (∀ (t : Instant) (a b c : Binary64), a ≤ c → c ≤ b → (t.shift ⟨unit, a⟩).isValid = true →
      (t.shift ⟨unit, b⟩).isValid = true → (t.shift ⟨unit, c⟩).isValid = true) ∧
    (∀ (t : Instant) (a : Binary64), (t.shift ⟨unit, a⟩).isValid = true →
      (.ofInt 0 ≤ a → t ≤ t.shift ⟨unit, a⟩) ∧ (a ≤ .ofInt 0 → t.shift ⟨unit, a⟩ ≤ t)) ∧
    ∀ (a b : Binary64) (x y : Int), a.units? = some x → b.units? = some y →
      Rounds (x + y) 1 (a + b) ∧ Rounds (x * y) unitsPerOne (a * b) := by
  refine ⟨?_, ?_, ?_, ?_⟩
  · intro t u a b htu hab ht hu
    exact shift_le_shift htu hab ht hu
  · intro t a b c hac hcb ha hb
    exact isValid_shift_of_le_of_le hac hcb ha hb
  · intro t a h
    exact ⟨fun ha => le_shift ha h, fun ha => shift_le ha h⟩
  · intro a b x y ha hb
    exact ⟨rounds_add ha hb, rounds_mul ha hb⟩

/-- From a third of a day back to half a day on, and half a millisecond at the end of the range. -/
theorem shift_monotone_fractions :
    let back : Binary64 := .ofQuotient true unitsPerOne 3
    let on : Binary64 := .ofQuotient false unitsPerOne 2
    let last : Instant := .ofInt 8639999999999999
    epoch.shift ⟨.days, back⟩ ≤ (ofInt 42).shift ⟨.days, on⟩ ∧
      (epoch.shift ⟨.days, .ofQuotient false unitsPerOne 7⟩).isValid = true ∧
      epoch ≤ epoch.shift ⟨.days, on⟩ ∧ epoch.shift ⟨.days, back⟩ ≤ epoch ∧
      last ≤ last.shift ⟨.millis, on⟩ ∧
      ∃ x y, back.units? = some x ∧ on.units? = some y ∧
        Rounds (x + y) 1 (back + on) ∧ Rounds (x * y) unitsPerOne (back * on) := by
  intro back on last
  obtain ⟨hmono, hbetween, hsigns, hrounds⟩ := shift_monotone .days
  have hback : (epoch.shift ⟨.days, back⟩).isValid = true := by decide +kernel
  have hon : (epoch.shift ⟨.days, on⟩).isValid = true := by decide +kernel
  refine ⟨?_, ?_, ?_, ?_, ?_, ?_⟩
  · exact hmono _ _ _ _ (by decide) (by decide +kernel) hback (by decide +kernel)
  · exact hbetween _ back on _ (by decide +kernel) (by decide +kernel) hback hon
  · exact (hsigns _ on hon).1 (by decide +kernel)
  · exact (hsigns _ back hback).2 (by decide +kernel)
  · exact ((shift_monotone .millis).2.2.1 last on (by decide +kernel)).1 (by decide +kernel)
  · obtain ⟨x, hx⟩ : ∃ x, back.units? = some x := Option.isSome_iff_exists.1 (by decide +kernel)
    obtain ⟨y, hy⟩ : ∃ y, on.units? = some y := Option.isSome_iff_exists.1 (by decide +kernel)
    exact ⟨x, y, hx, hy, hrounds back on x y hx hy⟩

end Instant
end WallClock
