import WallClock.Instant.Basic

/-!
# The order of instants

An instant is given by its milliseconds (`Instant.eq_of_millis?`), and valid instants are ordered
as their milliseconds are (`Instant.lt_iff_of_millis?`, `Instant.le_iff_of_millis?`).
-/

namespace WallClock
namespace Instant

theorem millis?_ofInt {ms : Int} (h : ms.natAbs ≤ maxMillis) : (ofInt ms).millis? = some ms := by
  rw [ofInt, dif_pos h, millis?]

theorem eq_of_millis? {a b : Instant} {ms : Int} (ha : a.millis? = some ms)
    (hb : b.millis? = some ms) : a = b := by
  cases a <;> cases b <;> simp_all [millis?]

theorem eq_of_millis?_eq {a b : Instant} (h : a.millis? = b.millis?) : a = b := by
  cases a <;> cases b <;> simp_all [millis?]

theorem eq_ofInt_of_millis? {t : Instant} {ms : Int} (h : t.millis? = some ms) : t = ofInt ms := by
  cases t with
  | invalid => nomatch h
  | valid x bounded =>
    cases h
    exact eq_of_millis? rfl (millis?_ofInt bounded)

theorem order?_of_millis? {a b : Instant} {x y : Int} (ha : a.millis? = some x)
    (hb : b.millis? = some y) : a.order? b = some (compare x y) := by
  cases a <;> cases b <;> simp_all [millis?, order?]

theorem before_iff {a b : Instant} {x y : Int} (ha : a.millis? = some x) (hb : b.millis? = some y) :
    a.before b ↔ x < y := by
  rw [before, order?_of_millis? ha hb, beq_iff_eq, Option.some.injEq, Int.compare_eq_lt]

theorem lt_iff_of_millis? {a b : Instant} {x y : Int} (ha : a.millis? = some x)
    (hb : b.millis? = some y) : a < b ↔ x < y := before_iff ha hb

theorem le_iff_of_millis? {a b : Instant} {x y : Int} (ha : a.millis? = some x)
    (hb : b.millis? = some y) : a ≤ b ↔ x ≤ y := by
  change a.before b ∨ a.sameTime b ↔ x ≤ y
  rw [before_iff ha hb, sameTime, order?_of_millis? ha hb, beq_iff_eq, Option.some.injEq,
    Int.compare_eq_eq]
  omega

/-- Only valid instants compare. -/
theorem exists_millis?_of_lt {a b : Instant} (h : a < b) :
    ∃ x y, a.millis? = some x ∧ b.millis? = some y ∧ x < y := by
  have hbefore : a.before b = true := h
  cases a with
  | invalid => simp [before, order?] at hbefore
  | valid x _ =>
    cases b with
    | invalid => simp [before, order?] at hbefore
    | valid y _ => exact ⟨x, y, rfl, rfl, (lt_iff_of_millis? rfl rfl).1 h⟩

theorem le_of_lt {a b : Instant} (h : a < b) : a ≤ b := by
  obtain ⟨x, y, ha, hb, hxy⟩ := exists_millis?_of_lt h
  exact (le_iff_of_millis? ha hb).2 (Int.le_of_lt hxy)

theorem not_le_of_lt {a b : Instant} (h : a < b) : ¬b ≤ a := by
  obtain ⟨x, y, ha, hb, hxy⟩ := exists_millis?_of_lt h
  exact fun hle => Int.not_le.2 hxy ((le_iff_of_millis? hb ha).1 hle)

theorem lt_asymm {a b : Instant} (h : a < b) : ¬b < a := fun h' => not_le_of_lt h (le_of_lt h')

theorem lt_irrefl (a : Instant) : ¬a < a := fun h => lt_asymm h h

theorem ne_of_lt {a b : Instant} (h : a < b) : a ≠ b := by
  rintro rfl
  exact lt_irrefl a h

end Instant
end WallClock
