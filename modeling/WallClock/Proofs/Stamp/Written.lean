import WallClock.Proofs.Calendar.DayNumber
import WallClock.Proofs.Stamp.Spelling

/-!
# The written form of a stamp

`Stamp.Written` says how a stamp is written. Each stamp has one such form, which is its text
(`Stamp.written_iff`). The text of a stamp of the calendar is read back
(`Stamp.spells_text`) unless its year needs a fifth digit and has no sign to allow for it
(`Stamp.not_spells_text`).
-/

namespace WallClock
namespace Stamp

open Text

/-- The written form of a year: four digits or more, without zeros in front of more than four,
and a minus sign if the year is negative. -/
inductive WrittenYear : List Char → Int → Prop
  | nonneg {ds : List Char} : IsPadded 4 ds → WrittenYear ds (digitsValue ds : Nat)
  | neg {ds : List Char} : IsPadded 4 ds → 0 < digitsValue ds →
    WrittenYear ('-' :: ds) (-(digitsValue ds : Nat))

/-- The written form of every other number: two digits. -/
inductive WrittenShort : List Char → Nat → Prop
  | mk {ds : List Char} : Digits ds → ds.length = 2 → WrittenShort ds (digitsValue ds)

/-- The written form of a stamp. -/
inductive Written : List Char → Stamp → Prop
  | mk {year month day hour minute : List Char} {s : Stamp} : WrittenYear year s.date.year →
    WrittenShort month s.date.month → WrittenShort day s.date.day → WrittenShort hour s.hour →
    WrittenShort minute s.minute →
    Written (year ++ '-' :: month ++ '-' :: day ++ 'T' :: hour ++ ':' :: minute) s

theorem yearText_of_nonneg {year : Int} (h : 0 ≤ year) : yearText year = padded 4 year.natAbs :=
  if_neg (Int.not_lt.2 h)

theorem yearText_of_neg {year : Int} (h : year < 0) :
    yearText year = '-' :: padded 4 year.natAbs := if_pos h

theorem text_eq (s : Stamp) : s.text = yearText s.date.year ++ '-' :: (padded 2 s.date.month ++
    '-' :: (padded 2 s.date.day ++ 'T' :: (padded 2 s.hour ++ ':' :: padded 2 s.minute))) := by
  simp [text]

theorem writtenYear_iff {cs : List Char} {year : Int} :
    WrittenYear cs year ↔ cs = yearText year := by
  constructor
  · rintro (⟨hds⟩ | ⟨hds, hpos⟩)
    · rw [yearText_of_nonneg (Int.natCast_nonneg _), Int.natAbs_natCast]
      exact hds.eq_padded (Nat.succ_pos 3)
    · rw [yearText_of_neg (by omega), Int.natAbs_neg, Int.natAbs_natCast,
        ← hds.eq_padded (Nat.succ_pos 3)]
  · rintro rfl
    have hpadded : IsPadded 4 (padded 4 year.natAbs) := isPadded_padded (Nat.succ_pos 3) _
    have hvalue := digitsValue_padded 4 year.natAbs
    rw [yearText]
    split
    case isTrue hneg =>
      have h := WrittenYear.neg hpadded (by omega)
      rwa [hvalue, show -(year.natAbs : Int) = year by omega] at h
    case isFalse hnonneg =>
      have h := WrittenYear.nonneg hpadded
      rwa [hvalue, show (year.natAbs : Int) = year by omega] at h

theorem spellsYear_yearText {year : Int} (h : year ≤ 9999) : SpellsYear (yearText year) year := by
  have hds := digits_padded 4 year.natAbs
  have hpos := one_le_length_padded 4 year.natAbs
  have hvalue := digitsValue_padded 4 year.natAbs
  rw [yearText]
  split
  · have h := SpellsYear.minus hds hpos
    rwa [hvalue, show -(year.natAbs : Int) = year by omega] at h
  · have hlen : (padded 4 year.natAbs).length = 4 := length_padded (by decide) (by omega)
    have h := SpellsYear.plain hds hpos (Nat.le_of_eq hlen)
    rwa [hvalue, show (year.natAbs : Int) = year by omega] at h

theorem writtenShort_iff {cs : List Char} {n : Nat} (h : n < 100) :
    WrittenShort cs n ↔ cs = padded 2 n := by
  have hdigits := digits_padded 2 n
  have hlen : (padded 2 n).length = 2 := length_padded (Nat.succ_pos 1) h
  have hvalue := digitsValue_padded 2 n
  constructor
  · rintro ⟨hds, hlen'⟩
    exact hds.eq_of_digitsValue_eq hdigits (hlen'.trans hlen.symm) hvalue.symm
  · rintro rfl
    have h := WrittenShort.mk hdigits hlen
    rwa [hvalue] at h

theorem spellsShort_padded {n : Nat} (h : n < 100) : SpellsShort (padded 2 n) n := by
  have hlen : (padded 2 n).length = 2 := length_padded (Nat.succ_pos 1) h
  have h := @SpellsShort.mk [] _ nofun (digits_padded 2 n) (by omega) (by omega)
  rwa [digitsValue_padded] at h

theorem noBlankFirst_text (s : Stamp) : NoBlankFirst s.text := by
  simp only [text, List.append_assoc, yearText]
  split
  · rintro _ ⟨⟩
    decide
  · exact (digits_padded 4 _).noBlankFirst (one_le_length_padded 4 _) _

theorem isTrimmed_text (s : Stamp) : IsTrimmed s.text s.text := by
  refine isTrimmed_self (noBlankFirst_text s) ?_
  have h := (digits_padded 2 s.minute).noBlankLast (one_le_length_padded 2 s.minute)
    (yearText s.date.year ++ '-' :: padded 2 s.date.month ++ '-' :: padded 2 s.date.day ++
      'T' :: padded 2 s.hour ++ [':'])
  simpa [text] using h

theorem Valid.numbers_lt {s : Stamp} (h : s.Valid) :
    s.date.month < 100 ∧ s.date.day < 100 ∧ s.hour < 100 ∧ s.minute < 100 := by
  have hmonth := h.date.month_le
  have hday := h.date.day_le
  have hlength := Calendar.monthLength_le s.date.year s.date.month
  have hhour := h.hour_lt
  have hminute := h.minute_lt
  omega

/-- The text of a stamp is its one written form. -/
theorem written_iff {cs : List Char} {s : Stamp} (h : s.Valid) : Written cs s ↔ cs = s.text := by
  obtain ⟨hmonth, hday, hhour, hminute⟩ := h.numbers_lt
  constructor
  · rintro ⟨hyear', hmonth', hday', hhour', hminute'⟩
    rw [text, writtenYear_iff.1 hyear', (writtenShort_iff hmonth).1 hmonth',
      (writtenShort_iff hday).1 hday', (writtenShort_iff hhour).1 hhour',
      (writtenShort_iff hminute).1 hminute']
  · rintro rfl
    exact .mk (writtenYear_iff.2 rfl) ((writtenShort_iff hmonth).2 rfl)
      ((writtenShort_iff hday).2 rfl) ((writtenShort_iff hhour).2 rfl)
      ((writtenShort_iff hminute).2 rfl)

/-- The text of a stamp spells it, up to the year 9999. -/
theorem spells_text {s : Stamp} (h : s.Valid) (hyear : s.date.year ≤ 9999) : Spells s.text s := by
  obtain ⟨hmonth, hday, hhour, hminute⟩ := h.numbers_lt
  exact .mk (spellsYear_yearText hyear) (spellsShort_padded hmonth) (spellsShort_padded hday)
    (spellsShort_padded hhour) (spellsShort_padded hminute)

/-- After the year 9999, the text of a stamp spells nothing: a year of five digits has no sign. -/
theorem not_spells_text {s s' : Stamp} (hyear : 9999 < s.date.year) : ¬Spells s.text s' := by
  intro h
  have hread := readNumbers?_complete h
  have hlong : 4 < (padded 4 s.date.year.natAbs).length := lt_length_padded (by decide) (by omega)
  rw [text_eq, yearText_of_nonneg (by omega), readNumbers?, readYear_digits (digits_padded 4 _)
    (one_le_length_padded 4 _) (noDigitFirst_cons rfl), if_neg (Nat.not_le.2 hlong)] at hread
  cases hread

end Stamp
end WallClock
