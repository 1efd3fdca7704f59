import WallClock.Proofs.Calendar.Order
import WallClock.Proofs.Stamp.RoundTrip
import WallClock.Proofs.Text.Fields

/-!
# The shape of written stamps

The text of a stamp has the shape `Y-MM-DDTHH:mm`, with a year of up to six digits
(`Stamp.Valid.shaped`). A minus sign stands both before years and between numbers, and years differ
in length; still a stamp can be told from its text (`Stamp.text_injective`), as a text begins with
a minus sign only if the year is negative, and fields end at the first character that is no digit.
Texts with years of four digits are in the order of the stamps (`Stamp.Valid.text_lt_text_iff`).
`Zone.render_shape` says this of what is written for instants.
-/

namespace WallClock
namespace Stamp

open Text

/-- The shape `Y-MM-DDTHH:mm`. The year has four to six digits, with zeros in front only up to four,
and a minus sign or none; the others have two digits. -/
inductive Shaped : List Char → Prop
  | mk {sign year month day hour minute : List Char} {m d h n : Nat} : sign = [] ∨ sign = ['-'] →
    IsPadded 4 year → year.length ≤ 6 → IsField 2 m month → IsField 2 d day → IsField 2 h hour →
    IsField 2 n minute →
    Shaped (sign ++ year ++ '-' :: month ++ '-' :: day ++ 'T' :: hour ++ ':' :: minute)

variable {s s' : Stamp} {year year' : Int} {c : Char} {rest rest' : List Char}

/-! ## Years -/

/-- A year begins with a minus sign if it is negative, and with a digit otherwise. -/
theorem first_of_yearText (h : yearText year ++ rest = c :: rest') :
    year < 0 ∧ c = '-' ∨ 0 ≤ year ∧ c.isDigit = true := by
  rcases Int.lt_or_le year 0 with hneg | hnonneg
  · rw [yearText_of_neg hneg] at h
    exact .inl ⟨hneg, (List.cons.inj h).1.symm⟩
  · rw [yearText_of_nonneg hnonneg] at h
    have hdigit := (digits_padded 4 _).isDigit_of_append_eq_cons (one_le_length_padded 4 _) h
    exact .inr ⟨hnonneg, hdigit⟩

theorem yearText_append_inj (h : yearText year ++ '-' :: rest = yearText year' ++ '-' :: rest') :
    year = year' ∧ rest = rest' := by
  have hdash : '-'.isDigit = false := rfl
  rcases Int.lt_or_le year 0 with hneg | hnonneg
  · rw [yearText_of_neg hneg] at h
    rcases first_of_yearText h.symm with ⟨hneg', -⟩ | ⟨-, hdigit⟩
    · rw [yearText_of_neg hneg'] at h
      obtain ⟨habs, hrest⟩ := padded_append_inj hdash (List.cons.inj h).2
      exact ⟨by omega, hrest⟩
    · exact absurd hdigit (by decide)
  · rcases Int.lt_or_le year' 0 with hneg' | hnonneg'
    · rw [yearText_of_neg hneg'] at h
      rcases first_of_yearText h with ⟨hneg, -⟩ | ⟨-, hdigit⟩
      · exact absurd hnonneg (Int.not_le.2 hneg)
      · exact absurd hdigit (by decide)
    · rw [yearText_of_nonneg hnonneg, yearText_of_nonneg hnonneg'] at h
      obtain ⟨habs, hrest⟩ := padded_append_inj hdash h
      exact ⟨by omega, hrest⟩

/-- Years of four digits without a sign are those from 0 to 9999. -/
theorem length_yearText_eq_four_iff (h : 0 ≤ year) :
    (yearText year).length = 4 ↔ year ≤ 9999 := by
  rw [yearText_of_nonneg h]
  constructor
  · intro hlength
    refine Int.not_lt.1 fun hlt => ?_
    have hlong : 4 < (padded 4 year.natAbs).length := lt_length_padded (by decide) (by omega)
    omega
  · intro hle
    exact length_padded (by decide) (by omega)

theorem exists_sign_yearText (hfirst : Calendar.firstYear ≤ year)
    (hlast : year ≤ Calendar.lastYear) : ∃ sign digits, yearText year = sign ++ digits ∧
      (sign = [] ∨ sign = ['-']) ∧ IsPadded 4 digits ∧ digits.length ≤ 6 := by
  have hdigits : IsPadded 4 (padded 4 year.natAbs) := isPadded_padded (by decide) _
  have hlength : (padded 4 year.natAbs).length ≤ 6 := by
    refine length_padded_le (by decide) (by decide) ?_
    unfold Calendar.firstYear at hfirst
    unfold Calendar.lastYear at hlast
    omega
  rcases Int.lt_or_le year 0 with hneg | hnonneg
  · exact ⟨['-'], _, yearText_of_neg hneg, .inr rfl, hdigits, hlength⟩
  · exact ⟨[], _, yearText_of_nonneg hnonneg, .inl rfl, hdigits, hlength⟩

/-! ## Stamps -/

/-- A stamp can be told from a text that begins with it and goes on with no digit. -/
theorem text_append_inj (hc : c.isDigit = false)
    (h : s.text ++ c :: rest = s'.text ++ c :: rest') : s = s' ∧ rest = rest' := by
  simp only [text_eq, List.append_assoc, List.cons_append] at h
  obtain ⟨hyear, h⟩ := yearText_append_inj h
  obtain ⟨hmonth, h⟩ := padded_append_inj rfl h
  obtain ⟨hday, h⟩ := padded_append_inj rfl h
  obtain ⟨hhour, h⟩ := padded_append_inj rfl h
  obtain ⟨hminute, hrest⟩ := padded_append_inj hc h
  obtain ⟨⟨_, _, _⟩, _, _⟩ := s
  obtain ⟨⟨_, _, _⟩, _, _⟩ := s'
  simp_all

theorem text_injective : Function.Injective text := by
  intro s s' h
  have hspace : s.text ++ [' '] = s'.text ++ [' '] := congrArg (· ++ [' ']) h
  exact (text_append_inj rfl hspace).1

theorem ofDateTime_eq_iff {d d' : DateTime} : ofDateTime d = ofDateTime d' ↔
    d.date = d'.date ∧ d.time.hour = d'.time.hour ∧ d.time.minute = d'.time.minute := by
  simp [ofDateTime]

theorem text_ne_missingText (s : Stamp) : s.text ≠ missingText := by
  intro h
  rw [text_eq] at h
  rcases first_of_yearText (c := 'N') h with ⟨-, hsign⟩ | ⟨-, hdigit⟩
  · exact absurd hsign (by decide)
  · exact absurd hdigit (by decide)

theorem head?_text_eq_iff (s : Stamp) : s.text.head? = some '-' ↔ s.date.year < 0 := by
  obtain ⟨c, rest, hc⟩ : ∃ c rest, s.text = c :: rest :=
    List.exists_cons_of_ne_nil (by simp [text_eq])
  rw [hc, List.head?_cons, Option.some.injEq]
  rw [text_eq] at hc
  rcases first_of_yearText hc with ⟨hneg, rfl⟩ | ⟨hnonneg, hdigit⟩
  · exact iff_of_true rfl hneg
  · refine iff_of_false ?_ (Int.not_lt.2 hnonneg)
    rintro rfl
    exact absurd hdigit (by decide)

theorem numbers_lt_numbers_iff : s.numbers < s'.numbers ↔ s.date.year < s'.date.year ∨
    s.date.year = s'.date.year ∧ (s.date.month < s'.date.month ∨
      s.date.month = s'.date.month ∧ (s.date.day < s'.date.day ∨
        s.date.day = s'.date.day ∧ (s.hour < s'.hour ∨
          s.hour = s'.hour ∧ s.minute < s'.minute))) := by
  obtain ⟨⟨_, _, _⟩, _, _⟩ := s
  obtain ⟨⟨_, _, _⟩, _, _⟩ := s'
  rw [numbers_lt_numbers, Date.numbers_lt_numbers, Date.mk.injEq]
  dsimp only
  omega

namespace Valid

variable (h : s.Valid)
include h

theorem isField : IsField 2 s.date.month (padded 2 s.date.month) ∧
    IsField 2 s.date.day (padded 2 s.date.day) ∧ IsField 2 s.hour (padded 2 s.hour) ∧
    IsField 2 s.minute (padded 2 s.minute) := by
  obtain ⟨hmonth, hday, hhour, hminute⟩ := h.numbers_lt
  exact ⟨isField_padded (by decide) hmonth, isField_padded (by decide) hday,
    isField_padded (by decide) hhour, isField_padded (by decide) hminute⟩

theorem shaped : Shaped s.text := by
  obtain ⟨sign, digits, hyear, hsign, hdigits, hlength⟩ :=
    exists_sign_yearText h.date.firstYear_le h.date.le_lastYear
  obtain ⟨hmonth, hday, hhour, hminute⟩ := h.isField
  rw [text, hyear]
  exact .mk hsign hdigits hlength hmonth hday hhour hminute

theorem length_text : s.text.length = (yearText s.date.year).length + 12 := by
  obtain ⟨hmonth, hday, hhour, hminute⟩ := h.isField
  rw [text_eq]
  simp only [List.length_append, List.length_cons, hmonth.length_eq, hday.length_eq,
    hhour.length_eq, hminute.length_eq]

theorem length_text_eq_iff : s.text.length = 16 ∧ s.text.head? ≠ some '-' ↔
    0 ≤ s.date.year ∧ s.date.year ≤ 9999 := by
  rw [h.length_text, Ne, s.head?_text_eq_iff, Int.not_lt, and_comm]
  refine and_congr_right fun hnonneg => ?_
  rw [← length_yearText_eq_four_iff hnonneg]
  omega

/-- Texts with years of four digits are in the order of the stamps. -/
theorem text_lt_text_iff (h' : s'.Valid) (hfirst : 0 ≤ s.date.year) (hlast : s.date.year ≤ 9999)
    (hfirst' : 0 ≤ s'.date.year) (hlast' : s'.date.year ≤ 9999) :
    s.text < s'.text ↔ s.numbers < s'.numbers := by
  obtain ⟨hmonth, hday, hhour, hminute⟩ := h.numbers_lt
  obtain ⟨hmonth', hday', hhour', hminute'⟩ := h'.numbers_lt
  have hyears : s.date.year.natAbs < 10 ^ 4 ∧ s'.date.year.natAbs < 10 ^ 4 := by omega
  rw [text_eq, text_eq, yearText_of_nonneg hfirst, yearText_of_nonneg hfirst',
    padded_append_lt_iff (by decide) hyears.1 hyears.2,
    padded_append_lt_iff (by decide) hmonth hmonth', padded_append_lt_iff (by decide) hday hday',
    padded_append_lt_iff (by decide) hhour hhour',
    padded_lt_padded_iff (by decide) hminute hminute', numbers_lt_numbers_iff]
  omega

end Valid
end Stamp

namespace Zone

open Stamp

section
variable [Database] {z : Zone} {t : Instant} {d : DateTime} {text : String}

theorem eq_of_render_eq (hrender : z.render t = some text) (h : z.read t = .shows d) :
    text = String.ofList (ofDateTime d).text :=
  Option.some.inj (hrender.symm.trans (render_of_read h))

theorem eq_missingText_iff (hrender : z.render t = some text) :
    text = String.ofList missingText ↔ z.read t = .absent := by
  rcases render_eq_some_iff.1 hrender with ⟨hread, rfl⟩ | ⟨d, hread, rfl⟩
  · exact iff_of_true rfl hread
  · have hne : String.ofList (ofDateTime d).text ≠ String.ofList missingText :=
      fun heq => text_ne_missingText _ (String.ofList_injective heq)
    exact iff_of_false hne (by simp [hread])

end

/-- What is written for an instant. Without a reading it is the missing text, and nothing else is.
A reading is written in the shape `Y-MM-DDTHH:mm`, as its stamp is, and in 16 characters without a
sign just in the years from 0 to 9999. Two readings, in any zones, have the same text just when they
are of the same minute; and the texts of readings in those years are in the order of the minutes. -/
theorem render_shape [Database] :
    (∀ (z : Zone) (t : Instant) (text : String), z.render t = some text →
      (text = "NaN-NaN-NaNTNaN:NaN" ↔ z.read t = .absent) ∧
      ∀ d, z.read t = .shows d → Shaped text.toList ∧ Written text.toList (ofDateTime d) ∧
        (text.length = 16 ∧ text.toList.head? ≠ some '-' ↔
          0 ≤ d.date.year ∧ d.date.year ≤ 9999)) ∧
    ∀ (z z' : Zone) (t t' : Instant) (d d' : DateTime), z.read t = .shows d →
      z'.read t' = .shows d' → ∃ text text', z.render t = some text ∧ z'.render t' = some text' ∧
        (text = text' ↔ d.date = d'.date ∧ d.time.hour = d'.time.hour ∧
          d.time.minute = d'.time.minute) ∧
        (0 ≤ d.date.year → d.date.year ≤ 9999 → 0 ≤ d'.date.year → d'.date.year ≤ 9999 →
          (text < text' ↔ (ofDateTime d).numbers < (ofDateTime d').numbers)) := by
  refine ⟨fun z t text hrender => ⟨?_, fun d h => ?_⟩, fun z z' t t' d d' h h' => ?_⟩
  · rw [← eq_missingText_iff hrender]
    rfl
  · have hs : (ofDateTime d).Valid := valid_ofDateTime (Timeline.valid_of_read h)
    rw [eq_of_render_eq hrender h, String.length_ofList, String.toList_ofList]
    exact ⟨hs.shaped, (written_iff hs).2 rfl, hs.length_text_eq_iff⟩
  · have hs : (ofDateTime d).Valid := valid_ofDateTime (Timeline.valid_of_read h)
    have hs' : (ofDateTime d').Valid := valid_ofDateTime (Timeline.valid_of_read h')
    refine ⟨_, _, render_of_read h, render_of_read h', ?_, fun hfirst hlast hfirst' hlast' => ?_⟩
    · rw [String.ofList_inj, text_injective.eq_iff, ofDateTime_eq_iff]
    · change (String.ofList _).toList < (String.ofList _).toList ↔ _
      rw [String.toList_ofList, String.toList_ofList]
      exact hs.text_lt_text_iff hs' hfirst hlast hfirst' hlast'

section
attribute [local instance] Database.recorded

/-- The last instant has no reading, and a reading before year 0 has a sign. In Caracas two instants
had the same text in the night when clocks were put back; it comes after that of the leap day of
year 0. -/
theorem render_shape_caracas :
    caracas.read (.ofInt 8640000000000000) = .absent ∧
    (Shaped "-0001-12-31T23:59".toList ∧
      ¬("-0001-12-31T23:59".length = 16 ∧ "-0001-12-31T23:59".toList.head? ≠ some '-')) ∧
    (∃ text text', caracas.render (.ofInt 1197182700000) = some text ∧
      caracas.render (.ofInt 1197184500000) = some text' ∧ text = text') ∧
    ∃ text text', host.render (.ofInt (-62162121600000)) = some text ∧
      caracas.render (.ofInt 1197184500000) = some text' ∧ text < text' := by
  obtain ⟨hshape, hpairs⟩ := render_shape
  have hleap : host.read (.ofInt (-62162121600000)) = .shows ⟨⟨0, 2, 29⟩, ⟨0, 0, 0, 0⟩⟩ := by rfl
  have hfirst : caracas.read (.ofInt 1197182700000) = .shows ⟨⟨2007, 12, 9⟩, ⟨2, 45, 0, 0⟩⟩ := by
    rfl
  have hsecond : caracas.read (.ofInt 1197184500000) = .shows ⟨⟨2007, 12, 9⟩, ⟨2, 45, 0, 0⟩⟩ := by
    rfl
  refine ⟨?_, ?_, ?_, ?_⟩
  · exact (hshape caracas (.ofInt 8640000000000000) "NaN-NaN-NaNTNaN:NaN" (by rfl)).1.1 rfl
  · obtain ⟨-, hsigned⟩ := hshape caracas (.ofInt (-62167203196000)) "-0001-12-31T23:59" (by rfl)
    obtain ⟨hshaped, -, hlength⟩ := hsigned ⟨⟨-1, 12, 31⟩, ⟨23, 59, 0, 0⟩⟩ (by rfl)
    exact ⟨hshaped, fun h => absurd (hlength.1 h).1 (by decide)⟩
  · obtain ⟨text, text', htext, htext', hsame, -⟩ := hpairs _ _ _ _ _ _ hfirst hsecond
    exact ⟨text, text', htext, htext', hsame.2 ⟨rfl, rfl, rfl⟩⟩
  · obtain ⟨text, text', htext, htext', -, horder⟩ := hpairs _ _ _ _ _ _ hleap hsecond
    have hlt := horder (by decide) (by decide) (by decide) (by decide)
    exact ⟨text, text', htext, htext', hlt.2 (by decide)⟩

end

end Zone
end WallClock
