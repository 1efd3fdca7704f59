import WallClock.Instant.Display
import WallClock.Proofs.Stamp.Shape
import WallClock.Proofs.Zone.Ends

/-!
# The full text and the stamp of an instant

The full text of an instant is the stamp of universal time, with a plus sign in front after the year
9999, and the second and the milliseconds behind it (`Instant.fullText_eq`). It tells the reading
(`Instant.fullText_inj`), and with it the instant, as a clock of universal time shows the
millisecond (`Instant.millis?_of_read_utc`). In the years from 0 to 9999 full texts are in the order
of the milliseconds (`Instant.fullText_lt_iff`). `Instant.display_faithful` says this of instants.
-/

namespace WallClock

open Text

namespace DateTime

/-- The number of a reading's millisecond. -/
def milliNumber (d : DateTime) : Int := 1000 * d.secondNumber + (d.time.nanosecond / 1000000 : Nat)

theorem secondNumber_eq_start_add (d : DateTime) :
    d.secondNumber = (Stamp.ofDateTime d).start.secondNumber + d.time.second := by
  rw [Stamp.secondNumber_start]
  unfold secondNumber TimeOfDay.secondOfDay Stamp.ofDateTime
  dsimp only
  omega

/-- Apart from leap seconds, milliseconds are in the order of stamps, and within a minute in that of
seconds and of milliseconds. -/
theorem milliNumber_lt_iff {d d' : DateTime} (h : d.Valid) (h' : d'.Valid)
    (hnano : d.time.nanosecond < 1000000000) (hnano' : d'.time.nanosecond < 1000000000) :
    d.milliNumber < d'.milliNumber ↔ (Stamp.ofDateTime d).numbers < (Stamp.ofDateTime d').numbers ∨
      Stamp.ofDateTime d = Stamp.ofDateTime d' ∧ (d.time.second < d'.time.second ∨
        d.time.second = d'.time.second ∧
          d.time.nanosecond / 1000000 < d'.time.nanosecond / 1000000) := by
  have hs := Stamp.valid_ofDateTime h
  have hs' := Stamp.valid_ofDateTime h'
  have hsecond := h.time.second_lt
  have hsecond' := h'.time.second_lt
  have hstart := Stamp.secondNumber_start (Stamp.ofDateTime d)
  have hstart' := Stamp.secondNumber_start (Stamp.ofDateTime d')
  unfold milliNumber
  rw [d.secondNumber_eq_start_add, d'.secondNumber_eq_start_add]
  rcases lt_trichotomy (Stamp.ofDateTime d).numbers (Stamp.ofDateTime d').numbers with hlt | heq | hgt
  · -- Minutes begin at multiples of 60 seconds, so an earlier one ends before a later one begins.
    have hstarts := hs.secondNumber_start_lt hs' hlt
    exact iff_of_true (by omega) (.inl hlt)
  · rw [heq, Stamp.numbers_injective heq]
    simp only [lt_irrefl, true_and, false_or]
    omega
  · have hstarts := hs'.secondNumber_start_lt hs hgt
    have hne : Stamp.ofDateTime d ≠ Stamp.ofDateTime d' :=
      fun heq => absurd (congrArg Stamp.numbers heq) (ne_of_gt hgt)
    exact iff_of_false (by omega) (not_or.2 ⟨lt_asymm hgt, fun h => hne h.1⟩)

/-- The second and the milliseconds of a reading, by the number of its millisecond. -/
theorem second_and_millis_of_milliNumber {d : DateTime} (h : d.Valid)
    (hnano : d.time.nanosecond < 1000000000) :
    (d.milliNumber / 1000 % 60).toNat = d.time.second ∧
      (d.milliNumber % 1000).toNat = d.time.nanosecond / 1000000 := by
  have hsecond := h.time.second_lt
  have hstart := Stamp.secondNumber_start (Stamp.ofDateTime d)
  have hnumber := d.secondNumber_eq_start_add
  unfold milliNumber
  omega

end DateTime

namespace Instant

variable {t u : Instant} {d d' : DateTime} {ms : Int}

/-! ## Full texts -/

/-- Years that need more than four digits have a plus sign in full texts. -/
def plusSign (year : Int) : List Char := if 9999 < year then ['+'] else []

theorem fullYear_eq (year : Int) : fullYear year = plusSign year ++ Stamp.yearText year := by
  unfold fullYear plusSign
  split
  · rw [Stamp.yearText_of_nonneg (by omega)]
    rfl
  · rfl

theorem fullText_eq (d : DateTime) : fullText d = plusSign d.date.year ++
    ((Stamp.ofDateTime d).text ++ ':' :: (padded 2 d.time.second ++
      '.' :: (padded 3 (d.time.nanosecond / 1000000) ++ ['Z']))) := by
  simp [fullText, fullYear_eq, Stamp.text_eq, Stamp.ofDateTime]

theorem text_append_ne_plus {s : Stamp} {rest rest' : List Char} :
    s.text ++ rest ≠ '+' :: rest' := by
  intro h
  rw [Stamp.text_eq, List.append_assoc] at h
  rcases Stamp.first_of_yearText h with ⟨-, hsign⟩ | ⟨-, hdigit⟩
  · exact absurd hsign (by decide)
  · exact absurd hdigit (by decide)

theorem plusSign_append_inj {s s' : Stamp} {year year' : Int} {rest rest' : List Char}
    (h : plusSign year ++ (s.text ++ rest) = plusSign year' ++ (s'.text ++ rest')) :
    s.text ++ rest = s'.text ++ rest' := by
  unfold plusSign at h
  split at h
  · split at h
    · exact (List.cons.inj h).2
    · exact absurd h.symm text_append_ne_plus
  · split at h
    · exact absurd h text_append_ne_plus
    · exact h

/-- A full text tells the reading to the millisecond. -/
theorem fullText_inj (h : fullText d = fullText d') :
    Stamp.ofDateTime d = Stamp.ofDateTime d' ∧ d.time.second = d'.time.second ∧
      d.time.nanosecond / 1000000 = d'.time.nanosecond / 1000000 := by
  rw [fullText_eq, fullText_eq] at h
  obtain ⟨hstamp, h⟩ := Stamp.text_append_inj rfl (plusSign_append_inj h)
  obtain ⟨hsecond, h⟩ := padded_append_inj rfl h
  obtain ⟨hmilli, -⟩ := padded_append_inj rfl h
  exact ⟨hstamp, hsecond, hmilli⟩

theorem plusSign_of_le {year : Int} (h : year ≤ 9999) : plusSign year = [] :=
  if_neg (Int.not_lt.2 h)

/-- Full texts with years of four digits are in the order of the milliseconds. -/
theorem fullText_lt_iff (h : d.Valid) (h' : d'.Valid) (hnano : d.time.nanosecond < 1000000000)
    (hnano' : d'.time.nanosecond < 1000000000) (hyear : 0 ≤ d.date.year ∧ d.date.year ≤ 9999)
    (hyear' : 0 ≤ d'.date.year ∧ d'.date.year ≤ 9999) :
    fullText d < fullText d' ↔ d.milliNumber < d'.milliNumber := by
  have hs := Stamp.valid_ofDateTime h
  have hs' := Stamp.valid_ofDateTime h'
  have hlength : (Stamp.ofDateTime d).text.length = (Stamp.ofDateTime d').text.length :=
    (hs.length_text_eq_iff.2 hyear).1.trans (hs'.length_text_eq_iff.2 hyear').1.symm
  have hsecond := h.time.second_lt
  have hsecond' := h'.time.second_lt
  rw [fullText_eq, fullText_eq, plusSign_of_le hyear.2, plusSign_of_le hyear'.2, List.nil_append,
    List.nil_append, append_lt_append_iff hlength,
    hs.text_lt_text_iff hs' hyear.1 hyear.2 hyear'.1 hyear'.2, Stamp.text_injective.eq_iff,
    List.cons_lt_cons_self, padded_append_lt_iff (by decide) (by omega) (by omega),
    padded_append_lt_iff (by decide) (by omega) (by omega),
    DateTime.milliNumber_lt_iff h h' hnano hnano']
  simp only [List.not_lt_nil, and_false, or_false]

/-! ## Readings of universal time -/

/-- The instant is in the calendar. -/
def InCalendar (t : Instant) : Prop :=
  ∃ ms, t.millis? = some ms ∧ Calendar.firstMilli ≤ ms ∧ ms ≤ Calendar.lastMilli

theorem display_of_read (h : (Timeline.fixed 0).read t = .shows d) :
    t.display = String.ofList (fullText d) := by
  rw [display, h]

theorem read_eq_absent_of_not_inCalendar (z : Timeline) (h : ¬t.InCalendar) :
    z.read t = .absent :=
  Timeline.read_eq_absent_iff.2 fun ms ht hcovers => h ⟨ms, ht, Calendar.covers_div_iff.1 hcovers⟩

theorem display_of_not_inCalendar (h : ¬t.InCalendar) : t.display = "Invalid Date" := by
  rw [display, read_eq_absent_of_not_inCalendar _ h]

section
variable [Database]

theorem render_of_not_inCalendar (z : Zone) (h : ¬t.InCalendar) :
    z.render t = some (String.ofList Stamp.missingText) :=
  Zone.render_eq_some_iff.2 (.inl ⟨read_eq_absent_of_not_inCalendar z.timeline h, rfl⟩)

variable [Database.Universal]

theorem InCalendar.exists_read_utc (h : t.InCalendar) : ∃ d, Zone.utc.read t = .shows d := by
  obtain ⟨ms, ht, hfirst, hlast⟩ := h
  have hutc : Zone.utc.KeepsUniversal := .inr rfl
  obtain ⟨d, hread, -⟩ := Zone.exists_read_eq_shows ht hfirst hlast (hutc.not_leadsOut ms)
  exact ⟨d, hread⟩

theorem display_of_read_utc (h : Zone.utc.read t = .shows d) :
    t.display = String.ofList (fullText d) := by
  rw [Zone.read_utc] at h
  exact display_of_read h

/-- A clock of universal time shows the millisecond of the instant. -/
theorem millis?_of_read_utc (h : Zone.utc.read t = .shows d) :
    t.millis? = some d.milliNumber ∧ d.time.nanosecond < 1000000000 := by
  rw [Zone.read_utc] at h
  obtain ⟨ms, ht, hsecond, hnano⟩ := Timeline.exists_millis?_of_read_fixed_zero h
  have hms : d.milliNumber = ms := by
    unfold DateTime.milliNumber
    omega
  exact ⟨hms ▸ ht, by omega⟩

theorem display_eq_iff_of_read (h : Zone.utc.read t = .shows d) (h' : Zone.utc.read u = .shows d') :
    t.display = u.display ↔ t = u := by
  refine ⟨fun heq => ?_, congrArg display⟩
  rw [display_of_read_utc h, display_of_read_utc h', String.ofList_inj] at heq
  obtain ⟨hstamp, hsecond, hmilli⟩ := fullText_inj heq
  have hnumber : d.milliNumber = d'.milliNumber := by
    rw [DateTime.milliNumber, DateTime.milliNumber, d.secondNumber_eq_start_add,
      d'.secondNumber_eq_start_add, hstamp, hsecond, hmilli]
  exact eq_of_millis? (millis?_of_read_utc h).1 (hnumber ▸ (millis?_of_read_utc h').1)

theorem display_lt_iff_of_read (h : Zone.utc.read t = .shows d) (h' : Zone.utc.read u = .shows d')
    (hyear : 0 ≤ d.date.year ∧ d.date.year ≤ 9999)
    (hyear' : 0 ≤ d'.date.year ∧ d'.date.year ≤ 9999) :
    t.display < u.display ↔ t < u := by
  obtain ⟨ht, hnano⟩ := millis?_of_read_utc h
  obtain ⟨hu, hnano'⟩ := millis?_of_read_utc h'
  rw [lt_iff_of_millis? ht hu, display_of_read_utc h, display_of_read_utc h', ← fullText_lt_iff
    (Timeline.valid_of_read h) (Timeline.valid_of_read h') hnano hnano' hyear hyear']
  change (String.ofList _).toList < (String.ofList _).toList ↔ _
  rw [String.toList_ofList, String.toList_ofList]

end

/-- The full text of an instant tells it. In the calendar it is what is written for universal time,
with a plus sign in front after the year 9999, and the second and the milliseconds behind it, in two
and three digits; elsewhere there are no fields to be written. Two instants of the calendar have the
same full text just when they are the same; and with years from 0 to 9999, full texts are in the
order of the instants. -/
theorem display_faithful [Database] [Database.Universal] :
    (∀ (t : Instant) (ms : Int), t.millis? = some ms → t.InCalendar →
      ∃ d text second milli, Zone.utc.read t = .shows d ∧ Zone.utc.render t = some text ∧
        IsField 2 (ms / 1000 % 60).toNat second ∧ IsField 3 (ms % 1000).toNat milli ∧
        t.display = (if 9999 < d.date.year then "+" else "") ++ text ++ ":" ++
          String.ofList second ++ "." ++ String.ofList milli ++ "Z") ∧
    (∀ t : Instant, ¬t.InCalendar →
      t.display = "Invalid Date" ∧ ∀ z : Zone, z.render t = some "NaN-NaN-NaNTNaN:NaN") ∧
    ∀ t u : Instant, t.InCalendar → u.InCalendar → (t.display = u.display ↔ t = u) ∧
      ∀ d d', Zone.utc.read t = .shows d → Zone.utc.read u = .shows d' →
        0 ≤ d.date.year ∧ d.date.year ≤ 9999 → 0 ≤ d'.date.year ∧ d'.date.year ≤ 9999 →
        (t.display < u.display ↔ t < u) := by
  refine ⟨fun t ms ht hin => ?_, fun t hout => ?_, fun t u hin hin' => ⟨?_, ?_⟩⟩
  · obtain ⟨d, h⟩ := hin.exists_read_utc
    obtain ⟨hms, hnano⟩ := millis?_of_read_utc h
    obtain rfl : ms = d.milliNumber := Option.some.inj (ht.symm.trans hms)
    have hd : d.Valid := Timeline.valid_of_read h
    have hsecond := hd.time.second_lt
    obtain ⟨hseconds, hmillis⟩ := DateTime.second_and_millis_of_milliNumber hd hnano
    refine ⟨d, _, padded 2 d.time.second, padded 3 (d.time.nanosecond / 1000000), h,
      Zone.render_of_read h, ?_, ?_, ?_⟩
    · exact hseconds ▸ isField_padded (by decide) (by omega)
    · exact hmillis ▸ isField_padded (by decide) (by omega)
    · rw [display_of_read_utc h, fullText_eq, plusSign]
      apply String.toList_injective
      split <;> simp
  · exact ⟨display_of_not_inCalendar hout, fun z => render_of_not_inCalendar z hout⟩
  · obtain ⟨d, h⟩ := hin.exists_read_utc
    obtain ⟨d', h'⟩ := hin'.exists_read_utc
    exact display_eq_iff_of_read h h'
  · exact fun d d' => display_lt_iff_of_read

section
attribute [local instance] Database.recorded Database.universal_recorded

/-- The millisecond before 1970, and what is outside of the calendar. The year 9999 ends in another
text than the year 10000 begins with, and in one that comes after the first of the year 0. -/
theorem display_faithful_last_of_9999 :
    (∃ d text second milli, Zone.utc.read (.ofInt (-1)) = .shows d ∧
      Zone.utc.render (.ofInt (-1)) = some text ∧ IsField 2 59 second ∧ IsField 3 999 milli ∧
      (ofInt (-1)).display = (if 9999 < d.date.year then "+" else "") ++ text ++ ":" ++
        String.ofList second ++ "." ++ String.ofList milli ++ "Z") ∧
    (ofInt 8210266876800000).display = "Invalid Date" ∧
    (ofInt 253402300799999).display ≠ (ofInt 253402300800000).display ∧
    (ofInt (-62167219200000)).display < (ofInt 253402300799999).display := by
  obtain ⟨hinside, houtside, hpairs⟩ := display_faithful
  have hlast : (ofInt 253402300799999).InCalendar := ⟨_, rfl, by decide, by decide⟩
  refine ⟨?_, ?_, ?_, ?_⟩
  · exact hinside (.ofInt (-1)) (-1) (by rfl) ⟨_, rfl, by decide, by decide⟩
  · refine (houtside (.ofInt 8210266876800000) ?_).1
    rintro ⟨ms, hms, -, hle⟩
    obtain rfl : (8210266876800000 : Int) = ms := Option.some.inj hms
    exact absurd hle (by decide)
  · have hnext : (ofInt 253402300800000).InCalendar := ⟨_, rfl, by decide, by decide⟩
    exact fun h => absurd ((hpairs _ _ hlast hnext).1.1 h) (by decide)
  · have hzero : (ofInt (-62167219200000)).InCalendar := ⟨_, rfl, by decide, by decide⟩
    have horder := (hpairs _ _ hzero hlast).2 ⟨⟨0, 1, 1⟩, ⟨0, 0, 0, 0⟩⟩
      ⟨⟨9999, 12, 31⟩, ⟨23, 59, 59, 999000000⟩⟩ (by rfl) (by rfl) (by decide) (by decide)
    exact horder.2 (by decide)

end

end Instant
end WallClock
