import WallClock.Text.Blank

/-!
# White space at the ends of a text

What it means for a text to be another one without the white space at its ends (`IsTrimmed`),
and that `trim` finds it (`trim_eq_iff`).
-/

namespace WallClock
namespace Text

def Blank (cs : List Char) : Prop := ∀ c ∈ cs, isBlank c = true

/-- A text that does not begin with white space. -/
def NoBlankFirst (cs : List Char) : Prop := ∀ c ∈ cs.head?, isBlank c = false

/-- The text `body` is `cs` without the white space at its ends. -/
structure IsTrimmed (cs body : List Char) : Prop where
  around : ∃ lead trail, cs = lead ++ body ++ trail ∧ Blank lead ∧ Blank trail
  first : NoBlankFirst body
  last : NoBlankFirst body.reverse

theorem skipBlanks_append {blanks : List Char} (h : Blank blanks) (cs : List Char) :
    skipBlanks (blanks ++ cs) = skipBlanks cs := List.dropWhile_append_of_pos h

theorem skipBlanks_cons {c : Char} {cs : List Char} (h : isBlank c = false) :
    skipBlanks (c :: cs) = c :: cs := List.dropWhile_cons_of_neg (by simp [h])

theorem skipBlanks_of_noBlankFirst {cs : List Char} (h : NoBlankFirst cs) :
    skipBlanks cs = cs := by
  cases cs with
  | nil => rfl
  | cons c cs => exact skipBlanks_cons (h c rfl)

theorem skipBlanks_of_blank {cs : List Char} (h : Blank cs) : skipBlanks cs = [] := by
  rw [← List.append_nil cs, skipBlanks_append h]
  rfl

theorem noBlankFirst_skipBlanks (cs : List Char) : NoBlankFirst (skipBlanks cs) := by
  intro c hc
  have h := List.head?_dropWhile_not isBlank cs
  rw [skipBlanks, Option.mem_def] at hc
  rwa [hc] at h

theorem exists_skipBlanks (cs : List Char) : ∃ blanks, Blank blanks ∧ cs = blanks ++ skipBlanks cs :=
  ⟨cs.takeWhile isBlank, fun _ hc => List.all_eq_true.1 List.all_takeWhile _ hc,
    List.takeWhile_append_dropWhile.symm⟩

theorem Blank.reverse {cs : List Char} (h : Blank cs) : Blank cs.reverse :=
  fun c hc => h c (List.mem_reverse.1 hc)

theorem isTrimmed_self {cs : List Char} (h1 : NoBlankFirst cs) (h2 : NoBlankFirst cs.reverse) :
    IsTrimmed cs cs :=
  ⟨⟨[], [], by simp, nofun, nofun⟩, h1, h2⟩

theorem isTrimmed_trim (cs : List Char) : IsTrimmed cs (trim cs) := by
  obtain ⟨lead, hlead, hcs⟩ := exists_skipBlanks cs
  obtain ⟨trail, htrail, hrest⟩ := exists_skipBlanks (skipBlanks cs).reverse
  have hsplit : skipBlanks cs = trim cs ++ trail.reverse := by
    rw [trim, ← List.reverse_append, ← hrest, List.reverse_reverse]
  refine ⟨⟨lead, trail.reverse, ?_, hlead, htrail.reverse⟩, ?_, ?_⟩
  · rw [List.append_assoc, ← hsplit, ← hcs]
  · have hfirst := noBlankFirst_skipBlanks cs
    rw [hsplit] at hfirst
    intro c hc
    exact hfirst c (by rw [List.head?_append, Option.mem_def.1 hc]; rfl)
  · rw [trim, List.reverse_reverse]
    exact noBlankFirst_skipBlanks _

/-- Trimming finds the one trimmed text. -/
theorem trim_eq_iff {cs body : List Char} : trim cs = body ↔ IsTrimmed cs body := by
  refine ⟨fun h => h ▸ isTrimmed_trim cs, fun ⟨⟨lead, trail, hcs, hlead, htrail⟩, h1, h2⟩ => ?_⟩
  have hskip : skipBlanks cs = skipBlanks (body ++ trail) := by
    rw [hcs, List.append_assoc, skipBlanks_append hlead]
  cases body with
  | nil => rw [trim, hskip, List.nil_append, skipBlanks_of_blank htrail]; rfl
  | cons c body =>
    have hbody : NoBlankFirst (c :: body ++ trail) := h1
    rw [trim, hskip, skipBlanks_of_noBlankFirst hbody, List.reverse_append,
      skipBlanks_append htrail.reverse, skipBlanks_of_noBlankFirst h2, List.reverse_reverse]

end Text
end WallClock
