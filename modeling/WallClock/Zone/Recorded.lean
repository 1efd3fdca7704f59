import WallClock.Zone.Basic
import WallClock.Zone.History.Africa
import WallClock.Zone.History.America
import WallClock.Zone.History.Antarctica
import WallClock.Zone.History.Asia
import WallClock.Zone.History.Europe
import WallClock.Zone.History.Oceania

/-! # Recorded timelines

The names whose offsets are known: those with a history of their own, the links that share it,
and the names under `Etc` and beside it that stand for a fixed distance from universal time. Nothing
is known of any other name (`Timeline.ofName?`).

`Database.recorded` is a database with these timelines, for a program to run with. It is no
instance: what is said of zones is said of every database, and where this one is meant it is
named. -/

namespace WallClock
namespace Timeline

/-- Names that stand for universal time. -/
def universalNames : List String := [
  "UTC", "UCT", "GMT", "GMT+0", "GMT-0", "GMT0", "Greenwich", "Universal", "Zulu", "Etc/UTC",
  "Etc/UCT", "Etc/GMT", "Etc/GMT+0", "Etc/GMT-0", "Etc/GMT0", "Etc/Greenwich", "Etc/Universal",
  "Etc/Zulu"]

/-- Names that stand for a fixed number of hours from universal time; a plus sign in such a name
means behind it. -/
def fixedHours : List (String × Int) := [
  ("Etc/GMT+1", -1), ("Etc/GMT+2", -2), ("Etc/GMT+3", -3), ("Etc/GMT+4", -4), ("Etc/GMT+5", -5),
  ("Etc/GMT+6", -6), ("Etc/GMT+7", -7), ("Etc/GMT+8", -8), ("Etc/GMT+9", -9), ("Etc/GMT+10", -10),
  ("Etc/GMT+11", -11), ("Etc/GMT+12", -12), ("Etc/GMT-1", 1), ("Etc/GMT-2", 2), ("Etc/GMT-3", 3),
  ("Etc/GMT-4", 4), ("Etc/GMT-5", 5), ("Etc/GMT-6", 6), ("Etc/GMT-7", 7), ("Etc/GMT-8", 8),
  ("Etc/GMT-9", 9), ("Etc/GMT-10", 10), ("Etc/GMT-11", 11), ("Etc/GMT-12", 12),
  ("Etc/GMT-13", 13), ("Etc/GMT-14", 14)]

/-- The recorded histories, each with the names that share it. -/
def histories : List (List String × History) := [
  (["Africa/Casablanca"], .casablanca),
  (["Africa/Juba"], .juba),
  (["Africa/Monrovia"], .monrovia),
  (["America/Caracas"], .caracas),
  (["America/Juneau"], .juneau),
  (["America/New_York", "EST5EDT", "US/Eastern"], .newYork),
  (["America/Nuuk", "America/Godthab"], .nuuk),
  (["America/Santiago", "Chile/Continental"], .santiago),
  (["America/Sao_Paulo", "Brazil/East"], .saoPaulo),
  (["America/St_Johns", "Canada/Newfoundland"], .stJohns),
  (["Antarctica/Troll"], .troll),
  (["Asia/Kathmandu", "Asia/Katmandu"], .kathmandu),
  (["Asia/Kolkata", "Asia/Calcutta"], .kolkata),
  (["Asia/Manila"], .manila),
  (["Asia/Pyongyang"], .pyongyang),
  (["Asia/Tehran", "Iran"], .tehran),
  (["Asia/Tokyo", "Japan"], .tokyo),
  (["Australia/Adelaide", "Australia/South"], .adelaide),
  (["Australia/Lord_Howe", "Australia/LHI"], .lordHowe),
  (["Europe/Dublin", "Eire"], .dublin),
  (["Europe/London", "Europe/Belfast", "Europe/Guernsey", "Europe/Isle_of_Man", "Europe/Jersey",
    "GB", "GB-Eire"], .london),
  (["Europe/Paris", "Europe/Monaco"], .paris),
  (["Pacific/Apia"], .apia),
  (["Pacific/Chatham", "NZ-CHAT"], .chatham),
  (["Pacific/Kiritimati"], .kiritimati),
  (["Pacific/Kwajalein", "Kwajalein"], .kwajalein)]

/-- Every name whose offsets are known, with its timeline. -/
def recorded : List (String × Timeline) :=
  universalNames.map (fun name => (name, fixed 0)) ++
    fixedHours.map (fun (name, hours) => (name, fixed (3600 * hours))) ++
    histories.flatMap fun (names, history) =>
      let timeline := history.timeline
      names.map fun name => (name, timeline)

/-- The timeline of a name whose offsets are known. -/
def ofName? (name : String) : Option Timeline := recorded.lookup name

theorem regular_of_mem_histories : ∀ p ∈ histories, p.2.timeline.Regular := by decide +kernel

/-- What holds of every fixed offset and of every recorded history holds of what is known of a
name. -/
theorem of_ofName?_eq_some {P : Timeline → Prop} {name : String} {z : Timeline}
    (hfixed : ∀ offset, offset.natAbs < 86400 → P (fixed offset))
    (hhistory : ∀ p ∈ histories, P p.2.timeline) (h : ofName? name = some z) : P z := by
  obtain ⟨before, after, hsplit, -⟩ := List.lookup_eq_some_iff.1 h
  have hmem : (name, z) ∈ recorded := by
    rw [hsplit]
    exact List.mem_append_right _ (.head _)
  simp only [recorded, List.mem_append, List.mem_map, List.mem_flatMap, Prod.mk.injEq] at hmem
  rcases hmem with (⟨_, _, rfl, rfl⟩ | ⟨p, hp, rfl, rfl⟩) | ⟨p, hp, _, _, rfl, rfl⟩
  · exact hfixed _ (by decide)
  · have hhours : ∀ p ∈ fixedHours, (3600 * p.2).natAbs < 86400 := by decide
    exact hfixed _ (hhours p hp)
  · exact hhistory p hp

end Timeline

namespace Database

/-- What is recorded of a name; universal time stands in where nothing is. -/
def recordedTimeline (name : ZoneName) : Timeline := (Timeline.ofName? name.text).getD (.fixed 0)

theorem of_recordedTimeline {P : Timeline → Prop}
    (hfixed : ∀ offset, offset.natAbs < 86400 → P (.fixed offset))
    (hhistory : ∀ p ∈ Timeline.histories, P p.2.timeline) (name : ZoneName) :
    P (recordedTimeline name) := by
  unfold recordedTimeline
  cases h : Timeline.ofName? name.text with
  | none => exact hfixed 0 (by decide)
  | some z => exact Timeline.of_ofName?_eq_some hfixed hhistory h

/-- A database that goes by what is recorded. Its answers about names of which nothing is recorded
mean nothing. -/
@[reducible] def recorded : Database where
  timeline := recordedTimeline
  regular := of_recordedTimeline (fun _ => Timeline.regular_fixed) Timeline.regular_of_mem_histories

end Database
end WallClock
