import IntentSelect.Proofs.ElapsedDays
import IntentSelect.Proofs.RankOrder
import IntentSelect.Proofs.RecordParts
import IntentSelect.Proofs.TimestampGrammar

/-! # The later update first

Between experiences of one priority the later update decides.  The texts of updates are no measure
of that: the same instant has many texts, with other offsets and other dates, and texts that are
greater letter by letter may be earlier.  What a text denotes is an instant (`Timestamp.Denotes`):
the days that are counted to its date, the time of day, and the offset taken off.  A text that is
accepted and has no leap second denotes one instant (`Timestamp.denotes_iff`), and the timestamps
that are compared are in the order of the instants (`Timestamp.compare_of_instant_lt`).
-/
namespace IntentSelect

open Json Json.Reading

namespace Timestamp
variable {s t : Timestamp} {cs : List Char} {w : Written} {n : Int}

/-! ## What a text denotes -/

/-- The text has the seconds of a leap second. -/
def SpellsLeapSecond (cs : List Char) : Prop := ∃ w, Spells w cs ∧ w.second = 60

/-- The text denotes the instant so many nanoseconds after the beginning of 1970, or before it if
the number is negative: the local date and time of day, less the offset from universal time. -/
def Denotes (cs : List Char) (n : Int) : Prop :=
  ∃ w days, Spells w cs ∧ w.date.isValid = true ∧ w.date.IsDaysAfter1970 days ∧
    n = (days * 86400 + w.hour * 3600 + w.minute * 60 + w.second - w.offset) * 1000000000 + w.nano

/-- The nanoseconds from the beginning of 1970 to a timestamp. -/
def instant (t : Timestamp) : Int := t.second * 1000000000 + t.nano

theorem spellsLeapSecond_iff (h : readParts cs = .ok w) :
    SpellsLeapSecond cs ↔ w.second = 60 := by
  constructor
  · rintro ⟨w', hspells, hsixty⟩
    obtain rfl := hspells.unique (spells_of_readParts h)
    exact hsixty
  · exact fun hsixty => ⟨w, spells_of_readParts h, hsixty⟩

/-- A text with a date that exists denotes one instant. -/
theorem denotes_iff_of_readParts (h : readParts cs = .ok w) (hvalid : w.date.isValid = true) :
    Denotes cs n ↔ n = (w.date.dayNumber * 86400 + w.hour * 3600 + w.minute * 60 + w.second -
      w.offset) * 1000000000 + w.nano := by
  constructor
  · rintro ⟨w', days, hspells, -, hdays, rfl⟩
    obtain rfl := hspells.unique (spells_of_readParts h)
    rw [(Date.isDaysAfter1970_iff hvalid).mp hdays]
  · rintro rfl
    exact ⟨w, _, spells_of_readParts h, hvalid, (Date.isDaysAfter1970_iff hvalid).mpr rfl, rfl⟩

/-- **A text that is accepted denotes one instant**, and unless it has a leap second, the timestamp
that is read is that instant. -/
theorem denotes_iff (h : ofChars cs = .ok t) (hleap : ¬ SpellsLeapSecond cs) :
    t.nano < 1000000000 ∧ ∀ n, Denotes cs n ↔ n = t.instant := by
  obtain ⟨w, hread, htime⟩ := bind_eq_ok_iff.mp h
  obtain ⟨hvalid, hsecond, hnano⟩ := toTimestamp_eq_ok htime
  obtain ⟨hsixty, hfraction⟩ := (spells_of_readParts hread).bounds
  have hne : w.second ≠ 60 := mt (spellsLeapSecond_iff hread).mpr hleap
  have hmin : min w.second 59 = w.second := Nat.min_eq_left (by omega)
  rw [Written.instantNano, if_neg hne] at hnano
  rw [Written.instantSecond, Written.localSecond, hmin, secondsPerDay] at hsecond
  refine ⟨by omega, fun n => ?_⟩
  rw [denotes_iff_of_readParts hread hvalid, instant]
  omega

/-! ## The order of instants -/

/-- Timestamps that are no leap seconds are compared as the instants that they are. -/
theorem compare_of_instant_lt (hs : s.nano < 1000000000) (ht : t.nano < 1000000000)
    (h : s.instant < t.instant) : s.compare t = .lt := by
  unfold instant at h
  rcases (show s.second < t.second ∨ s.second = t.second ∧ s.nano < t.nano by omega) with
    hsecond | ⟨hsecond, hnano⟩
  · rw [compare, Int.compare_eq_lt.mpr hsecond]
    rfl
  · rw [compare, hsecond, Std.ReflOrd.compare_self, Nat.compare_eq_lt.mpr hnano]
    rfl

theorem eq_of_instant_eq (hs : s.nano < 1000000000) (ht : t.nano < 1000000000)
    (h : s.instant = t.instant) : s = t := by
  unfold instant at h
  exact ext (by omega) (by omega)

end Timestamp

namespace Experience
variable {levels : Nat} {v w : Value} {a b : Experience} {s t : String}

/-! ## Updates in documents -/

/-- The fields of an experience, in the order in which an array has them. -/
def fieldNames : List String :=
  ["id", "title", "type", "updatedAt", "fastIntentConfig", "artifact"]

/-- The slots of an experience. -/
def slots (levels : Nat) : List (Slot Experience) := [
  .optional "id" .text fun s e => { e with id := s },
  .optional "title" .text fun s e => { e with title := s },
  .optional "type" ExperienceKind.reading fun k e => { e with kind := k },
  .optional "updatedAt" (.nullable Timestamp.reading) fun t e => { e with updatedAt := t },
  .optional "fastIntentConfig" (.nullable (FastIntent.reading levels)) fun f e =>
    { e with fastIntent := f },
  .optional "artifact" (.nullable Artifact.reading) fun a e => { e with artifact := a }]

theorem reading_eq_record (levels : Nat) :
    reading levels = .record "Experience" (slots levels) {} :=
  rfl

section Owns
attribute [local simp] slots Slot.optional Slot.keeps_of_set Slot.fills_of_set

theorem owns_updatedAt (levels : Nat) :
    Owns (slots levels) "updatedAt" ((nullable Timestamp.reading).map fun t => t)
      Experience.updatedAt where
  mem := by simp
  fills := by simp
  keeps := by simp

end Owns

/-- The update of an experience is read from the text that it has. -/
theorem updatedAt_of_ofValue (h : (reading levels).ofValue v = .ok a)
    (hs : v.field? fieldNames "updatedAt" = some (.string s)) :
    ∃ t, a.updatedAt = some t ∧ Timestamp.ofChars s.toList = .ok t := by
  rw [reading_eq_record] at h
  have hread := part_of_record (owns_updatedAt levels) (by simp [slots, Slot.optional]) h
  have hnames : (slots levels).map Slot.name = fieldNames := rfl
  rw [hnames, hs, Read] at hread
  obtain ⟨x, hx, hupdate⟩ := map_eq_ok_iff.mp hread
  obtain ⟨hnull, -⟩ | ⟨-, t, ht, rfl⟩ := ofValue_nullable_eq_ok_iff.mp hx
  · cases hnull
  · exact ⟨t, hupdate.symm, mapError_eq_ok_iff.mp ht⟩

/-! ## The order of updates -/

/-- **The later update is first.**  Take two experiences of one priority that are read from
documents, in which they have texts of their updates, with no leap second.  Each text denotes one
instant.  The experience whose instant is later ranks ahead, and if they are the same instant, as
texts with different offsets may be, the ids decide. -/
theorem compareRank_of_instants {levels' : Nat} (ha : (reading levels).ofValue v = .ok a)
    (hb : (reading levels').ofValue w = .ok b)
    (hs : v.field? fieldNames "updatedAt" = some (.string s))
    (ht : w.field? fieldNames "updatedAt" = some (.string t))
    (hsleap : ¬ Timestamp.SpellsLeapSecond s.toList)
    (htleap : ¬ Timestamp.SpellsLeapSecond t.toList) (hpriority : a.priority = b.priority) :
    ∃ i j, (∀ n, Timestamp.Denotes s.toList n ↔ n = i) ∧
      (∀ n, Timestamp.Denotes t.toList n ↔ n = j) ∧
      (j < i → a.compareRank b = .lt) ∧ (i < j → a.compareRank b = .gt) ∧
      (i = j → a.compareRank b = compare a.id b.id) := by
  obtain ⟨x, hx, hsx⟩ := updatedAt_of_ofValue ha hs
  obtain ⟨y, hy, hty⟩ := updatedAt_of_ofValue hb ht
  obtain ⟨hxnano, hxdenotes⟩ := Timestamp.denotes_iff hsx hsleap
  obtain ⟨hynano, hydenotes⟩ := Timestamp.denotes_iff hty htleap
  have hrank : a.compareRank b = (y.compare x).then (compare a.id b.id) := by
    rw [compareRank_of_priority_eq hpriority, compareTimes_of_timed hx hy]
  refine ⟨x.instant, y.instant, hxdenotes, hydenotes, fun hlater => ?_, fun hearlier => ?_,
    fun hsame => ?_⟩
  · rw [hrank, Timestamp.compare_of_instant_lt hynano hxnano hlater]
    rfl
  · have hlt := Timestamp.compare_of_instant_lt hxnano hynano hearlier
    have hgt : y.compare x = .gt := Std.OrientedCmp.gt_of_lt hlt
    rw [hrank, hgt]
    rfl
  · obtain rfl := Timestamp.eq_of_instant_eq hxnano hynano hsame
    have hlevel : x.compare x = .eq := Std.ReflCmp.compare_self
    rw [hrank, hlevel, Ordering.eq_then]

namespace Midnight

/-- On the last day of February, an hour behind universal time. -/
def evening : Value :=
  .object [("id", .string "b"), ("updatedAt", .string "2024-02-29T23:30:00.5-01:00")]

/-- At the same time, in universal time. -/
def night : Value :=
  .object [("id", .string "a"), ("updatedAt", .string "+2024-03-01 00:30:00.5000000001 Z")]

def update : Option Timestamp := Timestamp.ofParts? 1709253000 500000000

end Midnight

open Midnight in
/-- The two updates are at one instant, on two days, and the ids decide. -/
theorem compareRank_of_instants_midnight :
    (reading 1).ofValue evening = .ok { id := "b", updatedAt := update } ∧
    (reading 1).ofValue night = .ok { id := "a", updatedAt := update } ∧
    ({ id := "b", updatedAt := update } : Experience).compareRank
      { id := "a", updatedAt := update } = .gt := by
  have hevening : (reading 1).ofValue evening = .ok { id := "b", updatedAt := update } := by rfl
  have hnight : (reading 1).ofValue night = .ok { id := "a", updatedAt := update } := by rfl
  have hread : Timestamp.readParts "2024-02-29T23:30:00.5-01:00".toList =
      .ok ⟨⟨2024, 2, 29⟩, 23, 30, 0, 500000000, -3600⟩ := by rfl
  have hread' : Timestamp.readParts "+2024-03-01 00:30:00.5000000001 Z".toList =
      .ok ⟨⟨2024, 3, 1⟩, 0, 30, 0, 500000000, 0⟩ := by rfl
  have hleap := mt (Timestamp.spellsLeapSecond_iff hread).mp (by decide)
  have hleap' := mt (Timestamp.spellsLeapSecond_iff hread').mp (by decide)
  obtain ⟨i, j, hi, hj, -, -, hsame⟩ :=
    compareRank_of_instants hevening hnight rfl rfl hleap hleap' rfl
  have hdenotes := (hi _).mp ((Timestamp.denotes_iff_of_readParts hread (by decide)).mpr rfl)
  have hdenotes' := (hj _).mp ((Timestamp.denotes_iff_of_readParts hread' (by decide)).mpr rfl)
  have heq : i = j := by
    rw [← hdenotes, ← hdenotes']
    rfl
  exact ⟨hevening, hnight, (hsame heq).trans (by decide)⟩

end Experience

end IntentSelect
