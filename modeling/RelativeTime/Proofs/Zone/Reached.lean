import RelativeTime.Proofs.Timestamp.Extent
import RelativeTime.Proofs.Zone.Gap

/-! When a clock has come to a reading. A clock that is set back comes to some readings again, and
one that is set forward goes past some that it never shows. Either way, where changes lie two days
apart, there is a first reading of UTC at which it shows the one in question or a later one: the
first that shows it, or else the change that skips it. -/
namespace RelativeTime

namespace Change

def utc (c : Change) : Reading := ⟨1000000000 * c.since, false⟩

theorem utc_seconds (c : Change) : c.utc.seconds = c.since := by
  simp only [utc, Reading.seconds]
  omega

end Change

namespace Rules

def Reached (z : Rules) (wall utc : Reading) : Prop := ¬ z.faceAt utc < wall

def gapStart (z : Rules) (c : Change) : Reading := c.utc.ahead (z.offsetAt (c.since - 1))

def pastGap (z : Rules) (c : Change) (wall : Reading) : Reading :=
  wall.ahead (c.offset - z.offsetAt (c.since - 1))

def KeepsDate (z : Rules) (wall : Reading) : Prop :=
  ∀ c, z.Skips c wall.seconds → (z.pastGap c wall).day = wall.day

variable {z : Rules} {c d : Change} {wall utc b : Reading} {second : Int}

theorem seconds_faceAt (z : Rules) (utc : Reading) :
    (z.faceAt utc).seconds = utc.seconds + z.offsetAt utc.seconds :=
  Reading.seconds_ahead utc _

section Skipped

variable (hb : z.Bounded) (hs : z.Spaced)
include hb hs

/-- Before the change the clock is short of what the change skips. This is so for the two days up to
it, and further back no offset makes up for the days. -/
theorem Skips.before (h : z.Skips c wall.seconds) (hbefore : second < c.since) :
    second + z.offsetAt second < wall.seconds := by
  have hreached := h.reached
  by_cases hnear : c.since - 172800 ≤ second
  · have hoffset := hs.offsetAt_before h.mem ⟨hnear, hbefore⟩
    omega
  · have hoffset := hb.offsetAt second
    have hended := hb.offsetAt (c.since - 1)
    omega

theorem Skips.after (h : z.Skips c wall.seconds) (hafter : c.since ≤ second) :
    wall.seconds < second + z.offsetAt second := by
  have hpassed := h.passed
  by_cases hnear : second < c.since + 172800
  · have hoffset := hs.offsetAt_after h.mem ⟨hafter, hnear⟩
    omega
  · have hoffset := hb.offsetAt second
    have hbegun := hb.of_change h.mem
    omega

theorem Skips.not_shown (h : z.Skips c wall.seconds) (utc : Reading) : z.faceAt utc ≠ wall := by
  intro hface
  have hseconds := z.seconds_faceAt utc
  rw [hface] at hseconds
  rcases Int.lt_or_le utc.seconds c.since with hbefore | hafter
  · have hlt := h.before hb hs hbefore
    omega
  · have hlt := h.after hb hs hafter
    omega

theorem Skips.unique (h : z.Skips c wall.seconds) (h' : z.Skips d wall.seconds) : c = d := by
  have hle {c d : Change} (h : z.Skips c wall.seconds) (h' : z.Skips d wall.seconds) :
      d.since ≤ c.since := by
    by_contra hlt
    have hpast := h.after hb hs (show c.since ≤ d.since - 1 by omega)
    have hreached := h'.reached
    omega
  have hsince : c.since = d.since := Int.le_antisymm (hle h' h) (hle h h')
  have hoffset : c.offset = d.offset := by
    rw [← hs.offsetAt_change h.mem, hsince, hs.offsetAt_change h'.mem]
  cases c
  cases d
  rw [Change.mk.injEq]
  exact ⟨hsince, hoffset⟩

theorem Skips.keepsDate_iff (h : z.Skips c wall.seconds) :
    z.KeepsDate wall ↔ (z.pastGap c wall).day = wall.day := by
  constructor
  · intro hkeeps
    exact hkeeps c h
  · intro hday d h'
    obtain rfl := h.unique hb hs h'
    exact hday

theorem Skips.firstOf_reached (h : z.Skips c wall.seconds) :
    Reading.FirstOf (z.Reached wall) c.utc where
  holds := by
    intro hlt
    have hle := h.after hb hs (Int.le_of_eq c.utc_seconds.symm)
    rw [← seconds_faceAt] at hle
    exact Reading.lt_asymm hlt (.inl hle)
  first := by
    intro utc hreached hlt
    have hle := Reading.seconds_le_of_not_lt hreached
    have hshort := h.before hb hs (Reading.lt_whole_iff.mp hlt)
    rw [seconds_faceAt] at hle
    omega

theorem Skips.reached_end (h : z.Skips c wall.seconds) (hreached : z.Reached wall utc) :
    z.Reached (z.faceAt c.utc) utc := by
  have hface : z.faceAt c.utc = ⟨1000000000 * (c.since + c.offset), false⟩ := by
    rw [faceAt, c.utc_seconds, hs.offsetAt_change h.mem]
    simp only [Reading.ahead, Change.utc, Reading.mk.injEq, and_true]
    omega
  intro hlt
  rw [hface, Reading.lt_whole_iff] at hlt
  have hle := Reading.seconds_le_of_not_lt hreached
  have hskips : z.Skips c (z.faceAt utc).seconds :=
    ⟨h.mem, Int.le_trans h.reached hle, hlt⟩
  exact hskips.not_shown hb hs utc rfl

/-- Where a reading is shown first, the clock first comes to it. If it had come to a later one
before, then an offset was in force, up to a change, that leads from the reading to an earlier
second. -/
theorem firstOf_reached_of_shown (h : Reading.FirstOf (fun utc => z.faceAt utc = wall) b) :
    Reading.FirstOf (z.Reached wall) b where
  holds := by
    intro hlt
    rw [h.holds] at hlt
    exact Reading.lt_asymm hlt hlt
  first := by
    intro utc hreached hlt
    have hface : b.ahead (z.offsetAt b.seconds) = wall := h.holds
    have hle := Reading.seconds_le_of_not_lt hreached
    have hshown := z.seconds_faceAt b
    rw [h.holds] at hshown
    rw [seconds_faceAt] at hle
    have hbefore : utc.seconds ≤ b.seconds :=
      Reading.seconds_le_of_not_lt (Reading.lt_asymm hlt)
    by_cases hsame : z.offsetAt b.seconds = z.offsetAt utc.seconds
    · refine hreached ?_
      rw [faceAt, ← hface, hsame, Reading.ahead_lt_ahead_iff]
      exact hlt
    · obtain ⟨c, hc, hafter, huntil, hoffset⟩ := exists_change_of_offsetAt_ne hbefore hsame
      have hearly := hb.offsetAt utc.seconds
      have hlate := hb.offsetAt b.seconds
      have hseconds := wall.seconds_ahead (-z.offsetAt utc.seconds)
      have hstill : z.offsetAt (wall.ahead (-z.offsetAt utc.seconds)).seconds =
          z.offsetAt (c.since - 1) := hs.offsetAt_before hc ⟨by omega, by omega⟩
      refine h.first (wall.ahead (-z.offsetAt utc.seconds)) ?_ (.inl (by omega))
      rw [faceAt, hstill, hoffset, Reading.ahead_ahead, Int.add_left_neg, Reading.ahead_zero]

end Skipped

end Rules

namespace Zone

variable {zone : Zone} {wall : Reading} {i : Instant} {c : Change}

section Inner

variable (hb : zone.rules.Bounded) (hs : zone.rules.Spaced) (hl : wall.leap = false)
  (hd : firstDay < wall.day ∧ wall.day < lastDay)
include hb hs hd

theorem resolve_of_not_skipped (h : ∀ c, ¬ zone.rules.Skips c wall.seconds) :
    ∃ i, zone.resolve wall = .ok i ∧ i.zone = zone ∧ i.face = wall ∧
      Reading.FirstOf (fun utc => zone.rules.faceAt utc = wall) i.utc := by
  cases ho : zone.rules.offsetShowing? wall.seconds with
  | none =>
    obtain ⟨c, hskips, -⟩ := Rules.exists_skips hb hs fun p hp =>
      Rules.not_shows_of_offsetShowing? ho hp
    exact absurd hskips (h c)
  | some offset =>
    have hoffset := hb.offsetShowing? ho
    have hrange := Reading.inRange_ahead_of_inner hd (s := -offset) ⟨by omega, by omega⟩
    have hfirst := Rules.firstOf_of_offsetShowing? ho
    exact ⟨_, resolve_of_offsetShowing? ho hrange, rfl, hfirst.holds, hfirst⟩

include hl

theorem resolve_of_skips (h : zone.rules.Skips c wall.seconds) :
    ∃ i, zone.resolve wall = .ok i ∧ i.zone = zone ∧ i.face = zone.rules.pastGap c wall ∧
      i.utc = wall.ahead (-zone.rules.offsetAt (c.since - 1)) := by
  have hunshown : zone.rules.offsetShowing? wall.seconds = none :=
    Rules.offsetShowing?_eq_none_iff.mpr (h.not_shown hb hs)
  obtain ⟨i, hi⟩ := resolve_of_inner hb hd
  rcases resolve_eq_ok_iff.mp hi with hearliest | ⟨-, hgap⟩
  · rw [earliestShowing?, hunshown] at hearliest
    cases hearliest
  · obtain ⟨hzone, c', hskips, hutc, hface⟩ := face_of_acrossGap? hb hs hl hunshown hgap
    obtain rfl := h.unique hb hs hskips
    exact ⟨i, hi, hzone, hface, hutc⟩

theorem cases_of_resolve (hi : zone.resolve wall = .ok i) :
    (∀ c, ¬ zone.rules.Skips c wall.seconds) ∧ i.face = wall ∧
        Reading.FirstOf (fun utc => zone.rules.faceAt utc = wall) i.utc ∨
      ∃ c, zone.rules.Skips c wall.seconds ∧ i.face = zone.rules.pastGap c wall ∧
        i.utc = wall.ahead (-zone.rules.offsetAt (c.since - 1)) := by
  by_cases hskipped : ∃ c, zone.rules.Skips c wall.seconds
  · obtain ⟨c, hskips⟩ := hskipped
    obtain ⟨j, hj, -, hface, hutc⟩ := resolve_of_skips hb hs hl hd hskips
    obtain rfl := Except.ok.inj (hj.symm.trans hi)
    exact .inr ⟨c, hskips, hface, hutc⟩
  · obtain ⟨j, hj, -, hface, hfirst⟩ := resolve_of_not_skipped hb hs hd (not_exists.mp hskipped)
    obtain rfl := Except.ok.inj (hj.symm.trans hi)
    exact .inl ⟨not_exists.mp hskipped, hface, hfirst⟩

theorem day_of_resolve (hi : zone.resolve wall = .ok i) :
    wall.day ≤ i.face.day ∧ i.face.day ≤ wall.day + 2 ∧
      (i.face.day = wall.day ↔ zone.rules.KeepsDate wall) := by
  rcases cases_of_resolve hb hs hl hd hi with ⟨hnone, hface, -⟩ | ⟨c, hskips, hface, -⟩
  · rw [hface]
    exact ⟨Int.le_refl _, by omega, iff_of_true rfl fun c hskips => absurd hskips (hnone c)⟩
  · have hreached := hskips.reached
    have hpassed := hskips.passed
    have hended := hb.offsetAt (c.since - 1)
    have hbegun := hb.of_change hskips.mem
    rw [hface]
    refine ⟨?_, ?_, (hskips.keepsDate_iff hb hs).symm⟩
    · simp only [Rules.pastGap, Reading.day, Reading.ahead_nanos]
      omega
    · simp only [Rules.pastGap, Reading.day, Reading.ahead_nanos]
      omega

/-- Where the clock has come to the reading, what the reading stands for may be still to come only
if a change skips the reading, by the clock as it was before that change. -/
theorem before_resolve_iff {utc : Reading} (hreached : zone.rules.Reached wall utc)
    (hi : zone.resolve wall = .ok i) : utc < i.utc ↔ ∃ c, zone.rules.Skips c wall.seconds ∧
      utc < wall.ahead (-zone.rules.offsetAt (c.since - 1)) := by
  rcases cases_of_resolve hb hs hl hd hi with ⟨hnone, -, hfirst⟩ | ⟨c, hskips, -, hutc⟩
  · have hpast := (Rules.firstOf_reached_of_shown hb hs hfirst).first utc hreached
    refine iff_of_false hpast ?_
    rintro ⟨c, hskips, -⟩
    exact hnone c hskips
  · rw [hutc]
    constructor
    · intro hlt
      exact ⟨c, hskips, hlt⟩
    · rintro ⟨c', hskips', hlt⟩
      obtain rfl := hskips.unique hb hs hskips'
      exact hlt

theorem firstOf_reached_face (hi : zone.resolve wall = .ok i) :
    Reading.FirstOf (zone.rules.Reached i.face) i.utc := by
  have hzone := zone_of_resolve hi
  have hface : zone.rules.faceAt i.utc = i.face := by rw [Instant.face_eq, hzone]
  rcases cases_of_resolve hb hs hl hd hi with ⟨-, hshown, hfirst⟩ | ⟨c, hskips, hpast, hutc⟩
  · rw [hshown]
    exact Rules.firstOf_reached_of_shown hb hs hfirst
  · refine ⟨fun hlt => Reading.lt_asymm (hface ▸ hlt) (hface ▸ hlt), fun utc hreached hlt => ?_⟩
    have hstart := hskips.reached
    have hstop := hskips.passed
    have hended := hb.offsetAt (c.since - 1)
    have hbegun := hb.of_change hskips.mem
    have hle := Reading.seconds_le_of_not_lt hreached
    have hlate := Reading.seconds_le_of_not_lt (Reading.lt_asymm hlt)
    have hseconds := wall.seconds_ahead (-zone.rules.offsetAt (c.since - 1))
    rw [hpast, Rules.pastGap, Reading.seconds_ahead, Rules.seconds_faceAt] at hle
    rw [← hutc] at hseconds
    -- Both seconds lie in the two days that the change begins.
    have hsince : c.since ≤ utc.seconds := by
      by_contra hbefore
      have hshort := hskips.before hb hs (Int.not_le.mp hbefore)
      omega
    have hoffset : zone.rules.offsetAt utc.seconds = c.offset :=
      hs.offsetAt_after hskips.mem ⟨hsince, by omega⟩
    have hoffset' : zone.rules.offsetAt i.utc.seconds = c.offset :=
      hs.offsetAt_after hskips.mem ⟨by omega, by omega⟩
    refine hreached ?_
    rw [← hface, Rules.faceAt, Rules.faceAt, hoffset, hoffset', Reading.ahead_lt_ahead_iff]
    exact hlt

end Inner

/-- In every zone that a text can ask for, a timestamp without an offset names the first instant
that shows what is written, unless the clock skips that. -/
theorem Known.read_local [Names] [Names.Lawful] (h : zone.Known) {text : String}
    (hoffset : Timestamp.readAbsolute? text.toList = none)
    (hwall : Timestamp.readLocal? text.toList = some wall) (hl : wall.leap = false) :
    ∃ i, zone.read text = .ok i ∧ i.zone = zone ∧
      ((∀ c, ¬ zone.rules.Skips c wall.seconds) ∧ i.face = wall ∧
          Reading.FirstOf (fun utc => zone.rules.faceAt utc = wall) i.utc ∨
        ∃ c, zone.rules.Skips c wall.seconds ∧ i.face = zone.rules.pastGap c wall) := by
  have hday := Timestamp.readLocal?_bounds hwall
  have hinner : firstDay < wall.day ∧ wall.day < lastDay := by
    rw [firstDay_eq, lastDay_eq]
    omega
  obtain ⟨i, hi⟩ := resolve_of_inner h.bounded hinner
  have hread : zone.read text = zone.resolve wall := by
    simp only [read, hoffset, hwall]
  refine ⟨i, hread.trans hi, zone_of_resolve hi, ?_⟩
  rcases cases_of_resolve h.bounded h.spaced hl hinner hi with hshown | ⟨c, hskips, hface, -⟩
  · exact .inl hshown
  · exact .inr ⟨c, hskips, hface⟩

end Zone

end RelativeTime
