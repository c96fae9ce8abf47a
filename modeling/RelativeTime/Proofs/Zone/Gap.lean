import Mathlib.Data.List.Chain
import RelativeTime.Proofs.Zone.Changes

/-! Readings that no clock shows. A change that sets the clock forward skips some, and where changes
lie two days apart, the way across the gap finds the two offsets it needs: a day before the reading,
the one that the change ends is in force, and at the instant led to, the one that it begins. -/
namespace RelativeTime

namespace Rules

/-- The change takes the clock past a second that it would have reached and now never shows. -/
structure Skips (z : Rules) (c : Change) (wall : Int) : Prop where
  mem : c ∈ z.changes
  reached : c.since + z.offsetAt (c.since - 1) ≤ wall
  passed : wall < c.since + c.offset

variable {z : Rules} {p : Period} {wall : Int}

/-- A period between two changes lasts two days. Induction on the changes that are left, where the
change before them lies two days before the first. -/
theorem Spaced.lasts (h : z.Spaced) (hp : p ∈ z.periods) {since ended : Int}
    (hstart : p.start = some since) (hstop : p.stop = some ended) : since + 172800 ≤ ended := by
  suffices hfrom : ∀ (changes : List Change) (start : Option Int) (offset : Int),
      changes.IsChain (fun c d => c.since + 172800 ≤ d.since) →
      (∀ s, start = some s → ∀ c ∈ changes.head?, s + 172800 ≤ c.since) →
      p ∈ periodsFrom start offset changes → since + 172800 ≤ ended from
    hfrom z.changes none z.initial h nofun hp
  intro changes
  induction changes with
  | nil =>
    intro start offset _ _ hp
    obtain rfl := List.mem_singleton.mp hp
    cases hstop
  | cons c rest ih =>
    intro start offset hchain hbefore hp
    rw [List.isChain_cons] at hchain
    rcases List.mem_cons.mp hp with rfl | hp
    · obtain rfl := Option.some.inj hstop
      exact hbefore since hstart c rfl
    · refine ih (some c.since) c.offset hchain.2 ?_ hp
      rintro s ⟨⟩ d hd
      exact hchain.1 d hd

theorem Spaced.covers_before (h : z.Spaced) (hp : p ∈ z.periods) {ended second : Int}
    (hstop : p.stop = some ended) (hsecond : ended - 172800 ≤ second ∧ second < ended) :
    p.Covers second := by
  refine Period.covers_iff.mpr ⟨?_, ?_⟩
  · intro s hs
    have hlasts := h.lasts hp hs hstop
    omega
  · intro s hs
    obtain rfl := Option.some.inj (hstop.symm.trans hs)
    exact hsecond.2

theorem Spaced.covers_after (h : z.Spaced) (hp : p ∈ z.periods) {since second : Int}
    (hstart : p.start = some since) (hsecond : since ≤ second ∧ second < since + 172800) :
    p.Covers second := by
  refine Period.covers_iff.mpr ⟨?_, ?_⟩
  · intro s hs
    obtain rfl := Option.some.inj (hstart.symm.trans hs)
    exact hsecond.1
  · intro s hs
    have hlasts := h.lasts hp hstart hs
    omega

theorem Spaced.offsetAt_before (h : z.Spaced) {c : Change} (hc : c ∈ z.changes) {second : Int}
    (hsecond : c.since - 172800 ≤ second ∧ second < c.since) :
    z.offsetAt second = z.offsetAt (c.since - 1) := by
  obtain ⟨p, hp, -, -, hstop, -, -⟩ := exists_periods_of_change hc
  rw [offsetAt_of_covers hp (h.covers_before hp hstop hsecond),
    offsetAt_of_covers hp (h.covers_before hp hstop ⟨by omega, by omega⟩)]

theorem Spaced.offsetAt_after (h : z.Spaced) {c : Change} (hc : c ∈ z.changes) {second : Int}
    (hsecond : c.since ≤ second ∧ second < c.since + 172800) : z.offsetAt second = c.offset := by
  obtain ⟨-, -, q, hq, -, hstart, hoffset⟩ := exists_periods_of_change hc
  rw [offsetAt_of_covers hq (h.covers_after hq hstart hsecond), hoffset]

theorem Spaced.offsetAt_change (h : z.Spaced) {c : Change} (hc : c ∈ z.changes) :
    z.offsetAt c.since = c.offset :=
  h.offsetAt_after hc ⟨Int.le_refl _, by omega⟩

/-- A second that no period shows is skipped by a change, which ends the offset that is in force a
day before the second and begins the one in force where the ended one leads. -/
theorem exists_skips (hb : z.Bounded) (hs : z.Spaced) (h : ∀ p ∈ z.periods, ¬ p.Shows wall) :
    ∃ c, z.Skips c wall ∧ z.offsetAt (wall - 86400) = z.offsetAt (c.since - 1) ∧
      z.offsetAt (wall - z.offsetAt (c.since - 1)) = c.offset := by
  rcases z.exists_period_or_change fun offset => wall - offset with
    ⟨p, hp, hshows⟩ | ⟨c, hc, p, hp, q, hq, hstop, -, hoffset, hreached, hpassed⟩
  · exact absurd hshows (h p hp)
  have hbefore := hb _ (offset_of_mem_periodsFrom hp)
  have hafter := hb _ (offset_of_mem_periodsFrom hq)
  rw [hoffset] at hafter
  have hlast : z.offsetAt (c.since - 1) = p.offset :=
    offsetAt_of_covers hp (hs.covers_before hp hstop ⟨by omega, by omega⟩)
  exact ⟨c, ⟨hc, by omega, by omega⟩, hs.offsetAt_before hc ⟨by omega, by omega⟩,
    hs.offsetAt_after hc ⟨by omega, by omega⟩⟩

end Rules

namespace Zone

variable {zone : Zone} {wall : Reading} {i : Instant}

theorem firstOf_of_earliestShowing? (h : zone.earliestShowing? wall = some i) :
    i.zone = zone ∧ Reading.FirstOf (fun utc => zone.rules.faceAt utc = wall) i.utc := by
  obtain ⟨offset, hoffset, hi⟩ := Option.bind_eq_some_iff.mp h
  obtain ⟨hzone, hutc⟩ := Instant.ofUtc?_eq_some hi
  exact ⟨hzone, hutc ▸ Rules.firstOf_of_offsetShowing? hoffset⟩

theorem face_of_acrossGap? (hb : zone.rules.Bounded) (hs : zone.rules.Spaced)
    (hl : wall.leap = false) (hnone : zone.rules.offsetShowing? wall.seconds = none)
    (h : zone.acrossGap? wall = some i) : i.zone = zone ∧
      ∃ c, zone.rules.Skips c wall.seconds ∧
        i.utc = wall.ahead (-zone.rules.offsetAt (c.since - 1)) ∧
        i.face = wall.ahead (c.offset - zone.rules.offsetAt (c.since - 1)) := by
  obtain ⟨c, hskips, hbefore, hafter⟩ := Rules.exists_skips hb hs fun p hp =>
    Rules.not_shows_of_offsetShowing? hnone hp
  have hprobe : (wall.after (-86400000000000)).seconds = wall.seconds - 86400 := by
    rw [Reading.after_of_not_leap hl]
    simp only [Reading.seconds]
    omega
  have hback : wall.after (-1000000000 * zone.rules.offsetAt (c.since - 1)) =
      wall.ahead (-zone.rules.offsetAt (c.since - 1)) := by
    rw [Reading.after_of_not_leap hl, Reading.ahead, hl, Reading.mk.injEq]
    exact ⟨by omega, rfl⟩
  rw [acrossGap?_eq, hprobe, hbefore, hback] at h
  split at h
  · obtain ⟨hzone, hutc⟩ := Instant.ofUtc?_eq_some h
    refine ⟨hzone, c, hskips, hutc, ?_⟩
    rw [Instant.face, Instant.offset, hzone, hutc, Reading.seconds_ahead, ← Int.sub_eq_add_neg,
      hafter, Reading.ahead_ahead, Int.add_comm, ← Int.sub_eq_add_neg]
  · cases h

/-- Away from the ends of the calendar, every reading stands for an instant: the first that shows
it, and if no instant does, the one at which the clock would show it had the change that skips it
not come. There the clock shows the reading moved on by the length of the gap. -/
theorem resolve_first_or_past_gap (hb : zone.rules.Bounded) (hs : zone.rules.Spaced)
    (hl : wall.leap = false) (hd : firstDay < wall.day ∧ wall.day < lastDay) :
    ∃ i, zone.resolve wall = .ok i ∧ i.zone = zone ∧
      ((∃ j : Instant, j.zone = zone ∧ j.face = wall) →
        i.face = wall ∧ ∀ j : Instant, j.zone = zone → j.face = wall → ¬ j.utc < i.utc) ∧
      ((¬ ∃ j : Instant, j.zone = zone ∧ j.face = wall) →
        ∃ c, zone.rules.Skips c wall.seconds ∧
          i.utc = wall.ahead (-zone.rules.offsetAt (c.since - 1)) ∧
          i.face = wall.ahead (c.offset - zone.rules.offsetAt (c.since - 1))) := by
  obtain ⟨i, hi⟩ := resolve_of_inner hb hd
  refine ⟨i, hi, zone_of_resolve hi, ?_⟩
  rcases resolve_eq_ok_iff.mp hi with hi | ⟨hnone, hi⟩
  · have hface := face_of_earliestShowing? hi
    obtain ⟨hzone, hfirst⟩ := firstOf_of_earliestShowing? hi
    refine ⟨fun _ => ⟨hface, fun j hj hshown => ?_⟩, fun h => absurd ⟨i, hzone, hface⟩ h⟩
    rw [Instant.face_eq, hj] at hshown
    exact hfirst.first j.utc hshown
  · have hunshown : zone.rules.offsetShowing? wall.seconds = none := by
      cases ho : zone.rules.offsetShowing? wall.seconds with
      | none => rfl
      | some offset =>
        have hoffset := hb.offsetShowing? ho
        have hrange := Reading.inRange_ahead_of_inner hd (s := -offset) ⟨by omega, by omega⟩
        rw [earliestShowing?_eq ho, Instant.ofUtc?_of_inRange _ hrange] at hnone
        cases hnone
    refine ⟨?_, fun _ => (face_of_acrossGap? hb hs hl hunshown hi).2⟩
    rintro ⟨j, hj, hshown⟩
    rw [Instant.face_eq, hj] at hshown
    exact absurd hshown (Rules.offsetShowing?_eq_none_iff.mp hunshown j.utc)

/-- The clock of Apia was set forward by a whole day, and a reading on the day that it skipped is
moved on to the next. -/
theorem resolve_on_skipped_day :
    ∃ (zone : Zone) (wall : Reading) (i : Instant), zone = .named "Pacific/Apia" Table.apia ∧
      wall.leap = false ∧ Date.ofDay wall.day = ⟨2011, 12, 30⟩ ∧
      zone.rules.Skips ⟨1325239200, 50400⟩ wall.seconds ∧ zone.resolve wall = .ok i ∧
      i.utc = wall.ahead 36000 ∧ i.face = wall.ahead 86400 := by
  let zone : Zone := .named "Pacific/Apia" Table.apia
  let wall : Reading := ⟨1325246400000000000, false⟩
  have hb : zone.rules.Bounded := by decide +kernel
  have hs : zone.rules.Spaced := by decide +kernel
  have hd : firstDay < wall.day ∧ wall.day < lastDay := by decide
  obtain ⟨i, hi, -, -, hgap⟩ := resolve_first_or_past_gap hb hs rfl hd
  have hunshown : zone.rules.offsetShowing? wall.seconds = none := by decide +kernel
  obtain ⟨c, hskips, hutc, hface⟩ := hgap (by
    rintro ⟨j, hj, hshown⟩
    rw [Instant.face_eq, hj] at hshown
    exact Rules.offsetShowing?_eq_none_iff.mp hunshown j.utc hshown)
  have honly : ∀ c ∈ zone.rules.changes,
      c.since + zone.rules.offsetAt (c.since - 1) ≤ wall.seconds →
      wall.seconds < c.since + c.offset → c = ⟨1325239200, 50400⟩ := by decide +kernel
  obtain rfl := honly c hskips.mem hskips.reached hskips.passed
  have hended : zone.rules.offsetAt (1325239200 - 1) = -36000 := by decide +kernel
  simp only [hended] at hutc hface
  exact ⟨zone, wall, i, rfl, rfl, by decide, hskips, hi, hutc, hface⟩

end Zone

end RelativeTime
