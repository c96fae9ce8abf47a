import RelativeTime.Proofs.Zone.Asked
import RelativeTime.Proofs.Zone.Periods

/-! The wall clock of an instant that a dated reading stands for. It may run out of dates all the
same: a reading in a gap stands for an instant that shows another one, up to two days later or
earlier. At the ends of the calendar there are no gaps, though, unless the clock is changed
there. -/
namespace RelativeTime

namespace Rules

variable {z : Rules} {a : Int}

theorem exists_first_period (h : ∀ c ∈ z.changes, a ≤ c.since) :
    ∃ p ∈ z.periods, ∀ b < a, p.Covers b := by
  unfold periods
  cases hchanges : z.changes with
  | nil => exact ⟨_, List.mem_singleton.mpr rfl, fun b _ => by simp [Period.covers_iff]⟩
  | cons c rest =>
    have hfirst := h c (hchanges ▸ List.mem_cons_self)
    refine ⟨_, List.mem_cons_self, ?_⟩
    intro b hb
    have hbefore : b < c.since := Int.lt_of_lt_of_le hb hfirst
    simp [Period.covers_iff, hbefore]

/-- After all changes there is one period. Induction on those left, any of which may be last. -/
theorem exists_last_period (h : ∀ c ∈ z.changes, c.since ≤ a) :
    ∃ p ∈ z.periods, ∀ b, a ≤ b → p.Covers b := by
  suffices hlast : ∀ (changes : List Change) (start : Option Int) (offset : Int),
      (∀ s, start = some s → s ≤ a) → (∀ c ∈ changes, c.since ≤ a) →
      ∃ p ∈ periodsFrom start offset changes, ∀ b, a ≤ b → p.Covers b from
    hlast z.changes none z.initial nofun h
  intro changes
  induction changes with
  | nil =>
    intro start offset hstart _
    refine ⟨_, List.mem_singleton.mpr rfl, ?_⟩
    intro b hb
    refine Period.covers_iff.mpr ⟨?_, nofun⟩
    intro s hs
    exact Int.le_trans (hstart s hs) hb
  | cons c rest ih =>
    intro start offset _ hchanges
    obtain ⟨p, hp, hcovers⟩ := ih (some c.since) c.offset
      (fun s hs => Option.some.inj hs ▸ hchanges c List.mem_cons_self)
      fun d hd => hchanges d (List.mem_cons_of_mem c hd)
    exact ⟨p, List.mem_cons_of_mem _ hp, hcovers⟩

theorem Settled.exists_period (h : z.Settled) {wall : Reading}
    (hw : wall.day < firstDay + 2 ∨ lastDay - 2 < wall.day) :
    ∃ p ∈ z.periods, p.Covers (wall.seconds - 259200) ∧ p.Covers (wall.seconds + 86400) := by
  simp only [Reading.day, Reading.seconds] at hw ⊢
  rcases hw with hw | hw
  · obtain ⟨p, hp, hcovers⟩ := exists_first_period fun c hc => (h.calm c hc).1
    exact ⟨p, hp, hcovers _ (by omega), hcovers _ (by omega)⟩
  · obtain ⟨p, hp, hcovers⟩ := exists_last_period fun c hc => (h.calm c hc).2
    exact ⟨p, hp, hcovers _ (by omega), hcovers _ (by omega)⟩

end Rules

namespace Zone

variable {zone : Zone} {wall : Reading} {i : Instant}

theorem face_of_earliestShowing? (h : zone.earliestShowing? wall = some i) : i.face = wall := by
  obtain ⟨offset, hoffset, hi⟩ := Option.bind_eq_some_iff.mp h
  obtain ⟨p, hfind, rfl⟩ := Option.map_eq_some_iff.mp hoffset
  obtain ⟨hzone, hutc⟩ := Instant.ofUtc?_eq_some hi
  have hshows : p.Shows wall.seconds := by simpa using List.find?_some hfind
  have hseconds : i.utc.seconds = wall.seconds - p.offset := by
    rw [hutc, Reading.seconds_ahead, Int.sub_eq_add_neg]
  rw [Instant.face, Instant.offset, hzone, hseconds,
    Rules.offsetAt_of_covers (List.mem_of_find?_eq_some hfind) hshows]
  exact Reading.ahead_eq_iff.mpr hutc

/-- Far from all changes a reading is shown by the instant that it stands for. The way across a gap
is closed there: it has the same offset, and leads out of the calendar as the first way does. -/
theorem face_of_resolve_in_period (hb : zone.rules.Bounded) {p : Period}
    (hp : p ∈ zone.rules.periods) (hbefore : p.Covers (wall.seconds - 259200))
    (hafter : p.Covers (wall.seconds + 86400)) (hl : wall.leap = false)
    (h : zone.resolve wall = .ok i) : i.face = wall := by
  have hoffset := hb _ (Rules.offset_of_mem_periodsFrom hp)
  have hshowing : zone.rules.offsetShowing? wall.seconds = some p.offset :=
    Rules.offsetShowing?_of_covers hb hp (hbefore.between hafter (by omega))
      (hbefore.between hafter (by omega))
  have hprobe : zone.rules.offsetAt (wall.after (-86400000000000)).seconds = p.offset := by
    refine Rules.offsetAt_of_covers hp (hbefore.between hafter ?_)
    rw [Reading.after_of_not_leap hl]
    simp only [Reading.seconds]
    omega
  have hearliest := earliestShowing?_eq hshowing
  have hsame : wall.after (-1000000000 * p.offset) = wall.ahead (-p.offset) := by
    rw [Reading.after_of_not_leap hl, Reading.ahead, hl, Reading.mk.injEq]
    exact ⟨by omega, rfl⟩
  rcases resolve_eq_ok_iff.mp h with h | ⟨hnone, h⟩
  · exact face_of_earliestShowing? h
  · rw [acrossGap?_eq, hprobe, hsame, ← hearliest, hnone, ite_self] at h
    cases h

theorem face_inRange_of_resolve (hs : zone.rules.Settled) (hw : wall.InRange)
    (hl : wall.leap = false) (h : zone.resolve wall = .ok i) : i.face.InRange := by
  by_cases hend : wall.day < firstDay + 2 ∨ lastDay - 2 < wall.day
  · obtain ⟨p, hp, hbefore, hafter⟩ := hs.exists_period hend
    rw [face_of_resolve_in_period hs.bounded hp hbefore hafter hl h]
    exact hw
  · obtain ⟨hzone, offset, hoffset, hutc⟩ := resolve_eq_ok hs.bounded hl h
    have hi : -86400 < i.offset ∧ i.offset < 86400 := by
      rw [Instant.offset, hzone]
      exact hs.bounded.offsetAt _
    have hback := wall.day_ahead_bounds (s := -offset) ⟨by omega, by omega⟩
    have hforth := (wall.ahead (-offset)).day_ahead_bounds hi
    rw [Instant.face, hutc]
    exact ⟨by omega, by omega⟩

end Zone

end RelativeTime
