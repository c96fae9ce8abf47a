import RelativeTime.Proofs.Floor
import RelativeTime.Proofs.Zone.Ends

/-! What a reading of the wall clock stands for, taken from the readings of UTC at which the clock
shows it. The periods of a zone cover UTC and come in the order of time, so that the first of them
to show a reading shows it before all others do. -/
namespace RelativeTime

namespace Reading

structure FirstOf (kind : Reading → Prop) (b : Reading) : Prop where
  holds : kind b
  first : ∀ c, kind c → ¬ c < b

theorem FirstOf.unique {kind : Reading → Prop} {b b' : Reading} (h : FirstOf kind b)
    (h' : FirstOf kind b') : b = b' :=
  eq_of_not_lt (h'.first b h.holds) (h.first b' h'.holds)

end Reading

namespace Rules

def faceAt (z : Rules) (utc : Reading) : Reading := utc.ahead (z.offsetAt utc.seconds)

variable {z : Rules} {p q : Period}

theorem exists_mem_periodsFrom (start : Option Int) (offset : Int) (changes : List Change) :
    ∃ p ∈ periodsFrom start offset changes, p.start = start ∧ p.offset = offset := by
  cases changes with
  | nil => exact ⟨_, List.mem_cons_self, rfl, rfl⟩
  | cons c rest => exact ⟨_, List.mem_cons_self, rfl, rfl⟩

/-- A second of UTC is looked up that the offset has a say in. Either a period covers the one that
its own offset gives, or it is too late for a period and too early for the next. Induction on the
changes that are left, where the period before them has begun. -/
theorem exists_period_or_change (z : Rules) (second : Int → Int) :
    (∃ p ∈ z.periods, p.Covers (second p.offset)) ∨
      ∃ c ∈ z.changes, ∃ p ∈ z.periods, ∃ q ∈ z.periods, p.stop = some c.since ∧
        q.start = some c.since ∧ q.offset = c.offset ∧ c.since ≤ second p.offset ∧
        second c.offset < c.since := by
  suffices hfrom : ∀ (changes : List Change) (start : Option Int) (offset : Int),
      (∀ s, start = some s → s ≤ second offset) →
      (∃ p ∈ periodsFrom start offset changes, p.Covers (second p.offset)) ∨
        ∃ c ∈ changes, ∃ p ∈ periodsFrom start offset changes,
          ∃ q ∈ periodsFrom start offset changes, p.stop = some c.since ∧
            q.start = some c.since ∧ q.offset = c.offset ∧ c.since ≤ second p.offset ∧
            second c.offset < c.since from
    hfrom z.changes none z.initial nofun
  intro changes
  induction changes with
  | nil =>
    intro start offset hbegun
    exact .inl ⟨_, List.mem_cons_self, Period.covers_iff.mpr ⟨hbegun, nofun⟩⟩
  | cons c rest ih =>
    intro start offset hbegun
    by_cases hbefore : second offset < c.since
    · refine .inl ⟨_, List.mem_cons_self, Period.covers_iff.mpr ⟨hbegun, ?_⟩⟩
      rintro s ⟨⟩
      exact hbefore
    by_cases hafter : second c.offset < c.since
    · obtain ⟨q, hq, hstart, hoffset⟩ := exists_mem_periodsFrom (some c.since) c.offset rest
      exact .inr ⟨c, List.mem_cons_self, _, List.mem_cons_self, q, List.mem_cons_of_mem _ hq, rfl,
        hstart, hoffset, Int.not_lt.mp hbefore, hafter⟩
    · have hnext : ∀ s, some c.since = some s → s ≤ second c.offset := by
        rintro s ⟨⟩
        exact Int.not_lt.mp hafter
      rcases ih (some c.since) c.offset hnext with ⟨p, hp, hcovers⟩ | ⟨d, hd, p, hp, q, hq, h⟩
      · exact .inl ⟨p, List.mem_cons_of_mem _ hp, hcovers⟩
      · exact .inr ⟨d, List.mem_cons_of_mem _ hd, p, List.mem_cons_of_mem _ hp, q,
          List.mem_cons_of_mem _ hq, h⟩

theorem exists_period (z : Rules) (second : Int) : ∃ p ∈ z.periods, p.Covers second := by
  rcases z.exists_period_or_change fun _ => second with h | ⟨c, -, p, -, q, -, -, -, -, h, h'⟩
  · exact h
  · exact absurd h (Int.not_le.mpr h')

theorem exists_period_of_faceAt {utc wall : Reading} (h : z.faceAt utc = wall) :
    ∃ p ∈ z.periods, p.Covers utc.seconds ∧ p.Shows wall.seconds ∧
      utc = wall.ahead (-p.offset) := by
  obtain ⟨p, hp, hcovers⟩ := z.exists_period utc.seconds
  rw [faceAt, offsetAt_of_covers hp hcovers] at h
  have hshows : p.Shows wall.seconds := by
    rw [Period.Shows, ← h, Reading.seconds_ahead, Int.add_sub_cancel]
    exact hcovers
  exact ⟨p, hp, hcovers, hshows, Reading.ahead_eq_iff.mp h⟩

theorem firstOf_of_offsetShowing? {wall : Reading} {offset : Int}
    (h : z.offsetShowing? wall.seconds = some offset) :
    Reading.FirstOf (fun utc => z.faceAt utc = wall) (wall.ahead (-offset)) := by
  obtain ⟨p, hfind, rfl⟩ := Option.map_eq_some_iff.mp h
  obtain ⟨hshows, earlier, later, hsplit, hnone⟩ := List.find?_eq_some_iff_append.mp hfind
  have hp : p ∈ z.periods := List.mem_of_find?_eq_some hfind
  have hcovers : p.Covers (wall.ahead (-p.offset)).seconds := by
    rw [Reading.seconds_ahead]
    exact of_decide_eq_true hshows
  constructor
  · rw [faceAt, offsetAt_of_covers hp hcovers, Reading.ahead_ahead, Int.add_left_neg,
      Reading.ahead_zero]
  · intro utc hutc
    obtain ⟨q, hq, hcovers', hshows', rfl⟩ := exists_period_of_faceAt hutc
    rw [hsplit, List.mem_append, List.mem_cons] at hq
    rcases hq with hq | rfl | hq
    · -- No period before the first shows the reading.
      exact absurd hshows' (by simpa using hnone q hq)
    · exact fun hlt => Reading.lt_asymm hlt hlt
    · have hpairwise := pairwise_periodsFrom z.ascending none z.initial
      change z.periods.Pairwise Period.Before at hpairwise
      rw [hsplit, List.pairwise_append, List.pairwise_cons] at hpairwise
      have hlt := hpairwise.2.1.1 q hq _ _ hcovers hcovers'
      exact Reading.lt_asymm (.inl hlt)

theorem not_shows_of_offsetShowing? {wall : Int} (h : z.offsetShowing? wall = none)
    (hp : p ∈ z.periods) : ¬ p.Shows wall := by
  have hfind := List.find?_eq_none.mp (Option.map_eq_none_iff.mp h) p hp
  simpa using hfind

theorem offsetShowing?_eq_none_iff {wall : Reading} :
    z.offsetShowing? wall.seconds = none ↔ ∀ utc, z.faceAt utc ≠ wall := by
  constructor
  · intro h utc hutc
    obtain ⟨p, hp, -, hshows, -⟩ := exists_period_of_faceAt hutc
    exact not_shows_of_offsetShowing? h hp hshows
  · intro h
    cases ho : z.offsetShowing? wall.seconds with
    | none => rfl
    | some offset => exact absurd (firstOf_of_offsetShowing? ho).holds (h _)

end Rules

theorem Instant.face_eq (i : Instant) : i.face = i.zone.rules.faceAt i.utc := rfl

end RelativeTime
