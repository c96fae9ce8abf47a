import RelativeTime.Proofs.Evaluation
import RelativeTime.Proofs.Zone.Constant

/-! Instructions followed on the wall clock alone. Where a clock is never changed, what it shows
after an instruction is told by what it showed before, and its offset has no part in it. -/
namespace RelativeTime

open Calendar

structure Zone.Unchanging (zone : Zone) (offset : Int) : Prop where
  rules_eq : zone.rules = .constant offset
  bounds : -86400 < offset ∧ offset < 86400

theorem Zone.Unchanging.bounded {zone : Zone} {offset : Int} (h : zone.Unchanging offset) :
    zone.rules.Bounded :=
  h.rules_eq ▸ Rules.bounded_constant h.bounds

namespace Reading

def plus (r : Reading) (unit : TimeUnit) (amount : Int) : Reading :=
  match unit.stride with
  | .elapsed nanos => r.after (amount * nanos)
  | stride => r.onDay (stride.move r.day amount)

def startOf (r : Reading) (unit : TimeUnit) : Reading :=
  match unit.stride with
  | .elapsed nanos => r.after (-(r.nanos % nanos))
  | .days _ => .midnight r.day
  | .months count => .midnight (monthStart (count * (monthOf r.day / count)))

def apply (r : Reading) : Token → Reading
  | .delta d => r.plus d.unit (d.amount?.getD 0)
  | .snap s =>
    match s.unit with
    | .weeks =>
      (r.plus .days (-(daysSince (weekdayOf r.day) (s.weekday.getD 0) : Int))).startOf .days
    | unit => r.startOf unit

theorem plus_of_movesDate {u : TimeUnit} (hu : u.MovesDate) (r : Reading) (n : Int) :
    r.plus u n = r.onDay (u.stride.move r.day n) := by
  rcases hu with rfl | rfl | rfl | rfl <;> rfl

theorem startOf_of_movesDate {u : TimeUnit} (hu : u.MovesDate) (r : Reading) :
    r.startOf u = .midnight (u.firstDate r.day) := by
  rcases hu with rfl | rfl | rfl | rfl <;> rfl

theorem ahead_after (r : Reading) (s nanos : Int) :
    (r.ahead s).after nanos = (r.after nanos).ahead s := by
  have hsecond : (r.nanos + 1000000000 * s) % 1000000000 = r.nanos % 1000000000 := by omega
  unfold after
  simp only [ahead, hsecond]
  by_cases hl : r.leap = true
  · rw [if_pos hl, if_pos hl]
    by_cases hback : r.nanos % 1000000000 + nanos < 0
    · rw [if_pos hback, if_pos hback]
      simp only [mk.injEq, and_true]
      omega
    · rw [if_neg hback, if_neg hback]
      simp only [mk.injEq, and_true]
      omega
  · rw [if_neg hl, if_neg hl]
    simp only [mk.injEq, and_true]
    omega

theorem ahead_lt_ahead_iff {a b : Reading} (s : Int) : a.ahead s < b.ahead s ↔ a < b := by
  change ((a.ahead s).seconds < (b.ahead s).seconds ∨ (a.ahead s).seconds = (b.ahead s).seconds ∧
    (a.ahead s).subsecond < (b.ahead s).subsecond) ↔
    (a.seconds < b.seconds ∨ a.seconds = b.seconds ∧ a.subsecond < b.subsecond)
  have hsubsecond (r : Reading) : (r.ahead s).subsecond = r.subsecond := by
    have hinserted : (r.ahead s).inserted = r.inserted := rfl
    simp only [subsecond, hinserted, ahead_nanos]
    omega
  rw [hsubsecond, hsubsecond, seconds_ahead, seconds_ahead]
  omega

end Reading

namespace Instant

variable {i j : Instant} {zone : Zone} {offset : Int} {u : TimeUnit} {n : Int}

theorem face_of_after? (h : zone.Unchanging offset) (hi : i.zone = zone) {nanos : Int}
    (hj : i.after? nanos = some j) : j.zone = zone ∧ j.face = i.face.after nanos := by
  obtain ⟨hzone, hutc⟩ := ofUtc?_eq_some hj
  have hzone' := hzone.trans hi
  rw [face_constant h.rules_eq hzone', face_constant h.rules_eq hi, Reading.ahead_after, hutc]
  exact ⟨hzone', rfl⟩

theorem face_of_plus (h : zone.Unchanging offset) (hi : i.zone = zone)
    (hj : i.plus u n = .ok j) : j.zone = zone ∧ j.face = i.face.plus u n := by
  by_cases hu : u.MovesDate
  · rw [Reading.plus_of_movesDate hu]
    exact face_of_plus_constant h.rules_eq h.bounds hi hu hj
  · obtain ⟨nanos, hnanos⟩ := TimeUnit.exists_elapsed hu
    simp only [Reading.plus, hnanos]
    exact face_of_after? h hi (ofUtc?_eq_some_iff.mpr ((plus_elapsed_eq_ok_iff hnanos).mp hj))

theorem face_of_startOf (h : zone.Unchanging offset) (hi : i.zone = zone)
    (hj : i.startOf u = .ok j) : j.zone = zone ∧ j.face = i.face.startOf u := by
  by_cases hu : u.MovesDate
  · rw [Reading.startOf_of_movesDate hu]
    obtain ⟨-, hresolve⟩ := (startOf_date_eq_ok_iff hu).mp hj
    rw [hi] at hresolve
    exact (Zone.resolve_constant_iff h.rules_eq h.bounds).mp hresolve
  · obtain ⟨nanos, hnanos⟩ := TimeUnit.exists_elapsed hu
    simp only [Reading.startOf, hnanos]
    exact face_of_after? h hi (ofUtc?_eq_some_iff.mpr ((startOf_elapsed_eq_ok_iff hnanos).mp hj))

theorem face_of_apply (h : zone.Unchanging offset) (hi : i.zone = zone) {t : Token}
    (hj : t.apply i = .ok j) : j.zone = zone ∧ j.face = i.face.apply t := by
  cases t with
  | delta d =>
    simp only [Token.apply, Delta.apply] at hj
    split at hj
    · rename_i amount hamount
      rw [Reading.apply, hamount]
      exact face_of_plus h hi hj
    · cases hj
  | snap s =>
    by_cases hs : s.unit = .weeks
    · simp only [Token.apply, Snap.apply, hs] at hj
      obtain ⟨aligned, haligned, hj⟩ := Answer.bind_eq_ok.mp hj
      obtain ⟨hzone, hface⟩ := face_of_plus h hi haligned
      simp only [Reading.apply, hs]
      rw [weekday] at hface
      rw [← hface]
      exact face_of_startOf h hzone hj
    · rw [Token.apply, Snap.apply_of_ne_weeks hs] at hj
      have happly : i.face.apply (.snap s) = i.face.startOf s.unit := by
        simp only [Reading.apply]
      rw [happly]
      exact face_of_startOf h hi hj

/-- Wherever an instruction can be followed, the wall clock follows it by itself. -/
theorem face_of_evaluate (h : zone.Unchanging offset) (hi : i.zone = zone) {ts : List Token}
    (hj : evaluate i ts = .ok j) : j.zone = zone ∧ j.face = ts.foldl Reading.apply i.face := by
  induction ts generalizing i with
  | nil =>
    obtain rfl := Except.ok.inj hj
    exact ⟨hi, rfl⟩
  | cons t ts ih =>
    rw [evaluate_cons] at hj
    obtain ⟨k, hk, hj⟩ := Answer.bind_eq_ok.mp hj
    obtain ⟨hzone, hface⟩ := face_of_apply h hi hk
    rw [List.foldl_cons, ← hface]
    exact ih hzone hj

end Instant

end RelativeTime
