import RelativeTime.Proofs.Span
import RelativeTime.Proofs.WallClock

/-! Shifts that add up. Where a clock is never changed, a day lasts as long as any other, so that
shifts by weeks or less, in whatever order, lead as far as their lengths in all. -/
namespace RelativeTime

namespace Sign

def opposite : Sign → Sign
  | .plus => .minus
  | .minus => .plus

theorem apply_opposite (s : Sign) (n : Nat) : s.opposite.apply n = -s.apply n := by
  cases s with
  | plus => rfl
  | minus => exact (Int.neg_neg n).symm

end Sign

namespace Delta

def opposite (d : Delta) : Delta := { d with sign := d.sign.opposite }

/-- Nanoseconds that the shift leads on, the lengths of the units taken as fixed. -/
def nanos (d : Delta) : Int := d.sign.apply d.magnitude * d.unit.span

theorem nanos_opposite (d : Delta) : d.opposite.nanos = -d.nanos := by
  rw [nanos, nanos, ← Int.neg_mul, ← Sign.apply_opposite]
  rfl

theorem amount?_eq_some {d : Delta} {n : Int} (h : d.amount? = some n) :
    n = d.sign.apply d.magnitude := by
  unfold amount? at h
  split at h
  · exact (Option.some.inj h).symm
  · cases h

end Delta

def displacement : List Delta → Int
  | [] => 0
  | d :: ds => d.nanos + displacement ds

theorem displacement_append (ds ds' : List Delta) :
    displacement (ds ++ ds') = displacement ds + displacement ds' := by
  induction ds with
  | nil => simp only [List.nil_append, displacement, Int.zero_add]
  | cons d ds ih => simp only [List.cons_append, displacement, ih, Int.add_assoc]

theorem displacement_perm {ds ds' : List Delta} (h : ds.Perm ds') :
    displacement ds = displacement ds' := by
  induction h with
  | nil => rfl
  | cons d _ ih => simp only [displacement, ih]
  | swap d d' ds => simp only [displacement, Int.add_left_comm]
  | trans _ _ ih ih' => exact ih.trans ih'

theorem displacement_opposite (ds : List Delta) :
    displacement (ds.map Delta.opposite) = -displacement ds := by
  induction ds with
  | nil => rfl
  | cons d ds ih => simp only [List.map_cons, displacement, ih, Delta.nanos_opposite, Int.neg_add]

namespace Instant

variable {i j : Instant} {zone : Zone} {offset : Int} {u : TimeUnit} {n : Int}

/-- One shift: time elapses, or whole days are added on the wall clock, which keeps its offset. -/
theorem utc_of_plus (h : zone.Unchanging offset) (hi : i.zone = zone) (hl : i.utc.leap = false)
    (hu : ¬ u.MovesMonth) (hj : i.plus u n = .ok j) :
    j.zone = zone ∧ j.utc = ⟨i.utc.nanos + n * u.span, false⟩ := by
  by_cases hdate : u.MovesDate
  · obtain ⟨hzone, hface⟩ := face_of_plus_constant h.rules_eq h.bounds hi hdate hj
    have hnanos := congrArg Reading.nanos hface
    have hplain : j.utc.leap = false := (congrArg Reading.leap hface).trans hl
    rw [face_constant h.rules_eq hzone, Reading.onDay_nanos, face_constant h.rules_eq hi,
      Reading.ahead_nanos, Reading.ahead_nanos] at hnanos
    have hspan : j.utc.nanos = i.utc.nanos + n * u.span := by
      rcases hdate with rfl | rfl | rfl | rfl
      · simp only [TimeUnit.stride, Stride.move, TimeUnit.span, Stride.span] at hnanos ⊢
        omega
      · simp only [TimeUnit.stride, Stride.move, TimeUnit.span, Stride.span] at hnanos ⊢
        omega
      · exact absurd (.inl rfl) hu
      · exact absurd (.inr rfl) hu
    rw [← hspan, ← hplain]
    exact ⟨hzone, rfl⟩
  · obtain ⟨nanos, hnanos⟩ := TimeUnit.exists_elapsed hdate
    obtain ⟨hzone, hutc⟩ := (plus_elapsed_eq_ok_iff hnanos).mp hj
    rw [Reading.after_of_not_leap hl] at hutc
    rw [TimeUnit.span, hnanos]
    exact ⟨hzone.trans hi, hutc⟩

theorem utc_of_apply_delta (h : zone.Unchanging offset) (hi : i.zone = zone)
    (hl : i.utc.leap = false) {d : Delta} (hu : ¬ d.unit.MovesMonth)
    (hj : (Token.delta d).apply i = .ok j) :
    j.zone = zone ∧ j.utc = ⟨i.utc.nanos + d.nanos, false⟩ := by
  simp only [Token.apply, Delta.apply] at hj
  split at hj
  · rename_i n hn
    obtain rfl := Delta.amount?_eq_some hn
    exact utc_of_plus h hi hl hu hj
  · cases hj

/-- All shifts of an instruction. Induction on what is left of it; after each shift the instant is
again in the zone and outside inserted seconds. -/
theorem utc_of_evaluate_deltas (h : zone.Unchanging offset) (hi : i.zone = zone)
    (hl : i.utc.leap = false) {ds : List Delta} (hu : ∀ d ∈ ds, ¬ d.unit.MovesMonth)
    (hj : evaluate i (ds.map .delta) = .ok j) :
    j.zone = zone ∧ j.utc = ⟨i.utc.nanos + displacement ds, false⟩ := by
  induction ds generalizing i with
  | nil =>
    obtain rfl := Except.ok.inj hj
    rw [displacement, Int.add_zero, ← hl]
    exact ⟨hi, rfl⟩
  | cons d ds ih =>
    rw [List.map_cons, evaluate_cons] at hj
    obtain ⟨k, hk, hj⟩ := Answer.bind_eq_ok.mp hj
    obtain ⟨hzone, hutc⟩ := utc_of_apply_delta h hi hl (hu d List.mem_cons_self) hk
    have hplain : k.utc.leap = false := by rw [hutc]
    have hrest := ih hzone hplain (fun d' hd' => hu d' (List.mem_cons_of_mem d hd')) hj
    rwa [hutc, Int.add_assoc] at hrest

/-- Under a fixed offset, an instruction of shifts by weeks or less that can be followed leads
from the start as far as the signed lengths of its shifts add up to. So it leads there in any
order in which it can be followed, and on through the opposite shifts, in any order, back to the
start. -/
theorem evaluate_deltas_adds_up (h : zone.Unchanging offset) (hi : i.zone = zone)
    (hl : i.utc.leap = false) {ds : List Delta} (hu : ∀ d ∈ ds, ¬ d.unit.MovesMonth)
    (hj : evaluate i (ds.map .delta) = .ok j) :
    j.zone = zone ∧ j.utc = ⟨i.utc.nanos + displacement ds, false⟩ ∧
      (∀ (ds' : List Delta) k, ds'.Perm ds → evaluate i (ds'.map .delta) = .ok k → k = j) ∧
      (∀ (back : List Delta) k, back.Perm (ds.map Delta.opposite) →
        evaluate i ((ds ++ back).map .delta) = .ok k → k = i) := by
  have hsame {k k' : Instant} {utc : Reading} (hk : k.zone = zone ∧ k.utc = utc)
      (hk' : k'.zone = zone ∧ k'.utc = utc) : k = k' :=
    Option.some.inj ((ofUtc?_eq_some_iff.mpr hk).symm.trans (ofUtc?_eq_some_iff.mpr hk'))
  obtain ⟨hzone, hutc⟩ := utc_of_evaluate_deltas h hi hl hu hj
  refine ⟨hzone, hutc, fun ds' k hperm hk => ?_, fun back k hperm hk => ?_⟩
  · have hu' : ∀ d ∈ ds', ¬ d.unit.MovesMonth := fun d hd => hu d (hperm.mem_iff.mp hd)
    have hreached := utc_of_evaluate_deltas h hi hl hu' hk
    rw [displacement_perm hperm] at hreached
    exact hsame hreached ⟨hzone, hutc⟩
  · have hu' : ∀ d ∈ ds ++ back, ¬ d.unit.MovesMonth := by
      intro d hd
      rcases List.mem_append.mp hd with hd | hd
      · exact hu d hd
      · obtain ⟨d', hd', rfl⟩ := List.mem_map.mp (hperm.mem_iff.mp hd)
        exact hu d' hd'
    have hreached := utc_of_evaluate_deltas h hi hl hu' hk
    rw [displacement_append, displacement_perm hperm, displacement_opposite, Int.add_right_neg,
      Int.add_zero, ← hl] at hreached
    exact hsame hreached ⟨hi, rfl⟩

/-- Back over the end of 1969 and on again, by units of every length up to weeks. -/
theorem evaluate_deltas_across_1970 :
    ∃ (zone : Zone) (i j : Instant) (ds : List Delta), zone.Unchanging 20700 ∧ i.zone = zone ∧
      i.utc = ⟨0, false⟩ ∧ ds.map Delta.text = ["+1w", "-9d", "+50h", "-61m", "+7s", "-8ms"] ∧
      evaluate i (ds.map .delta) = .ok j ∧ j.utc = ⟨3546992000000, false⟩ ∧
      evaluate i (ds.reverse.map .delta) = .ok j ∧
      evaluate i ((ds ++ (ds.map Delta.opposite).reverse).map .delta) = .ok i := by
  let zone : Zone := .fixed ⟨20700, by decide, by decide⟩
  let i : Instant := ⟨⟨0, false⟩, zone, by decide⟩
  let ds : List Delta := [⟨.plus, 1, .weeks, by decide⟩, ⟨.minus, 9, .days, by decide⟩,
    ⟨.plus, 50, .hours, by decide⟩, ⟨.minus, 61, .minutes, by decide⟩,
    ⟨.plus, 7, .seconds, by decide⟩, ⟨.minus, 8, .milliseconds, by decide⟩]
  have hu : zone.Unchanging 20700 := ⟨rfl, by decide⟩
  have hexists (ts : List Token) (h : (evaluate i ts).toOption.isSome = true) :
      ∃ k, evaluate i ts = .ok k := by
    obtain ⟨k, hk⟩ := Option.isSome_iff_exists.mp h
    exact ⟨k, Answer.toOption_eq_some_iff.mp hk⟩
  obtain ⟨j, hj⟩ := hexists (ds.map .delta) (by decide +kernel)
  obtain ⟨k, hk⟩ := hexists (ds.reverse.map .delta) (by decide +kernel)
  obtain ⟨k', hk'⟩ :=
    hexists ((ds ++ (ds.map Delta.opposite).reverse).map .delta) (by decide +kernel)
  obtain ⟨-, hutc, hperm, hback⟩ := evaluate_deltas_adds_up hu rfl rfl (by decide) hj
  obtain rfl := hperm _ k ds.reverse_perm hk
  have hreturned := hback _ k' (ds.map Delta.opposite).reverse_perm hk'
  rw [hreturned] at hk'
  exact ⟨zone, i, k, ds, hu, rfl, rfl, by decide +kernel, hj, hutc, hk, hk'⟩

end Instant

end RelativeTime
