import Mathlib
import RelativeTime.Proofs.Displacement
import RelativeTime.Proofs.Exactness

/-! Shifts by months and years. They add up as long as none of them cuts the day of the month, and a
cut is never undone: the day of the month that is shown at the end tells whether there was one. -/
namespace RelativeTime

open Calendar

namespace Calendar

/-- A move by months that leaves the day of the month can be followed by another as if it had not
been made on its own. -/
theorem monthsOn_monthsOn {day m : Int} (n : Int)
    (h : (Date.ofDay (monthsOn day m)).day = (Date.ofDay day).day) :
    monthsOn (monthsOn day m) n = monthsOn day (m + n) := by
  have hbegun := monthStart_monthOf_le day
  have hbegun' := monthStart_monthOf_le (monthsOn day m)
  have hday : monthsOn day m - monthStart (monthOf (monthsOn day m)) =
      day - monthStart (monthOf day) := by
    simp only [Date.ofDay] at h
    omega
  rw [monthsOn, hday, monthOf_monthsOn, monthsOn, Int.add_assoc]

theorem dayOfMonth_monthsOn_le (day n : Int) :
    (Date.ofDay (monthsOn day n)).day ≤ (Date.ofDay day).day := by
  have hcut := (Reading.eq_monthsOn_iff.mp (Eq.refl (monthsOn day n))).2
  omega

end Calendar

theorem Reading.onDay_onDay (r : Reading) (day day' : Int) :
    (r.onDay day).onDay day' = r.onDay day' := by
  simp only [onDay, timeOfDay, mk.injEq, and_true]
  omega

namespace Delta

def months (d : Delta) : Int :=
  match d.unit.stride with
  | .months count => d.sign.apply d.magnitude * count
  | _ => 0

theorem months_opposite (d : Delta) : d.opposite.months = -d.months := by
  have hunit : d.opposite.unit = d.unit := rfl
  have hamount : d.opposite.sign.apply d.opposite.magnitude = -d.sign.apply d.magnitude :=
    Sign.apply_opposite d.sign d.magnitude
  unfold months
  rw [hunit, hamount]
  cases d.unit.stride with
  | months count => exact Int.neg_mul _ _
  | elapsed _ => rfl
  | days _ => rfl

end Delta

theorem sum_months_opposite (ds : List Delta) :
    ((ds.map Delta.opposite).map Delta.months).sum = -(ds.map Delta.months).sum := by
  induction ds with
  | nil => rfl
  | cons d ds ih =>
    simp only [List.map_cons, List.sum_cons, ih, Delta.months_opposite, Int.neg_add]

namespace Instant

variable {i j k : Instant} {zone : Zone} {offset : Int} {ds : List Delta}

def dayOfMonth (i : Instant) : Nat := (Date.ofDay i.face.day).day

/-- After each of the shifts that can be made, the wall clock shows the day of the month that it
shows at the start. -/
def KeepsDay (i : Instant) (ds : List Delta) : Prop :=
  ∀ before k, before <+: ds → evaluate i (before.map .delta) = .ok k → k.dayOfMonth = i.dayOfMonth

theorem eq_of_face (h : zone.Unchanging offset) (hi : i.zone = zone) (hj : j.zone = zone)
    (hface : i.face = j.face) : i = j := by
  have hok := (Zone.resolve_constant_iff h.rules_eq h.bounds).mpr ⟨hi, rfl⟩
  rw [hface, (Zone.resolve_constant_iff h.rules_eq h.bounds).mpr ⟨hj, rfl⟩] at hok
  exact (Except.ok.inj hok).symm

theorem face_of_apply_months (h : zone.Unchanging offset) (hi : i.zone = zone) {d : Delta}
    (hu : d.unit.MovesMonth) (hj : (Token.delta d).apply i = .ok j) :
    j.zone = zone ∧ j.face = i.face.onDay (monthsOn i.face.day d.months) ∧
      j.face.InRange ∧ ¬ j.face.InLastMonth := by
  simp only [Token.apply, Delta.apply] at hj
  split at hj
  · rename_i n hn
    obtain rfl := Delta.amount?_eq_some hn
    have hd := ((plus_date_eq_ok_iff hu.movesDate).mp hj).1
    obtain ⟨hzone, hface, hrange, hlast⟩ := (plus_eq_ok_iff h hi hd).mp hj
    refine ⟨hzone, ?_, hrange hu.movesDate, fun hin => hlast ⟨hu, hin⟩⟩
    rw [hface, Reading.plus_of_movesDate hu.movesDate, Delta.months]
    rcases hu with hunit | hunit <;> rw [hunit] <;> rfl
  · cases hj

/-- What all shifts keep: a date in the calendar, and after the first of them not one in its last
month. The day of the month never grows. -/
theorem dated_of_evaluate_months (h : zone.Unchanging offset) (hi : i.zone = zone)
    (hd : i.face.InRange) (hu : ∀ d ∈ ds, d.unit.MovesMonth)
    (hj : evaluate i (ds.map .delta) = .ok j) :
    j.zone = zone ∧ j.face.InRange ∧ j.dayOfMonth ≤ i.dayOfMonth ∧
      (ds ≠ [] ∨ ¬ i.face.InLastMonth → ¬ j.face.InLastMonth) := by
  induction ds generalizing i with
  | nil =>
    obtain rfl := Except.ok.inj hj
    exact ⟨hi, hd, Nat.le_refl _, fun hlast => hlast.resolve_left (absurd rfl)⟩
  | cons d ds ih =>
    rw [List.map_cons, evaluate_cons] at hj
    obtain ⟨k, hk, hj⟩ := Answer.bind_eq_ok.mp hj
    obtain ⟨hzone, hface, hrange, hlast⟩ :=
      face_of_apply_months h hi (hu d List.mem_cons_self) hk
    obtain ⟨hzone', hrange', hle, hlast'⟩ :=
      ih hzone hrange (fun d' hd' => hu d' (List.mem_cons_of_mem d hd')) hj
    have hcut : k.dayOfMonth ≤ i.dayOfMonth := by
      rw [dayOfMonth, hface, Reading.onDay_day]
      exact dayOfMonth_monthsOn_le _ _
    exact ⟨hzone', hrange', Nat.le_trans hle hcut, fun _ => hlast' (.inr hlast)⟩

theorem keepsDay_iff (h : zone.Unchanging offset) (hi : i.zone = zone) (hd : i.face.InRange)
    (hu : ∀ d ∈ ds, d.unit.MovesMonth) (hj : evaluate i (ds.map .delta) = .ok j) :
    i.KeepsDay ds ↔ j.dayOfMonth = i.dayOfMonth := by
  constructor
  · intro hkeeps
    exact hkeeps ds j List.prefix_rfl hj
  · rintro hsame before k ⟨after, rfl⟩ hk
    rw [List.map_append, evaluate_append, hk, Answer.bind_ok] at hj
    obtain ⟨hzone, hrange, hle, -⟩ := dated_of_evaluate_months h hi hd
      (fun d hd => hu d (List.mem_append_left _ hd)) hk
    have hle' := (dated_of_evaluate_months h hzone hrange
      (fun d hd => hu d (List.mem_append_right _ hd)) hj).2.2.1
    omega

/-- The first of the shifts: the day of the month stays, and from the date that is reached any
months lead as far as after the first ones from the start. -/
theorem KeepsDay.step (h : zone.Unchanging offset) (hi : i.zone = zone) {d : Delta}
    (hu : d.unit.MovesMonth) (hkeeps : i.KeepsDay (d :: ds))
    (hk : (Token.delta d).apply i = .ok k) :
    k.zone = zone ∧ k.face = i.face.onDay (monthsOn i.face.day d.months) ∧
      (∀ n, monthsOn k.face.day n = monthsOn i.face.day (d.months + n)) ∧ k.KeepsDay ds := by
  obtain ⟨hzone, hface, -⟩ := face_of_apply_months h hi hu hk
  have hday : k.face.day = monthsOn i.face.day d.months := by rw [hface, Reading.onDay_day]
  have hfirst : k.dayOfMonth = i.dayOfMonth := by
    refine hkeeps [d] k (List.prefix_append [d] ds) ?_
    rw [List.map_singleton, evaluate_singleton, hk]
  refine ⟨hzone, hface, fun n => ?_, fun before l hbefore hl => ?_⟩
  · rw [dayOfMonth, dayOfMonth, hday] at hfirst
    rw [hday, monthsOn_monthsOn n hfirst]
  · rw [hfirst]
    refine hkeeps (d :: before) l (List.cons_prefix_cons.mpr ⟨rfl, hbefore⟩) ?_
    rw [List.map_cons, evaluate_cons, hk, Answer.bind_ok, hl]

/-- All shifts of an instruction. Induction on what is left of it; as no shift cuts the day of the
month, two of them lead as far as one by their sum. -/
theorem face_of_evaluate_months (h : zone.Unchanging offset) (hi : i.zone = zone)
    (hu : ∀ d ∈ ds, d.unit.MovesMonth) (hj : evaluate i (ds.map .delta) = .ok j)
    (hkeeps : i.KeepsDay ds) :
    j.face = i.face.onDay (monthsOn i.face.day (ds.map Delta.months).sum) := by
  induction ds generalizing i with
  | nil =>
    obtain rfl := Except.ok.inj hj
    rw [List.map_nil, List.sum_nil, monthsOn_zero, Reading.onDay_self]
  | cons d ds ih =>
    rw [List.map_cons, evaluate_cons] at hj
    obtain ⟨k, hk, hj⟩ := Answer.bind_eq_ok.mp hj
    obtain ⟨hzone, hface, hon, hkeeps⟩ := hkeeps.step h hi (hu d List.mem_cons_self) hk
    have hrest := ih hzone (fun d' hd' => hu d' (List.mem_cons_of_mem d hd')) hj hkeeps
    rw [hrest, hon, hface, List.map_cons, List.sum_cons, Reading.onDay_onDay]

theorem evaluate_back (h : zone.Unchanging offset) (hi : i.zone = zone)
    (hu : ∀ d ∈ ds, d.unit.MovesMonth) (hj : evaluate i (ds.map .delta) = .ok j)
    (hkeeps : i.KeepsDay ds)
    (hk : evaluate j ((ds.map Delta.opposite).reverse.map .delta) = .ok k) : k = i := by
  induction ds generalizing i k with
  | nil =>
    obtain rfl := Except.ok.inj hj
    exact (Except.ok.inj hk).symm
  | cons d ds ih =>
    rw [List.map_cons, evaluate_cons] at hj
    obtain ⟨l, hl, hj⟩ := Answer.bind_eq_ok.mp hj
    obtain ⟨hzone, hface, hon, hkeeps⟩ := hkeeps.step h hi (hu d List.mem_cons_self) hl
    rw [List.map_cons, List.reverse_cons, List.map_append, evaluate_append] at hk
    obtain ⟨l', hl', hk⟩ := Answer.bind_eq_ok.mp hk
    obtain rfl := ih hzone (fun d' hd' => hu d' (List.mem_cons_of_mem d hd')) hj hkeeps hl'
    rw [List.map_singleton, evaluate_singleton] at hk
    have hunit : d.opposite.unit.MovesMonth := hu d List.mem_cons_self
    obtain ⟨hzone', hface', -⟩ := face_of_apply_months h hzone hunit hk
    refine eq_of_face h hzone' hi ?_
    rw [hface', hon, hface, Delta.months_opposite, Int.add_right_neg, monthsOn_zero,
      Reading.onDay_onDay, Reading.onDay_self]

/-- Under a fixed offset, an instruction of shifts by months and years, none of which cuts the day
of the month, leads where one shift by the months in all leads, and so it does in any order in
which again none cuts it. The opposite shifts lead back to the start if the last one is made
first, or if none of them cuts the day of the month either. -/
theorem evaluate_months_adds_up (h : zone.Unchanging offset) (hi : i.zone = zone)
    (hd : i.face.InRange) (hu : ∀ d ∈ ds, d.unit.MovesMonth)
    (hj : evaluate i (ds.map .delta) = .ok j) (hkeeps : i.KeepsDay ds)
    (hlast : ds ≠ [] ∨ ¬ i.face.InLastMonth) :
    (ds.map Delta.months).sum.natAbs < 0x8000000000000000 ∧
      i.plus .months (ds.map Delta.months).sum = .ok j ∧
      (∀ (ds' : List Delta) k, ds'.Perm ds → evaluate i (ds'.map .delta) = .ok k →
        i.KeepsDay ds' → k = j) ∧
      (∀ k, evaluate j ((ds.map Delta.opposite).reverse.map .delta) = .ok k → k = i) ∧
      (∀ (back : List Delta) k, back.Perm (ds.map Delta.opposite) →
        evaluate j (back.map .delta) = .ok k → j.KeepsDay back → k = i) := by
  have hface := face_of_evaluate_months h hi hu hj hkeeps
  obtain ⟨hzone, hrange, -, hbefore⟩ := dated_of_evaluate_months h hi hd hu hj
  have hday : j.face.day = monthsOn i.face.day (ds.map Delta.months).sum := by
    rw [hface, Reading.onDay_day]
  have hkept : j.dayOfMonth = i.dayOfMonth := hkeeps ds j List.prefix_rfl hj
  refine ⟨?_, ?_, fun ds' k hperm hk hkeeps' => ?_, fun k hk => evaluate_back h hi hu hj hkeeps hk,
    fun back k hperm hk hkeeps' => ?_⟩
  · have hmonth := monthOf_monthsOn i.face.day (ds.map Delta.months).sum
    have hstart := dayInRange_iff_month.mp hd
    have hend := dayInRange_iff_month.mp hrange
    rw [hday] at hend
    omega
  · rw [plus_eq_ok_iff h hi hd, Reading.plus_of_movesDate (by decide)]
    refine ⟨hzone, ?_, fun _ => hrange, fun hin => hbefore hlast hin.2⟩
    rw [hface]
    simp only [TimeUnit.stride, Stride.move, Int.mul_one]
  · have hu' : ∀ d ∈ ds', d.unit.MovesMonth := fun d hd => hu d (hperm.mem_iff.mp hd)
    have hface' := face_of_evaluate_months h hi hu' hk hkeeps'
    rw [(hperm.map _).sum_eq] at hface'
    obtain ⟨hzone', -⟩ := dated_of_evaluate_months h hi hd hu' hk
    exact eq_of_face h hzone' hzone (hface'.trans hface.symm)
  · have hu' : ∀ d ∈ back, d.unit.MovesMonth := by
      intro d hd
      obtain ⟨d', hd', rfl⟩ := List.mem_map.mp (hperm.mem_iff.mp hd)
      exact hu d' hd'
    have hface' := face_of_evaluate_months h hzone hu' hk hkeeps'
    obtain ⟨hzone', -⟩ := dated_of_evaluate_months h hzone hrange hu' hk
    rw [dayOfMonth, dayOfMonth, hday] at hkept
    rw [(hperm.map _).sum_eq, sum_months_opposite, hday, monthsOn_monthsOn _ hkept,
      Int.add_right_neg, monthsOn_zero, hface, Reading.onDay_onDay, Reading.onDay_self] at hface'
    exact eq_of_face h hzone' hi hface'

/-- From one 29 February to another, that of year 0, and on to a 29 March, on a clock ahead of
UTC. -/
theorem evaluate_months_across_year_zero :
    ∃ (zone : Zone) (i j : Instant) (ds : List Delta), zone.Unchanging 20700 ∧ i.zone = zone ∧
      i.face.InRange ∧ Date.ofDay i.face.day = ⟨-4, 2, 29⟩ ∧
      ds.map Delta.text = ["+4y", "-11mon", "-1y"] ∧ evaluate i (ds.map .delta) = .ok j ∧
      i.KeepsDay ds ∧ Date.ofDay j.face.day = ⟨-2, 3, 29⟩ ∧ i.plus .months 25 = .ok j ∧
      evaluate j ((ds.map Delta.opposite).reverse.map .delta) = .ok i := by
  let zone : Zone := .fixed ⟨20700, by decide, by decide⟩
  let i : Instant := ⟨⟨-62288369100000000000, false⟩, zone, by decide⟩
  let j : Instant := ⟨⟨-62222791500000000000, false⟩, zone, by decide⟩
  let ds : List Delta := [⟨.plus, 4, .years, by decide⟩, ⟨.minus, 11, .months, by decide⟩,
    ⟨.minus, 1, .years, by decide⟩]
  have hu : zone.Unchanging 20700 := ⟨rfl, by decide⟩
  have hd : i.face.InRange := by decide
  have hmonths : ∀ d ∈ ds, d.unit.MovesMonth := by decide
  have hj : evaluate i (ds.map .delta) = .ok j := by decide +kernel
  have hkeeps : i.KeepsDay ds := (keepsDay_iff hu rfl hd hmonths hj).mpr (by decide)
  obtain ⟨-, hplus, -, hback, -⟩ :=
    evaluate_months_adds_up hu rfl hd hmonths hj hkeeps (.inl (List.cons_ne_nil _ _))
  let back : List Token := (ds.map Delta.opposite).reverse.map .delta
  obtain ⟨k, hk⟩ : ∃ k, evaluate j back = .ok k := by
    have hsome : (evaluate j back).toOption.isSome = true := by decide +kernel
    obtain ⟨k, hk⟩ := Option.isSome_iff_exists.mp hsome
    exact ⟨k, Answer.toOption_eq_some_iff.mp hk⟩
  have hsum : (ds.map Delta.months).sum = 25 := by decide +kernel
  rw [hback k hk] at hk
  rw [hsum] at hplus
  exact ⟨zone, i, j, ds, hu, rfl, hd, by decide, by decide +kernel, hj, hkeeps, by decide, hplus,
    hk⟩

/-- In the order in which the shifts were made, the opposite ones may cut the day of the month, and
lead a day short of the start. And by no months at all there is no way to stay in the last month of
the calendar. -/
theorem months_not_undone_in_order :
    (∃ (i j k : Instant) (ds : List Delta), i.zone.Unchanging 0 ∧ i.face.InRange ∧
      (∀ d ∈ ds, d.unit.MovesMonth) ∧ ds.map Delta.text = ["+2mon", "+5mon"] ∧
      evaluate i (ds.map .delta) = .ok j ∧ i.KeepsDay ds ∧
      evaluate j ((ds.map Delta.opposite).map .delta) = .ok k ∧ k ≠ i ∧
      Date.ofDay i.face.day = ⟨2023, 1, 31⟩ ∧ Date.ofDay k.face.day = ⟨2023, 1, 30⟩) ∧
    ∃ i : Instant, i.zone.Unchanging 0 ∧ i.face.InRange ∧ evaluate i [] = .ok i ∧ i.KeepsDay [] ∧
      Date.ofDay i.face.day = ⟨262142, 12, 15⟩ ∧ ∀ j, i.plus .months 0 ≠ .ok j := by
  let zone : Zone := .fixed ⟨0, by decide, by decide⟩
  let i : Instant := ⟨⟨1675123200000000000, false⟩, zone, by decide⟩
  let j : Instant := ⟨⟨1693440000000000000, false⟩, zone, by decide⟩
  let k : Instant := ⟨⟨1675036800000000000, false⟩, zone, by decide⟩
  let last : Instant := ⟨⟨8210265408000000000000, false⟩, zone, by decide⟩
  let ds : List Delta := [⟨.plus, 2, .months, by decide⟩, ⟨.plus, 5, .months, by decide⟩]
  have hu : zone.Unchanging 0 := ⟨rfl, by decide⟩
  have hmonths : ∀ d ∈ ds, d.unit.MovesMonth := by decide
  have hj : evaluate i (ds.map .delta) = .ok j := by decide +kernel
  have hkeeps : i.KeepsDay ds := (keepsDay_iff hu rfl (by decide) hmonths hj).mpr (by decide)
  have hkeeps' : last.KeepsDay [] := (keepsDay_iff hu rfl (by decide) (by decide) rfl).mpr rfl
  refine ⟨⟨i, j, k, ds, hu, by decide, hmonths, by decide +kernel, hj, hkeeps, by decide +kernel,
    by decide, by decide, by decide⟩, last, hu, by decide, rfl, hkeeps', by decide, ?_⟩
  intro j hj
  obtain ⟨-, hface, -, hlast⟩ := (plus_eq_ok_iff hu rfl (by decide)).mp hj
  rw [hface] at hlast
  exact hlast (by decide)

end Instant

end RelativeTime
