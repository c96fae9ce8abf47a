import RelativeTime.Proofs.Direction
import RelativeTime.Proofs.FixedOffset
import RelativeTime.Proofs.WallClock
import RelativeTime.Proofs.Words

/-! How a leg of the walk finds its count: it tries the estimate and, as long as that is refused,
the next count toward zero. No search goes on for ever, as none turns away from zero. Where the
clock is never changed, the estimate is too far by one at most. -/
namespace RelativeTime

open Calendar MachineWord

/-- An estimate that points the other way is taken for nothing. -/
def Sign.toward (heading : Sign) (n : Int) : Int := if n.sign = -heading.apply 1 then 0 else n

theorem Sign.toward_eq (heading : Sign) (n : Int) :
    heading.toward n = heading.apply (heading.apply 1 * n).toNat := by
  rcases Int.lt_trichotomy n 0 with hn | rfl | hn
  · cases heading <;> simp [toward, apply, Int.sign_eq_neg_one_of_neg hn] <;> omega
  · cases heading <;> simp [toward, apply]
  · cases heading <;> simp [toward, apply, Int.sign_eq_one_of_pos hn] <;> omega

namespace Difference

def nothing : Difference := ⟨0, 0, 0, 0, 0, 0, 0, 0⟩

def put (d : Difference) (n : Int) : TimeUnit → Difference
  | .milliseconds => { d with milliseconds := n }
  | .seconds => { d with seconds := n }
  | .minutes => { d with minutes := n }
  | .hours => { d with hours := n }
  | .days => { d with days := n }
  | .weeks => { d with weeks := n }
  | .months => { d with months := n }
  | .years => { d with years := n }

theorem get_put (d : Difference) (n : Int) (u v : TimeUnit) :
    (d.put n u).get v = if v = u then n else d.get v := by
  cases u <;> cases v <;> rfl

end Difference

namespace Instant

variable {i j k goal anchor target : Instant} {u : TimeUnit} {us : List TimeUnit} {heading : Sign}
  {n : Int} {tried : List Int} {most count : Nat} {found : Difference}

/-! ### The search for a count -/

def Refuses (i : Instant) (unit : TimeUnit) (heading : Sign) (target : Reading) (n : Int) : Prop :=
  match i.plus unit n with
  | .ok next => next.Passes heading target
  | .error (.reported _) => True
  | .error .unshowable => False

/-- A search from a count to the one that is found, over all that are tried, and where that leads.
The next count to try has to be a word. -/
inductive Search (i : Instant) (unit : TimeUnit) (heading : Sign) (target : Reading) :
    Int → List Int → Int → Instant → Prop where
  | exhausted : Search i unit heading target 0 [] 0 i
  | taken {n : Int} {j : Instant} (hn : n ≠ 0) (hj : i.plus unit n = .ok j)
      (hshort : ¬ j.Passes heading target) : Search i unit heading target n [n] n j
  | refused {n next count : Int} {tried : List Int} {j : Instant} (hn : n ≠ 0)
      (hrefused : i.Refuses unit heading target n)
      (hnext : long? (n - heading.apply 1) = some next)
      (h : Search i unit heading target next tried count j) :
      Search i unit heading target n (n :: tried) count j

section Search

variable {target : Reading}

theorem not_refuses_of_taken (hj : i.plus u n = .ok j) (hshort : ¬ j.Passes heading target) :
    ¬ i.Refuses u heading target n := by
  rw [Refuses, hj]
  exact hshort

theorem refuses_or_taken (hi : i.face.InRange) : i.Refuses u heading target n ∨
    ∃ j, i.plus u n = .ok j ∧ ¬ j.Passes heading target := by
  unfold Refuses
  split
  · rename_i next hnext
    by_cases hpass : next.Passes heading target
    · exact .inl hpass
    · exact .inr ⟨next, hnext, hpass⟩
  · exact .inl trivial
  · rename_i hplus
    exact absurd hplus (plus_ne_unshowable hi)

theorem Search.unique {tried' : List Int} {found found' : Int}
    (h : i.Search u heading target n tried found j)
    (h' : i.Search u heading target n tried' found' k) :
    tried = tried' ∧ found = found' ∧ j = k := by
  induction h generalizing tried' found' k with
  | exhausted =>
    cases h' with
    | exhausted => exact ⟨rfl, rfl, rfl⟩
    | taken hn => exact absurd rfl hn
    | refused hn => exact absurd rfl hn
  | taken hn hj hshort =>
    cases h' with
    | exhausted => exact absurd rfl hn
    | taken _ hj' => exact ⟨rfl, rfl, Except.ok.inj (hj.symm.trans hj')⟩
    | refused _ hrefused => exact absurd hrefused (not_refuses_of_taken hj hshort)
  | refused hn hrefused hnext _ ih =>
    cases h' with
    | exhausted => exact absurd rfl hn
    | taken _ hj' hshort' => exact absurd hrefused (not_refuses_of_taken hj' hshort')
    | refused _ _ hnext' hrest =>
      obtain rfl := Option.some.inj (hnext.symm.trans hnext')
      obtain ⟨rfl, rfl, rfl⟩ := ih hrest
      exact ⟨rfl, rfl, rfl⟩

structure Finds (i : Instant) (unit : TimeUnit) (heading : Sign) (target : Reading) (most : Nat)
    (tried : List Int) (count : Nat) (reached : Instant) : Prop where
  walk : i.walkUpTo unit heading target most = .ok (count, reached)
  search : i.Search unit heading target (heading.apply most) tried (heading.apply count) reached
  count_le : count ≤ most
  length : tried.length = most + 1 - max count 1
  tried_le : ∀ n ∈ tried, n.natAbs ≤ most

theorem Finds.zero : i.Finds u heading target 0 [] 0 i where
  walk := rfl
  search := Sign.apply_zero heading ▸ .exhausted
  count_le := Nat.le_refl 0
  length := rfl
  tried_le := by simp

theorem finds_of_taken (hj : i.plus u (heading.apply (most + 1)) = .ok j)
    (hshort : ¬ j.Passes heading target) :
    i.Finds u heading target (most + 1) [heading.apply (most + 1)] (most + 1) j where
  walk := by simp only [walkUpTo, hj, hshort, if_false]
  search := .taken (Sign.apply_eq_zero_iff.not.mpr (Nat.succ_ne_zero most)) hj hshort
  count_le := Nat.le_refl _
  length := by simp
  tried_le := by simp

theorem walkUpTo_of_refuses (h : i.Refuses u heading target (heading.apply (most + 1))) :
    i.walkUpTo u heading target (most + 1) = i.walkUpTo u heading target most := by
  unfold Refuses at h
  rw [walkUpTo]
  cases hplus : i.plus u (heading.apply (most + 1)) with
  | ok next =>
    rw [hplus] at h
    exact if_pos h
  | error e =>
    rw [hplus] at h
    cases e with
    | reported _ => rfl
    | unshowable => exact h.elim

theorem Finds.back (h : i.Finds u heading target most tried count j)
    (hmost : most < 0x7fffffffffffffff)
    (hrefused : i.Refuses u heading target (heading.apply (most + 1))) :
    i.Finds u heading target (most + 1) (heading.apply (most + 1) :: tried) count j where
  walk := (walkUpTo_of_refuses hrefused).trans h.walk
  search := by
    refine .refused (Sign.apply_eq_zero_iff.not.mpr (Nat.succ_ne_zero most)) hrefused ?_ h.search
    rw [long?, between?_eq_some_iff]
    cases heading <;> simp only [Sign.apply] <;> omega
  count_le := Nat.le_succ_of_le h.count_le
  length := by
    have hle := h.count_le
    rw [List.length_cons, h.length]
    omega
  tried_le := by
    intro n hn
    rcases List.mem_cons.mp hn with rfl | hn
    · exact Nat.le_of_eq (Sign.natAbs_apply heading (most + 1))
    · exact Nat.le_succ_of_le (h.tried_le n hn)

/-- Induction on the largest count, as the next one to try is smaller by one. -/
theorem exists_finds (hi : i.face.InRange) (hmost : most ≤ 0x7fffffffffffffff) :
    ∃ tried count reached, i.Finds u heading target most tried count reached := by
  induction most with
  | zero => exact ⟨[], 0, i, .zero⟩
  | succ most ih =>
    rcases refuses_or_taken hi with hrefused | ⟨j, hj, hshort⟩
    · obtain ⟨tried, count, reached, hfinds⟩ := ih (by omega)
      exact ⟨_, count, reached, hfinds.back (by omega) hrefused⟩
    · exact ⟨_, most + 1, j, finds_of_taken hj hshort⟩

theorem Finds.leg (hi : i.face.InRange) (h : i.Finds u heading target most tried count j) :
    i.Leg u heading target most count j := by
  obtain ⟨count', reached, hwalk, hleg⟩ := walkUpTo_leg hi heading target most (u := u)
  obtain ⟨rfl, rfl⟩ := Prod.mk.inj (Except.ok.inj (h.walk.symm.trans hwalk))
  exact hleg

end Search

theorem exists_finds_of_walk (heading : Sign) (hu : u.MovesDate) (hi : i.face.InRange)
    (hg : goal.face.InRange) :
    ∃ tried count reached, i.walk u heading goal = .ok (heading.apply count, reached) ∧
      i.Finds u heading goal.utc (i.most u heading goal) tried count reached := by
  have hmost : i.most u heading goal < 0x100000000 := most_lt hu hi hg
  obtain ⟨tried, count, reached, hfinds⟩ : ∃ tried count reached,
      i.Finds u heading goal.utc (i.most u heading goal) tried count reached :=
    exists_finds hi (by omega)
  refine ⟨tried, count, reached, ?_, hfinds⟩
  have hwalk := hfinds.walk
  rw [most] at hwalk
  simp only [walk, wall_of_inRange hi, wall_of_inRange hg, Answer.bind_ok, hwalk]
  rfl

/-! ### The walk from leg to leg -/

/-- A walk under way: the units that are left, what has been counted, and how far it has come. -/
inductive Underway (anchor target : Instant) : List TimeUnit → Difference → Instant → Prop where
  | start : Underway anchor target [.years, .months, .weeks, .days] .nothing anchor
  | leg {u : TimeUnit} {us : List TimeUnit} {found : Difference} {i j : Instant} {n : Int}
      (h : Underway anchor target (u :: us) found i)
      (hwalk : i.walk u (anchor.heading target) (target.inZone anchor.zone) = .ok (n, j)) :
      Underway anchor target us (found.put n u) j

def onward (heading : Sign) (goal : Instant) : List TimeUnit → Difference → Instant →
    Answer (Difference × Instant)
  | [], found, i => .ok (found, i)
  | u :: us, found, i => do
    let (n, j) ← i.walk u heading goal
    onward heading goal us (found.put n u) j

theorem itinerary_eq (anchor target : Instant) : anchor.itinerary target =
    onward (anchor.heading target) (target.inZone anchor.zone) [.years, .months, .weeks, .days]
      .nothing anchor := rfl

namespace Underway

theorem itinerary_eq (h : Underway anchor target us found i) : anchor.itinerary target =
    onward (anchor.heading target) (target.inZone anchor.zone) us found i := by
  induction h with
  | start => exact Instant.itinerary_eq anchor target
  | leg _ hwalk ih => rw [ih, onward, hwalk, Answer.bind_ok]

theorem difference_of_end (h : Underway anchor target [] found i) : anchor.difference target =
    .ok { found with milliseconds := (target.utc.elapsed i.utc).tdiv 1000000 }.normalize := by
  rw [difference_eq, h.itinerary_eq]
  rfl

theorem unshowable (h : Underway anchor target (u :: us) found i) (hi : ¬ i.face.InRange) :
    anchor.difference target = .error .unshowable := by
  have hwall : i.wall = .error .unshowable := wall_eq_error_iff.mpr ⟨rfl, hi⟩
  rw [difference_eq, h.itinerary_eq, onward, walk, hwall]
  rfl

theorem movesDate (h : Underway anchor target us found i) : ∀ u ∈ us, u.MovesDate := by
  induction h with
  | start => decide
  | leg _ _ ih => exact fun u hu => ih u (List.mem_cons_of_mem _ hu)

theorem invariant {P : Instant → Prop} (h : Underway anchor target us found i) (ha : P anchor)
    (hleg : ∀ (u : TimeUnit) (i j : Instant) (most count : Nat), u.MovesDate → P i →
      i.face.InRange → i.Leg u (anchor.heading target) target.utc most count j → P j) : P i := by
  induction h with
  | start => exact ha
  | leg h hwalk ih =>
    obtain ⟨hi, -, count, -, leg⟩ := leg_of_walk hwalk
    exact hleg _ _ _ _ count (h.movesDate _ List.mem_cons_self) ih hi leg

end Underway

/-! ### Under a fixed offset -/

structure Dated (i : Instant) (zone : Zone) : Prop where
  zone_eq : i.zone = zone
  plain : i.utc.leap = false
  face_inRange : i.face.InRange

theorem month_short_of_lt_most (hu : u.MovesMonth) (h : count < i.most u heading goal) :
    0 < heading.apply 1 * (monthOf goal.face.day -
      monthOf (u.stride.move i.face.day (heading.apply count))) := by
  rcases hu with rfl | rfl
  all_goals
    simp only [most, TimeUnit.stride, unitsBetween] at h
    simp only [TimeUnit.stride, Stride.move, monthOf_monthsOn]
    cases heading <;> simp only [Sign.apply] at h ⊢ <;> omega

theorem date_short_of_lt_most (hu : u.MovesDate) (h : count < i.most u heading goal) :
    0 < heading.apply 1 * (goal.face.day - u.stride.move i.face.day (heading.apply count)) := by
  by_cases hmonth : u.MovesMonth
  · have hshort := month_short_of_lt_most hmonth h
    generalize u.stride.move i.face.day (heading.apply count) = day at *
    cases heading with
    | plus =>
      simp only [Sign.apply] at hshort ⊢
      have hlt := lt_of_monthOf_lt (a := day) (b := goal.face.day) (by omega)
      omega
    | minus =>
      simp only [Sign.apply] at hshort ⊢
      have hlt := lt_of_monthOf_lt (a := goal.face.day) (b := day) (by omega)
      omega
  · rcases hu with rfl | rfl | rfl | rfl
    · rw [most_days (c := 1) rfl] at h
      cases heading <;> simp only [TimeUnit.stride, Stride.move, Sign.apply] at h ⊢ <;> omega
    · rw [most_days (c := 7) rfl] at h
      cases heading <;> simp only [TimeUnit.stride, Stride.move, Sign.apply] at h ⊢ <;> omega
    · exact absurd (.inl rfl) hmonth
    · exact absurd (.inr rfl) hmonth

/-- Months not as many as estimated do not lead into the last month of the calendar: it would have
to be that of the target or the one that they lead from. -/
theorem not_last_month_of_lt_most (hi : i.face.InRange) (hg : goal.face.InRange)
    (hcount : count ≠ 0) (h : count < i.most u heading goal) :
    ¬ (u.MovesMonth ∧ monthOf (u.stride.move i.face.day (heading.apply count)) =
      12 * 262142 + 11) := by
  rintro ⟨hu, hlast⟩
  have hshort := month_short_of_lt_most hu h
  have hi' := dayInRange_iff_month.mp hi
  have hg' := dayInRange_iff_month.mp hg
  have hmonth : monthOf (u.stride.move i.face.day (heading.apply count)) = monthOf i.face.day +
      heading.apply count * if u = .months then 1 else 12 := by
    rcases hu with rfl | rfl
    all_goals exact monthOf_monthsOn _ _
  rw [hlast] at hshort hmonth
  cases heading with
  | plus =>
    simp only [Sign.apply] at hshort
    omega
  | minus =>
    simp only [Sign.apply] at hmonth
    split at hmonth <;> omega

theorem unitsBetween_toward (hu : u.MovesDate) {day day' : Int}
    (h : 0 ≤ heading.apply 1 * (day' - day)) :
    0 ≤ heading.apply 1 * unitsBetween u.stride day day' := by
  have hmono := monthOf_mono (a := day) (b := day')
  have hmono' := monthOf_mono (a := day') (b := day)
  have hweeks := Int.tdiv_nonneg (a := day' - day) (b := 7)
  have hweeks' := Int.tdiv_nonneg (a := -(day' - day)) (b := 7)
  rw [Int.neg_tdiv] at hweeks'
  rcases hu with rfl | rfl | rfl | rfl
  all_goals
    simp only [TimeUnit.stride, unitsBetween, Int.tdiv_one]
    cases heading <;> simp only [Sign.apply] at h ⊢ <;> omega

section Constant

variable {zone : Zone} {offset : Int} (h : zone.Unchanging offset) (hi : i.Dated zone)
  (hg : goal.Dated zone) (hu : u.MovesDate)
include h hi hg hu

theorem not_refuses_of_lt_most (hcount : count ≠ 0) (hlt : count < i.most u heading goal) :
    ∃ j, i.plus u (heading.apply count) = .ok j ∧ ¬ j.Passes heading goal.utc := by
  have hshort := date_short_of_lt_most hu hlt
  have htoward := move_toward hu heading i.face.day count
  have hnanos := i.face.onDay_nanos (u.stride.move i.face.day (heading.apply count))
  have hlast := not_last_month_of_lt_most hi.face_inRange hg.face_inRange hcount hlt
  have hday : i.face.day = i.face.nanos / 86400000000000 := rfl
  have hday' : goal.face.day = goal.face.nanos / 86400000000000 := rfl
  obtain ⟨j, hj⟩ := exists_plus_between h.rules_eq h.bounds hi.zone_eq hi.face_inRange hg.zone_eq
    hg.face_inRange hu hlast (by
      cases heading <;> simp only [Sign.apply] at hshort htoward hnanos ⊢ <;> omega)
  obtain ⟨hzone, hface⟩ := face_of_plus_constant h.rules_eq h.bounds hi.zone_eq hu hj
  have hplain : j.utc.leap = false := (congrArg Reading.leap hface).trans hi.plain
  refine ⟨j, hj, ?_⟩
  rw [passes_constant h.rules_eq hzone hplain hg.zone_eq hg.plain, hface]
  cases heading <;> simp only [Sign.apply] at hshort hnanos ⊢ <;> omega

theorem Leg.most_le (leg : i.Leg u heading goal.utc (i.most u heading goal) count j) :
    i.most u heading goal ≤ count + 1 := by
  by_contra hfar
  obtain ⟨k, hk, hshort⟩ : ∃ k, i.plus u (heading.apply (i.most u heading goal - 1)) = .ok k ∧
      ¬ k.Passes heading goal.utc :=
    not_refuses_of_lt_most h hi hg hu (by omega) (by omega)
  exact hshort (leg.greedy _ (by omega) (by omega) k hk)

theorem unitsBetween_eq_most (hp : ¬ i.Passes heading goal.utc) :
    unitsBetween u.stride i.face.day goal.face.day = heading.apply (i.most u heading goal) := by
  rw [passes_constant h.rules_eq hi.zone_eq hi.plain hg.zone_eq hg.plain] at hp
  have hday : i.face.day = i.face.nanos / 86400000000000 := rfl
  have hday' : goal.face.day = goal.face.nanos / 86400000000000 := rfl
  have htoward : 0 ≤ heading.apply 1 * unitsBetween u.stride i.face.day goal.face.day :=
    unitsBetween_toward hu (by cases heading <;> simp only [Sign.apply] at hp ⊢ <;> omega)
  rw [most]
  cases heading <;> simp only [Sign.apply] at htoward ⊢ <;> omega

end Constant

/-- Under a fixed offset every search of a difference ends with the estimate or the count next
to it, which may be none. So no more than two shifts are tried for a unit, where shifts fail
as well. -/
theorem search_steps_back_once {zone : Zone} {offset : Int} (h : zone.Unchanging offset)
    (ha : anchor.Dated zone) (ht : (target.inZone zone).Dated zone) :
    (∃ d, anchor.difference target = .ok d) ∧
    ∀ u us found i, Underway anchor target (u :: us) found i →
      ∃ estimate tried n reached,
        estimate = unitsBetween u.stride i.face.day (target.inZone zone).face.day ∧
        i.Search u (anchor.heading target) target.utc estimate tried n reached ∧
        tried.length ≤ 2 ∧
        (n = estimate ∨
          n = estimate - (anchor.heading target).apply 1 ∧ n.natAbs + 1 = estimate.natAbs) ∧
        i.walk u (anchor.heading target) (target.inZone zone) = .ok (n, reached) := by
  have hs : zone.rules.Settled := ⟨h.bounded, by rw [h.rules_eq]; exact nofun⟩
  refine ⟨?_, ?_⟩
  · have hgoal : (target.inZone anchor.zone).face.InRange := ha.zone_eq ▸ ht.face_inRange
    exact exists_difference_of_settled (ha.zone_eq ▸ hs) ha.plain ha.face_inRange hgoal
  · intro u us found i hunderway
    have hu := hunderway.movesDate u List.mem_cons_self
    obtain ⟨hi, hp⟩ := hunderway.invariant
      (P := fun i => i.Dated zone ∧ ¬ i.Passes (anchor.heading target) target.utc)
      ⟨ha, not_passes_heading anchor target⟩
      (fun u i j most count hu hi _ leg => ⟨⟨leg.zone_eq.trans hi.1.zone_eq, leg.plain hi.1.plain,
        leg.dated (hi.1.zone_eq ▸ hs) hu hi.1.plain hi.1.face_inRange⟩, leg.not_passes hi.2⟩)
    obtain ⟨tried, count, reached, hwalk, hfinds⟩ :=
      exists_finds_of_walk (anchor.heading target) hu hi.face_inRange ht.face_inRange
    have hle := hfinds.count_le
    have hmost := (hfinds.leg hi.face_inRange).most_le h hi ht hu
    have hlength := hfinds.length
    refine ⟨_, tried, _, reached, rfl, ?_, by omega, ?_, hwalk⟩
    · rw [unitsBetween_eq_most h hi ht hu hp]
      exact hfinds.search
    · rw [unitsBetween_eq_most h hi ht hu hp, Sign.natAbs_apply, Sign.natAbs_apply]
      generalize anchor.heading target = heading at *
      generalize i.most u heading (target.inZone zone) = most at *
      rcases Nat.lt_or_eq_of_le hle with hlt | rfl
      · obtain rfl : most = count + 1 := by omega
        refine .inr ⟨?_, rfl⟩
        cases heading <;> simp only [Sign.apply] <;> omega
      · exact .inl rfl

/-- To the last month of the calendar, into which neither years nor months lead: a year less is
none, and a month less is one to take. -/
theorem search_steps_back_before_last_month :
    ∃ (zone : Zone) (anchor target : Instant), zone.Unchanging 19800 ∧ anchor.Dated zone ∧
      (target.inZone zone).Dated zone ∧ Date.ofDay anchor.face.day = ⟨262141, 12, 15⟩ ∧
      Date.ofDay (target.inZone zone).face.day = ⟨262142, 12, 31⟩ ∧
      anchor.plus .years 1 = .error (.reported (.shiftOutOfRange 1 .years)) ∧
      anchor.plus .months 12 = .error (.reported (.shiftOutOfRange 12 .months)) ∧
      (∃ tried n reached, anchor.Search .years .plus target.utc 1 tried n reached ∧
        tried.length ≤ 2 ∧ (n = 1 ∨ n = 0)) ∧
      ∃ tried n reached, anchor.Search .months .plus target.utc 12 tried n reached ∧
        tried.length ≤ 2 ∧ (n = 12 ∨ n = 11) := by
  let zone : Zone := .fixed ⟨19800, by decide, by decide⟩
  let anchor : Instant := ⟨⟨8210233895400000000000, false⟩, zone, by decide⟩
  let target : Instant := ⟨⟨8210266810200000000000, false⟩, .fixed .utc, by decide⟩
  have h : zone.Unchanging 19800 := ⟨rfl, by decide⟩
  have ha : anchor.Dated zone := ⟨rfl, rfl, by decide⟩
  have ht : (target.inZone zone).Dated zone := ⟨rfl, rfl, by decide⟩
  obtain ⟨-, hback⟩ := search_steps_back_once h ha ht
  obtain ⟨_, tried, n, reached, rfl, hyears, htwo, hyear, -⟩ := hback _ _ _ _ .start
  have hstays : anchor.walk .years .plus (target.inZone zone) = .ok (0, anchor) := by
    decide +kernel
  obtain ⟨_, tried', n', reached', rfl, hmonths, htwo', hmonth, -⟩ :=
    hback _ _ _ _ (.leg .start hstays)
  exact ⟨zone, anchor, target, h, ha, ht, by decide, by decide, by decide +kernel,
    by decide +kernel, ⟨tried, n, reached, hyears, htwo, hyear.imp_right And.left⟩,
    tried', n', reached', hmonths, htwo', hmonth.imp_right And.left⟩

end Instant

end RelativeTime
