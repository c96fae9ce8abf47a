import RelativeTime.Proofs.Instruction.Rendering
import RelativeTime.Proofs.Selection
import RelativeTime.Proofs.Span

/-! An instruction is always found. The counts of a difference lead from the anchor to near the
target and no part of them leads much beyond the two, so nothing that is tried leaves the
calendar. -/
namespace RelativeTime

open Calendar

namespace Difference

/-- How far some units of a difference lead in a direction, those that lead the other way not
counted. -/
def toward (d : Difference) (way : Sign) : List TimeUnit → Int
  | [] => 0
  | u :: us => max 0 (way.apply 1 * (d.get u * u.span)) + d.toward way us

variable {us vs : List TimeUnit}

theorem toward_cons (d : Difference) (way : Sign) (u : TimeUnit) (us : List TimeUnit) :
    d.toward way (u :: us) = max 0 (way.apply 1 * (d.get u * u.span)) + d.toward way us :=
  rfl

theorem toward_mono (d : Difference) (way : Sign) (h : us.Sublist vs) :
    d.toward way us ≤ d.toward way vs := by
  induction h with
  | slnil => exact Int.le_refl _
  | cons u _ ih =>
    rw [toward_cons]
    omega
  | cons_cons u _ ih =>
    rw [toward_cons, toward_cons]
    omega

theorem toward_nonneg (d : Difference) (way : Sign) (us : List TimeUnit) : 0 ≤ d.toward way us :=
  d.toward_mono way (List.nil_sublist us)

theorem max_apply (way s : Sign) (n : Nat) (u : TimeUnit) :
    max 0 (way.apply 1 * (s.apply n * u.span)) = if s = way then n * u.span else 0 := by
  have hspan : 0 ≤ (n : Int) * u.span :=
    Int.mul_nonneg (Int.natCast_nonneg n) (Int.le_of_lt u.span_pos)
  cases way <;> cases s <;> simp only [Sign.apply, if_true, if_false, reduceCtorEq, Int.neg_mul]
  all_goals omega

theorem get_ofParts (heading rest : Sign) (count : TimeUnit → Nat) (u : TimeUnit) :
    (ofParts heading rest count).get u =
      (if u.MovesDate then heading else rest).apply (count u) := by
  cases u <;> rfl

theorem toward_carried (heading rest way : Sign) (count : TimeUnit → Nat) :
    (ofParts heading rest (carried count)).toward way TimeUnit.descending =
      (if heading = way then
        (totalMonths count * 2629746000000000 + totalDays count * 86400000000000 : Int) else 0) +
      if rest = way then (totalMillis count * 1000000 : Int) else 0 := by
  simp only [toward, TimeUnit.descending, get_ofParts, max_apply, TimeUnit.MovesDate, reduceCtorEq,
    or_true, or_false, if_true, if_false]
  simp only [carried, TimeUnit.span, TimeUnit.stride, Stride.span]
  by_cases hheading : heading = way <;> by_cases hrest : rest = way <;>
    simp only [hheading, hrest, if_true, if_false] <;> omega

end Difference

namespace Instant

variable {i j anchor target : Instant} {zone : Zone} {b : Int} {d : Difference}
  {us vs : List TimeUnit}

/-- Whichever of the units are moved by, in turn, they lead no further than so many days from the
first day counted, forty days of uncertainty for each included. -/
structure Room (i : Instant) (zone : Zone) (days : Int) (d : Difference) (us : List TimeUnit) :
    Prop where
  zone_eq : i.zone = zone
  above : i.utc.nanos + d.toward .plus us + 86400000000000 * 40 * us.length ≤
    86400000000000 * days
  below : -86400000000000 * days ≤
    i.utc.nanos - d.toward .minus us - 86400000000000 * 40 * us.length

theorem Room.sublist (h : i.Room zone b d vs) (hus : us.Sublist vs) : i.Room zone b d us := by
  have hplus := d.toward_mono .plus hus
  have hminus := d.toward_mono .minus hus
  have hlen := hus.length_le
  have habove := h.above
  have hbelow := h.below
  exact ⟨h.zone_eq, by omega, by omega⟩

theorem Room.within (h : i.Room zone b d us) : i.Within zone b := by
  have hplus := d.toward_nonneg .plus us
  have hminus := d.toward_nonneg .minus us
  have habove := h.above
  have hbelow := h.below
  exact ⟨h.zone_eq, by omega, by omega⟩

theorem Room.exists_step (hb : zone.rules.Bounded) (hbound : b ≤ 80000000) {u : TimeUnit}
    (h : i.Room zone b d (u :: us)) : ∃ j, i.plus u (d.get u) = .ok j ∧ j.Room zone b d us := by
  have habove := h.above
  have hbelow := h.below
  rw [Difference.toward_cons, List.length_cons] at habove hbelow
  simp only [Sign.apply] at habove hbelow
  have hplus := d.toward_nonneg .plus us
  have hminus := d.toward_nonneg .minus us
  obtain ⟨j, hj⟩ := h.within.exists_plus hb (by omega) (u := u) (n := d.get u)
    ⟨by omega, by omega⟩
  obtain ⟨hzone, hnear⟩ := plus_leads (h.zone_eq ▸ hb) hj
  exact ⟨j, hj, hzone.trans h.zone_eq, by omega, by omega⟩

theorem Room.exists_evaluate (hb : zone.rules.Bounded) (hbound : b ≤ 80000000)
    (hsmall : ∀ u, (d.get u).natAbs < 0x8000000000000000) (h : i.Room zone b d us) :
    ∃ j, evaluate i (us.map d.delta) = .ok j ∧ j.Within zone b := by
  induction us generalizing i with
  | nil => exact ⟨i, rfl, h.within⟩
  | cons u us ih =>
    obtain ⟨j, hj, room⟩ := h.exists_step hb hbound
    obtain ⟨k, hk, ik⟩ := ih room
    refine ⟨k, ?_, ik⟩
    rw [List.map_cons, evaluate_cons, Difference.delta_apply (hsmall u), hj, Answer.bind_ok, hk]

theorem Room.exists_tried (hb : zone.rules.Bounded) (hbound : b ≤ 60000000)
    (hsmall : ∀ u, (d.get u).natAbs < 0x8000000000000000)
    (h : anchor.Room zone b d TimeUnit.descending) {tokens : List Token}
    (ht : tokens ∈ d.chain :: d.units.map (attempt d.chain)) :
    ∃ reached, evaluate anchor tokens = .ok reached ∧ reached.Within zone (b + 450) ∧
      ∀ t ∈ tokens, t.Renderable := by
  have hunits : d.units.Sublist TimeUnit.descending := List.filter_sublist
  have hchain : ∃ reached, evaluate anchor d.chain = .ok reached ∧
      reached.Within zone (b + 450) ∧ ∀ t ∈ d.chain, t.Renderable := by
    obtain ⟨reached, he, hr⟩ := (h.sublist hunits).exists_evaluate hb (by omega) hsmall
    exact ⟨reached, he, hr.mono (by omega), d.renderable_map_delta d.units⟩
  rcases List.mem_cons.mp ht with rfl | ht
  · exact hchain
  obtain ⟨u, -, rfl⟩ := List.mem_map.mp ht
  cases hcollapse : collapse? d.chain u with
  | none =>
    rw [attempt, hcollapse]
    exact hchain
  | some collapsed =>
    obtain ⟨kept, hkept, rfl⟩ := exists_kept hcollapse
    rw [Difference.chain_eq, List.sublist_map_iff] at hkept
    obtain ⟨us, hus, rfl⟩ := hkept
    obtain ⟨k, hk, ik⟩ := (h.sublist (hus.trans hunits)).exists_evaluate hb (by omega) hsmall
    obtain ⟨reached, hsnap, hr⟩ := ik.exists_snap hb hbound ⟨u, none⟩
    refine ⟨reached, ?_, hr, d.renderable_attempt u⟩
    rw [attempt, hcollapse, Option.getD_some, evaluate_append, hk, Answer.bind_ok,
      evaluate_singleton, Token.apply, hsnap]

theorem landsOn_eq_ok {tokens : List Token} {reached : Instant} {written : String}
    (hb : zone.rules.Bounded) (hbound : b ≤ 90000000) (he : evaluate anchor tokens = .ok reached)
    (hr : reached.Within zone b) (hw : target.format = .ok written) :
    ∃ lands, anchor.landsOn target tokens = .ok lands ∧
      (lands = true ↔ reached.format = .ok written) := by
  obtain ⟨text, ht⟩ := hr.exists_format hb hbound
  refine ⟨text == written, ?_, by rw [ht]; simp⟩
  simp only [landsOn, he, ht, hw, Answer.bind_ok]
  rfl

theorem Room.exists_lands (hb : zone.rules.Bounded) (hbound : b ≤ 60000000)
    (hsmall : ∀ u, (d.get u).natAbs < 0x8000000000000000)
    (h : anchor.Room zone b d TimeUnit.descending) {written : String}
    (hw : target.format = .ok written) :
    ∀ u ∈ d.units, ∃ lands, anchor.landsOn target (attempt d.chain u) = .ok lands := by
  intro u hu
  obtain ⟨reached, he, hr, -⟩ :=
    h.exists_tried hb hbound hsmall (List.mem_cons_of_mem _ (List.mem_map_of_mem hu))
  obtain ⟨lands, hl, -⟩ := landsOn_eq_ok hb (by omega) he hr hw
  exact ⟨lands, hl⟩

/-! ### The counts of a difference -/

variable {heading rest : Sign} {count : TimeUnit → Nat}

theorem Leg.leads (hb : i.zone.rules.Bounded) {u : TimeUnit} {target : Reading} {most n : Nat}
    (h : i.Leg u heading target most n j) : i.Leads j (heading.apply n * u.span) := by
  by_cases hn : n = 0
  · rw [h.stays hn, hn, Sign.apply_zero, Int.zero_mul]
    exact ⟨rfl, by omega, by omega⟩
  · exact plus_leads hb (h.moves hn)

theorem Leg.within (hb : zone.rules.Bounded) {u : TimeUnit} (hi : i.Within zone b)
    (ht : target.Within zone b) (hp : ¬ i.Passes heading target.utc) {most n : Nat}
    (h : i.Leg u heading target.utc most n j) : j.Within zone (b + 40) := by
  obtain ⟨hzone, hleads⟩ := h.leads (hi.zone_eq ▸ hb)
  have hshort := nanos_of_not_passes (h.not_passes hp)
  have hspan : 0 ≤ (n : Int) * u.span :=
    Int.mul_nonneg (Int.natCast_nonneg n) (Int.le_of_lt u.span_pos)
  have hi' := hi.near
  have ht' := ht.near
  refine ⟨hzone.trans hi.zone_eq, ?_⟩
  cases heading <;> simp only [Sign.apply, Int.neg_mul] at hleads hshort <;> omega

variable {afterYears afterMonths afterWeeks stop : Instant}

theorem Legs.leads (hb : zone.rules.Bounded) (hz : anchor.zone = zone)
    (h : Legs anchor target heading count afterYears afterMonths afterWeeks stop) :
    Difference.totalMonths count * 2629746000000000 + Difference.totalDays count * 86400000000000 -
        86400000000000 * 160 ≤ heading.apply 1 * (stop.utc.nanos - anchor.utc.nanos) ∧
      heading.apply 1 * (stop.utc.nanos - anchor.utc.nanos) ≤
        Difference.totalMonths count * 2629746000000000 +
        Difference.totalDays count * 86400000000000 + 86400000000000 * 160 := by
  have years := h.years.leads (hz ▸ hb)
  have zy := years.zone_eq.trans hz
  have months := h.months.leads (zy ▸ hb)
  have zm := months.zone_eq.trans zy
  have weeks := h.weeks.leads (zm ▸ hb)
  have zw := weeks.zone_eq.trans zm
  have days := h.days.leads (zw ▸ hb)
  have ny := years.near
  have nm := months.near
  have nw := weeks.near
  have nd := days.near
  simp only [TimeUnit.span, TimeUnit.stride, Stride.span] at ny nm nw nd
  simp only [Difference.totalMonths, Difference.totalDays]
  cases heading <;> simp only [Sign.apply] at ny nm nw nd ⊢ <;> omega

/-- What remains after the legs, cut off to milliseconds, is no longer for that. -/
theorem exists_milliseconds (elapsed : Int) : ∃ (rest : Sign) (k : Nat),
    elapsed.tdiv 1000000 = rest.apply k ∧
      (k * 1000000 : Int) ≤ max 0 (rest.apply 1 * elapsed) := by
  refine ⟨.ofInt elapsed, elapsed.natAbs / 1000000, ?_, ?_⟩
  · have htdiv := Difference.tdiv_apply (.ofInt elapsed) elapsed.natAbs 1000000
    rwa [Sign.apply_natAbs] at htdiv
  · unfold Sign.ofInt
    split <;> simp only [Sign.apply] <;> omega

/-- Between instants that a timestamp can name a difference is always found, and there is room for
all of it. -/
theorem Within.exists_difference (hb : zone.rules.Bounded) (hbound : b ≤ 50000000)
    (ha : anchor.Within zone b) (ht : target.Within zone b) :
    ∃ d, anchor.difference target = .ok d ∧ (∀ u, (d.get u).natAbs < 0x8000000000000000) ∧
      anchor.Room zone (b + 600) d TimeUnit.descending := by
  obtain ⟨years, months, weeks, days, afterYears, afterMonths, afterWeeks, stop, legs, -, -, -,
    ⟨istop, pstop⟩, hitinerary, hy, hm, hw, hd⟩ := exists_legs anchor target
    (P := fun k i => i.Within zone (b + 40 * k) ∧ ¬ i.Passes (anchor.heading target) target.utc)
    (fun k hk i hi => hi.1.face_inRange hb (by omega))
    (fun k hk u i j n hu hi leg => by
      obtain ⟨ii, pi⟩ := hi
      exact ⟨(leg.within hb ii (ht.mono (by omega)) pi).mono (by omega), leg.not_passes pi⟩)
    (ht.zone_eq.trans ha.zone_eq.symm) ⟨ha.mono (by simp), not_passes_heading anchor target⟩
    (ht.face_inRange hb (by omega))
  obtain ⟨rest, k, hrest, hk⟩ := exists_milliseconds (target.utc.elapsed stop.utc)
  have helapsed := target.utc.elapsed_bounds stop.utc
  have hleads := (legs k).leads hb ha.zone_eq
  have hshort := nanos_of_not_passes pstop
  have hstop := istop.near
  have ha' := ha.near
  have ht' := ht.near
  have hkbound : k < 0x8000000000000000 := by
    revert hk
    cases rest <;> simp only [Sign.apply] <;> omega
  obtain ⟨hdiff, hsmall⟩ := difference_of_itinerary hitinerary hrest hy hm hw hd hkbound
  have htotal : Difference.totalMillis (countOf years months weeks days k) = k := by
    simp only [Difference.totalMillis, countOf]
    omega
  generalize anchor.heading target = heading at hdiff hleads hshort
  refine ⟨_, hdiff, fun u => ?_, ha.zone_eq, ?_, ?_⟩
  · rw [Difference.get_ofParts, Sign.natAbs_apply]
    exact hsmall u
  · rw [Difference.toward_carried, htotal, TimeUnit.descending]
    cases heading <;> cases rest <;>
      simp only [Sign.apply, if_true, if_false, reduceCtorEq, List.length_cons, List.length_nil]
        at hleads hshort hk ⊢
    all_goals omega
  · rw [Difference.toward_carried, htotal, TimeUnit.descending]
    cases heading <;> cases rest <;>
      simp only [Sign.apply, if_true, if_false, reduceCtorEq, List.length_cons, List.length_nil]
        at hleads hshort hk ⊢
    all_goals omega

theorem Within.exists_instruction (hb : zone.rules.Bounded) (hbound : b ≤ 50000000)
    (ha : anchor.Within zone b) (ht : target.Within zone b) :
    ∃ d tokens reached written, anchor.difference target = .ok d ∧
      anchor.instructionTo target = .ok (render tokens) ∧ parse (render tokens) = .ok tokens ∧
      evaluate anchor tokens = .ok reached ∧ target.format = .ok written ∧
      (reached.format = .ok written ↔
        ∃ tokens ∈ d.candidates, anchor.landsOn target tokens = .ok true) := by
  obtain ⟨d, hd, hsmall, room⟩ := ha.exists_difference hb hbound ht
  obtain ⟨written, hw⟩ := ht.exists_format hb (by omega)
  obtain ⟨tokens, hmem, htext, hlands⟩ := exists_chosen hd
    (room.exists_lands hb (by omega) hsmall hw)
  obtain ⟨reached, he, hr, hrender⟩ :=
    room.exists_tried hb (by omega) hsmall (List.mem_filter.mp hmem).1
  obtain ⟨lands, hl, hiff⟩ := landsOn_eq_ok hb (by omega) he hr hw
  refine ⟨d, tokens, reached, written, hd, htext, parse_render hrender, he, hw, ?_⟩
  rw [← hlands, ← hiff, hl, Except.ok.injEq]

end Instant

end RelativeTime
