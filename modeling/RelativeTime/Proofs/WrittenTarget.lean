import RelativeTime.Proofs.Greedy
import RelativeTime.Proofs.Idempotence
import RelativeTime.Proofs.Interchange
import RelativeTime.Proofs.Timestamp.Reread
import RelativeTime.Proofs.Trials

/-! The instruction to a target and the instruction to what is written of it.

Below the millisecond a target is cut off downward when it is written, and toward the anchor when it
is subtracted. To a target that is not before the anchor these are the same. Back in time they are
not: the two differences are then a millisecond apart, and the instructions agree only where they
share a trial. -/
namespace RelativeTime

open Calendar

namespace Instant

variable {i j anchor target stop : Instant} {zone : Zone} {offset b : Int} {u : TimeUnit}

theorem Inner.truncated (h : i.Inner zone b) : i.truncated.Inner zone b := by
  refine ⟨h.zone_eq, h.plain, ?_⟩
  rw [truncated_face, Reading.day_truncated]
  exact h.near

/-! ### Forward the difference is the same -/

theorem heading_truncated (ha : anchor.Whole) (target : Instant) :
    anchor.heading target.truncated = anchor.heading target := by
  simp only [heading, truncated, Reading.truncated_lt_iff ha]

/-- Induction on the counts left to try: what passes the target passes the whole of it. -/
theorem Whole.walkUpTo (hi : i.Whole) {target : Reading} {most count : Nat}
    (h : i.walkUpTo u .plus target most = .ok (count, j)) :
    i.walkUpTo u .plus target.truncated most = .ok (count, j) ∧ j.Whole := by
  induction most with
  | zero =>
    refine ⟨h, ?_⟩
    obtain ⟨-, rfl⟩ := Prod.mk.inj (Except.ok.inj h)
    exact hi
  | succ most ih =>
    rw [Instant.walkUpTo] at h ⊢
    cases hnext : i.plus u (Sign.plus.apply (most + 1)) with
    | ok next =>
      have hwhole := hi.plus hnext
      have hpasses : next.Passes .plus target.truncated ↔ next.Passes .plus target :=
        Reading.truncated_lt_iff hwhole
      simp only [hnext, hpasses] at h ⊢
      by_cases hpass : next.Passes .plus target
      · rw [if_pos hpass] at h ⊢
        exact ih h
      · rw [if_neg hpass] at h ⊢
        refine ⟨h, ?_⟩
        obtain ⟨-, rfl⟩ := Prod.mk.inj (Except.ok.inj h)
        exact hwhole
    | error f =>
      rw [hnext] at h
      cases f with
      | reported e => exact ih h
      | unshowable => cases h

theorem Whole.walk (hi : i.Whole) {n : Int} (h : i.walk u .plus target = .ok (n, j)) :
    i.walk u .plus target.truncated = .ok (n, j) ∧ j.Whole := by
  obtain ⟨wall, hwall, h⟩ := Answer.bind_eq_ok.mp h
  obtain ⟨goal, hgoal, h⟩ := Answer.bind_eq_ok.mp h
  obtain ⟨⟨count, reached⟩, hwalk, h⟩ := Answer.bind_eq_ok.mp h
  obtain ⟨rfl, rfl⟩ := Prod.mk.inj (Except.ok.inj h)
  obtain ⟨hwalk, hwhole⟩ := hi.walkUpTo hwalk
  have hgoal' : target.truncated.wall = .ok goal.truncated := by
    rw [← Answer.toOption_eq_some_iff, truncated_wall, hgoal]
    rfl
  refine ⟨?_, hwhole⟩
  simp only [Instant.walk, hwall, hgoal', Answer.bind_ok, Reading.day_truncated]
  change i.walkUpTo u .plus target.utc.truncated _ >>= _ = _
  rw [hwalk]
  rfl

theorem Whole.itinerary (ha : anchor.Whole) (hp : anchor.heading target = .plus) {raw : Difference}
    (h : anchor.itinerary target = .ok (raw, stop)) :
    anchor.itinerary target.truncated = .ok (raw, stop) := by
  have hp' : anchor.heading target.truncated = .plus := (heading_truncated ha target).trans hp
  have hgoal : target.truncated.inZone anchor.zone = (target.inZone anchor.zone).truncated := rfl
  simp only [Instant.itinerary, hp] at h
  obtain ⟨⟨years, i⟩, hyears, h⟩ := Answer.bind_eq_ok.mp h
  obtain ⟨⟨months, j⟩, hmonths, h⟩ := Answer.bind_eq_ok.mp h
  obtain ⟨⟨weeks, k⟩, hweeks, h⟩ := Answer.bind_eq_ok.mp h
  obtain ⟨⟨days, l⟩, hdays, h⟩ := Answer.bind_eq_ok.mp h
  obtain ⟨hyears, hi⟩ := ha.walk hyears
  obtain ⟨hmonths, hj⟩ := hi.walk hmonths
  obtain ⟨hweeks, hk⟩ := hj.walk hweeks
  obtain ⟨hdays, -⟩ := hk.walk hdays
  simp only [Instant.itinerary, hp', hgoal, hyears, hmonths, hweeks, hdays, Answer.bind_ok]
  exact h

theorem Inner.difference_truncated_of_plus (hb : zone.rules.Bounded) (hbound : b ≤ 70000000)
    (ia : anchor.Inner zone b) (it : target.Inner zone b) (ha : anchor.Whole)
    (hp : anchor.heading target = .plus) :
    anchor.difference target.truncated = anchor.difference target := by
  obtain ⟨years, months, weeks, days, _, _, _, stop, legs, hitinerary, -⟩ :=
    ia.exists_legs hb hbound it
  have hpass := not_passes_heading anchor target
  have istop := ((legs 0).inner hb ia it hpass).2.2.2
  have hsubsecond := (legs 0).subsecond hb ia it hpass
  have hshort := (legs 0).not_passes hpass
  rw [hp, passes_iff istop.plain it.plain] at hshort
  have helapsed : (target.truncated.utc.elapsed stop.utc).tdiv 1000000 =
      (target.utc.elapsed stop.utc).tdiv 1000000 := by
    have hplain : target.truncated.utc.leap = false := it.plain
    have hnanos : target.truncated.utc.nanos =
      target.utc.nanos - target.utc.nanos % 1000000 := rfl
    unfold Whole at ha
    simp only [Sign.apply] at hshort
    rw [Reading.elapsed_of_not_leap hplain istop.plain, Reading.elapsed_of_not_leap it.plain
      istop.plain, Int.tdiv_eq_ediv_of_nonneg (by omega), Int.tdiv_eq_ediv_of_nonneg (by omega)]
    omega
  rw [difference_eq, difference_eq, ha.itinerary hp hitinerary, hitinerary]
  simp only [Except.map, helapsed]

theorem instructionTo_congr {target target' : Instant} {d : Difference}
    (hd : anchor.difference target = .ok d) (hd' : anchor.difference target' = .ok d)
    (hf : target.format = target'.format) :
    anchor.instructionTo target = anchor.instructionTo target' := by
  have hlands (tokens : List Token) : anchor.landsOn target tokens =
      anchor.landsOn target' tokens := by
    unfold landsOn
    rw [hf]
  rw [instructionTo, instructionTo, hd, hd', Answer.bind_ok, Answer.bind_ok]
  exact foldlM_improve_eq d.units (fun u _ => hlands _) _

/-! ### Back in time it is not -/

theorem Early.exists_end_of_minus (hz : zone.rules = .constant offset)
    (ho : -86400 < offset ∧ offset < 86400) (ha : anchor.Early zone) (ht : target.Early zone)
    (hp : anchor.heading target = .minus) :
    ∃ d reached, anchor.difference target = .ok d ∧ evaluate anchor d.chain = .ok reached ∧
      target.utc.nanos ≤ reached.utc.nanos ∧
      reached.utc.nanos < target.utc.nanos + 1000000 := by
  have hmonths {count : TimeUnit → Nat} {afterYears afterMonths afterWeeks stop : Instant}
      (legs : Legs anchor target (anchor.heading target) count afterYears afterMonths afterWeeks
        stop) : count .months < 12 := by
    by_contra hmany
    obtain ⟨hplus, -⟩ := legs.leap_of_months hz ho ha ht (not_passes_heading anchor target)
      (Nat.not_lt.mp hmany)
    rw [hp] at hplus
    cases hplus
  obtain ⟨d, _, _, _, _, reached, hd, -, -, he, hleast, hmost⟩ := exists_greedy hz ho ha ht hmonths
  rw [hp] at hleast hmost
  simp only [Sign.apply] at hleast hmost
  exact ⟨d, reached, hd, he, by omega, by omega⟩

/-- A chain ends on one whole millisecond, the first that is not before its target. That of a target
between two is the one after it, and that of what is written of the target the one before. -/
theorem Inner.difference_truncated_ne (hz : zone.rules = .constant offset)
    (ho : -86400 < offset ∧ offset < 86400) (hbound : b ≤ 90000000) (ia : anchor.Inner zone b)
    (it : target.Inner zone b) (ha : anchor.Whole) (ht : ¬ target.Whole)
    (hp : anchor.heading target = .minus) :
    anchor.difference target.truncated ≠ anchor.difference target := by
  have hp' : anchor.heading target.truncated = .minus := (heading_truncated ha target).trans hp
  have ea := ia.early hbound
  obtain ⟨d, reached, hd, he, hleast, -⟩ := ea.exists_end_of_minus hz ho (it.early hbound) hp
  obtain ⟨d', reached', hd', he', hleast', hmost'⟩ :=
    ea.exists_end_of_minus hz ho (it.truncated.early hbound) hp'
  intro hsame
  rw [hd, hd'] at hsame
  obtain rfl := Except.ok.inj hsame
  obtain rfl := Except.ok.inj (he.symm.trans he')
  have hreached : reached.utc.nanos % 1000000 = 0 := ha.evaluate he
  have hnanos : target.truncated.utc.nanos =
    target.utc.nanos - target.utc.nanos % 1000000 := rfl
  unfold Whole at ht
  omega

theorem Within.small_of_difference (hb : zone.rules.Bounded) (hbound : b ≤ 50000000)
    (ha : anchor.Within zone b) (ht : target.Within zone b) {d : Difference}
    (hd : anchor.difference target = .ok d) (u : TimeUnit) :
    (d.get u).natAbs < 0x8000000000000000 := by
  obtain ⟨d', hd', hsmall, -⟩ := ha.exists_difference hb hbound ht
  obtain rfl := Except.ok.inj (hd.symm.trans hd')
  exact hsmall u

theorem Inner.exists_instructions (h : zone.Unchanging offset) (hbound : b ≤ 40000000)
    (ia : anchor.Inner zone b) (it : target.Inner zone b) (ha : anchor.Whole) :
    ∃ d d' text text', anchor.difference target = .ok d ∧
      anchor.difference target.truncated = .ok d' ∧ anchor.instructionTo target = .ok text ∧
      anchor.instructionTo target.truncated = .ok text' ∧
      (text = text' ↔ (target.utc < anchor.utc → ¬ target.Whole →
        ∃ u, anchor.SharesTrial target d d' u)) := by
  have hb := h.bounded
  have wa := ia.within hb
  have wt := it.within hb
  have wt' := it.truncated.within hb
  obtain ⟨d, text, hd, htext, hbest⟩ := wa.exists_isBest hb (by omega) wt ia.plain it.plain
  obtain ⟨d', text', hd', htext', hbest'⟩ :=
    wa.exists_isBest hb (by omega) wt' ia.plain it.truncated.plain
  refine ⟨d, d', text, text', hd, hd', htext, htext', ?_⟩
  by_cases hback : target.utc < anchor.utc ∧ ¬ target.Whole
  · obtain ⟨hlt, hnot⟩ := hback
    have hne := ia.difference_truncated_ne h.rules_eq h.bounds (by omega) it ha hnot (if_pos hlt)
    rw [hd, hd'] at hne
    have hsmall := wa.small_of_difference hb (by omega) wt hd
    have hsmall' := wa.small_of_difference hb (by omega) wt' hd'
    rw [hbest.eq_iff hbest' hlt ((Reading.truncated_lt_iff ha).mpr hlt) target.format_truncated
      hsmall hsmall' fun heq => hne (congrArg _ heq.symm)]
    exact ⟨fun hu _ _ => hu, fun hu => hu hlt hnot⟩
  · refine iff_of_true ?_ fun hlt hnot => absurd ⟨hlt, hnot⟩ hback
    have hsame : anchor.difference target.truncated = anchor.difference target := by
      by_cases hlt : target.utc < anchor.utc
      · have htarget : target.Whole := not_not.mp fun hnot => hback ⟨hlt, hnot⟩
        rw [whole_iff.mp htarget]
      · exact ia.difference_truncated_of_plus hb (by omega) it ha (if_neg hlt)
    have hinstruction := instructionTo_congr (hsame.trans hd) hd target.format_truncated
    rw [htext, htext'] at hinstruction
    exact (Except.ok.inj hinstruction).symm

end Instant

/-- The instruction to a target and that to its timestamp as it is written, to the millisecond, are
one and the same, unless the target lies back in time and is no whole millisecond. Then they are
just if there is a unit down to which both differences agree, and the parts down to it with a snap
to it lead to the target and are no longer than either chain. -/
theorem unsnap_written_iff [Zone.Names] {s : Setting} {zone : Zone} {offset : Int}
    (hs : s.zone = .ok zone) (h : zone.Steady offset) {targetText anchorText : String}
    {target anchor : Instant} (ht : s.read targetText = .ok target)
    (ha : s.read anchorText = .ok anchor) (htl : target.utc.leap = false)
    (hal : anchor.utc.leap = false) (hwhole : anchor.Whole)
    (hy : ShortYear (Date.ofDay target.face.day).year) :
    ∃ written d d' text text', target.format = .ok written ∧
      s.read written = .ok target.truncated ∧
      anchor.difference target = .ok d ∧ anchor.difference target.truncated = .ok d' ∧
      unsnap s targetText anchorText = .ok text ∧ unsnap s written anchorText = .ok text' ∧
      (text = text' ↔ (target.utc < anchor.utc → ¬ target.Whole →
        ∃ u, anchor.SharesTrial target d d' u)) := by
  have hb := h.unchanging.bounded
  have htarget := ht
  have hanchor := ha
  rw [Setting.read_eq hs] at htarget hanchor
  have it := Zone.read_inner hb htarget htl
  have ia := Zone.read_inner hb hanchor hal
  obtain ⟨written, hwritten⟩ := (it.within hb).exists_format hb (by omega)
  have hplain : PlainYear written := by
    obtain ⟨-, rfl⟩ := Instant.format_eq_ok_iff.mp hwritten
    exact (plainYear_stamp_iff _ _).mpr hy
  have hreread : s.read written = .ok target.truncated := by
    rw [Setting.read_eq hs]
    exact Instant.read_format h (h.read_regular htarget) hwritten hplain
  obtain ⟨d, d', text, text', hd, hd', htext, htext', hiff⟩ :=
    ia.exists_instructions h.unchanging (by omega) it hwhole
  refine ⟨written, d, d', text, text', hwritten, hreread, hd, hd', ?_, ?_, hiff⟩
  · rw [unsnap, ht, Answer.bind_ok, ha, Answer.bind_ok, htext]
  · rw [unsnap, hreread, Answer.bind_ok, ha, Answer.bind_ok, htext']

/-- Either way the day back and its start. -/
theorem unsnap_written_at_start_of_day :
    ∃ target anchor d d',
      Setting.read ⟨.utc, some "+00:00"⟩ "2020-01-01T00:00:00.0005Z" = .ok target ∧
      Setting.read ⟨.utc, some "+00:00"⟩ "2020-01-02T00:30:00Z" = .ok anchor ∧
      ¬ target.Whole ∧ target.format = .ok "2020-01-01T00:00:00.000Z" ∧
      unsnap ⟨.utc, some "+00:00"⟩ "2020-01-01T00:00:00.0005Z" "2020-01-02T00:30:00Z" =
        .ok "-1d@d" ∧
      unsnap ⟨.utc, some "+00:00"⟩ "2020-01-01T00:00:00.000Z" "2020-01-02T00:30:00Z" =
        .ok "-1d@d" ∧
      anchor.difference target = .ok d ∧ anchor.difference target.truncated = .ok d' ∧
      ∃ u, anchor.SharesTrial target d d' u := by
  have hzone : Setting.zone ⟨.utc, some "+00:00"⟩ = .ok (.fixed ⟨0, by decide, by decide⟩) := by
    decide +kernel
  have htarget : Setting.read ⟨.utc, some "+00:00"⟩ "2020-01-01T00:00:00.0005Z" =
      .ok ⟨⟨1577836800000500000, false⟩, .fixed ⟨0, by decide, by decide⟩, by decide⟩ := by
    decide +kernel
  have hanchor : Setting.read ⟨.utc, some "+00:00"⟩ "2020-01-02T00:30:00Z" =
      .ok ⟨⟨1577925000000000000, false⟩, .fixed ⟨0, by decide, by decide⟩, by decide⟩ := by
    decide +kernel
  have hformat : (⟨⟨1577836800000500000, false⟩, .fixed ⟨0, by decide, by decide⟩, by decide⟩ :
      Instant).format = .ok "2020-01-01T00:00:00.000Z" := by decide +kernel
  have hback : unsnap ⟨.utc, some "+00:00"⟩ "2020-01-01T00:00:00.0005Z" "2020-01-02T00:30:00Z" =
      .ok "-1d@d" := by decide +kernel
  have hback' : unsnap ⟨.utc, some "+00:00"⟩ "2020-01-01T00:00:00.000Z" "2020-01-02T00:30:00Z" =
      .ok "-1d@d" := by decide +kernel
  obtain ⟨written, d, d', text, text', hwritten, -, hd, hd', htext, htext', hiff⟩ :=
    unsnap_written_iff hzone ⟨rfl, by decide, by decide⟩ htarget hanchor rfl rfl (by decide)
      ⟨by decide +kernel, by decide +kernel⟩
  obtain rfl := Except.ok.inj (hformat.symm.trans hwritten)
  have hsame : text = text' := by
    rw [hback] at htext
    rw [hback'] at htext'
    exact (Except.ok.inj htext).symm.trans (Except.ok.inj htext')
  have hfraction : ¬ Instant.Whole ⟨⟨1577836800000500000, false⟩,
      .fixed ⟨0, by decide, by decide⟩, by decide⟩ := by decide
  exact ⟨_, _, d, d', htarget, hanchor, hfraction, hformat, hback, hback', hd, hd',
    hiff.mp hsame (by decide) hfraction⟩

/-- What is written of the target is a day back; the target itself is half a millisecond short of
it, and a whole one is taken off. -/
theorem unsnap_written_differs :
    unsnap ⟨.utc, some "+00:00"⟩ "2020-01-01T00:00:00.0005Z" "2020-01-02T00:00:00Z" =
      .ok "-23h-59m-59s-999ms" ∧
    (Setting.read ⟨.utc, some "+00:00"⟩ "2020-01-01T00:00:00.0005Z" >>= Instant.format) =
      .ok "2020-01-01T00:00:00.000Z" ∧
    unsnap ⟨.utc, some "+00:00"⟩ "2020-01-01T00:00:00.000Z" "2020-01-02T00:00:00Z" =
      .ok "-1d" := by
  decide +kernel

example : unsnap ⟨.utc, some "+00:00"⟩ "2020-01-01T00:00:00.0005Z" "2020-01-02T00:30:00Z" =
    .ok "-1d@d" := by
  decide +kernel

end RelativeTime
