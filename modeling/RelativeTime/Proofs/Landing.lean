import RelativeTime.Proofs.Totality

/-! Where an instruction that was found leads.

Nothing that is tried fails, so the instruction lands if and only if some candidate does. The chain
does where its years, months, weeks and days, carried or not, lead the date where the walk led
it. -/
namespace RelativeTime

open Calendar

namespace Instant

variable {i j anchor target : Instant} {zone : Zone} {b : Int}

variable {heading : Sign} {count : TimeUnit → Nat}
  {afterYears afterMonths afterWeeks stop : Instant}

theorem natAbs_get_ofCounts (hsmall : ∀ u, count u < 0x8000000000000000) (u : TimeUnit) :
    ((Difference.ofCounts heading count).get u).natAbs < 0x8000000000000000 := by
  rw [Difference.get_ofCounts, Sign.natAbs_apply]
  exact hsmall u

theorem Passage.evaluate_chain (hsmall : ∀ u, count u < 0x8000000000000000)
    (h : Passage zone b (fun u => heading.apply (count u)) TimeUnit.descending i j) :
    evaluate i (Difference.ofCounts heading count).chain = .ok j := by
  rw [← funext (Difference.get_ofCounts heading count)] at h
  exact h.evaluate_eq (natAbs_get_ofCounts hsmall)

theorem chain_mem_candidates (d : Difference) : d.chain ∈ d.candidates := by
  simp [Difference.candidates]

theorem Route.chain_lands_iff (hb : zone.rules.Bounded) (hbound : b ≤ 50000000)
    (ha : anchor.Inner zone b) (ht : target.Inner zone b) (hp : ¬ anchor.Passes heading target.utc)
    (h : Route anchor target heading count afterYears afterMonths afterWeeks stop)
    (hsmall : ∀ u, Difference.carried count u < 0x8000000000000000) {written : String}
    (hw : target.format = .ok written) :
    anchor.landsOn target (Difference.ofCounts heading (Difference.carried count)).chain =
        .ok true ↔
      anchor.shiftDate (.ofCounts heading (Difference.carried count)) = .ok stop ∨
        ∃ j, evaluate anchor (Difference.ofCounts heading (Difference.carried count)).chain =
          .ok j ∧ j ≠ target ∧ j.format = .ok written := by
  obtain ⟨i, j, hshift, hpassage, hsame⟩ := h.exists_passage hb (by omega) ha ht hp
  have hj := hpassage.evaluate_chain hsmall
  obtain ⟨lands, hl, hiff⟩ := landsOn_eq_ok hb (by omega) hj (hpassage.inner_stop.within hb) hw
  rw [hl, Except.ok.injEq, hiff, hshift, Except.ok.injEq, ← hsame]
  constructor
  · intro hwritten
    by_cases heq : j = target
    · exact .inl heq
    · exact .inr ⟨j, hj, heq, hwritten⟩
  · rintro (rfl | ⟨j', hj', -, hwritten⟩)
    · exact hw
    · obtain rfl := Except.ok.inj (hj.symm.trans hj')
      exact hwritten

/-- An instruction is always found. It lands if its dates are those of the walk, as they are where
nothing was carried; otherwise only if the chain ends beside the target on an instant that is
written alike, or if a collapse lands. -/
theorem Inner.exists_instruction (hb : zone.rules.Bounded) (hbound : b ≤ 40000000)
    (ha : anchor.Inner zone b) (ht : target.Inner zone b)
    (hms : (target.utc.nanos - anchor.utc.nanos) % 1000000 = 0) :
    ∃ raw stop d tokens reached written, anchor.itinerary target = .ok (raw, stop) ∧
      anchor.difference target = .ok d ∧ anchor.instructionTo target = .ok (render tokens) ∧
      parse (render tokens) = .ok tokens ∧ evaluate anchor tokens = .ok reached ∧
      target.format = .ok written ∧
      (¬ raw.Carries → anchor.shiftDate d = .ok stop) ∧
      (reached.format = .ok written ↔ anchor.shiftDate d = .ok stop ∨
        (∃ j, evaluate anchor d.chain = .ok j ∧ j ≠ target ∧ j.format = .ok written) ∨
        anchor.CollapseLands target d) := by
  have hp := not_passes_heading anchor target
  obtain ⟨count, afterYears, afterMonths, afterWeeks, stop, hroute, hitinerary, hd, hsmall⟩ :=
    exists_route hb (by omega) ha ht hms
  obtain ⟨d, tokens, reached, written, hd', htext, hparse, he, hw, hiff⟩ :=
    (ha.within hb).exists_instruction hb (by omega) (ht.within hb)
  obtain rfl := Except.ok.inj (hd'.symm.trans hd)
  refine ⟨_, stop, _, tokens, reached, written, hitinerary, hd, htext, hparse, he, hw, ?_, ?_⟩
  · intro hcarries
    rw [Difference.Carries, not_or] at hcarries
    simp only [Difference.ofCounts, Sign.natAbs_apply] at hcarries
    exact hroute.shiftDate_of_not_carried (by omega) (by omega)
  · rw [hiff, candidate_lands_iff, hroute.chain_lands_iff hb (by omega) ha ht hp hsmall hw,
      or_assoc]

end Instant

end RelativeTime
