import RelativeTime.Proofs.Collapse
import RelativeTime.Proofs.Passage

/-! What is tried for each unit of a difference, and which of it is kept.

All amounts of a difference have one direction. Forward there is nothing to collapse; backward every
unit has its collapse, which stops the chain after the unit and then snaps to it. -/
namespace RelativeTime

def attempt (chain : List Token) (u : TimeUnit) : List Token := (collapse? chain u).getD chain

namespace Difference

variable {d : Difference} {u : TimeUnit}

def candidates (d : Difference) : List (List Token) :=
  (d.chain :: d.units.map (attempt d.chain)).filter fun tokens =>
    (render tokens).length ≤ (render d.chain).length

theorem mem_candidates_iff {tokens : List Token} : tokens ∈ d.candidates ↔
    (tokens = d.chain ∨ ∃ u ∈ d.units, attempt d.chain u = tokens) ∧
      (render tokens).length ≤ (render d.chain).length := by
  simp only [candidates, List.mem_filter, List.mem_cons, List.mem_map, decide_eq_true_eq]

theorem units_pairwise (d : Difference) : d.units.Pairwise fun u v => v < u := by
  have hdescending : TimeUnit.descending.Pairwise fun u v => v < u := by decide
  exact hdescending.filter _

theorem renderable_map_delta (d : Difference) (us : List TimeUnit) :
    ∀ t ∈ us.map d.delta, t.Renderable := by
  intro t ht
  obtain ⟨u, -, rfl⟩ := List.mem_map.mp ht
  trivial

theorem renderable_attempt (d : Difference) (u : TimeUnit) :
    ∀ t ∈ attempt d.chain u, t.Renderable :=
  renderable_collapse (d.renderable_map_delta d.units) u

theorem collapseText_chain (d : Difference) (u : TimeUnit) :
    collapseText (render d.chain) u = .ok (render (attempt d.chain u)) :=
  collapseText_render (d.renderable_map_delta d.units) u

theorem isNegative_delta : (d.delta u).isNegative = decide (d.get u < 0) := by
  by_cases h : d.get u < 0 <;> simp [delta, Token.isNegative, Delta.saturating, Sign.ofInt, h]

theorem attempt_of_forward (hd : ∀ u, 0 ≤ d.get u) (u : TimeUnit) :
    attempt d.chain u = d.chain := by
  have hends : EndsBackward d.chain d.chain [] := by
    refine ⟨(List.append_nil _).symm, by simp, fun t ht => ?_⟩
    obtain ⟨v, -, rfl⟩ := List.mem_map.mp (List.mem_of_getLast? ht)
    exact isNegative_delta.trans (decide_eq_false (Int.not_lt.mpr (hd v)))
  rw [attempt, collapse?_of_none hends (by simp), Option.getD_none]

theorem candidates_of_forward (hd : ∀ u, 0 ≤ d.get u) :
    ∀ tokens ∈ d.candidates, tokens = d.chain := by
  intro tokens h
  rcases List.mem_cons.mp (List.mem_filter.mp h).1 with h | h
  · exact h
  · obtain ⟨u, -, rfl⟩ := List.mem_map.mp h
    exact attempt_of_forward hd u

end Difference

namespace Instant

variable {anchor target : Instant} {chain : List Token}

theorem improve_eq (best : String) (u : TimeUnit) : anchor.improve target chain best u =
    if best.length < (render (attempt chain u)).length then .ok best else
      anchor.landsOn target (attempt chain u) >>= fun lands =>
        .ok (if lands then render (attempt chain u) else best) := rfl

/-- A trial is one on texts: the chain is collapsed as it is written, and what comes of it is read
again to be followed. -/
theorem improve_chain_eq (d : Difference) (best : String) (u : TimeUnit) :
    anchor.improve target d.chain best u = (do
      let candidate ← Answer.ofExcept (collapseText (render d.chain) u)
      if best.length < candidate.length then return best
      let tokens ← Answer.ofExcept (parse candidate)
      return if ← anchor.landsOn target tokens then candidate else best) := by
  have hread : Answer.ofExcept (parse (render (attempt d.chain u))) = .ok (attempt d.chain u) := by
    rw [parse_render (d.renderable_attempt u)]
    rfl
  have hcollapse : Answer.ofExcept (collapseText (render d.chain) u) =
      .ok (render (attempt d.chain u)) := by
    rw [d.collapseText_chain]
    rfl
  rw [improve_eq, hcollapse, Answer.bind_ok, hread, Answer.bind_ok]
  rfl

theorem improve_step (best : List Token) {u : TimeUnit} {lands : Bool}
    (h : anchor.landsOn target (attempt chain u) = .ok lands) :
    anchor.improve target chain (render best) u = .ok (render best) ∧
        ¬ (lands = true ∧ (render (attempt chain u)).length ≤ (render best).length) ∨
      anchor.improve target chain (render best) u = .ok (render (attempt chain u)) ∧
        lands = true ∧ (render (attempt chain u)).length ≤ (render best).length := by
  rw [improve_eq]
  split
  · exact .inl ⟨rfl, by omega⟩
  · rw [h, Answer.bind_ok]
    cases lands
    · exact .inl ⟨rfl, by simp⟩
    · exact .inr ⟨rfl, rfl, by omega⟩

/-- What some trials may end with. What was the best before stays only where all that lands is
longer in writing. Otherwise it is the shortest that lands, and of two of one length that of the
finer unit. -/
inductive Best (anchor target : Instant) (chain best : List Token) (us : List TimeUnit) :
    List Token → Prop
  | stays (h : ∀ u ∈ us, anchor.landsOn target (attempt chain u) = .ok true →
      (render best).length < (render (attempt chain u)).length) :
      Best anchor target chain best us best
  | tried {v : TimeUnit} (hv : v ∈ us) (hl : anchor.landsOn target (attempt chain v) = .ok true)
      (hle : (render (attempt chain v)).length ≤ (render best).length)
      (h : ∀ u ∈ us, anchor.landsOn target (attempt chain u) = .ok true →
        (render (attempt chain v)).length ≤ (render (attempt chain u)).length ∧
          ((render (attempt chain u)).length = (render (attempt chain v)).length → ¬ u < v)) :
      Best anchor target chain best us (attempt chain v)

/-- The trials, coarsest unit first, end with the best of what is tried. The first trial decides
what the others are measured against: a trial that lands after one of its length is on a finer
unit. -/
theorem improve_all {us : List TimeUnit} (hus : us.Pairwise fun u v => v < u)
    (hok : ∀ u ∈ us, ∃ lands, anchor.landsOn target (attempt chain u) = .ok lands) :
    ∀ best : List Token, ∃ chosen,
      us.foldlM (anchor.improve target chain) (render best) = .ok (render chosen) ∧
      Best anchor target chain best us chosen := by
  induction us with
  | nil => exact fun best => ⟨best, rfl, .stays (by simp)⟩
  | cons u us ih =>
    intro best
    obtain ⟨hfiner, hus⟩ := List.pairwise_cons.mp hus
    obtain ⟨lands, hlands⟩ := hok u (by simp)
    replace ih := ih hus fun u hu => hok u (by simp [hu])
    rcases improve_step best hlands with ⟨hstep, hworse⟩ | ⟨hstep, rfl, hlen⟩
    · -- The trial on `u` is lost: where it lands, it is longer than the best so far.
      have hlost : anchor.landsOn target (attempt chain u) = .ok true →
          (render best).length < (render (attempt chain u)).length := by
        intro hl
        rw [hl] at hlands
        have hnot := mt (And.intro (Except.ok.inj hlands).symm) hworse
        omega
      obtain ⟨chosen, hfold, hchosen⟩ := ih best
      refine ⟨chosen, by rw [List.foldlM_cons, hstep]; exact hfold, ?_⟩
      cases hchosen with
      | stays h => exact .stays (List.forall_mem_cons.mpr ⟨hlost, h⟩)
      | tried hv hl hle h =>
        refine .tried (by simp [hv]) hl hle (List.forall_mem_cons.mpr ⟨?_, h⟩)
        intro hu
        have hlonger := hlost hu
        exact ⟨by omega, by omega⟩
    · obtain ⟨chosen, hfold, hchosen⟩ := ih (attempt chain u)
      refine ⟨chosen, by rw [List.foldlM_cons, hstep]; exact hfold, ?_⟩
      cases hchosen with
      | stays h =>
        refine .tried (by simp) hlands hlen (List.forall_mem_cons.mpr ⟨?_, ?_⟩)
        · exact fun _ => ⟨Nat.le_refl _, fun _ => Nat.lt_irrefl _⟩
        · intro w hw hl
          have hlonger := h w hw hl
          exact ⟨by omega, by omega⟩
      | tried hv hl hle h =>
        refine .tried (by simp [hv]) hl (by omega) (List.forall_mem_cons.mpr ⟨?_, h⟩)
        exact fun _ => ⟨hle, fun _ => Nat.lt_asymm (hfiner _ hv)⟩

theorem exists_best {d : Difference} (hd : anchor.difference target = .ok d)
    (hok : ∀ u ∈ d.units, ∃ lands, anchor.landsOn target (attempt d.chain u) = .ok lands) :
    ∃ chosen, anchor.instructionTo target = .ok (render chosen) ∧
      Best anchor target d.chain d.chain d.units chosen := by
  obtain ⟨chosen, hfold, hbest⟩ := improve_all d.units_pairwise hok d.chain
  exact ⟨chosen, by rw [instructionTo, hd, Answer.bind_ok]; exact hfold, hbest⟩

theorem exists_chosen {d : Difference} (hd : anchor.difference target = .ok d)
    (hok : ∀ u ∈ d.units, ∃ lands, anchor.landsOn target (attempt d.chain u) = .ok lands) :
    ∃ chosen ∈ d.candidates, anchor.instructionTo target = .ok (render chosen) ∧
      (anchor.landsOn target chosen = .ok true ↔
        ∃ tokens ∈ d.candidates, anchor.landsOn target tokens = .ok true) := by
  obtain ⟨chosen, htext, hbest⟩ := exists_best hd hok
  cases hbest with
  | stays h =>
    have hmem : d.chain ∈ d.candidates :=
      Difference.mem_candidates_iff.mpr ⟨.inl rfl, Nat.le_refl _⟩
    refine ⟨d.chain, hmem, htext, fun hl => ⟨d.chain, hmem, hl⟩, ?_⟩
    rintro ⟨tokens, ht, hl⟩
    obtain ⟨rfl | ⟨u, hu, rfl⟩, hle⟩ := Difference.mem_candidates_iff.mp ht
    · exact hl
    · exact absurd (h u hu hl) (by omega)
  | @tried v hv hl hle _ =>
    have hmem : attempt d.chain v ∈ d.candidates :=
      Difference.mem_candidates_iff.mpr ⟨.inr ⟨v, hv, rfl⟩, hle⟩
    exact ⟨attempt d.chain v, hmem, htext, fun _ => ⟨attempt d.chain v, hmem, hl⟩, fun _ => hl⟩

def CollapseLands (anchor target : Instant) (d : Difference) : Prop :=
  ∃ u ∈ d.units, ∃ tokens, collapse? d.chain u = some tokens ∧
    (render tokens).length ≤ (render d.chain).length ∧ anchor.landsOn target tokens = .ok true

theorem candidate_lands_iff (d : Difference) :
    (∃ tokens ∈ d.candidates, anchor.landsOn target tokens = .ok true) ↔
      anchor.landsOn target d.chain = .ok true ∨ anchor.CollapseLands target d := by
  simp only [Difference.mem_candidates_iff]
  constructor
  · rintro ⟨tokens, ⟨rfl | ⟨u, hu, rfl⟩, hle⟩, hl⟩
    · exact .inl hl
    · cases hc : collapse? d.chain u with
      | none =>
        rw [attempt, hc] at hl
        exact .inl hl
      | some tokens =>
        rw [attempt, hc] at hl hle
        exact .inr ⟨u, hu, tokens, hc, hle, hl⟩
  · rintro (hl | ⟨u, hu, tokens, hc, hle, hl⟩)
    · exact ⟨d.chain, ⟨.inl rfl, Nat.le_refl _⟩, hl⟩
    · exact ⟨tokens, ⟨.inr ⟨u, hu, by rw [attempt, hc]; rfl⟩, hle⟩, hl⟩

end Instant

end RelativeTime
