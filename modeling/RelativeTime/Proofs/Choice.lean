import RelativeTime.Proofs.Direction
import RelativeTime.Proofs.Unsnap

/-! Which instruction is given of those that are tried.

Back in time each unit of the difference gives one trial: the parts down to the unit, and a snap to
it. What is given is the chain unless a trial that is no longer in writing leads to the target, and
then the shortest of these. Forward there is only the chain. -/
namespace RelativeTime

theorem render_append (tokens tokens' : List Token) :
    render (tokens ++ tokens') = render tokens ++ render tokens' := by
  simp only [render, List.flatMap_append, String.ofList_append]

theorem render_snap (u : TimeUnit) : render [.snap ⟨u, none⟩] = "@" ++ u.symbol := by
  cases u <;> decide +kernel

namespace Difference

variable {d : Difference} {u : TimeUnit}

/-- The parts that are not finer than a unit, and a snap to it. -/
def stopAt (d : Difference) (u : TimeUnit) : List Token :=
  (d.units.filter fun v => ¬ v < u).map d.delta ++ [.snap ⟨u, none⟩]

def stopText (d : Difference) (u : TimeUnit) : String :=
  render ((d.units.filter fun v => ¬ v < u).map d.delta) ++ ("@" ++ u.symbol)

theorem render_stopAt (d : Difference) (u : TimeUnit) : render (d.stopAt u) = d.stopText u := by
  rw [stopAt, render_append, render_snap, stopText]

theorem renderable_stopAt (d : Difference) (u : TimeUnit) : ∀ t ∈ d.stopAt u, t.Renderable := by
  intro t ht
  rcases List.mem_append.mp ht with ht | ht
  · exact Difference.renderable_map_delta d _ t ht
  · obtain rfl := List.mem_singleton.mp ht
    intro n hn
    cases hn

theorem isNegative_of_mem_chain (hd : ∀ u, d.get u ≤ 0) : ∀ t ∈ d.chain, t.isNegative := by
  intro t ht
  obtain ⟨u, hu, rfl⟩ := List.mem_map.mp ht
  have hne : d.get u ≠ 0 := of_decide_eq_true (List.mem_filter.mp hu).2
  have hle := hd u
  exact isNegative_delta.trans (decide_eq_true (by omega))

theorem units_split (hu : u ∈ d.units) : ∃ before after, d.units = before ++ u :: after ∧
    (∀ v ∈ before, u < v) ∧ (∀ v ∈ after, v < u) ∧
      (d.units.filter fun v => ¬ v < u) = before ++ [u] := by
  obtain ⟨before, after, hsplit⟩ := List.append_of_mem hu
  have horder := d.units_pairwise
  rw [hsplit, List.pairwise_append, List.pairwise_cons] at horder
  obtain ⟨-, ⟨hfiner, -⟩, hcoarser⟩ := horder
  replace hcoarser : ∀ v ∈ before, u < v := fun v hv => hcoarser v hv u List.mem_cons_self
  refine ⟨before, after, hsplit, hcoarser, hfiner, ?_⟩
  rw [hsplit, List.filter_append, List.filter_eq_self.mpr, List.filter_cons_of_pos,
    List.filter_eq_nil_iff.mpr]
  · intro v hv
    simpa using hfiner v hv
  · exact decide_eq_true (Nat.lt_irrefl _)
  · intro v hv
    exact decide_eq_true (Nat.lt_asymm (hcoarser v hv))

theorem attempt_of_backward (hd : ∀ u, d.get u ≤ 0) (hu : u ∈ d.units) :
    attempt d.chain u = d.stopAt u := by
  obtain ⟨before, after, hsplit, hcoarser, hfiner, hkept⟩ := units_split hu
  have hchain : d.chain = before.map d.delta ++ d.delta u :: after.map d.delta := by
    rw [chain_eq, hsplit, List.map_append, List.map_cons]
  have hends : EndsBackward d.chain [] d.chain :=
    ⟨rfl, isNegative_of_mem_chain hd, fun _ h => by cases h⟩
  have hlast : LastOn u d.chain (before.map d.delta) (d.delta u) (after.map d.delta) := by
    refine ⟨hchain, beq_self_eq_true u, fun t ht => ?_⟩
    obtain ⟨v, hv, rfl⟩ := List.mem_map.mp ht
    refine beq_false_of_ne ?_
    rintro rfl
    exact Nat.lt_irrefl _ (hfiner _ hv)
  have hkeep : (before.map d.delta).filter (Token.isCoarser u) = before.map d.delta := by
    refine List.filter_eq_self.mpr fun t ht => ?_
    obtain ⟨v, hv, rfl⟩ := List.mem_map.mp ht
    exact decide_eq_true (hcoarser v hv)
  rw [attempt, collapse?_of_lastOn hends hlast, hkeep, Option.getD_some, List.nil_append, stopAt,
    hkept, List.map_append, List.append_assoc]
  rfl

end Difference

namespace Instant

variable {anchor target : Instant} {d : Difference} {text : String}

def Reaches (anchor target : Instant) (text : String) : Prop :=
  ∃ tokens reached written, parse text = .ok tokens ∧ evaluate anchor tokens = .ok reached ∧
    reached.format = .ok written ∧ target.format = .ok written

theorem reaches_render_iff {tokens : List Token} (ht : ∀ t ∈ tokens, t.Renderable) :
    anchor.Reaches target (render tokens) ↔ anchor.landsOn target tokens = .ok true := by
  constructor
  · rintro ⟨tokens', reached, written, hparse, he, hreached, hwritten⟩
    obtain rfl := Except.ok.inj ((parse_render ht).symm.trans hparse)
    simp only [landsOn, he, hreached, hwritten, Answer.bind_ok, beq_self_eq_true]
    rfl
  · intro h
    unfold landsOn at h
    split at h
    · rename_i reached he
      obtain ⟨text, hreached, h⟩ := Answer.bind_eq_ok.mp h
      obtain ⟨written, hwritten, h⟩ := Answer.bind_eq_ok.mp h
      obtain rfl := eq_of_beq (Except.ok.inj h)
      exact ⟨tokens, reached, text, parse_render ht, he, hreached, hwritten⟩
    · cases h
    · cases h

structure IsBest (anchor target : Instant) (d : Difference) (text : String) : Prop where
  tried : text = render d.chain ∨ target.utc < anchor.utc ∧ ∃ u ∈ d.units, text = d.stopText u
  no_longer : text.length ≤ (render d.chain).length
  /-- Only the chain may lead elsewhere. -/
  reaches : text ≠ render d.chain → anchor.Reaches target text
  shortest : target.utc < anchor.utc → ∀ u ∈ d.units, anchor.Reaches target (d.stopText u) →
    text.length ≤ (d.stopText u).length
  /-- Also where a trial is just as long as the chain, it is preferred. -/
  finest : target.utc < anchor.utc →
    (∃ u ∈ d.units, anchor.Reaches target (d.stopText u) ∧
      (d.stopText u).length = text.length) →
    ∃ v ∈ d.units, text = d.stopText v ∧ ∀ u ∈ d.units, anchor.Reaches target (d.stopText u) →
      (d.stopText u).length = text.length → ¬ u < v
  forward : ¬ target.utc < anchor.utc → text = render d.chain ∧ parse text = .ok d.chain ∧
    ∀ t ∈ d.chain, ∃ delta, t = .delta delta ∧ delta.sign = .plus

theorem isBest_of_backward (hd : d.Directed .minus) (hlt : target.utc < anchor.utc)
    {chosen : List Token} (h : Best anchor target d.chain d.chain d.units chosen) :
    anchor.IsBest target d (render chosen) := by
  have htext : ∀ u ∈ d.units, render (attempt d.chain u) = d.stopText u := by
    intro u hu
    rw [Difference.attempt_of_backward hd.nonpos hu, d.render_stopAt]
  have hlands : ∀ u ∈ d.units, (anchor.landsOn target (attempt d.chain u) = .ok true ↔
      anchor.Reaches target (d.stopText u)) := by
    intro u hu
    rw [Difference.attempt_of_backward hd.nonpos hu,
      ← reaches_render_iff (d.renderable_stopAt u), d.render_stopAt]
  cases h with
  | stays h =>
    have hlonger : ∀ u ∈ d.units, anchor.Reaches target (d.stopText u) →
        (render d.chain).length < (d.stopText u).length := by
      intro u hu hr
      rw [← htext u hu]
      exact h u hu ((hlands u hu).mpr hr)
    refine ⟨.inl rfl, Nat.le_refl _, fun hne => absurd rfl hne, ?_, ?_, fun hn => absurd hlt hn⟩
    · intro _ u hu hr
      exact Nat.le_of_lt (hlonger u hu hr)
    · rintro - ⟨u, hu, hr, heq⟩
      have hless := hlonger u hu hr
      omega
  | @tried v hv hl hle h =>
    rw [htext v hv] at hle ⊢
    have hbest : ∀ u ∈ d.units, anchor.Reaches target (d.stopText u) →
        (d.stopText v).length ≤ (d.stopText u).length ∧
          ((d.stopText u).length = (d.stopText v).length → ¬ u < v) := by
      intro u hu hr
      rw [← htext u hu, ← htext v hv]
      exact h u hu ((hlands u hu).mpr hr)
    refine ⟨.inr ⟨hlt, v, hv, rfl⟩, hle, fun _ => (hlands v hv).mp hl, ?_, ?_,
      fun hn => absurd hlt hn⟩
    · intro _ u hu hr
      exact (hbest u hu hr).1
    · intro _ _
      exact ⟨v, hv, rfl, fun u hu hr => (hbest u hu hr).2⟩

theorem isBest_of_forward (hd : d.Directed .plus) (hlt : ¬ target.utc < anchor.utc)
    {chosen : List Token} (h : Best anchor target d.chain d.chain d.units chosen) :
    anchor.IsBest target d (render chosen) := by
  have hchain : chosen = d.chain := by
    cases h with
    | stays _ => rfl
    | tried _ _ _ _ => exact Difference.attempt_of_forward hd.nonneg _
  subst hchain
  refine ⟨.inl rfl, Nat.le_refl _, fun hne => absurd rfl hne, fun hn => absurd hn hlt,
    fun hn => absurd hn hlt, fun _ => ⟨rfl, ?_, fun t => hd.sign_of_mem_chain⟩⟩
  exact parse_render (Difference.renderable_map_delta d d.units)

theorem Within.exists_isBest {zone : Zone} {b : Int} (hb : zone.rules.Bounded)
    (hbound : b ≤ 50000000) (ha : anchor.Within zone b) (ht : target.Within zone b)
    (hal : anchor.utc.leap = false) (htl : target.utc.leap = false) :
    ∃ d text, anchor.difference target = .ok d ∧ anchor.instructionTo target = .ok text ∧
      anchor.IsBest target d text := by
  obtain ⟨d, hd, hsmall, room⟩ := ha.exists_difference hb hbound ht
  obtain ⟨written, hw⟩ := ht.exists_format hb (by omega)
  obtain ⟨chosen, htext, hbest⟩ := exists_best hd
    (room.exists_lands hb (by omega) hsmall hw)
  refine ⟨d, render chosen, hd, htext, ?_⟩
  obtain ⟨hdirected, -⟩ :=
    directed_of_difference (ht.zone_eq.trans ha.zone_eq.symm) hal htl hd
  unfold heading at hdirected
  by_cases hlt : target.utc < anchor.utc
  · rw [if_pos hlt] at hdirected
    exact isBest_of_backward hdirected hlt hbest
  · rw [if_neg hlt] at hdirected
    exact isBest_of_forward hdirected hlt hbest

end Instant

/-- The instruction between two timestamps that can be read is the best of what is tried for their
difference. -/
theorem unsnap_isBest [Zone.Names] [Zone.Names.Lawful] {s : Setting}
    (hh : s.asked = none → s.host.rules.Bounded) {targetText anchorText : String}
    {target anchor : Instant} (ht : s.read targetText = .ok target)
    (ha : s.read anchorText = .ok anchor) (htl : target.utc.leap = false)
    (hal : anchor.utc.leap = false) :
    ∃ d text, anchor.difference target = .ok d ∧ unsnap s targetText anchorText = .ok text ∧
      anchor.IsBest target d text := by
  obtain ⟨zone, hzone, htarget⟩ := Answer.bind_eq_ok.mp ht
  have hanchor := ha
  rw [Setting.read_eq hzone] at hanchor
  have hb := Setting.bounded hh hzone
  obtain ⟨d, text, hd, htext, hbest⟩ := (Zone.read_within hb hanchor).exists_isBest hb (by omega)
    (Zone.read_within hb htarget) hal htl
  refine ⟨d, text, hd, ?_, hbest⟩
  rw [unsnap, ht, Answer.bind_ok, ha, Answer.bind_ok, htext]

/-- To the start of a month, as long as by the chain. -/
theorem unsnap_isBest_on_tie :
    ∃ target anchor d text,
      Setting.read ⟨.named "America/Chicago" Zone.Table.chicago, none⟩ "2023-08-01" = .ok target ∧
      Setting.read ⟨.named "America/Chicago" Zone.Table.chicago, none⟩ "2023-09-01T10:00" =
        .ok anchor ∧
      anchor.difference target = .ok d ∧ unsnap ⟨.named "America/Chicago" Zone.Table.chicago, none⟩
        "2023-08-01" "2023-09-01T10:00" = .ok text ∧ anchor.IsBest target d text := by
  have htarget : Setting.read ⟨.named "America/Chicago" Zone.Table.chicago, none⟩
      "2023-08-01" = .ok ⟨⟨1690866000000000000, false⟩,
        .named "America/Chicago" Zone.Table.chicago, by decide⟩ := by decide +kernel
  have hanchor : Setting.read ⟨.named "America/Chicago" Zone.Table.chicago, none⟩
      "2023-09-01T10:00" = .ok ⟨⟨1693580400000000000, false⟩,
        .named "America/Chicago" Zone.Table.chicago, by decide⟩ := by decide +kernel
  obtain ⟨d, text, hd, htext, hbest⟩ :=
    unsnap_isBest (fun _ => by decide +kernel) htarget hanchor rfl rfl
  exact ⟨_, _, d, text, htarget, hanchor, hd, htext, hbest⟩

example : unsnap ⟨.named "America/Chicago" Zone.Table.chicago, none⟩ "2023-08-01"
    "2023-09-01T10:00" = .ok "-1mon@mon" ∧ "-1mon@mon".length = "-1mon-10h".length := by
  decide +kernel

end RelativeTime
