import Mathlib.Data.List.Flatten
import RelativeTime.Proofs.Choice

/-! The trials of two differences. A trial on a coarser unit is always the shorter one, so that of
the trials that lead to a target the coarsest is chosen, and two searches for one target end alike
just where they share a trial that leads there. -/
namespace RelativeTime

theorem TimeUnit.length_symbol (u : TimeUnit) : 1 ≤ u.symbol.length ∧ u.symbol.length ≤ 3 := by
  cases u <;> decide

theorem TimeUnit.eq_of_not_lt {u v : TimeUnit} (h : ¬ u < v) (h' : ¬ v < u) : u = v := by
  have hrank : ∀ u v : TimeUnit, u.rank = v.rank → u = v := by
    intro u v
    cases u <;> cases v <;> simp [rank]
  have hle : ¬ u.rank < v.rank := h
  have hge : ¬ v.rank < u.rank := h'
  exact hrank u v (by omega)

theorem TimeUnit.not_lt_of_not_lt {u v w : TimeUnit} (h : ¬ v < u) (h' : ¬ w < v) : ¬ w < u := by
  have hle : ¬ v.rank < u.rank := h
  have hle' : ¬ w.rank < v.rank := h'
  change ¬ w.rank < u.rank
  omega

theorem length_render (tokens : List Token) :
    (render tokens).length = (tokens.flatMap Token.chars).length :=
  String.length_ofList

theorem length_render_mono {tokens tokens' : List Token} (h : tokens.Sublist tokens') :
    (render tokens).length ≤ (render tokens').length := by
  rw [length_render, length_render]
  exact (h.flatMap Token.chars).length_le

namespace Difference

variable {d d' : Difference} {u v : TimeUnit}

theorem length_render_delta (d : Difference) (u : TimeUnit) :
    2 + u.symbol.length ≤ (render [d.delta u]).length := by
  have hdigits := Digits.length_text_pos (min (d.get u).natAbs 0xFFFFFFFFFFFFFFFF)
  rw [length_render, List.flatMap_singleton]
  simp only [delta, Token.chars, Delta.chars, Delta.saturating, List.length_cons,
    List.length_append, String.length_toList]
  omega

/-- A trial on a coarser unit is shorter: it lacks a part at least, and of the words for the units
none has more than three letters. -/
theorem length_stopText_lt (hu : u ∈ d.units) (h : u < v) :
    (d.stopText v).length < (d.stopText u).length := by
  obtain ⟨before, after, hsplit, -, hfiner, hkept⟩ := units_split hu
  have hnone : ((u :: after).filter fun w => ¬ w < v) = [] := by
    refine List.filter_eq_nil_iff.mpr fun w hw hkeep => of_decide_eq_true hkeep ?_
    rcases List.mem_cons.mp hw with rfl | hw
    · exact h
    · exact Nat.lt_trans (hfiner w hw) h
  have hless : (d.units.filter fun w => ¬ w < v).Sublist before := by
    rw [hsplit, List.filter_append, hnone, List.append_nil]
    exact List.filter_sublist
  have hparts := length_render_mono (hless.map d.delta)
  have hdelta := d.length_render_delta u
  have hword := u.length_symbol
  have hword' := v.length_symbol
  have hmark : "@".length = 1 := by decide
  rw [stopText, stopText, hkept, List.map_append, render_append]
  simp only [String.length_append, List.map_cons, List.map_nil, hmark]
  omega

/-! ### What a text says of the difference -/

theorem ext_get (h : ∀ u, d.get u = d'.get u) : d = d' := by
  obtain ⟨hy, hmon, hw, hd⟩ : d.years = d'.years ∧ d.months = d'.months ∧ d.weeks = d'.weeks ∧
      d.days = d'.days := ⟨h .years, h .months, h .weeks, h .days⟩
  obtain ⟨hh, hmin, hs, hms⟩ : d.hours = d'.hours ∧ d.minutes = d'.minutes ∧
      d.seconds = d'.seconds ∧ d.milliseconds = d'.milliseconds :=
    ⟨h .hours, h .minutes, h .seconds, h .milliseconds⟩
  cases d
  cases d'
  simp_all only

theorem mem_units_iff : u ∈ d.units ↔ d.get u ≠ 0 := by
  rw [units, List.mem_filter, decide_eq_true_eq]
  exact and_iff_right u.mem_descending

theorem stopText_congr (h : ∀ v, ¬ v < u → d.get v = d'.get v) : d.stopText u = d'.stopText u := by
  have hunits : (d.units.filter fun v => ¬ v < u) = d'.units.filter fun v => ¬ v < u := by
    rw [units, units, List.filter_filter, List.filter_filter]
    refine List.filter_congr fun v _ => ?_
    by_cases hv : v < u
    · simp [hv]
    · simp [hv, h v hv]
  have hparts : (d.units.filter fun v => ¬ v < u).map d.delta =
      (d'.units.filter fun v => ¬ v < u).map d'.delta := by
    rw [hunits]
    refine List.map_congr_left fun v hv => ?_
    rw [delta, delta, h v (of_decide_eq_true (List.mem_filter.mp hv).2)]
  rw [stopText, stopText, hparts]

theorem chain_ne_stopText (d d' : Difference) (u : TimeUnit) : render d.chain ≠ d'.stopText u := by
  intro h
  have hparse := parse_render (Difference.renderable_map_delta d d.units)
  rw [← chain_eq, h, ← render_stopAt, parse_render (d'.renderable_stopAt u)] at hparse
  have hsnap : .snap ⟨u, none⟩ ∈ d.chain :=
    Except.ok.inj hparse ▸ List.mem_append_right _ (List.mem_singleton_self _)
  obtain ⟨v, -, hv⟩ := List.mem_map.mp hsnap
  cases hv

section Text

variable (hd : ∀ u, (d.get u).natAbs < 0x8000000000000000)
  (hd' : ∀ u, (d'.get u).natAbs < 0x8000000000000000)
include hd hd'

theorem delta_inj (h : d.delta u = d'.delta v) : u = v ∧ d.get u = d'.get v := by
  have hu := hd u
  have hv := hd' v
  simp only [delta, Token.delta.injEq, Delta.saturating, Delta.mk.injEq] at h
  obtain ⟨hsign, hmagnitude, rfl⟩ := h
  refine ⟨rfl, ?_⟩
  have hsize : (d.get u).natAbs = (d'.get u).natAbs := by omega
  rw [← Sign.apply_natAbs (d.get u), hsign, hsize, Sign.apply_natAbs]

theorem get_eq_of_parts {p : TimeUnit → Bool}
    (h : (d.units.filter p).map d.delta = (d'.units.filter p).map d'.delta) (hv : p v) :
    d.get v = d'.get v := by
  by_cases hzero : d.get v = 0
  · by_contra hne
    have hmem : d'.delta v ∈ (d.units.filter p).map d.delta := by
      rw [h]
      exact List.mem_map_of_mem
        (List.mem_filter.mpr ⟨mem_units_iff.mpr fun h0 => hne (hzero.trans h0.symm), hv⟩)
    obtain ⟨w, -, hw⟩ := List.mem_map.mp hmem
    obtain ⟨rfl, hget⟩ := delta_inj hd hd' hw
    exact hne hget
  · have hmem : d.delta v ∈ (d'.units.filter p).map d'.delta := by
      rw [← h]
      exact List.mem_map_of_mem (List.mem_filter.mpr ⟨mem_units_iff.mpr hzero, hv⟩)
    obtain ⟨w, -, hw⟩ := List.mem_map.mp hmem
    obtain ⟨rfl, hget⟩ := delta_inj hd' hd hw
    exact hget.symm

theorem eq_of_chain_text (h : render d.chain = render d'.chain) : d = d' := by
  have hparse := parse_render (Difference.renderable_map_delta d d.units)
  have hparse' := parse_render (Difference.renderable_map_delta d' d'.units)
  rw [← chain_eq, h, chain_eq d', hparse'] at hparse
  have hparts := (Except.ok.inj hparse).symm
  refine ext_get fun v => get_eq_of_parts hd hd' (p := fun _ => true) ?_ rfl
  rwa [List.filter_true, List.filter_true]

/-- From the text of a trial its unit can be read, and the difference down to that. -/
theorem stopText_inj (h : d.stopText u = d'.stopText v) :
    u = v ∧ ∀ w, ¬ w < u → d.get w = d'.get w := by
  have hparse := parse_render (d.renderable_stopAt u)
  rw [render_stopAt, h, ← render_stopAt, parse_render (d'.renderable_stopAt v)] at hparse
  obtain ⟨hparts, hsnap⟩ := List.append_inj' (Except.ok.inj hparse).symm rfl
  obtain rfl : u = v := by simpa using hsnap
  exact ⟨rfl, fun w hw => get_eq_of_parts hd hd' hparts (decide_eq_true hw)⟩

end Text

end Difference

namespace Instant

variable {anchor target target' : Instant} {d d' : Difference} {text text' : String} {u : TimeUnit}

structure SharesTrial (anchor target : Instant) (d d' : Difference) (u : TimeUnit) : Prop where
  part : u ∈ d.units
  agree : ∀ v, ¬ v < u → d.get v = d'.get v
  reaches : anchor.Reaches target (d.stopText u)
  no_longer : (d.stopText u).length ≤ (render d.chain).length
  no_longer' : (d.stopText u).length ≤ (render d'.chain).length

theorem IsBest.exists_coarsest (h : anchor.IsBest target d text) (hlt : target.utc < anchor.utc)
    (hu : u ∈ d.units) (hr : anchor.Reaches target (d.stopText u))
    (hle : (d.stopText u).length ≤ (render d.chain).length) :
    ∃ v ∈ d.units, text = d.stopText v ∧ anchor.Reaches target text ∧
      ∀ w ∈ d.units, anchor.Reaches target (d.stopText w) → ¬ v < w := by
  obtain ⟨v, hv, htext⟩ : ∃ v ∈ d.units, text = d.stopText v := by
    rcases h.tried with hchain | ⟨-, hstop⟩
    · have hshort := h.shortest hlt u hu hr
      rw [← hchain] at hle
      obtain ⟨v, hv, htext, -⟩ := h.finest hlt ⟨u, hu, hr, Nat.le_antisymm hle hshort⟩
      exact ⟨v, hv, htext⟩
    · exact hstop
  refine ⟨v, hv, htext, h.reaches ?_, fun w hw hrw hvw => ?_⟩
  · rw [htext]
    exact (Difference.chain_ne_stopText d d v).symm
  · have hshort := h.shortest hlt w hw hrw
    have hless := Difference.length_stopText_lt hv hvw
    rw [← htext] at hless
    omega

theorem IsBest.eq_iff (h : anchor.IsBest target d text) (h' : anchor.IsBest target' d' text')
    (hlt : target.utc < anchor.utc) (hlt' : target'.utc < anchor.utc)
    (hformat : target'.format = target.format)
    (hd : ∀ u, (d.get u).natAbs < 0x8000000000000000)
    (hd' : ∀ u, (d'.get u).natAbs < 0x8000000000000000) (hne : d ≠ d') :
    text = text' ↔ ∃ u, SharesTrial anchor target d d' u := by
  constructor
  · intro heq
    rcases h.tried with hchain | ⟨-, u, hu, hstop⟩
    · rcases h'.tried with hchain' | ⟨-, v, -, hstop'⟩
      · have hchains : render d.chain = render d'.chain := by rw [← hchain, heq, hchain']
        exact absurd (Difference.eq_of_chain_text hd hd' hchains) hne
      · exact absurd (hchain.symm.trans (heq.trans hstop')) (Difference.chain_ne_stopText d d' v)
    · have hle := h.no_longer
      have hle' := h'.no_longer
      have hr := h.reaches (hstop ▸ (Difference.chain_ne_stopText d d u).symm)
      rcases h'.tried with hchain' | ⟨-, v, -, hstop'⟩
      · exact absurd (hchain'.symm.trans (heq.symm.trans hstop))
          (Difference.chain_ne_stopText d' d u)
      · obtain ⟨-, hagree⟩ :=
          Difference.stopText_inj hd hd' (hstop.symm.trans (heq.trans hstop'))
        rw [← heq] at hle'
        rw [hstop] at hle hle' hr
        exact ⟨u, hu, hagree, hr, hle, hle'⟩
  · rintro ⟨u, hu, hagree, hr, hle, hle'⟩
    have hreaches (text : String) : anchor.Reaches target' text ↔ anchor.Reaches target text := by
      simp only [Reaches, hformat]
    have hmem {v : TimeUnit} (hv : ¬ v < u) : v ∈ d.units ↔ v ∈ d'.units := by
      rw [Difference.mem_units_iff, Difference.mem_units_iff, hagree v hv]
    have htext {v : TimeUnit} (hv : ¬ v < u) : d.stopText v = d'.stopText v :=
      Difference.stopText_congr fun w hw => hagree w (TimeUnit.not_lt_of_not_lt hv hw)
    have hself : ¬ u < u := Nat.lt_irrefl _
    obtain ⟨v, hv, hstop, hrv, hcoarsest⟩ := h.exists_coarsest hlt hu hr hle
    have hvu := hcoarsest u hu hr
    have hu' := (hmem hself).mp hu
    have hr' := (hreaches _).mpr hr
    rw [htext hself] at hr' hle'
    obtain ⟨v', hv', hstop', hrv', hcoarsest'⟩ := h'.exists_coarsest hlt' hu' hr' hle'
    have hvu' := hcoarsest' u hu' hr'
    -- Each of the two that are chosen is also a trial of the other difference.
    rw [hstop, htext hvu] at hrv
    rw [hstop', ← htext hvu'] at hrv'
    have hge := hcoarsest v' ((hmem hvu').mpr hv') ((hreaches _).mp hrv')
    have hge' := hcoarsest' v ((hmem hvu).mp hv) ((hreaches _).mpr hrv)
    rw [hstop, hstop', TimeUnit.eq_of_not_lt hge hge', htext hvu']

end Instant

end RelativeTime
