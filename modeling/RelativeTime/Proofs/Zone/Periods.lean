import RelativeTime.Proofs.Zone.Resolution

/-! The periods of a zone follow one another, so that a second of UTC lies in one of them at most.
A reading of the wall clock may be shown in several; but well inside a period, further from its
start than any two clocks differ, no earlier one shows the reading. -/
namespace RelativeTime

namespace Period

def Before (p q : Period) : Prop := ∀ a b, p.Covers a → q.Covers b → a < b

variable {p : Period} {a b c : Int}

theorem covers_iff :
    p.Covers a ↔ (∀ s, p.start = some s → s ≤ a) ∧ ∀ s, p.stop = some s → a < s := by
  unfold Covers
  cases p.start <;> cases p.stop <;> simp

theorem Covers.between (ha : p.Covers a) (hc : p.Covers c) (h : a ≤ b ∧ b ≤ c) : p.Covers b := by
  rw [covers_iff] at *
  constructor
  · intro s hs
    have := ha.1 s hs
    omega
  · intro s hs
    have := hc.2 s hs
    omega

end Period

namespace Rules

theorem start_le_of_covers {changes : List Change} {since offset : Int}
    (hascending : Ascending (⟨since, offset⟩ :: changes)) {p : Period}
    (hp : p ∈ periodsFrom (some since) offset changes) {a : Int} (ha : p.Covers a) :
    since ≤ a := by
  induction changes generalizing since offset with
  | nil =>
    obtain rfl : p = ⟨some since, none, offset⟩ := by simpa [periodsFrom] using hp
    exact (Period.covers_iff.mp ha).1 since rfl
  | cons c rest ih =>
    rcases List.mem_cons.mp hp with rfl | hp
    · exact (Period.covers_iff.mp ha).1 since rfl
    · have hlater := ih hascending.2 hp
      exact Int.le_trans (Int.le_of_lt hascending.1) hlater

theorem pairwise_periodsFrom {changes : List Change} (hascending : Ascending changes)
    (start : Option Int) (offset : Int) :
    (periodsFrom start offset changes).Pairwise Period.Before := by
  induction changes generalizing start offset with
  | nil => exact List.pairwise_singleton _ _
  | cons c rest ih =>
    have hrest : Ascending rest := by
      cases rest with
      | nil => trivial
      | cons d rest => exact hascending.2
    refine List.pairwise_cons.mpr ⟨?_, ih hrest _ _⟩
    intro q hq a b ha hb
    have hend := (Period.covers_iff.mp ha).2 c.since rfl
    have hstart := start_le_of_covers hascending hq hb
    exact Int.lt_of_lt_of_le hend hstart

variable {z : Rules} {p : Period}

theorem find?_periods (hp : p ∈ z.periods) {kind : Period → Bool} (h : kind p = true)
    (hfirst : ∀ q ∈ z.periods, q.Before p → kind q = false) : z.periods.find? kind = some p := by
  have hpairwise : z.periods.Pairwise Period.Before := pairwise_periodsFrom z.ascending none _
  obtain ⟨earlier, later, hsplit⟩ := List.append_of_mem hp
  rw [hsplit, List.pairwise_append] at hpairwise
  -- What stands earlier in the list is earlier in time.
  refine List.find?_eq_some_iff_append.mpr ⟨h, earlier, later, hsplit, fun q hq => ?_⟩
  have hbefore := hpairwise.2.2 q hq p List.mem_cons_self
  rw [hfirst q (hsplit ▸ List.mem_append_left _ hq) hbefore]
  rfl

theorem offsetAt_of_covers (hp : p ∈ z.periods) {second : Int} (h : p.Covers second) :
    z.offsetAt second = p.offset := by
  have hfind : (z.periods.find? fun p => p.Covers second) = some p := by
    refine find?_periods hp (decide_eq_true h) fun q _ hbefore => decide_eq_false fun hq => ?_
    exact absurd (hbefore _ _ hq h) (Int.lt_irrefl _)
  rw [offsetAt, hfind]
  rfl

/-- Two clocks differ by less than two days, so no period that ended two days ago shows now what the
present one does. -/
theorem offsetShowing?_of_covers (hb : z.Bounded) (hp : p ∈ z.periods) {wall : Int}
    (h : p.Covers (wall - p.offset)) (hsince : p.Covers (wall - p.offset - 172800)) :
    z.offsetShowing? wall = some p.offset := by
  have hoffset := hb _ (offset_of_mem_periodsFrom hp)
  have hfind : (z.periods.find? fun p => p.Shows wall) = some p := by
    refine find?_periods hp (decide_eq_true h) fun q hq hbefore => decide_eq_false fun hshows => ?_
    have hoffset' := hb _ (offset_of_mem_periodsFrom hq)
    have hearlier := hbefore _ _ hshows hsince
    omega
  rw [offsetShowing?, hfind]
  rfl

end Rules

end RelativeTime
