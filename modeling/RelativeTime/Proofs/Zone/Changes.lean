import Mathlib.Algebra.Order.Group.Int
import Mathlib.Data.Int.Basic
import RelativeTime.Proofs.Zone.Earliest

/-! From one second of UTC to a later one. The offset stays or a change in between sets it, so
that what holds of one second to the next holds over any stretch of time: the first change
away from an offset is one of the changes, and changes by whole units keep a clock in step
with them. -/
namespace RelativeTime

namespace Rules

variable {z : Rules} {a b : Int}

/-- A period that starts is started by a change. Induction on the changes that are left. -/
theorem exists_change_of_start {p : Period} (hp : p ∈ z.periods) {since : Int}
    (hstart : p.start = some since) : ∃ c ∈ z.changes, c.since = since ∧ c.offset = p.offset := by
  suffices hfrom : ∀ (changes : List Change) (start : Option Int) (offset : Int),
      p ∈ periodsFrom start offset changes → p.start = start ∧ p.offset = offset ∨
        ∃ c ∈ changes, c.since = since ∧ c.offset = p.offset by
    rcases hfrom z.changes none z.initial hp with ⟨hnone, -⟩ | h
    · cases hstart.symm.trans hnone
    · exact h
  intro changes
  induction changes with
  | nil =>
    intro start offset hp
    obtain rfl := List.mem_singleton.mp hp
    exact .inl ⟨rfl, rfl⟩
  | cons c rest ih =>
    intro start offset hp
    rcases List.mem_cons.mp hp with rfl | hp
    · exact .inl ⟨rfl, rfl⟩
    · rcases ih (some c.since) c.offset hp with ⟨hsince, hoffset⟩ | ⟨d, hd, h⟩
      · exact .inr ⟨c, List.mem_cons_self, Option.some.inj (hsince.symm.trans hstart),
          hoffset.symm⟩
      · exact .inr ⟨d, List.mem_cons_of_mem c hd, h⟩

theorem exists_periods_of_change {c : Change} (hc : c ∈ z.changes) :
    ∃ p ∈ z.periods, ∃ q ∈ z.periods, p.stop = some c.since ∧ q.start = some c.since ∧
      q.offset = c.offset := by
  suffices hfrom : ∀ (changes : List Change) (start : Option Int) (offset : Int), c ∈ changes →
      ∃ p ∈ periodsFrom start offset changes, ∃ q ∈ periodsFrom start offset changes,
        p.stop = some c.since ∧ q.start = some c.since ∧ q.offset = c.offset from
    hfrom z.changes none z.initial hc
  intro changes
  induction changes with
  | nil => exact fun _ _ => nofun
  | cons d rest ih =>
    intro start offset hc
    rcases List.mem_cons.mp hc with rfl | hc
    · obtain ⟨q, hq, hstart, hoffset⟩ := exists_mem_periodsFrom (some c.since) c.offset rest
      exact ⟨_, List.mem_cons_self, q, List.mem_cons_of_mem _ hq, rfl, hstart, hoffset⟩
    · obtain ⟨p, hp, q, hq, h⟩ := ih (some d.since) d.offset hc
      exact ⟨p, List.mem_cons_of_mem _ hp, q, List.mem_cons_of_mem _ hq, h⟩

theorem offsetAt_succ (z : Rules) (a : Int) : z.offsetAt (a + 1) = z.offsetAt a ∨
    ∃ c ∈ z.changes, c.since = a + 1 ∧ c.offset = z.offsetAt (a + 1) := by
  obtain ⟨q, hq, hcovers⟩ := z.exists_period (a + 1)
  have hafter := offsetAt_of_covers hq hcovers
  by_cases hbefore : q.Covers a
  · exact .inl (hafter.trans (offsetAt_of_covers hq hbefore).symm)
  -- The period has not begun a second earlier, and a change begins it.
  · obtain ⟨hbegun, hopen⟩ := Period.covers_iff.mp hcovers
    have hstart : q.start = some (a + 1) := by
      by_contra hne
      refine hbefore (Period.covers_iff.mpr ⟨?_, ?_⟩)
      · intro s hs
        have hle := hbegun s hs
        have hs' : s ≠ a + 1 := fun h => hne (h ▸ hs)
        omega
      · intro s hs
        have hlt := hopen s hs
        omega
    obtain ⟨c, hc, hsince, hoffset⟩ := exists_change_of_start hq hstart
    exact .inr ⟨c, hc, hsince, hoffset.trans hafter.symm⟩

/-- Where two seconds have different offsets, the first change away from the earlier one lies
between them. Induction on the seconds that pass. -/
theorem exists_change_of_offsetAt_ne (h : a ≤ b) (hne : z.offsetAt b ≠ z.offsetAt a) :
    ∃ c ∈ z.changes, a < c.since ∧ c.since ≤ b ∧ z.offsetAt (c.since - 1) = z.offsetAt a := by
  induction b, h using Int.leInduction with
  | base => exact absurd rfl hne
  | succ b h ih =>
    by_cases hsame : z.offsetAt b = z.offsetAt a
    · rcases z.offsetAt_succ b with hstay | ⟨c, hc, hsince, -⟩
      · exact absurd (hstay.trans hsame) hne
      · refine ⟨c, hc, by omega, by omega, ?_⟩
        rw [hsince, Int.add_sub_cancel, hsame]
    · obtain ⟨c, hc, hlt, hle, hoffset⟩ := ih hsame
      exact ⟨c, hc, hlt, by omega, hoffset⟩

theorem dvd_offsetAt_sub {m : Int} (h : a ≤ b) (hm : ∀ c ∈ z.changes, a < c.since → c.since ≤ b →
    m ∣ c.offset - z.offsetAt (c.since - 1)) : m ∣ z.offsetAt b - z.offsetAt a := by
  induction b, h using Int.leInduction with
  | base =>
    rw [Int.sub_self]
    exact Int.dvd_zero m
  | succ b h ih =>
    have hbefore := ih fun c hc hlt hle => hm c hc hlt (by omega)
    rcases z.offsetAt_succ b with hstay | ⟨c, hc, hsince, hoffset⟩
    · rwa [hstay]
    · have hchange := hm c hc (by omega) (by omega)
      rw [hsince, Int.add_sub_cancel, hoffset] at hchange
      have hsum := Int.dvd_add hchange hbefore
      rwa [sub_add_sub_cancel] at hsum

end Rules

end RelativeTime
