import Mathlib.Data.List.TakeWhile
import Mathlib.Data.Option.Basic
import RelativeTime.Proofs.Timestamp.Layout
import RelativeTime.Proofs.Walk
import RelativeTime.Timestamp.Reader

/-! Which dates a timestamp can name. Four digits of year, or a sign and at most five in the ten
characters of a date, keep far from the ends of the calendar. -/
namespace RelativeTime

open Calendar

namespace Digits

theorem value_cons (c : Char) (ds : List Char) :
    value (c :: ds) = Nat.pow 10 ds.length * (c.toNat - 48) + value ds := by
  unfold value
  rw [Nat.ofDigitChars_cons, Nat.ofDigitChars_eq_ofDigitChars_zero, Nat.mul_zero, Nat.zero_add]
  rfl

theorem value_lt {ds : List Char} (h : ∀ c ∈ ds, c.isDigit = true) :
    value ds < Nat.pow 10 ds.length := by
  induction ds with
  | nil => exact Nat.one_pos
  | cons c ds ih =>
    have hc : c.toNat ≤ 57 := (Char.isDigit_iff_toNat.mp (h c (by simp))).2
    have hds := ih fun c hc => h c (by simp [hc])
    rw [value_cons]
    calc Nat.pow 10 ds.length * (c.toNat - 48) + value ds
        < Nat.pow 10 ds.length * (c.toNat - 48) + Nat.pow 10 ds.length :=
          Nat.add_lt_add_left hds _
      _ = Nat.pow 10 ds.length * (c.toNat - 48 + 1) := (Nat.mul_succ _ _).symm
      _ ≤ Nat.pow 10 ds.length * 10 := Nat.mul_le_mul_left _ (by omega)

end Digits

namespace Scan

variable {least most n : Nat} {cs rest : List Char}

theorem digits_bounds (h : digits least most cs = some (n, rest)) :
    ∃ len, least ≤ len ∧ len ≤ most ∧ rest.length + len = cs.length ∧ n < Nat.pow 10 len := by
  obtain ⟨run, rfl, rfl, hrun, hleast, hmost⟩ := exists_run h
  exact ⟨run.length, hleast, hmost, by rw [List.length_append, Nat.add_comm],
    Digits.value_lt hrun⟩

theorem literal_length {c x : Char} (h : literal c cs = some (x, rest)) :
    rest.length + 1 = cs.length := by
  obtain ⟨-, rfl⟩ := literal_eq_some_iff.mp h
  rfl

theorem skipBlanks_length (cs : List Char) : (skipBlanks cs).length ≤ cs.length :=
  List.length_dropWhile_le _ cs

theorem spacedDigits_length {most : Nat} (h : spacedDigits most cs = some (n, rest)) :
    rest.length + 1 ≤ cs.length := by
  obtain ⟨len, hleast, -, hlen, -⟩ := digits_bounds h
  have := skipBlanks_length cs
  omega

theorem fraction_lt (h : fraction cs = some (n, rest)) : n < 1000000000 := by
  unfold fraction at h
  split at h
  · rename_i cs'
    have hrun : ∀ c ∈ ((cs'.takeWhile Char.isDigit).take 9).rightpad 9 '0', c.isDigit = true := by
      intro c hc
      rcases List.mem_append.mp hc with hc | hc
      · exact List.mem_takeWhile_imp (List.mem_of_mem_take hc)
      · rw [List.eq_of_mem_replicate hc]
        rfl
    have hlen : (((cs'.takeWhile Char.isDigit).take 9).rightpad 9 '0').length = 9 := by
      simp only [List.rightpad, List.length_append, List.length_replicate, List.length_take]
      omega
    have hlt := Digits.value_lt hrun
    rw [hlen] at hlt
    split at h
    · cases h
    · obtain ⟨rfl, -⟩ := Prod.mk.inj (Option.some.inj h)
      exact hlt
  · obtain ⟨rfl, -⟩ := Prod.mk.inj (Option.some.inj h)
    decide

end Scan

theorem Reading.ofFace?_day {date : Date} {hour minute second fraction : Nat} {r : Reading}
    (h : Reading.ofFace? date hour minute second fraction = some r) (hf : fraction < 1000000000) :
    date.Valid ∧ r.day = date.toDay := by
  unfold Reading.ofFace? at h
  split at h
  · rename_i hvalid
    obtain rfl := Option.some.inj h
    refine ⟨hvalid.1, ?_⟩
    simp only [Reading.day]
    omega
  · cases h

theorem Date.Valid.toDay_bounds {d : Date} (h : d.Valid)
    (hy : -100000 < d.year ∧ d.year < 100000) : -37300000 ≤ d.toDay ∧ d.toDay ≤ 37300000 := by
  obtain ⟨h₁, h₂, h₃, h₄⟩ := h
  have hlow := le_monthStart d.monthIndex
  have hhigh := monthStart_le d.monthIndex
  have hlen := (monthLength_bounds d.monthIndex).2
  unfold Date.toDay
  unfold Date.monthIndex at *
  omega

namespace Timestamp

variable {cs rest : List Char}

/-- A year with six digits takes seven characters, and what follows it in a date four more. -/
theorem scanYear_bounds {year : Int} (h : scanYear cs = some (year, rest))
    (hlen : cs.length ≤ rest.length + 6) : -100000 < year ∧ year < 100000 := by
  have hskip := Scan.skipBlanks_length cs
  have signed {cs' : List Char} (hcs : cs'.length + 1 ≤ cs.length) {n : Nat}
      (h : Scan.number cs' = some (n, rest)) : n < 100000 := by
    obtain ⟨len, -, -, hl, hn⟩ := Scan.digits_bounds h
    exact Nat.lt_of_lt_of_le hn
      (Nat.pow_le_pow_right (show 10 > 0 by decide) (show len ≤ 5 by omega))
  unfold scanYear at h
  split at h
  · rename_i cs' hcs
    obtain ⟨⟨n, rest'⟩, hn, hy⟩ := Option.map_eq_some_iff.mp h
    obtain ⟨rfl, rfl⟩ := Prod.mk.inj hy
    have := signed (by rw [hcs, List.length_cons] at hskip; omega) hn
    omega
  · rename_i cs' hcs
    obtain ⟨⟨n, rest'⟩, hn, hy⟩ := Option.map_eq_some_iff.mp h
    obtain ⟨rfl, rfl⟩ := Prod.mk.inj hy
    have := signed (by rw [hcs, List.length_cons] at hskip; omega) hn
    omega
  · obtain ⟨⟨n, rest'⟩, hn, hy⟩ := Option.map_eq_some_iff.mp h
    obtain ⟨rfl, rfl⟩ := Prod.mk.inj hy
    obtain ⟨len, -, hmost, -, hlt⟩ := Scan.digits_bounds hn
    have := Nat.lt_of_lt_of_le hlt (Nat.pow_le_pow_right (by decide) hmost)
    omega

theorem scanDate_year {date : Date} (h : scanDate cs = some (date, [])) (hlen : cs.length ≤ 10) :
    -100000 < date.year ∧ date.year < 100000 := by
  simp only [scanDate, Option.bind_eq_bind, Option.bind_eq_some_iff, Option.pure_def, Prod.exists]
    at h
  obtain ⟨year, cs₁, hy, _, cs₂, h₁, month, cs₃, hm, _, cs₄, h₂, day, cs₅, hd, h⟩ := h
  obtain ⟨rfl, rfl⟩ := Prod.mk.inj (Option.some.inj h)
  have := Scan.literal_length h₁
  have := Scan.spacedDigits_length hm
  have := Scan.literal_length h₂
  have := Scan.spacedDigits_length hd
  exact scanYear_bounds hy (by omega)

theorem scanSeconds_fraction {time : TimeOfDay} (h : scanSeconds cs = some (time, rest)) :
    time.fraction < 1000000000 := by
  simp only [scanSeconds, Option.bind_eq_bind, Option.bind_eq_some_iff, Option.pure_def,
    Prod.exists] at h
  obtain ⟨_, _, -, _, _, -, _, _, -, _, _, hf, h⟩ := h
  obtain ⟨rfl, -⟩ := Prod.mk.inj (Option.some.inj h)
  exact Scan.fraction_lt hf

theorem scanMinutes_fraction {time : TimeOfDay} (h : scanMinutes cs = some (time, rest)) :
    time.fraction = 0 := by
  simp only [scanMinutes, Option.bind_eq_bind, Option.bind_eq_some_iff, Option.pure_def,
    Prod.exists] at h
  obtain ⟨_, _, -, _, _, -, _, _, -, h⟩ := h
  obtain ⟨rfl, -⟩ := Prod.mk.inj (Option.some.inj h)
  rfl

theorem readTime?_fraction {time : TimeOfDay} (h : readTime? cs = some time) :
    time.fraction < 1000000000 := by
  unfold readTime? at h
  split at h
  · obtain rfl := Option.some.inj h
    exact Nat.zero_lt_succ _
  · split at h
    · rw [scanMinutes_fraction (whole_eq_some h)]
      decide
    · exact scanSeconds_fraction (whole_eq_some h)

theorem readLocal?_bounds {wall : Reading} (h : readLocal? cs = some wall) :
    -37300000 ≤ wall.day ∧ wall.day ≤ 37300000 := by
  obtain ⟨_, hwidth, h⟩ := Option.bind_eq_some_iff.mp h
  obtain ⟨date, hdate, h⟩ := Option.bind_eq_some_iff.mp h
  have hlen := length_le_width (cs.takeWhile (· != 'T'))
  rw [(Option.guard_eq_some' _).mp hwidth] at hlen
  have hyear := scanDate_year (whole_eq_some hdate) hlen
  split at h
  · obtain ⟨hvalid, hday⟩ := Reading.ofFace?_day h (by decide)
    exact hday ▸ hvalid.toDay_bounds hyear
  · obtain ⟨time, htime, hface⟩ := Option.bind_eq_some_iff.mp h
    obtain ⟨hvalid, hday⟩ := Reading.ofFace?_day hface (readTime?_fraction htime)
    exact hday ▸ hvalid.toDay_bounds hyear

theorem readAbsolute?_bounds {utc : Reading} (h : readAbsolute? cs = some utc) :
    -37300001 ≤ utc.day ∧ utc.day ≤ 37300001 := by
  have h := whole_eq_some h
  -- One step for each piece of the layout; only the year, the fraction and the offset matter.
  obtain ⟨⟨year, _⟩, hy, h⟩ := Option.bind_eq_some_iff.mp h
  obtain ⟨_, -, h⟩ := Option.bind_eq_some_iff.mp h
  obtain ⟨⟨month, _⟩, -, h⟩ := Option.bind_eq_some_iff.mp h
  obtain ⟨_, -, h⟩ := Option.bind_eq_some_iff.mp h
  obtain ⟨⟨day, _⟩, -, h⟩ := Option.bind_eq_some_iff.mp h
  obtain ⟨_, -, h⟩ := Option.bind_eq_some_iff.mp h
  obtain ⟨⟨hour, _⟩, -, h⟩ := Option.bind_eq_some_iff.mp h
  obtain ⟨_, -, h⟩ := Option.bind_eq_some_iff.mp h
  obtain ⟨⟨minute, _⟩, -, h⟩ := Option.bind_eq_some_iff.mp h
  obtain ⟨_, -, h⟩ := Option.bind_eq_some_iff.mp h
  obtain ⟨⟨second, _⟩, -, h⟩ := Option.bind_eq_some_iff.mp h
  obtain ⟨⟨fraction, _⟩, hf, h⟩ := Option.bind_eq_some_iff.mp h
  obtain ⟨⟨offset, _⟩, -, h⟩ := Option.bind_eq_some_iff.mp h
  obtain ⟨face, hface, h⟩ := Option.bind_eq_some_iff.mp h
  obtain ⟨rfl, -⟩ := Prod.mk.inj (Option.some.inj h)
  obtain ⟨len, -, hlen, -, hyear⟩ := Scan.digits_bounds hy
  have hyear' := Nat.lt_of_lt_of_le hyear (Nat.pow_le_pow_right (show 10 > 0 by decide) hlen)
  obtain ⟨hvalid, hday⟩ := Reading.ofFace?_day hface (Scan.fraction_lt hf)
  have hdate := hvalid.toDay_bounds ⟨by simp only; omega, by simp only; omega⟩
  have habove := offset.above
  have hbelow := offset.below
  have hahead := face.day_ahead_bounds (s := -offset.seconds) ⟨by omega, by omega⟩
  omega

end Timestamp

theorem Zone.read_within {zone : Zone} (hb : zone.rules.Bounded) {text : String} {i : Instant}
    (h : zone.read text = .ok i) : i.Within zone 37400000 := by
  unfold Zone.read at h
  simp only at h
  split at h
  · rename_i utc hutc
    have hday := Timestamp.readAbsolute?_bounds hutc
    have : utc.day = utc.nanos / 86400000000000 := rfl
    split at h
    · rename_i j hj
      obtain rfl := Except.ok.inj h
      obtain ⟨hz, rfl⟩ := Instant.ofUtc?_eq_some hj
      exact ⟨hz, by omega, by omega⟩
    · cases h
  · split at h
    · rename_i wall hwall
      have hday := Timestamp.readLocal?_bounds hwall
      have hnanos := Zone.nanos_of_resolve hb h
      have : wall.day = wall.nanos / 86400000000000 := rfl
      exact ⟨Zone.zone_of_resolve h, by omega, by omega⟩
    · cases h

theorem Zone.read_inner {zone : Zone} (hb : zone.rules.Bounded) {text : String} {i : Instant}
    (h : zone.read text = .ok i) (hl : i.utc.leap = false) : i.Inner zone 40000000 :=
  ((Zone.read_within hb h).inner hb hl).mono (by omega)

/-- What a timestamp cannot be read for is always its text: no reading that it can show is without
an instant. -/
theorem Zone.read_eq_error {zone : Zone} (hb : zone.rules.Bounded) {text : String} {f : Failure}
    (h : zone.read text = .error f) : f = .reported (.unreadableTimestamp text) := by
  unfold Zone.read at h
  simp only at h
  split at h
  · split at h
    · cases h
    · exact (Except.error.inj h).symm
  · split at h
    · rename_i wall hwall
      have hday := Timestamp.readLocal?_bounds hwall
      have hinner : firstDay < wall.day ∧ wall.day < lastDay := by
        rw [firstDay_eq, lastDay_eq]
        omega
      obtain ⟨i, hi⟩ := Zone.resolve_of_inner hb hinner
      rw [hi] at h
      cases h
    · exact (Except.error.inj h).symm

end RelativeTime
