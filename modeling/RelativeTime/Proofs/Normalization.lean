import RelativeTime.Proofs.Route

/-! The normal form of a difference. A difference tells three amounts, and in its normal form each
of them has as much as possible in its coarsest unit. The amounts alone decide the normal form:
they are taken apart by divisions that go toward zero, so that the units of one amount have one
sign, and of such differences there is only one for each three amounts. -/
namespace RelativeTime

namespace MachineWord

def IsLong (n : Int) : Prop := -0x8000000000000000 ≤ n ∧ n ≤ 0x7fffffffffffffff

instance (n : Int) : Decidable (IsLong n) := inferInstanceAs (Decidable (_ ∧ _))

end MachineWord

open MachineWord

inductive Amount where
  | months
  | days
  | milliseconds
  deriving DecidableEq, Repr

def TimeUnit.amount : TimeUnit → Amount
  | .years => .months
  | .months => .months
  | .weeks => .days
  | .days => .days
  | .hours => .milliseconds
  | .minutes => .milliseconds
  | .seconds => .milliseconds
  | .milliseconds => .milliseconds

namespace Difference

def total (d : Difference) : Amount → Int
  | .months => d.years * 12 + d.months
  | .days => d.weeks * 7 + d.days
  | .milliseconds => ((d.hours * 60 + d.minutes) * 60 + d.seconds) * 1000 + d.milliseconds

/-- No unit reaches the next coarser one of its amount, and no two units of an amount have opposite
signs. -/
structure Canonical (d : Difference) : Prop where
  months : d.months.natAbs ≤ 11
  days : d.days.natAbs ≤ 6
  minutes : d.minutes.natAbs ≤ 59
  seconds : d.seconds.natAbs ≤ 59
  milliseconds : d.milliseconds.natAbs ≤ 999
  oneWay : ∀ u v : TimeUnit, u.amount = v.amount → d.get u < 0 → d.get v ≤ 0

def normalizeInWords (d : Difference) : Difference :=
  let hours := word (d.hours * 60)
  let minutes := word (word (hours + d.minutes) * 60)
  let seconds := word (word (minutes + d.seconds) * 1000)
  let millis := word (seconds + d.milliseconds)
  let days := word (word (d.weeks * 7) + d.days)
  let months := word (word (d.years * 12) + d.months)
  { years := months.tdiv 12
    months := months.tmod 12
    weeks := days.tdiv 7
    days := days.tmod 7
    hours := millis.tdiv 3600000
    minutes := (millis.tmod 3600000).tdiv 60000
    seconds := (millis.tmod 60000).tdiv 1000
    milliseconds := millis.tmod 1000 }

variable {d : Difference} {amounts : Amount → Int} {n m : Int}

/-! ### Words -/

theorem word_of_isLong (h : IsLong n) : word n = n := by
  obtain ⟨hlow, hhigh⟩ := h
  exact Int.bmod_eq_of_le_mul_two (by omega) (by omega)

theorem word_word_add : word (word n + m) = word (n + m) := Int.bmod_add_bmod

theorem word_word_mul : word (word n * m) = word (n * m) := Int.bmod_mul_bmod

/-- Of all that goes round on the way, only the last sum need do so. -/
theorem normalizeInWords_eq (d : Difference) : d.normalizeInWords = d.normalize := by
  simp only [normalizeInWords, normalize, word_word_add, word_word_mul]

/-! ### Amounts taken apart -/

def ofTotals (amounts : Amount → Int) : Difference where
  years := (amounts .months).tdiv 12
  months := (amounts .months).tmod 12
  weeks := (amounts .days).tdiv 7
  days := (amounts .days).tmod 7
  hours := (amounts .milliseconds).tdiv 3600000
  minutes := ((amounts .milliseconds).tmod 3600000).tdiv 60000
  seconds := ((amounts .milliseconds).tmod 60000).tdiv 1000
  milliseconds := (amounts .milliseconds).tmod 1000

theorem normalize_eq_ofTotals (h : ∀ a, IsLong (d.total a)) : d.normalize = ofTotals d.total := by
  have hmonths := word_of_isLong (h .months)
  have hdays := word_of_isLong (h .days)
  have hmillis := word_of_isLong (h .milliseconds)
  simp only [total] at hmonths hdays hmillis
  simp only [normalize, hmonths, hdays, hmillis]
  rfl

theorem total_ofTotals (amounts : Amount → Int) : (ofTotals amounts).total = amounts := by
  funext a
  cases a with
  | months => exact Int.tdiv_mul_add_tmod _ _
  | days => exact Int.tdiv_mul_add_tmod _ _
  | milliseconds =>
    simp only [total, ofTotals]
    generalize amounts .milliseconds = n
    have hhours := Int.tdiv_mul_add_tmod n 3600000
    have hminutes := Int.tdiv_mul_add_tmod (n.tmod 3600000) 60000
    have hseconds := Int.tdiv_mul_add_tmod (n.tmod 60000) 1000
    rw [Int.tmod_tmod_of_dvd n (by decide)] at hminutes hseconds
    omega

theorem get_ofTotals_nonneg (amounts : Amount → Int) {u : TimeUnit} (h : 0 ≤ amounts u.amount) :
    0 ≤ (ofTotals amounts).get u := by
  cases u with
  | years => exact Int.tdiv_nonneg h (by decide)
  | months => exact Int.tmod_nonneg 12 h
  | weeks => exact Int.tdiv_nonneg h (by decide)
  | days => exact Int.tmod_nonneg 7 h
  | hours => exact Int.tdiv_nonneg h (by decide)
  | minutes => exact Int.tdiv_nonneg (Int.tmod_nonneg 3600000 h) (by decide)
  | seconds => exact Int.tdiv_nonneg (Int.tmod_nonneg 60000 h) (by decide)
  | milliseconds => exact Int.tmod_nonneg 1000 h

theorem get_ofTotals_neg (amounts : Amount → Int) (u : TimeUnit) :
    (ofTotals fun a => -amounts a).get u = -(ofTotals amounts).get u := by
  cases u <;> simp only [get, ofTotals, Int.neg_tdiv, Int.neg_tmod]

theorem get_ofTotals_nonpos (amounts : Amount → Int) {u : TimeUnit} (h : amounts u.amount ≤ 0) :
    (ofTotals amounts).get u ≤ 0 := by
  have hneg := get_ofTotals_nonneg (fun a => -amounts a) (u := u) (by omega)
  rw [get_ofTotals_neg] at hneg
  omega

theorem natAbs_tmod_lt (n : Int) {k : Int} (hk : 0 < k) : (n.tmod k).natAbs < k := by
  have hlow := Int.lt_tmod_of_pos n hk
  have hhigh := Int.tmod_lt_of_pos n hk
  omega

theorem natAbs_tmod_tdiv_lt (n : Int) {j k : Nat} (hj : 0 < j) (hk : 0 < k) :
    ((n.tmod ((k * j : Nat) : Int)).tdiv j).natAbs < k := by
  rw [Int.natAbs_tdiv, Int.natAbs_tmod]
  exact Nat.div_lt_of_lt_mul (Nat.mul_comm k j ▸ Nat.mod_lt _ (Nat.mul_pos hk hj))

theorem canonical_ofTotals (amounts : Amount → Int) : (ofTotals amounts).Canonical where
  months := by
    have hlt := natAbs_tmod_lt (amounts .months) (k := 12) (by decide)
    simp only [ofTotals]
    omega
  days := by
    have hlt := natAbs_tmod_lt (amounts .days) (k := 7) (by decide)
    simp only [ofTotals]
    omega
  minutes := Nat.le_of_lt_succ
    (natAbs_tmod_tdiv_lt (amounts .milliseconds) (j := 60000) (k := 60) (by decide) (by decide))
  seconds := Nat.le_of_lt_succ
    (natAbs_tmod_tdiv_lt (amounts .milliseconds) (j := 1000) (k := 60) (by decide) (by decide))
  milliseconds := by
    have hlt := natAbs_tmod_lt (amounts .milliseconds) (k := 1000) (by decide)
    simp only [ofTotals]
    omega
  oneWay := by
    intro u v huv hu
    have hamount : amounts u.amount ≤ 0 := by
      by_contra hpos
      have hnonneg := get_ofTotals_nonneg amounts (u := u) (by omega)
      omega
    exact get_ofTotals_nonpos amounts (huv ▸ hamount)

/-! ### Taken apart in one way -/

theorem tdiv_tmod_of_oneWay {k : Int} (hm : m.natAbs < k) (h : 0 ≤ n ∧ 0 ≤ m ∨ n ≤ 0 ∧ m ≤ 0) :
    (n * k + m).tdiv k = n ∧ (n * k + m).tmod k = m := by
  rcases h with ⟨hn, hm'⟩ | ⟨hn, hm'⟩
  · have hle := Int.mul_nonneg hn (by omega : 0 ≤ k)
    rw [Int.tdiv_tmod_unique (by omega) (by omega), Int.mul_comm k n]
    omega
  · have hle := Int.mul_nonpos_of_nonpos_of_nonneg hn (by omega : 0 ≤ k)
    rw [Int.tdiv_tmod_unique' (by omega) (by omega), Int.mul_comm k n]
    omega

theorem Canonical.oneSide (h : d.Canonical) (a : Amount) :
    (∀ u : TimeUnit, u.amount = a → 0 ≤ d.get u) ∨ ∀ u : TimeUnit, u.amount = a → d.get u ≤ 0 := by
  by_cases hneg : ∃ u : TimeUnit, u.amount = a ∧ d.get u < 0
  · obtain ⟨u, hu, hlt⟩ := hneg
    exact .inr fun v hv => h.oneWay u v (hu.trans hv.symm) hlt
  · exact .inl fun u hu => Int.not_lt.mp fun hlt => hneg ⟨u, hu, hlt⟩

theorem elapsed_of_oneWay (hours : Int) {minutes seconds millis : Int} (hm : minutes.natAbs ≤ 59)
    (hs : seconds.natAbs ≤ 59) (hl : millis.natAbs ≤ 999)
    (hside : (0 ≤ hours ∧ 0 ≤ minutes ∧ 0 ≤ seconds ∧ 0 ≤ millis) ∨
      (hours ≤ 0 ∧ minutes ≤ 0 ∧ seconds ≤ 0 ∧ millis ≤ 0))
    (ht : n = ((hours * 60 + minutes) * 60 + seconds) * 1000 + millis) :
    n.tdiv 3600000 = hours ∧ (n.tmod 3600000).tdiv 60000 = minutes ∧
      (n.tmod 60000).tdiv 1000 = seconds ∧ n.tmod 1000 = millis := by
  obtain ⟨hhours, hrest⟩ := tdiv_tmod_of_oneWay (k := 3600000) (n := hours)
    (m := minutes * 60000 + (seconds * 1000 + millis)) (by omega) (by omega)
  obtain ⟨hminutes, -⟩ := tdiv_tmod_of_oneWay (k := 60000) (n := minutes)
    (m := seconds * 1000 + millis) (by omega) (by omega)
  obtain ⟨-, hrest'⟩ := tdiv_tmod_of_oneWay (k := 60000) (n := hours * 60 + minutes)
    (m := seconds * 1000 + millis) (by omega) (by omega)
  obtain ⟨hseconds, -⟩ := tdiv_tmod_of_oneWay (k := 1000) (n := seconds) (m := millis)
    (by omega) (by omega)
  obtain ⟨-, hmillis⟩ := tdiv_tmod_of_oneWay (k := 1000)
    (n := (hours * 60 + minutes) * 60 + seconds) (m := millis) (by omega) (by omega)
  have hn : n = hours * 3600000 + (minutes * 60000 + (seconds * 1000 + millis)) := by omega
  have hn' : n = (hours * 60 + minutes) * 60000 + (seconds * 1000 + millis) := by omega
  refine ⟨hn ▸ hhours, ?_, ?_, ht ▸ hmillis⟩
  · rw [hn, hrest, hminutes]
  · rw [hn', hrest', hseconds]

theorem Canonical.ofTotals_total (h : d.Canonical) : ofTotals d.total = d := by
  have hmonths := tdiv_tmod_of_oneWay (k := 12) (n := d.years) (m := d.months)
    (by have := h.months; omega)
    ((h.oneSide .months).imp (fun hs => ⟨hs .years rfl, hs .months rfl⟩)
      fun hs => ⟨hs .years rfl, hs .months rfl⟩)
  have hdays := tdiv_tmod_of_oneWay (k := 7) (n := d.weeks) (m := d.days)
    (by have := h.days; omega)
    ((h.oneSide .days).imp (fun hs => ⟨hs .weeks rfl, hs .days rfl⟩)
      fun hs => ⟨hs .weeks rfl, hs .days rfl⟩)
  have helapsed := elapsed_of_oneWay d.hours h.minutes h.seconds h.milliseconds
    ((h.oneSide .milliseconds).imp
      (fun hs => ⟨hs .hours rfl, hs .minutes rfl, hs .seconds rfl, hs .milliseconds rfl⟩)
      fun hs => ⟨hs .hours rfl, hs .minutes rfl, hs .seconds rfl, hs .milliseconds rfl⟩) rfl
  simp only [ofTotals, total, hmonths, hdays, helapsed]

theorem natAbs_get_ofTotals_le (amounts : Amount → Int) (u : TimeUnit) :
    ((ofTotals amounts).get u).natAbs ≤ (amounts u.amount).natAbs := by
  have hmod (n k : Int) : (n.tmod k).natAbs ≤ n.natAbs := by
    rw [Int.natAbs_tmod]
    exact Nat.mod_le _ _
  cases u with
  | years => exact Int.natAbs_tdiv_le_natAbs _ _
  | months => exact hmod _ _
  | weeks => exact Int.natAbs_tdiv_le_natAbs _ _
  | days => exact hmod _ _
  | hours => exact Int.natAbs_tdiv_le_natAbs _ _
  | minutes => exact Nat.le_trans (Int.natAbs_tdiv_le_natAbs _ _) (hmod _ _)
  | seconds => exact Nat.le_trans (Int.natAbs_tdiv_le_natAbs _ _) (hmod _ _)
  | milliseconds => exact hmod _ _

theorem isLong_get_ofTotals (h : ∀ a, IsLong (amounts a)) (u : TimeUnit) :
    IsLong ((ofTotals amounts).get u) := by
  have hamount := h u.amount
  have hnonneg := get_ofTotals_nonneg amounts (u := u)
  have hnonpos := get_ofTotals_nonpos amounts (u := u)
  have hle := natAbs_get_ofTotals_le amounts u
  simp only [IsLong] at hamount ⊢
  omega

/-- Normalizing keeps the three amounts, gives the one canonical difference that has them, and does
nothing to that. So two differences are normalized alike exactly if they have the same amounts. The
amounts have to be words of 64 bits, and nothing else has: what goes round on the way to them does
not count. -/
theorem normalize_isCanonical (h : ∀ a, IsLong (d.total a)) :
    d.normalizeInWords = d.normalize ∧ (∀ u, IsLong (d.normalize.get u)) ∧
    d.normalize.total = d.total ∧ d.normalize.Canonical ∧
    d.normalize.normalize = d.normalize ∧
    (∀ c : Difference, c.Canonical → c.total = d.total → c = d.normalize) ∧
    ∀ e : Difference, (∀ a, IsLong (e.total a)) →
      (d.normalize = e.normalize ↔ d.total = e.total) := by
  have hnormal := normalize_eq_ofTotals h
  have htotal : d.normalize.total = d.total := by rw [hnormal, total_ofTotals]
  refine ⟨normalizeInWords_eq d, hnormal ▸ isLong_get_ofTotals h, htotal,
    hnormal ▸ canonical_ofTotals _, ?_, fun c hc hct => ?_, fun e he => ?_⟩
  · rw [normalize_eq_ofTotals (htotal ▸ h), htotal, hnormal]
  · rw [hnormal, ← hct, hc.ofTotals_total]
  · rw [hnormal, normalize_eq_ofTotals he]
    constructor
    · intro hsame
      rw [← total_ofTotals d.total, hsame, total_ofTotals]
    · exact congrArg ofTotals

/-- Parts at the ends of the words: no product of the coarser ones fits, and the finer ones all but
cancel them out. -/
theorem normalize_isCanonical_at_ends :
    ∃ d : Difference, d = ⟨768614336404564651, -9223372036854775808, -1317624576693539402,
        9223372036854775807, 156000000000000000, -9223372036854775808, -8197677788713451461,
        -60001⟩ ∧ (∀ a, IsLong (d.total a)) ∧ ¬ IsLong (d.years * 12) ∧ ¬ IsLong (d.hours * 60) ∧
      d.normalizeInWords = d.normalize ∧ d.normalize = ⟨0, 4, -1, 0, 0, 0, -1, -1⟩ ∧
      d.normalize.total = d.total ∧ d.normalize.Canonical ∧
      d.normalize.normalize = d.normalize := by
  have hfits : ∀ a, IsLong (total ⟨768614336404564651, -9223372036854775808, -1317624576693539402,
      9223372036854775807, 156000000000000000, -9223372036854775808, -8197677788713451461,
      -60001⟩ a) := by
    intro a
    cases a <;> decide
  obtain ⟨hwords, -, htotal, hcanonical, hagain, -⟩ := normalize_isCanonical hfits
  exact ⟨_, rfl, hfits, by decide, by decide, hwords, by decide, htotal, hcanonical, hagain⟩

end Difference

end RelativeTime
