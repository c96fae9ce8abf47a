import Mathlib.Data.Option.Basic
import RelativeTime.Proofs.InsertedSecond
import RelativeTime.Proofs.Instruction.Grammar
import RelativeTime.Proofs.Milliseconds
import RelativeTime.Proofs.Timestamp.Stamp

/-! Reading a timestamp that was written. With a year of four digits it is read as the whole
milliseconds of the instant; with any other year it is not read at all. -/
namespace RelativeTime

open Calendar

namespace Digits

theorem le_length_padded (width n : Nat) : width ≤ (padded width n).length := by
  rw [padded, List.leftpad, List.length_append, List.length_replicate]
  omega

theorem value_append_zeros (ds : List Char) (k : Nat) :
    value (ds ++ List.replicate k '0') = value ds * 10 ^ k := by
  rw [value, Nat.ofDigitChars_append, Nat.ofDigitChars_replicate_zero, Nat.mul_comm]
  rfl

end Digits

namespace Scan

theorem digits_padded {width n : Nat} (hw : 0 < width) (h : n < 10 ^ width) (rest : List Char) :
    digits width width (Digits.padded width n ++ rest) = some (n, rest) := by
  have hlen := Digits.length_padded hw h
  rw [digits_run (fun _ hc => Digits.isDigit_of_mem_padded hc) hlen.ge hlen.le (.inl hlen),
    Digits.value_padded]

theorem fraction_padded {millis : Nat} (h : millis < 1000) {rest : List Char}
    (hr : Instruction.Stops Char.isDigit rest) :
    fraction ('.' :: (Digits.padded 3 millis ++ rest)) = some (millis * 1000000, rest) := by
  have hlen := Digits.length_padded (by decide) (show millis < 10 ^ 3 from h)
  have hrun : (Digits.padded 3 millis ++ rest).takeWhile Char.isDigit = Digits.padded 3 millis :=
    Instruction.takeWhile_of_stops (fun _ hc => Digits.isDigit_of_mem_padded hc) hr
  have hpad : ((Digits.padded 3 millis).take 9).rightpad 9 '0' =
      Digits.padded 3 millis ++ List.replicate 6 '0' := by
    rw [List.take_of_length_le (by omega), List.rightpad, hlen]
  have hdrop : (Digits.padded 3 millis ++ rest).drop (Digits.padded 3 millis).length = rest :=
    List.drop_left
  unfold fraction
  simp only [hrun]
  split
  · rename_i hnil
    rw [hnil] at hlen
    cases hlen
  · rename_i run hne
    rw [hdrop, hpad, Digits.value_append_zeros, Digits.value_padded]
    rfl

end Scan

namespace FixedOffset

theorem ofSeconds?_seconds (offset : FixedOffset) : ofSeconds? offset.seconds = some offset :=
  dif_pos ⟨offset.above, offset.below⟩

theorem scan_padded {sign : Sign} {hours minutes : Nat} {offset : FixedOffset} (hh : hours < 100)
    (hm : minutes < 60) (h : sign.apply (3600 * hours + 60 * minutes) = offset.seconds) :
    scan sign (fun cs => (Scan.literal ':' cs).map Prod.snd)
        (Digits.padded 2 hours ++ ':' :: Digits.padded 2 minutes) = some (offset, []) := by
  have hhours := Scan.digits_padded (by decide) (show hours < 10 ^ 2 from hh)
    (':' :: Digits.padded 2 minutes)
  have hminutes := Scan.digits_padded (by decide) (show minutes < 10 ^ 2 by omega) []
  rw [List.append_nil] at hminutes
  have hle : (guard (minutes ≤ 59) : Option Unit) = some () := if_pos (Nat.le_of_lt_succ hm)
  refine Option.bind_eq_some_iff.mpr ⟨_, hhours, ?_⟩
  refine Option.bind_eq_some_iff.mpr ⟨_, congrArg (Option.map _) (Scan.literal_cons ':' _), ?_⟩
  refine Option.bind_eq_some_iff.mpr ⟨_, hminutes, ?_⟩
  refine Option.bind_eq_some_iff.mpr ⟨_, hle, ?_⟩
  have hoffset : ofSeconds? (sign.apply (3600 * hours + 60 * minutes)) = some offset := by
    rw [h, ofSeconds?_seconds]
  refine Option.bind_eq_some_iff.mpr ⟨_, hoffset, ?_⟩
  rfl

theorem scanSuffix_offsetChars {offset : FixedOffset} (h : offset.seconds % 60 = 0) :
    scanSuffix (offsetChars offset.seconds) = some (offset, []) := by
  have habove := offset.above
  have hbelow := offset.below
  unfold offsetChars
  by_cases hzero : offset.seconds = 0
  · have hutc : offset = utc := by
      cases offset
      simpa [utc] using hzero
    rw [if_pos hzero, hutc]
    rfl
  · rw [if_neg hzero]
    have hhours : (offset.seconds.natAbs + 30) / 60 / 60 < 100 := by omega
    have hminutes : (offset.seconds.natAbs + 30) / 60 % 60 < 60 := by omega
    by_cases hneg : offset.seconds < 0
    · have hvalue : Sign.minus.apply (3600 * ((offset.seconds.natAbs + 30) / 60 / 60) +
          60 * ((offset.seconds.natAbs + 30) / 60 % 60)) = offset.seconds := by
        simp only [Sign.apply]
        omega
      rw [Sign.ofInt, if_pos hneg]
      exact scan_padded hhours hminutes hvalue
    · have hvalue : Sign.plus.apply (3600 * ((offset.seconds.natAbs + 30) / 60 / 60) +
          60 * ((offset.seconds.natAbs + 30) / 60 % 60)) = offset.seconds := by
        simp only [Sign.apply]
        omega
      rw [Sign.ofInt, if_neg hneg]
      exact scan_padded hhours hminutes hvalue

theorem stops_offsetChars (seconds : Int) :
    Instruction.Stops Char.isDigit (offsetChars seconds) := by
  intro c hc
  unfold offsetChars at hc
  split at hc
  · obtain rfl : 'Z' = c := by simpa using hc
    rfl
  · obtain rfl : (Sign.ofInt seconds).symbol = c := by simpa using hc
    cases Sign.ofInt seconds <;> rfl

end FixedOffset

namespace Reading

variable {r : Reading}

/-- The face of a clock tells the reading to the millisecond. -/
theorem ofFace?_face (hl : r.ClosesMinute) : ofFace? (Date.ofDay r.day) r.hour r.minute r.second
    (r.fraction / 1000000 * 1000000) = some r.truncated := by
  have hvalid : (Date.ofDay r.day).Valid ∧ r.hour ≤ 23 ∧ r.minute ≤ 59 ∧ r.second ≤ 60 := by
    refine ⟨Date.valid_ofDay r.day, ?_, ?_, ?_⟩
    · simp only [hour, secondOfDay, timeOfDay]
      omega
    · simp only [minute]
      omega
    · simp only [second]
      split <;> omega
  have hday : r.nanos = 86400000000000 * r.day + r.timeOfDay := by
    simp only [day, timeOfDay]
    omega
  have htime : r.timeOfDay = 1000000000 * (3600 * r.hour + 60 * r.minute +
      (r.secondOfDay % 60).toNat) + r.fraction := by
    simp only [hour, minute, fraction, secondOfDay, timeOfDay]
    omega
  have hcut : r.nanos % 1000000 = r.fraction % 1000000 := by
    simp only [fraction]
    omega
  have hsecond : min r.second 59 = (r.secondOfDay % 60).toNat ∧
      decide (r.second = 60) = r.leap := by
    cases hleap : r.leap with
    | false =>
      simp only [second, hleap, Bool.false_eq_true, if_false, decide_eq_false_iff_not]
      omega
    | true =>
      have hlast : r.secondOfDay % 60 = 59 := by
        have := hl hleap
        simp only [seconds] at this
        simp only [secondOfDay, timeOfDay]
        omega
      simp only [second, hleap, if_true, hlast]
      decide
  unfold ofFace?
  rw [if_pos hvalid, Date.toDay_ofDay, hsecond.1, hsecond.2]
  simp only [truncated, Option.some.injEq, mk.injEq, and_true]
  omega

end Reading

/-! ### Whole timestamps -/

def PlainYear (text : String) : Prop :=
  (text.toList.take 4).all Char.isDigit = true ∧ text.toList[4]? = some '-'

instance (text : String) : Decidable (PlainYear text) := inferInstanceAs (Decidable (_ ∧ _))

def ShortYear (year : Int) : Prop := 0 ≤ year ∧ year ≤ 9999

theorem yearChars_of_short {year : Int} (h : ShortYear year) :
    yearChars year = Digits.padded 4 year.toNat :=
  if_pos h

theorem yearChars_of_not_short {year : Int} (h : ¬ ShortYear year) :
    yearChars year = (Sign.ofInt year).symbol :: Digits.padded 4 year.natAbs :=
  if_neg h

theorem plainYear_stamp_iff (wall : Reading) (offset : Int) :
    PlainYear (String.ofList (stampChars wall offset)) ↔
      ShortYear (Date.ofDay wall.day).year := by
  obtain ⟨rest, hstamp⟩ : ∃ rest, stampChars wall offset =
      yearChars (Date.ofDay wall.day).year ++ '-' :: rest := by
    simp only [stampChars, Reading.faceChars, Date.chars, List.append_assoc, List.cons_append]
    exact ⟨_, rfl⟩
  unfold PlainYear
  rw [String.toList_ofList, hstamp]
  constructor
  · intro h
    by_contra hlong
    rw [yearChars_of_not_short hlong] at h
    have hsign : (Sign.ofInt (Date.ofDay wall.day).year).symbol.isDigit = false := by
      cases Sign.ofInt (Date.ofDay wall.day).year <;> rfl
    simp [hsign] at h
  · intro h
    have hlen : (Digits.padded 4 (Date.ofDay wall.day).year.toNat).length = 4 :=
      Digits.length_padded (by decide) (by unfold ShortYear at h; omega)
    rw [yearChars_of_short h]
    constructor
    · rw [List.take_append_of_le_length (by omega), List.take_of_length_le (by omega),
        List.all_eq_true]
      intro c hc
      exact Digits.isDigit_of_mem_padded hc
    · rw [List.getElem?_append_right (by omega), hlen]
      rfl

namespace Timestamp

theorem scanAbsolute_stampChars {wall : Reading} (offset : FixedOffset)
    (hy : ShortYear (Date.ofDay wall.day).year) (hl : wall.ClosesMinute)
    (ho : offset.seconds % 60 = 0) :
    scanAbsolute (stampChars wall offset.seconds) =
      some (wall.truncated.ahead (-offset.seconds), []) := by
  obtain ⟨-, hmonth, -, hday⟩ := Date.valid_ofDay wall.day
  have hlength := (monthLength_bounds (Date.ofDay wall.day).monthIndex).2
  have hyear : (Date.ofDay wall.day).year.toNat < 10 ^ 4 := by
    unfold ShortYear at hy
    omega
  have hmonth' : (Date.ofDay wall.day).month < 10 ^ 2 := by omega
  have hday' : (Date.ofDay wall.day).day < 10 ^ 2 := by omega
  have hhour : wall.hour < 10 ^ 2 := by
    simp only [Reading.hour, Reading.secondOfDay, Reading.timeOfDay]
    omega
  have hminute : wall.minute < 10 ^ 2 := by
    simp only [Reading.minute]
    omega
  have hsecond : wall.second < 10 ^ 2 := by
    simp only [Reading.second]
    split <;> omega
  have hmillis : wall.fraction / 1000000 < 1000 := by
    simp only [Reading.fraction]
    omega
  have hdate : (⟨(Date.ofDay wall.day).year.toNat, (Date.ofDay wall.day).month,
      (Date.ofDay wall.day).day⟩ : Date) = Date.ofDay wall.day := by
    have hcast : (((Date.ofDay wall.day).year.toNat : Nat) : Int) = (Date.ofDay wall.day).year :=
      Int.toNat_of_nonneg hy.1
    rw [hcast]
  have hstamp : stampChars wall offset.seconds =
      Digits.padded 4 (Date.ofDay wall.day).year.toNat ++ '-' ::
        (Digits.padded 2 (Date.ofDay wall.day).month ++ '-' ::
          (Digits.padded 2 (Date.ofDay wall.day).day ++ 'T' ::
            (Digits.padded 2 wall.hour ++ ':' :: (Digits.padded 2 wall.minute ++ ':' ::
              (Digits.padded 2 wall.second ++ '.' :: (Digits.padded 3 (wall.fraction / 1000000) ++
                offsetChars offset.seconds)))))) := by
    simp only [stampChars, Reading.faceChars, Date.chars, yearChars_of_short hy, List.append_assoc,
      List.cons_append]
  rw [hstamp]
  -- One step for each piece of the layout.
  refine Option.bind_eq_some_iff.mpr ⟨_, Scan.digits_padded (by decide) hyear _, ?_⟩
  refine Option.bind_eq_some_iff.mpr ⟨_, Scan.literal_cons _ _, ?_⟩
  refine Option.bind_eq_some_iff.mpr ⟨_, Scan.digits_padded (by decide) hmonth' _, ?_⟩
  refine Option.bind_eq_some_iff.mpr ⟨_, Scan.literal_cons _ _, ?_⟩
  refine Option.bind_eq_some_iff.mpr ⟨_, Scan.digits_padded (by decide) hday' _, ?_⟩
  refine Option.bind_eq_some_iff.mpr ⟨_, rfl, ?_⟩
  refine Option.bind_eq_some_iff.mpr ⟨_, Scan.digits_padded (by decide) hhour _, ?_⟩
  refine Option.bind_eq_some_iff.mpr ⟨_, Scan.literal_cons _ _, ?_⟩
  refine Option.bind_eq_some_iff.mpr ⟨_, Scan.digits_padded (by decide) hminute _, ?_⟩
  refine Option.bind_eq_some_iff.mpr ⟨_, Scan.literal_cons _ _, ?_⟩
  refine Option.bind_eq_some_iff.mpr ⟨_, Scan.digits_padded (by decide) hsecond _, ?_⟩
  refine Option.bind_eq_some_iff.mpr
    ⟨_, Scan.fraction_padded hmillis (FixedOffset.stops_offsetChars _), ?_⟩
  refine Option.bind_eq_some_iff.mpr ⟨_, FixedOffset.scanSuffix_offsetChars ho, ?_⟩
  refine Option.bind_eq_some_iff.mpr ⟨_, hdate ▸ Reading.ofFace?_face hl, ?_⟩
  rfl

theorem readAbsolute?_of_signed {c : Char} (hc : c.isDigit = false) (cs : List Char) :
    readAbsolute? (c :: cs) = none := by
  have hyear : Scan.digits 4 4 (c :: cs) = none := by
    simp [Scan.digits, hc]
  have hscan : scanAbsolute (c :: cs) = none := by
    rw [scanAbsolute, hyear]
    rfl
  rw [readAbsolute?, Scan.whole, hscan]

theorem readLocal?_of_long {wall : Reading} (hy : ¬ ShortYear (Date.ofDay wall.day).year)
    (offset : Int) : readLocal? (stampChars wall offset) = none := by
  have hlong : 10 < (Date.ofDay wall.day).chars.length := by
    have hyear := Digits.le_length_padded 4 (Date.ofDay wall.day).year.natAbs
    have hmonth := Digits.le_length_padded 2 (Date.ofDay wall.day).month
    have hday := Digits.le_length_padded 2 (Date.ofDay wall.day).day
    simp only [Date.chars, yearChars_of_not_short hy, List.length_append, List.length_cons]
    omega
  have hwidth := length_le_width (Date.ofDay wall.day).chars
  have hne : width (Date.ofDay wall.day).chars ≠ 10 := by omega
  rw [Option.eq_none_iff_forall_ne_some]
  intro r hr
  obtain ⟨_, hten, -⟩ := Option.bind_eq_some_iff.mp hr
  rw [takeWhile_stampChars] at hten
  exact hne ((Option.guard_eq_some' _).mp hten)

end Timestamp

namespace Instant

variable {i : Instant} {text : String}

/-- A timestamp that was written with a plain year is read as the whole milliseconds. -/
theorem read_format {zone : Zone} {offset : Int} (h : zone.Steady offset) (hi : i.Regular zone)
    (hf : i.format = .ok text) (hy : PlainYear text) : zone.read text = .ok i.truncated := by
  obtain ⟨rfl, hl⟩ := hi
  obtain ⟨-, rfl⟩ := format_eq_ok_iff.mp hf
  have hoffset := offset_constant h.rules_eq (show i.zone = i.zone from rfl)
  have hshort := (plainYear_stamp_iff i.face i.offset).mp hy
  have hscan : Timestamp.readAbsolute? (stampChars i.face i.offset) = some i.utc.truncated := by
    have hstamp := Timestamp.scanAbsolute_stampChars ⟨offset, h.bounds.1, h.bounds.2⟩
      hshort hl h.minutes
    rw [hoffset, Timestamp.readAbsolute?, Scan.whole, hstamp, ← Reading.truncated_ahead, face,
      Reading.ahead_ahead, hoffset, Int.add_right_neg, Reading.ahead_zero]
  have hinstant : ofUtc? i.zone i.utc.truncated = some i.truncated :=
    ofUtc?_eq_some_iff.mpr ⟨rfl, rfl⟩
  simp only [Zone.read, String.toList_ofList, hscan, hinstant]

theorem read_format_of_not_plain (hf : i.format = .ok text) (hy : ¬ PlainYear text) (zone : Zone) :
    zone.read text = .error (.reported (.unreadableTimestamp text)) := by
  obtain ⟨-, rfl⟩ := format_eq_ok_iff.mp hf
  have hlong := mt (plainYear_stamp_iff i.face i.offset).mpr hy
  have habsolute : Timestamp.readAbsolute? (stampChars i.face i.offset) = none := by
    have hsign : (Sign.ofInt (Date.ofDay i.face.day).year).symbol.isDigit = false := by
      cases Sign.ofInt (Date.ofDay i.face.day).year <;> rfl
    simp only [stampChars, Reading.faceChars, Date.chars, yearChars_of_not_short hlong,
      List.cons_append]
    exact Timestamp.readAbsolute?_of_signed hsign _
  simp only [Zone.read, String.toList_ofList, habsolute, Timestamp.readLocal?_of_long hlong]

theorem exists_read_format_iff {zone : Zone} {offset : Int} (h : zone.Steady offset)
    (hi : i.Regular zone) (hf : i.format = .ok text) :
    (∃ k, zone.read text = .ok k) ↔ PlainYear text := by
  constructor
  · rintro ⟨k, hk⟩
    by_contra hy
    rw [read_format_of_not_plain hf hy] at hk
    cases hk
  · intro hy
    exact ⟨_, read_format h hi hf hy⟩

theorem truncated_eq_of_format {zone : Zone} {offset : Int} (h : zone.Steady offset)
    {j : Instant} (hi : i.Regular zone) (hj : j.Regular zone) (hf : i.format = .ok text)
    (hf' : j.format = .ok text) (hy : PlainYear text) : i.truncated = j.truncated := by
  have hread := read_format h hi hf hy
  rw [read_format h hj hf' hy] at hread
  exact (Except.ok.inj hread).symm

end Instant

variable {s : Setting} {text instruction : String} {zone : Zone} {offset : Int}

/-- Once an instant is written with a plain year, to go on from the text is to go on from it. -/
theorem snap_rewritten [Zone.Names] {i : Instant} {tokens : List Token} (hs : s.zone = .ok zone)
    (hsteady : zone.Steady offset) (hi : i.Regular zone) (hf : i.format = .ok text)
    (hy : PlainYear text) (hp : parse instruction = .ok tokens) (hne : instruction ≠ "") :
    (snap s text instruction).toOption = (evaluate i tokens >>= Instant.format).toOption := by
  have hread : s.read text = .ok i.truncated := by
    rw [Setting.read_eq hs]
    exact Instant.read_format hsteady hi hf hy
  rw [snap_of_read hread hp hne, Answer.toOption_bind, Instant.evaluate_truncated,
    Answer.toOption_bind, Option.bind_map]
  congr 1
  funext j
  exact congrArg Except.toOption j.format_truncated

end RelativeTime
