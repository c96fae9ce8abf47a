import RelativeTime.Operations
import RelativeTime.Proofs.Timestamp.Extent
import RelativeTime.Proofs.Timestamp.Layout
import RelativeTime.Proofs.Zone.Asked

/-! Which texts are timestamps. One that carries its offset has every number written in full. One
without is a date, alone or with a time of day; the reader takes it when its numbers are written in
full, and also when they are written loosely in parts of the right length. -/
namespace RelativeTime

open Instruction (Numeral Stops takeWhile_of_stops dropWhile_of_stops)

def Timestamp.TimeOfDay.Valid (t : TimeOfDay) : Prop :=
  t.hour ≤ 23 ∧ t.minute ≤ 59 ∧ t.second ≤ 60

theorem Reading.exists_ofFace?_iff {date : Date} {t : Timestamp.TimeOfDay} :
    (∃ r, ofFace? date t.hour t.minute t.second t.fraction = some r) ↔ date.Valid ∧ t.Valid := by
  by_cases h : date.Valid ∧ t.Valid
  · exact ⟨fun _ => h, fun _ => ⟨_, if_pos h⟩⟩
  · refine ⟨?_, fun hvalid => absurd hvalid h⟩
    rintro ⟨r, hr⟩
    rw [show ofFace? date t.hour t.minute t.second t.fraction = none from if_neg h] at hr
    cases hr

namespace Timestamp

/-! ### Without an offset -/

structure LocalLayout where
  date : DateLayout
  time : Option TimeLayout

namespace LocalLayout

variable {l l' : LocalLayout} {cs : List Char}

def afterDate (l : LocalLayout) : List Char := l.time.elim [] fun t => 'T' :: t.chars

def chars (l : LocalLayout) : List Char := l.date.chars ++ l.afterDate

def timeOfDay (l : LocalLayout) : TimeOfDay := l.time.elim ⟨0, 0, 0, 0⟩ TimeLayout.time

def Full (l : LocalLayout) : Prop := l.date.Full ∧ ∀ t ∈ l.time, t.Full

def Fits (l : LocalLayout) : Prop := width l.date.chars = 10 ∧ ∀ t ∈ l.time, t.Fits

def Valid (l : LocalLayout) : Prop := l.date.date.Valid ∧ l.timeOfDay.Valid

theorem fits_of_full (h : l.Full) : l.Fits :=
  ⟨l.date.width_of_full h.1, fun t ht => TimeLayout.fits_of_full (h.2 t ht)⟩

theorem stops_afterDate (l : LocalLayout) : Stops Char.isDigit l.afterDate := by
  cases hl : l.time with
  | none => simpa [afterDate, hl] using stops_nil _
  | some t => simpa [afterDate, hl] using stops_cons (by decide) _

theorem eq_of_chars (h : l.chars = l'.chars) : l = l' := by
  obtain ⟨hdate, h⟩ := DateLayout.append_inj h l.stops_afterDate l'.stops_afterDate
  obtain ⟨d, t⟩ := l
  obtain ⟨d', t'⟩ := l'
  obtain rfl : d = d' := hdate
  rcases t with _ | t <;> rcases t' with _ | t'
  · rfl
  · cases h
  · cases h
  · have htime : t.chars = t'.chars := (List.cons.inj h).2
    rw [← List.append_nil t.chars, ← List.append_nil t'.chars] at htime
    rw [(TimeLayout.append_inj htime ends_nil ends_nil).1]

theorem of_read {wall : Reading} (h : readLocal? cs = some wall) :
    ∃ l : LocalLayout, l.chars = cs ∧ l.Fits ∧ l.Valid := by
  have hcut : cs.takeWhile (· != 'T') ++ cs.dropWhile (· != 'T') = cs :=
    List.takeWhile_append_dropWhile
  obtain ⟨_, hwidth, h⟩ := Option.bind_eq_some_iff.mp h
  have hwidth := (Option.guard_eq_some' _).mp hwidth
  obtain ⟨date, hdate, h⟩ := Option.bind_eq_some_iff.mp h
  obtain ⟨d, rfl, hd⟩ := DateLayout.of_scan (whole_eq_some hdate)
  rw [List.append_nil] at hd
  rw [hd] at hcut hwidth
  split at h
  · rename_i hnil
    rw [hnil] at hcut
    exact ⟨⟨d, none⟩, hcut, ⟨hwidth, fun t ht => by cases ht⟩,
      Reading.exists_ofFace?_iff.mp ⟨wall, h⟩⟩
  · rename_i c rest hcons
    obtain ⟨time, htime, hface⟩ := Option.bind_eq_some_iff.mp h
    obtain ⟨t, hfits, rfl, rfl⟩ := TimeLayout.of_read htime
    have hc : (c != 'T') = false := by
      have hstops := Instruction.stops_dropWhile (· != 'T') cs
      exact hstops c (by rw [hcons]; rfl)
    obtain rfl : c = 'T' := by simpa using hc
    rw [hcons] at hcut
    refine ⟨⟨d, some t⟩, hcut, ⟨hwidth, fun t' ht' => ?_⟩,
      Reading.exists_ofFace?_iff.mp ⟨wall, hface⟩⟩
    obtain rfl : t = t' := Option.some.inj ht'
    exact hfits

theorem exists_read (l : LocalLayout) (hfits : l.Fits) (h : l.Valid) :
    ∃ wall, readLocal? l.chars = some wall := by
  obtain ⟨wall, hwall⟩ := Reading.exists_ofFace?_iff.mpr h
  obtain ⟨d, time⟩ := l
  have hdate : Scan.whole scanDate d.chars = some d.date := by
    have hscan := d.scan (stops_nil _)
    rw [List.append_nil] at hscan
    rw [Scan.whole, hscan]
  have hletter : ∀ c ∈ d.chars, (c != 'T') = true := fun _ hc => d.ne_letter hc
  have hstops : Stops (· != 'T') (afterDate ⟨d, time⟩) := by
    cases time with
    | none => exact stops_nil _
    | some t => exact stops_cons (by decide) _
  refine ⟨wall, ?_⟩
  rw [readLocal?, chars, takeWhile_of_stops hletter hstops, dropWhile_of_stops hletter hstops]
  refine Option.bind_eq_some_iff.mpr ⟨(), if_pos hfits.1, ?_⟩
  refine Option.bind_eq_some_iff.mpr ⟨_, hdate, ?_⟩
  cases time with
  | none => exact hwall
  | some t => exact Option.bind_eq_some_iff.mpr ⟨_, t.read (hfits.2 t rfl), hwall⟩

end LocalLayout

/-! ### With an offset -/

/-- The characters for a sign, the second of them the minus sign of print. -/
def signMarks : Sign → List Char
  | .plus => ['+']
  | .minus => ['-', '\u2212']

inductive OffsetLayout where
  | utc (letter : Char) (known : letter = 'Z' ∨ letter = 'z')
  | signed (sign : Sign) (mark : Char) (hours minutes : Field 2) (known : mark ∈ signMarks sign)
      (full : hours.Full ∧ minutes.Full)

namespace OffsetLayout

variable {cs : List Char}

def chars : OffsetLayout → List Char
  | .utc letter _ => [letter]
  | .signed _ mark hours minutes _ _ => mark :: (hours.chars ++ ':' :: minutes.chars)

def Valid : OffsetLayout → Prop
  | .utc _ _ => True
  | .signed _ _ hours minutes _ _ => hours.value ≤ 23 ∧ minutes.value ≤ 59

theorem exists_ofSeconds?_iff (sign : Sign) {hours minutes : Nat} (hm : minutes ≤ 59) :
    (∃ offset, FixedOffset.ofSeconds? (sign.apply (3600 * hours + 60 * minutes)) = some offset) ↔
      hours ≤ 23 := by
  unfold FixedOffset.ofSeconds?
  split
  · rename_i h
    refine ⟨fun _ => ?_, fun _ => ⟨_, rfl⟩⟩
    cases sign <;> simp only [Sign.apply] at h <;> omega
  · rename_i h
    refine ⟨?_, fun hh => absurd ?_ h⟩
    · rintro ⟨offset, hoffset⟩
      cases hoffset
    · cases sign <;> simp only [Sign.apply] <;> omega

theorem exists_scan_iff (sign : Sign) :
    (∃ offset, FixedOffset.scan sign (fun cs => (Scan.literal ':' cs).map Prod.snd) cs =
        some (offset, [])) ↔
      ∃ hours minutes : Field 2, (hours.Full ∧ minutes.Full) ∧
        cs = hours.chars ++ ':' :: minutes.chars ∧ hours.value ≤ 23 ∧ minutes.value ≤ 59 := by
  constructor
  · rintro ⟨offset, h⟩
    obtain ⟨⟨_, _⟩, hh, h⟩ := Option.bind_eq_some_iff.mp h
    obtain ⟨_, hc, h⟩ := Option.bind_eq_some_iff.mp h
    obtain ⟨⟨_, _⟩, hm, h⟩ := Option.bind_eq_some_iff.mp h
    obtain ⟨_, hguard, h⟩ := Option.bind_eq_some_iff.mp h
    obtain ⟨offset', hoffset, h⟩ := Option.bind_eq_some_iff.mp h
    obtain ⟨rfl, rfl⟩ := Prod.mk.inj (Option.some.inj h)
    obtain ⟨hours, fullh, rfl, rfl⟩ := Field.full_of_scan (by decide) hh
    obtain ⟨⟨_, _⟩, hcolon, rfl⟩ := Option.map_eq_some_iff.mp hc
    obtain ⟨-, rfl⟩ := Scan.literal_eq_some_iff.mp hcolon
    obtain ⟨minutes, fullm, rfl, rfl⟩ := Field.full_of_scan (by decide) hm
    have hle := (Option.guard_eq_some' _).mp hguard
    exact ⟨hours, minutes, ⟨fullh, fullm⟩, by rw [List.append_nil],
      (exists_ofSeconds?_iff sign hle).mp ⟨offset', hoffset⟩, hle⟩
  · rintro ⟨hours, minutes, ⟨fullh, fullm⟩, rfl, hh, hm⟩
    obtain ⟨offset, hoffset⟩ := (exists_ofSeconds?_iff sign hm).mpr hh
    have hminutes := Field.scan_full fullm []
    rw [List.append_nil] at hminutes
    refine ⟨offset, ?_⟩
    refine Option.bind_eq_some_iff.mpr ⟨_, Field.scan_full fullh _, ?_⟩
    refine Option.bind_eq_some_iff.mpr ⟨_, congrArg (Option.map _) (Scan.literal_cons ':' _), ?_⟩
    refine Option.bind_eq_some_iff.mpr ⟨_, hminutes, ?_⟩
    refine Option.bind_eq_some_iff.mpr ⟨(), if_pos hm, ?_⟩
    refine Option.bind_eq_some_iff.mpr ⟨_, hoffset, ?_⟩
    rfl

theorem exists_scanSuffix_iff : (∃ offset, FixedOffset.scanSuffix cs = some (offset, [])) ↔
    ∃ o : OffsetLayout, o.chars = cs ∧ o.Valid := by
  constructor
  · rintro ⟨offset, h⟩
    cases cs with
    | nil => cases h
    | cons c cs =>
      simp only [FixedOffset.scanSuffix, Bool.or_eq_true, beq_iff_eq] at h
      split at h
      · rename_i hc
        obtain ⟨-, rfl⟩ := Prod.mk.inj (Option.some.inj h)
        exact ⟨.utc c hc, rfl, trivial⟩
      · split at h
        · rename_i hc
          obtain ⟨hours, minutes, full, rfl, hvalid⟩ := (exists_scan_iff _).mp ⟨offset, h⟩
          exact ⟨.signed .plus c hours minutes (by simp [signMarks, hc]) full, rfl, hvalid⟩
        · split at h
          · rename_i hc
            obtain ⟨hours, minutes, full, rfl, hvalid⟩ := (exists_scan_iff _).mp ⟨offset, h⟩
            exact ⟨.signed .minus c hours minutes (by simpa [signMarks] using hc) full, rfl, hvalid⟩
          · cases h
  · rintro ⟨o, rfl, hvalid⟩
    cases o with
    | utc letter known =>
      rcases known with rfl | rfl <;> exact ⟨FixedOffset.utc, rfl⟩
    | signed sign mark hours minutes known full =>
      have hscan := (exists_scan_iff sign).mpr ⟨hours, minutes, full, rfl, hvalid⟩
      cases sign with
      | plus =>
        obtain rfl : mark = '+' := by simpa [signMarks] using known
        exact hscan
      | minus =>
        obtain rfl | rfl : mark = '-' ∨ mark = '\u2212' := by simpa [signMarks] using known
        · exact hscan
        · exact hscan

theorem ends (o : OffsetLayout) : Ends o.chars := by
  cases o with
  | utc letter known =>
    rcases known with rfl | rfl <;>
      exact ⟨stops_cons (by decide) _, stops_cons (by decide) _, stops_cons (by decide) _⟩
  | signed sign mark hours minutes known full =>
    have hmark : mark = '+' ∨ mark = '-' ∨ mark = '\u2212' := by
      cases sign <;> simp only [signMarks, List.mem_cons, List.not_mem_nil, or_false] at known
      · exact .inl known
      · exact .inr known
    rcases hmark with rfl | rfl | rfl <;>
      exact ⟨stops_cons (by decide) _, stops_cons (by decide) _, stops_cons (by decide) _⟩

theorem chars_ne_nil (o : OffsetLayout) : o.chars ≠ [] := by
  cases o <;> exact List.cons_ne_nil _ _

end OffsetLayout

structure AbsoluteLayout where
  date : DateLayout
  separator : Char
  hour : Field 2
  minute : Field 2
  second : Field 2
  fraction : Option Numeral
  offset : OffsetLayout
  separated : separator = 'T' ∨ separator = 't' ∨ separator = ' '
  full : date.Full ∧ hour.Full ∧ minute.Full ∧ second.Full

namespace AbsoluteLayout

variable {cs : List Char}

def time (a : AbsoluteLayout) : TimeLayout := .seconds a.hour a.minute a.second a.fraction

def chars (a : AbsoluteLayout) : List Char :=
  a.date.chars ++ a.separator :: (a.time.chars ++ a.offset.chars)

def Valid (a : AbsoluteLayout) : Prop :=
  (a.date.date.Valid ∧ a.time.time.Valid) ∧ a.offset.Valid

theorem ne_local (a : AbsoluteLayout) (l : LocalLayout) : l.chars ≠ a.chars := by
  intro h
  have hstops : Stops Char.isDigit (a.separator :: (a.time.chars ++ a.offset.chars)) := by
    rcases a.separated with hs | hs | hs <;> rw [hs] <;> exact stops_cons (by decide) _
  obtain ⟨-, h⟩ := DateLayout.append_inj h l.stops_afterDate hstops
  cases hl : l.time with
  | none =>
    simp only [LocalLayout.afterDate, hl, Option.elim_none] at h
    cases h
  | some t =>
    simp only [LocalLayout.afterDate, hl, Option.elim_some, List.cons.injEq] at h
    have htime : t.chars ++ [] = a.time.chars ++ a.offset.chars := by
      rw [List.append_nil, h.2]
    exact a.offset.chars_ne_nil (TimeLayout.append_inj htime ends_nil a.offset.ends).2.symm

theorem of_read {utc : Reading} (h : readAbsolute? cs = some utc) :
    ∃ a : AbsoluteLayout, a.chars = cs ∧ a.Valid := by
  have h := whole_eq_some h
  -- One step for each piece of the layout.
  obtain ⟨⟨year, _⟩, hyear, h⟩ := Option.bind_eq_some_iff.mp h
  obtain ⟨⟨_, _⟩, h₁, h⟩ := Option.bind_eq_some_iff.mp h
  obtain ⟨⟨_, _⟩, hmonth, h⟩ := Option.bind_eq_some_iff.mp h
  obtain ⟨⟨_, _⟩, h₂, h⟩ := Option.bind_eq_some_iff.mp h
  obtain ⟨⟨_, _⟩, hday, h⟩ := Option.bind_eq_some_iff.mp h
  obtain ⟨⟨_, _⟩, h₃, h⟩ := Option.bind_eq_some_iff.mp h
  obtain ⟨⟨_, _⟩, hhour, h⟩ := Option.bind_eq_some_iff.mp h
  obtain ⟨⟨_, _⟩, h₄, h⟩ := Option.bind_eq_some_iff.mp h
  obtain ⟨⟨_, _⟩, hminute, h⟩ := Option.bind_eq_some_iff.mp h
  obtain ⟨⟨_, _⟩, h₅, h⟩ := Option.bind_eq_some_iff.mp h
  obtain ⟨⟨_, _⟩, hsecond, h⟩ := Option.bind_eq_some_iff.mp h
  obtain ⟨⟨_, _⟩, hfraction, h⟩ := Option.bind_eq_some_iff.mp h
  obtain ⟨⟨offset, _⟩, hoffset, h⟩ := Option.bind_eq_some_iff.mp h
  obtain ⟨face, hface, h⟩ := Option.bind_eq_some_iff.mp h
  obtain ⟨-, rfl⟩ := Prod.mk.inj (Option.some.inj h)
  obtain ⟨y, fully, hy, rfl⟩ := YearField.full_of_scan hyear
  obtain ⟨-, rfl⟩ := Scan.literal_eq_some_iff.mp h₁
  obtain ⟨m, fullm, rfl, rfl⟩ := Field.full_of_scan (by decide) hmonth
  obtain ⟨-, rfl⟩ := Scan.literal_eq_some_iff.mp h₂
  obtain ⟨d, fulld, rfl, rfl⟩ := Field.full_of_scan (by decide) hday
  obtain ⟨hseparator, rfl⟩ := Scan.one_eq_some_iff.mp h₃
  obtain ⟨hour, fullh, rfl, rfl⟩ := Field.full_of_scan (by decide) hhour
  obtain ⟨-, rfl⟩ := Scan.literal_eq_some_iff.mp h₄
  obtain ⟨minute, fullmin, rfl, rfl⟩ := Field.full_of_scan (by decide) hminute
  obtain ⟨-, rfl⟩ := Scan.literal_eq_some_iff.mp h₅
  obtain ⟨second, fulls, rfl, rfl⟩ := Field.full_of_scan (by decide) hsecond
  obtain ⟨fraction, rfl, rfl⟩ := fraction_of_scan hfraction
  obtain ⟨o, rfl, hvalid⟩ := OffsetLayout.exists_scanSuffix_iff.mp ⟨offset, hoffset⟩
  simp only [Bool.or_eq_true, beq_iff_eq, or_assoc] at hseparator
  rw [← hy] at hface
  refine ⟨⟨⟨y, m, d⟩, _, hour, minute, second, fraction, o, hseparator,
    ⟨fully, fullm, fulld⟩, fullh, fullmin, fulls⟩, ?_,
    Reading.exists_ofFace?_iff.mp ⟨face, hface⟩, hvalid⟩
  simp only [AbsoluteLayout.chars, AbsoluteLayout.time, TimeLayout.chars, DateLayout.chars,
    List.append_assoc, List.cons_append]

theorem exists_read (a : AbsoluteLayout) (h : a.Valid) :
    ∃ utc, readAbsolute? a.chars = some utc := by
  obtain ⟨⟨fully, fullm, fulld⟩, fullh, fullmin, fulls⟩ := a.full
  obtain ⟨face, hface⟩ := Reading.exists_ofFace?_iff.mpr h.1
  rw [DateLayout.date, YearField.value_of_full fully] at hface
  obtain ⟨offset, hoffset⟩ := OffsetLayout.exists_scanSuffix_iff.mpr ⟨a.offset, rfl, h.2⟩
  have hseparator : (a.separator == 'T' || a.separator == 't' || a.separator == ' ') = true := by
    simpa [or_assoc] using a.separated
  have hscan : scanAbsolute a.chars = some (face.ahead (-offset.seconds), []) := by
    simp only [chars, time, TimeLayout.chars, DateLayout.chars, List.append_assoc,
      List.cons_append]
    refine Option.bind_eq_some_iff.mpr ⟨_, YearField.scan_full fully _, ?_⟩
    refine Option.bind_eq_some_iff.mpr ⟨_, Scan.literal_cons '-' _, ?_⟩
    refine Option.bind_eq_some_iff.mpr ⟨_, Field.scan_full fullm _, ?_⟩
    refine Option.bind_eq_some_iff.mpr ⟨_, Scan.literal_cons '-' _, ?_⟩
    refine Option.bind_eq_some_iff.mpr ⟨_, Field.scan_full fulld _, ?_⟩
    refine Option.bind_eq_some_iff.mpr ⟨_, Scan.one_eq_some_iff.mpr ⟨hseparator, rfl⟩, ?_⟩
    refine Option.bind_eq_some_iff.mpr ⟨_, Field.scan_full fullh _, ?_⟩
    refine Option.bind_eq_some_iff.mpr ⟨_, Scan.literal_cons ':' _, ?_⟩
    refine Option.bind_eq_some_iff.mpr ⟨_, Field.scan_full fullmin _, ?_⟩
    refine Option.bind_eq_some_iff.mpr ⟨_, Scan.literal_cons ':' _, ?_⟩
    refine Option.bind_eq_some_iff.mpr ⟨_, Field.scan_full fulls _, ?_⟩
    refine Option.bind_eq_some_iff.mpr ⟨_, scan_fraction a.fraction a.offset.ends, ?_⟩
    refine Option.bind_eq_some_iff.mpr ⟨_, hoffset, ?_⟩
    exact Option.bind_eq_some_iff.mpr ⟨_, hface, rfl⟩
  exact ⟨_, by rw [readAbsolute?, Scan.whole, hscan]⟩

end AbsoluteLayout

/-! ### Texts -/

/-- A date and time with its offset, as RFC 3339 has it. -/
def Absolute (text : String) : Prop := ∃ a : AbsoluteLayout, a.chars = text.toList ∧ a.Valid

/-- A date, or a date and time of day, with every number written in full. -/
def Strict (text : String) : Prop := ∃ l : LocalLayout, l.chars = text.toList ∧ l.Full ∧ l.Valid

/-- The same, of the lengths that the reader asks for, with a blank or a sign before some number or
with a digit too few. -/
def Loose (text : String) : Prop :=
  ∃ l : LocalLayout, l.chars = text.toList ∧ l.Fits ∧ ¬ l.Full ∧ l.Valid

variable {text : String}

theorem Loose.not_absolute (h : Loose text) : ¬ Absolute text := by
  rintro ⟨a, ha, -⟩
  obtain ⟨l, hl, -⟩ := h
  exact a.ne_local l (hl.trans ha.symm)

theorem Loose.not_strict (h : Loose text) : ¬ Strict text := by
  rintro ⟨l', hl', hfull, -⟩
  obtain ⟨l, hl, -, hloose, -⟩ := h
  obtain rfl := LocalLayout.eq_of_chars (hl.trans hl'.symm)
  exact hloose hfull

theorem exists_readLocal?_iff :
    (∃ wall, readLocal? text.toList = some wall) ↔ Strict text ∨ Loose text := by
  constructor
  · rintro ⟨wall, h⟩
    obtain ⟨l, hl, hfits, hvalid⟩ := LocalLayout.of_read h
    by_cases hfull : l.Full
    · exact .inl ⟨l, hl, hfull, hvalid⟩
    · exact .inr ⟨l, hl, hfits, hfull, hvalid⟩
  · rintro (⟨l, hl, hfull, hvalid⟩ | ⟨l, hl, hfits, -, hvalid⟩)
    · exact hl ▸ l.exists_read (LocalLayout.fits_of_full hfull) hvalid
    · exact hl ▸ l.exists_read hfits hvalid

theorem exists_readAbsolute?_iff :
    (∃ utc, readAbsolute? text.toList = some utc) ↔ Absolute text := by
  constructor
  · rintro ⟨utc, h⟩
    exact AbsoluteLayout.of_read h
  · rintro ⟨a, ha, hvalid⟩
    exact ha ▸ a.exists_read hvalid

end Timestamp

open Timestamp

variable {text : String} {zone : Zone} {s : Setting}

theorem Zone.exists_read_iff (hb : zone.rules.Bounded) : (∃ i, zone.read text = .ok i) ↔
    Absolute text ∨ Strict text ∨ Loose text := by
  rw [← exists_readAbsolute?_iff, ← exists_readLocal?_iff]
  cases habsolute : readAbsolute? text.toList with
  | some utc =>
    have hday := readAbsolute?_bounds habsolute
    have hrange : utc.InRange := by
      rw [Reading.InRange, DayInRange, firstDay_eq, lastDay_eq]
      omega
    have hread : zone.read text = .ok ⟨utc, zone, hrange⟩ := by
      simp only [Zone.read, habsolute, Instant.ofUtc?_of_inRange zone hrange]
    exact ⟨fun _ => .inl ⟨utc, rfl⟩, fun _ => ⟨_, hread⟩⟩
  | none =>
    cases hlocal : readLocal? text.toList with
    | some wall =>
      have hday := readLocal?_bounds hlocal
      have hinner : firstDay < wall.day ∧ wall.day < lastDay := by
        rw [firstDay_eq, lastDay_eq]
        omega
      obtain ⟨i, hi⟩ := Zone.resolve_of_inner hb hinner
      have hread : zone.read text = .ok i := by
        simp only [Zone.read, habsolute, hlocal, hi]
      exact ⟨fun _ => .inr ⟨wall, rfl⟩, fun _ => ⟨i, hread⟩⟩
    | none => simp [Zone.read, habsolute, hlocal]

/-- The texts that are read are the absolute, the strict and the loose ones. Unless a text is loose
it is read only if it is absolute or strict; if it is loose it is neither. What is not read is
reported by its text. -/
theorem read_ok_iff_strict_unless_loose [Zone.Names] [Zone.Names.Lawful]
    (hs : s.zone = .ok zone) (hh : s.asked = none → s.host.rules.Bounded) (text : String) :
    ((∃ i, s.read text = .ok i) ↔ Absolute text ∨ Strict text ∨ Loose text) ∧
    (((∃ i, s.read text = .ok i) ↔ Absolute text ∨ Strict text) ↔ ¬ Loose text) ∧
    ((∀ i, s.read text ≠ .ok i) →
      s.read text = .error (.reported (.unreadableTimestamp text))) := by
  have hb := Setting.bounded hh hs
  rw [Setting.read_eq hs]
  refine ⟨Zone.exists_read_iff hb, ?_, ?_⟩
  · rw [Zone.exists_read_iff hb]
    constructor
    · intro h hloose
      rcases h.mp (.inr (.inr hloose)) with habsolute | hstrict
      · exact hloose.not_absolute habsolute
      · exact hloose.not_strict hstrict
    · intro hloose
      simp only [hloose, or_false]
  · intro h
    cases hread : zone.read text with
    | ok i => exact absurd hread (h i)
    | error f => rw [Zone.read_eq_error hb hread]

/-- A year of five digits with its sign, and a month of one digit. -/
theorem read_ok_of_signed_year :
    (∃ i, Setting.read ⟨.fixed .utc, some "America/Chicago"⟩ "+12345-3-8T02:30:60" = .ok i) ∧
    Loose "+12345-3-8T02:30:60" ∧ ¬ Absolute "+12345-3-8T02:30:60" ∧
      ¬ Strict "+12345-3-8T02:30:60" := by
  have hzone : Setting.zone ⟨.fixed .utc, some "America/Chicago"⟩ =
      .ok (.named "America/Chicago" Zone.Table.chicago) := by decide +kernel
  obtain ⟨hread, -, -⟩ :=
    read_ok_iff_strict_unless_loose hzone (fun h => nomatch h) "+12345-3-8T02:30:60"
  have hloose : Loose "+12345-3-8T02:30:60" := by
    let year : YearField := ⟨[], some .plus, ⟨['1', '2', '3', '4', '5'], by simp,
      List.all_eq_true.mp rfl⟩, List.forall_mem_nil _, fun h => nomatch h⟩
    let month : Field 2 := ⟨[], ⟨['3'], by simp, List.all_eq_true.mp rfl⟩,
      List.forall_mem_nil _, by decide⟩
    let day : Field 2 := ⟨[], ⟨['8'], by simp, List.all_eq_true.mp rfl⟩,
      List.forall_mem_nil _, by decide⟩
    let hour : Field 2 := ⟨[], ⟨['0', '2'], by simp, List.all_eq_true.mp rfl⟩,
      List.forall_mem_nil _, by decide⟩
    let minute : Field 2 := ⟨[], ⟨['3', '0'], by simp, List.all_eq_true.mp rfl⟩,
      List.forall_mem_nil _, by decide⟩
    let second : Field 2 := ⟨[], ⟨['6', '0'], by simp, List.all_eq_true.mp rfl⟩,
      List.forall_mem_nil _, by decide⟩
    refine ⟨⟨⟨year, month, day⟩, some (.seconds hour minute second none)⟩, rfl, ?_, ?_, ?_⟩
    · refine ⟨rfl, ?_⟩
      rintro t ⟨⟩
      show Timestamp.width _ ≠ 5
      decide
    · rintro ⟨⟨⟨-, hsign, -⟩, -⟩, -⟩
      cases hsign
    · exact ⟨by decide, by decide, by decide⟩
  exact ⟨hread.mpr (.inr (.inr hloose)), hloose, hloose.not_absolute, hloose.not_strict⟩

/-- Blanks may stand for the first digits of a month and a day. -/
theorem read_accepts_blanks_for_digits :
    ¬ ((∃ i, Setting.read ⟨.fixed .utc, some "UTC"⟩ "1980- 1- 5" = .ok i) ↔
      Absolute "1980- 1- 5" ∨ Strict "1980- 1- 5") := by
  intro h
  have hread : Setting.read ⟨.fixed .utc, some "UTC"⟩ "1980- 1- 5" =
      .ok ⟨⟨315878400000000000, false⟩, .named "UTC" (.constant 0), by decide⟩ := by
    decide +kernel
  have hloose : Loose "1980- 1- 5" := by
    let year : YearField := ⟨[], none, ⟨['1', '9', '8', '0'], by simp, List.all_eq_true.mp rfl⟩,
      List.forall_mem_nil _, fun _ => Nat.le_refl 4⟩
    let month : Field 2 := ⟨[' '], ⟨['1'], by simp, List.all_eq_true.mp rfl⟩,
      List.all_eq_true.mp rfl, by decide⟩
    let day : Field 2 := ⟨[' '], ⟨['5'], by simp, List.all_eq_true.mp rfl⟩,
      List.all_eq_true.mp rfl, by decide⟩
    refine ⟨⟨⟨year, month, day⟩, none⟩, rfl, ⟨rfl, fun t ht => by cases ht⟩, ?_, ?_, ?_⟩
    · rintro ⟨⟨-, ⟨hblanks, -⟩, -⟩, -⟩
      cases hblanks
    · decide
    · exact ⟨by decide, by decide, by decide⟩
  rcases h.mp ⟨_, hread⟩ with habsolute | hstrict
  · exact hloose.not_absolute habsolute
  · exact hloose.not_strict hstrict

end RelativeTime
