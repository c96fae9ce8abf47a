import Mathlib.Data.List.TakeWhile
import Mathlib.Data.Option.Basic
import RelativeTime.Proofs.Instruction.Grammar
import RelativeTime.Timestamp.Reader

/-! The layouts of a timestamp, and the scans that accept exactly them.

A number is read whole, and no layout lets two numbers touch, so that each text has one layout at
most. Whatever a local layout leaves out of its numbers or puts in front of them is part of the
layout: it tells a strict one from a loose one. -/
namespace RelativeTime

open Instruction (Numeral Stops takeWhile_of_stops dropWhile_of_stops stops_of_all run_append_inj)

theorem isBlank_of_isDigit {c : Char} (h : c.isDigit = true) : isBlank c = false := by
  have hrange : 48 ≤ c.toNat ∧ c.toNat ≤ 57 := Char.isDigit_iff_toNat.mp h
  simp only [isBlank, Bool.or_eq_false_iff, Bool.and_eq_false_iff, decide_eq_false_iff_not,
    beq_eq_false_iff_ne]
  omega

theorem stops_cons {p : Char → Bool} {c : Char} (h : p c = false) (rest : List Char) :
    Stops p (c :: rest) := by
  intro d hd
  obtain rfl : c = d := by simpa using hd
  exact h

theorem stops_nil (p : Char → Bool) : Stops p [] := by
  intro c hc
  cases hc

namespace Scan

variable {least most n : Nat} {cs rest run : List Char}

theorem one_eq_some_iff {p : Char → Bool} {c : Char} :
    one p cs = some (c, rest) ↔ p c = true ∧ cs = c :: rest := by
  cases cs with
  | nil => simp [one]
  | cons d cs =>
    by_cases hd : p d = true
    · simp only [one, hd, if_true, Option.some.injEq, Prod.mk.injEq, List.cons.injEq]
      constructor
      · rintro ⟨rfl, rfl⟩
        exact ⟨hd, rfl, rfl⟩
      · exact fun h => h.2
    · simp only [one, hd, if_false, reduceCtorEq, List.cons.injEq, false_iff, not_and]
      rintro hc rfl
      exact absurd hc hd

theorem literal_eq_some_iff {c x : Char} :
    literal c cs = some (x, rest) ↔ x = c ∧ cs = c :: rest := by
  rw [literal, one_eq_some_iff, beq_iff_eq]
  constructor
  · rintro ⟨rfl, rfl⟩
    exact ⟨rfl, rfl⟩
  · rintro ⟨rfl, rfl⟩
    exact ⟨rfl, rfl⟩

theorem literal_cons (c : Char) (rest : List Char) : literal c (c :: rest) = some (c, rest) :=
  literal_eq_some_iff.mpr ⟨rfl, rfl⟩

theorem digits_run (hrun : ∀ c ∈ run, c.isDigit = true) (hleast : least ≤ run.length)
    (hmost : run.length ≤ most) (hends : run.length = most ∨ Stops Char.isDigit rest) :
    digits least most (run ++ rest) = some (Digits.value run, rest) := by
  have htake : ((run ++ rest).take most).takeWhile Char.isDigit = run := by
    rw [List.take_append, List.take_of_length_le hmost]
    refine takeWhile_of_stops hrun ?_
    intro c hc
    rw [List.head?_take] at hc
    rcases hends with hlen | hstops
    · rw [hlen, Nat.sub_self, if_pos rfl] at hc
      cases hc
    · split at hc
      · cases hc
      · exact hstops c hc
  simp only [digits, htake, Nat.not_lt.mpr hleast, if_false, List.drop_left]

theorem exists_run (h : digits least most cs = some (n, rest)) :
    ∃ run, cs = run ++ rest ∧ n = Digits.value run ∧ (∀ c ∈ run, c.isDigit = true) ∧
      least ≤ run.length ∧ run.length ≤ most := by
  unfold digits at h
  simp only at h
  split at h
  · cases h
  · rename_i hlen
    obtain ⟨rfl, rfl⟩ := Prod.mk.inj (Option.some.inj h)
    have hfront := (List.takeWhile_prefix Char.isDigit (l := cs.take most)).trans
      (List.take_prefix most cs)
    have hle := (List.takeWhile_prefix Char.isDigit (l := cs.take most)).length_le
    rw [List.length_take] at hle
    refine ⟨_, ?_, rfl, fun c hc => List.mem_takeWhile_imp hc, Nat.not_lt.mp hlen, by omega⟩
    conv_lhs => rw [← List.take_append_drop ((cs.take most).takeWhile Char.isDigit).length cs]
    rw [← List.prefix_iff_eq_take.mp hfront]

end Scan

namespace Timestamp

theorem whole_eq_some {α : Type} {scan : Scan α} {cs : List Char} {a : α}
    (h : Scan.whole scan cs = some a) : scan cs = some (a, []) := by
  unfold Scan.whole at h
  split at h
  · rename_i hscan
    rw [hscan, Option.some.inj h]
  · cases h

theorem width_cons (c : Char) (cs : List Char) : width (c :: cs) = c.utf8Size + width cs := rfl

theorem width_append (cs cs' : List Char) : width (cs ++ cs') = width cs + width cs' := by
  induction cs with
  | nil => exact (Nat.zero_add _).symm
  | cons c cs ih => rw [List.cons_append, width_cons, width_cons, ih, Nat.add_assoc]

theorem length_le_width (cs : List Char) : cs.length ≤ width cs := by
  induction cs with
  | nil => exact Nat.le_refl 0
  | cons c cs ih =>
    have := c.utf8Size_pos
    rw [width_cons, List.length_cons]
    omega

theorem width_of_digits {cs : List Char} (h : ∀ c ∈ cs, c.isDigit = true) :
    width cs = cs.length := by
  induction cs with
  | nil => rfl
  | cons c cs ih =>
    have hc : c.utf8Size = 1 := by
      have hrange : 48 ≤ c.toNat ∧ c.toNat ≤ 57 := Char.isDigit_iff_toNat.mp (h c (by simp))
      rw [Char.utf8Size_eq_one_iff, UInt32.le_iff_toNat_le]
      exact Nat.le_trans hrange.2 (by decide)
    rw [width_cons, List.length_cons, ih fun c hc => h c (by simp [hc]), hc, Nat.add_comm]

/-! ### Numbers -/

/-- A number of a local layout. Blanks may stand in front of it, and digits may be left out. -/
structure Field (most : Nat) where
  blanks : List Char
  number : Numeral
  blank : ∀ c ∈ blanks, isBlank c = true
  short : number.digits.length ≤ most

namespace Field

variable {most n : Nat} {f g : Field most} {cs rest rest' : List Char}

def chars (f : Field most) : List Char := f.blanks ++ f.number.digits

def value (f : Field most) : Nat := f.number.value

def Full (f : Field most) : Prop := f.blanks = [] ∧ f.number.digits.length = most

theorem stops_blank (n : Numeral) (rest : List Char) : Stops isBlank (n.digits ++ rest) :=
  stops_of_all rest n.nonempty n.decimal fun _ => isBlank_of_isDigit

theorem scan (f : Field most) (h : Stops Char.isDigit rest) :
    Scan.spacedDigits most (f.chars ++ rest) = some (f.value, rest) := by
  have hskip : skipBlanks (f.chars ++ rest) = f.number.digits ++ rest := by
    rw [chars, List.append_assoc]
    exact dropWhile_of_stops f.blank (stops_blank f.number rest)
  rw [Scan.spacedDigits, hskip]
  have hleast : 1 ≤ f.number.digits.length := List.length_pos_iff.mpr f.number.nonempty
  exact Scan.digits_run f.number.decimal hleast f.short (.inr h)

theorem of_scan (h : Scan.spacedDigits most cs = some (n, rest)) :
    ∃ f : Field most, f.value = n ∧ cs = f.chars ++ rest := by
  obtain ⟨run, hcs, rfl, hrun, hleast, hmost⟩ := Scan.exists_run h
  refine ⟨⟨cs.takeWhile isBlank, ⟨run, List.length_pos_iff.mp hleast, hrun⟩,
    fun c hc => List.mem_takeWhile_imp hc, hmost⟩, rfl, ?_⟩
  rw [chars, List.append_assoc, ← hcs]
  exact List.takeWhile_append_dropWhile.symm

theorem scan_full (h : f.Full) (rest : List Char) :
    Scan.digits most most (f.chars ++ rest) = some (f.value, rest) := by
  rw [chars, h.1, List.nil_append]
  exact Scan.digits_run f.number.decimal h.2.ge h.2.le (.inl h.2)

theorem full_of_scan (hm : 0 < most) (h : Scan.digits most most cs = some (n, rest)) :
    ∃ f : Field most, f.Full ∧ f.value = n ∧ cs = f.chars ++ rest := by
  obtain ⟨run, hcs, rfl, hrun, hleast, hmost⟩ := Scan.exists_run h
  exact ⟨⟨[], ⟨run, List.length_pos_iff.mp (Nat.lt_of_lt_of_le hm hleast), hrun⟩,
    List.forall_mem_nil _, hmost⟩, ⟨rfl, Nat.le_antisymm hmost hleast⟩, rfl, hcs⟩

theorem append_inj (h : f.chars ++ rest = g.chars ++ rest') (hr : Stops Char.isDigit rest)
    (hr' : Stops Char.isDigit rest') : f = g ∧ rest = rest' := by
  simp only [chars, List.append_assoc] at h
  obtain ⟨hblanks, h⟩ := run_append_inj h f.blank g.blank (stops_blank f.number rest)
    (stops_blank g.number rest')
  obtain ⟨hdigits, h⟩ := run_append_inj h f.number.decimal g.number.decimal hr hr'
  refine ⟨?_, h⟩
  cases f
  cases g
  simp only [mk.injEq]
  exact ⟨hblanks, Instruction.Numeral.eq_of_digits hdigits⟩

theorem letter_notMem (f : Field most) : 'T' ∉ f.chars := by
  intro h
  rcases List.mem_append.mp h with h | h
  · exact absurd (f.blank 'T' h) (by decide)
  · exact absurd (f.number.decimal 'T' h) (by decide)

theorem length_of_full (f : Field most) (h : f.Full) : f.chars.length = most := by
  rw [chars, h.1, List.nil_append, h.2]

theorem width_of_full (f : Field most) (h : f.Full) : width f.chars = most := by
  rw [chars, h.1, List.nil_append, width_of_digits f.number.decimal, h.2]

end Field

/-- The year of a local layout: up to four digits, or a sign and as many digits as there are. -/
structure YearField where
  blanks : List Char
  sign : Option Sign
  number : Numeral
  blank : ∀ c ∈ blanks, isBlank c = true
  short : sign = none → number.digits.length ≤ 4

namespace YearField

variable {y z : YearField} {cs rest rest' : List Char}

def chars (y : YearField) : List Char :=
  y.blanks ++ ((y.sign.map Sign.symbol).toList ++ y.number.digits)

def value (y : YearField) : Int := (y.sign.getD .plus).apply y.number.value

def Full (y : YearField) : Prop :=
  y.blanks = [] ∧ y.sign = none ∧ y.number.digits.length = 4

theorem stops_blank (sign : Option Sign) (n : Numeral) (rest : List Char) :
    Stops isBlank ((sign.map Sign.symbol).toList ++ (n.digits ++ rest)) := by
  rcases sign with _ | _ | _
  · exact Field.stops_blank n rest
  · exact stops_cons (by decide) _
  · exact stops_cons (by decide) _

theorem scan (y : YearField) (h : Stops Char.isDigit rest) :
    scanYear (y.chars ++ rest) = some (y.value, rest) := by
  obtain ⟨blanks, sign, number, blank, short⟩ := y
  have hpos := List.length_pos_iff.mpr number.nonempty
  have hskip : skipBlanks (chars ⟨blanks, sign, number, blank, short⟩ ++ rest) =
      (sign.map Sign.symbol).toList ++ (number.digits ++ rest) := by
    simp only [chars, List.append_assoc]
    exact dropWhile_of_stops blank (stops_blank sign number rest)
  have hnumber : Scan.number (number.digits ++ rest) = some (number.value, rest) :=
    Scan.digits_run number.decimal hpos (by rw [List.length_append]; omega) (.inr h)
  unfold scanYear
  rw [hskip]
  rcases sign with _ | _ | _
  · have hdigits : Scan.digits 1 4 (number.digits ++ rest) = some (number.value, rest) :=
      Scan.digits_run number.decimal hpos (short rfl) (.inr h)
    cases hc : number.digits with
    | nil => exact absurd hc number.nonempty
    | cons c cs =>
      have hdigit : c.isDigit = true := number.decimal c (by simp [hc])
      rw [hc] at hdigits
      simp only [Option.map_none, Option.toList_none, List.nil_append, List.cons_append]
        at hdigits ⊢
      split
      · rename_i heq
        obtain ⟨rfl, -⟩ := List.cons.inj heq
        cases hdigit
      · rename_i heq
        obtain ⟨rfl, -⟩ := List.cons.inj heq
        cases hdigit
      · rw [hdigits]
        rfl
  · simp only [Option.map_some, Option.toList_some, List.singleton_append, Sign.symbol, hnumber]
    rfl
  · simp only [Option.map_some, Option.toList_some, List.singleton_append, Sign.symbol, hnumber]
    rfl

theorem of_scan {year : Int} (h : scanYear cs = some (year, rest)) :
    ∃ y : YearField, y.value = year ∧ cs = y.chars ++ rest := by
  have hcut : cs = cs.takeWhile isBlank ++ skipBlanks cs := List.takeWhile_append_dropWhile.symm
  have hblank : ∀ c ∈ cs.takeWhile isBlank, isBlank c = true :=
    fun c hc => List.mem_takeWhile_imp hc
  have signed (sign : Sign) {cs' : List Char} {n : Nat} (hcs : skipBlanks cs = sign.symbol :: cs')
      (hn : Scan.number cs' = some (n, rest)) :
      ∃ y : YearField, y.value = sign.apply n ∧ cs = y.chars ++ rest := by
    obtain ⟨run, hcs', rfl, hrun, hleast, -⟩ := Scan.exists_run hn
    have hunsigned : some sign = none → run.length ≤ 4 := by
      intro hsign
      cases hsign
    refine ⟨⟨_, some sign, ⟨run, List.length_pos_iff.mp hleast, hrun⟩, hblank, hunsigned⟩, rfl, ?_⟩
    simp only [chars, Option.map_some, Option.toList_some, List.append_assoc,
      List.cons_append, List.nil_append]
    rw [← hcs', ← hcs]
    exact hcut
  unfold scanYear at h
  split at h
  · rename_i cs' hcs
    obtain ⟨⟨n, _⟩, hn, hy⟩ := Option.map_eq_some_iff.mp h
    obtain ⟨rfl, rfl⟩ := Prod.mk.inj hy
    exact signed .plus hcs hn
  · rename_i cs' hcs
    obtain ⟨⟨n, _⟩, hn, hy⟩ := Option.map_eq_some_iff.mp h
    obtain ⟨rfl, rfl⟩ := Prod.mk.inj hy
    exact signed .minus hcs hn
  · obtain ⟨⟨n, _⟩, hn, hy⟩ := Option.map_eq_some_iff.mp h
    obtain ⟨rfl, rfl⟩ := Prod.mk.inj hy
    obtain ⟨run, hcs', rfl, hrun, hleast, hmost⟩ := Scan.exists_run hn
    refine ⟨⟨_, none, ⟨run, List.length_pos_iff.mp hleast, hrun⟩, hblank, fun _ => hmost⟩, rfl, ?_⟩
    simp only [chars, Option.map_none, Option.toList_none, List.append_assoc, List.nil_append]
    rw [← hcs']
    exact hcut

theorem scan_full (h : y.Full) (rest : List Char) :
    Scan.digits 4 4 (y.chars ++ rest) = some (y.number.value, rest) := by
  obtain ⟨hblanks, hsign, hlen⟩ := h
  rw [chars, hblanks, hsign]
  exact Scan.digits_run y.number.decimal hlen.ge hlen.le (.inl hlen)

theorem full_of_scan {n : Nat} (h : Scan.digits 4 4 cs = some (n, rest)) :
    ∃ y : YearField, y.Full ∧ y.value = n ∧ cs = y.chars ++ rest := by
  obtain ⟨run, hcs, rfl, hrun, hleast, hmost⟩ := Scan.exists_run h
  exact ⟨⟨[], none, ⟨run, List.length_pos_iff.mp (Nat.lt_of_lt_of_le (by decide) hleast), hrun⟩,
    List.forall_mem_nil _, fun _ => hmost⟩, ⟨rfl, rfl, Nat.le_antisymm hmost hleast⟩, rfl, hcs⟩

theorem value_of_full (h : y.Full) : y.value = y.number.value := by
  rw [value, h.2.1]
  rfl

theorem sign_append_inj {s t : Option Sign} {n m : Numeral}
    (h : (s.map Sign.symbol).toList ++ (n.digits ++ rest) =
      (t.map Sign.symbol).toList ++ (m.digits ++ rest')) :
    s = t ∧ n.digits ++ rest = m.digits ++ rest' := by
  have hsymbol (sign : Sign) (k : Numeral) (cs cs' : List Char) :
      k.digits ++ cs ≠ sign.symbol :: cs' := by
    intro heq
    cases hc : k.digits with
    | nil => exact k.nonempty hc
    | cons c ds =>
      have hdigit := k.decimal c (by simp [hc])
      rw [hc] at heq
      obtain ⟨rfl, -⟩ := List.cons.inj heq
      cases sign <;> cases hdigit
  rcases s with _ | s <;> rcases t with _ | t
  · exact ⟨rfl, h⟩
  · exact absurd h (hsymbol t n rest _)
  · exact absurd h.symm (hsymbol s m rest' _)
  · obtain ⟨hst, h⟩ := List.cons.inj h
    refine ⟨?_, h⟩
    cases s <;> cases t <;> first | rfl | cases hst

theorem append_inj (h : y.chars ++ rest = z.chars ++ rest') (hr : Stops Char.isDigit rest)
    (hr' : Stops Char.isDigit rest') : y = z ∧ rest = rest' := by
  simp only [chars, List.append_assoc] at h
  obtain ⟨hblanks, h⟩ := run_append_inj h y.blank z.blank (stops_blank y.sign y.number rest)
    (stops_blank z.sign z.number rest')
  obtain ⟨hsign, h⟩ := sign_append_inj h
  obtain ⟨hdigits, h⟩ := run_append_inj h y.number.decimal z.number.decimal hr hr'
  refine ⟨?_, h⟩
  cases y
  cases z
  simp only [mk.injEq]
  exact ⟨hblanks, hsign, Instruction.Numeral.eq_of_digits hdigits⟩

theorem width_of_full (y : YearField) (h : y.Full) : width y.chars = 4 := by
  obtain ⟨hblanks, hsign, hlen⟩ := h
  rw [chars, hblanks, hsign, Option.map_none, Option.toList_none, List.nil_append, List.nil_append,
    width_of_digits y.number.decimal, hlen]

theorem letter_notMem (y : YearField) : 'T' ∉ y.chars := by
  intro h
  rcases List.mem_append.mp h with h | h
  · exact absurd (y.blank 'T' h) (by decide)
  rcases List.mem_append.mp h with h | h
  · rcases hsign : y.sign with _ | _ | _ <;> simp [hsign, Sign.symbol] at h
  · exact absurd (y.number.decimal 'T' h) (by decide)

end YearField

/-! ### Dates -/

structure DateLayout where
  year : YearField
  month : Field 2
  day : Field 2

namespace DateLayout

variable {d e : DateLayout} {cs rest rest' : List Char}

def chars (d : DateLayout) : List Char :=
  d.year.chars ++ '-' :: (d.month.chars ++ '-' :: d.day.chars)

def date (d : DateLayout) : Date := ⟨d.year.value, d.month.value, d.day.value⟩

def Full (d : DateLayout) : Prop := d.year.Full ∧ d.month.Full ∧ d.day.Full

theorem scan (d : DateLayout) (h : Stops Char.isDigit rest) :
    scanDate (d.chars ++ rest) = some (d.date, rest) := by
  simp only [chars, List.append_assoc, List.cons_append]
  refine Option.bind_eq_some_iff.mpr ⟨_, d.year.scan (stops_cons (by decide) _), ?_⟩
  refine Option.bind_eq_some_iff.mpr ⟨_, Scan.literal_cons '-' _, ?_⟩
  refine Option.bind_eq_some_iff.mpr ⟨_, d.month.scan (stops_cons (by decide) _), ?_⟩
  refine Option.bind_eq_some_iff.mpr ⟨_, Scan.literal_cons '-' _, ?_⟩
  refine Option.bind_eq_some_iff.mpr ⟨_, d.day.scan h, ?_⟩
  rfl

theorem of_scan {date : Date} (h : scanDate cs = some (date, rest)) :
    ∃ d : DateLayout, d.date = date ∧ cs = d.chars ++ rest := by
  obtain ⟨⟨_, _⟩, hy, h⟩ := Option.bind_eq_some_iff.mp h
  obtain ⟨⟨_, _⟩, h₁, h⟩ := Option.bind_eq_some_iff.mp h
  obtain ⟨⟨_, _⟩, hm, h⟩ := Option.bind_eq_some_iff.mp h
  obtain ⟨⟨_, _⟩, h₂, h⟩ := Option.bind_eq_some_iff.mp h
  obtain ⟨⟨_, _⟩, hd, h⟩ := Option.bind_eq_some_iff.mp h
  obtain ⟨rfl, rfl⟩ := Prod.mk.inj (Option.some.inj h)
  obtain ⟨y, rfl, rfl⟩ := YearField.of_scan hy
  obtain ⟨-, rfl⟩ := Scan.literal_eq_some_iff.mp h₁
  obtain ⟨m, rfl, rfl⟩ := Field.of_scan hm
  obtain ⟨-, rfl⟩ := Scan.literal_eq_some_iff.mp h₂
  obtain ⟨d, rfl, rfl⟩ := Field.of_scan hd
  refine ⟨⟨y, m, d⟩, rfl, ?_⟩
  simp only [chars, List.append_assoc, List.cons_append]

theorem append_inj (h : d.chars ++ rest = e.chars ++ rest') (hr : Stops Char.isDigit rest)
    (hr' : Stops Char.isDigit rest') : d = e ∧ rest = rest' := by
  simp only [chars, List.append_assoc, List.cons_append] at h
  obtain ⟨hyear, h⟩ := YearField.append_inj h (stops_cons (by decide) _) (stops_cons (by decide) _)
  obtain ⟨hmonth, h⟩ := Field.append_inj (List.cons.inj h).2 (stops_cons (by decide) _)
    (stops_cons (by decide) _)
  obtain ⟨hday, h⟩ := Field.append_inj (List.cons.inj h).2 hr hr'
  refine ⟨?_, h⟩
  cases d
  cases e
  simp only [mk.injEq]
  exact ⟨hyear, hmonth, hday⟩

theorem width_of_full (d : DateLayout) (h : d.Full) : width d.chars = 10 := by
  simp only [chars, width_append, width_cons, d.year.width_of_full h.1, d.month.width_of_full h.2.1,
    d.day.width_of_full h.2.2]
  decide

theorem ne_letter {c : Char} (d : DateLayout) (h : c ∈ d.chars) : (c != 'T') = true := by
  rw [bne_iff_ne]
  rintro rfl
  simp only [chars, List.mem_append, List.mem_cons, Char.reduceEq, false_or] at h
  rcases h with h | h | h
  · exact d.year.letter_notMem h
  · exact d.month.letter_notMem h
  · exact d.day.letter_notMem h

end DateLayout

/-! ### Times of day -/

structure Ends (rest : List Char) : Prop where
  digit : Stops Char.isDigit rest
  colon : Stops (· == ':') rest
  point : Stops (· == '.') rest

theorem ends_nil : Ends [] := ⟨stops_nil _, stops_nil _, stops_nil _⟩

theorem Ends.not_colon {cs : List Char} (h : Ends (':' :: cs)) : False :=
  absurd (h.colon ':' (by simp)) (by decide)

theorem Ends.not_point {cs : List Char} (h : Ends ('.' :: cs)) : False :=
  absurd (h.point '.' (by simp)) (by decide)

def fractionChars : Option Numeral → List Char
  | none => []
  | some n => '.' :: n.digits

def fractionNanos : Option Numeral → Nat
  | none => 0
  | some n => Digits.value ((n.digits.take 9).rightpad 9 '0')

theorem stops_fractionChars (fraction : Option Numeral) {rest : List Char}
    (h : Stops Char.isDigit rest) : Stops Char.isDigit (fractionChars fraction ++ rest) := by
  cases fraction with
  | none => exact h
  | some n => exact stops_cons (by decide) _

theorem scan_fraction (fraction : Option Numeral) {rest : List Char} (h : Ends rest) :
    Scan.fraction (fractionChars fraction ++ rest) = some (fractionNanos fraction, rest) := by
  cases fraction with
  | none =>
    simp only [fractionChars, fractionNanos, List.nil_append]
    unfold Scan.fraction
    split
    · exact h.not_point.elim
    · rfl
  | some n =>
    simp only [fractionChars, List.cons_append]
    unfold Scan.fraction
    simp only [takeWhile_of_stops n.decimal h.digit]
    split
    · rename_i hnil
      exact absurd hnil n.nonempty
    · rw [List.drop_left]
      rfl

theorem fraction_of_scan {cs rest : List Char} {n : Nat} (h : Scan.fraction cs = some (n, rest)) :
    ∃ fraction : Option Numeral, fractionNanos fraction = n ∧
      cs = fractionChars fraction ++ rest := by
  unfold Scan.fraction at h
  split at h
  · rename_i cs'
    split at h
    · cases h
    · rename_i hne
      obtain ⟨rfl, rfl⟩ := Prod.mk.inj (Option.some.inj h)
      refine ⟨some ⟨cs'.takeWhile Char.isDigit, hne, fun c hc => List.mem_takeWhile_imp hc⟩, rfl,
        ?_⟩
      have hprefix := List.takeWhile_prefix Char.isDigit (l := cs')
      rw [fractionChars, List.cons_append]
      conv_lhs => rw [← List.take_append_drop (cs'.takeWhile Char.isDigit).length cs']
      rw [← List.prefix_iff_eq_take.mp hprefix]
  · obtain ⟨rfl, rfl⟩ := Prod.mk.inj (Option.some.inj h)
    exact ⟨none, rfl, rfl⟩

theorem fraction_append_inj {f g : Option Numeral} {rest rest' : List Char}
    (h : fractionChars f ++ rest = fractionChars g ++ rest') (hr : Ends rest) (hr' : Ends rest') :
    f = g ∧ rest = rest' := by
  rcases f with _ | n <;> rcases g with _ | m
  · exact ⟨rfl, h⟩
  · obtain rfl : rest = '.' :: (m.digits ++ rest') := h
    exact hr.not_point.elim
  · obtain rfl : rest' = '.' :: (n.digits ++ rest) := h.symm
    exact hr'.not_point.elim
  · obtain ⟨hdigits, h⟩ := run_append_inj (List.cons.inj h).2 n.decimal m.decimal hr.digit hr'.digit
    exact ⟨congrArg some (Instruction.Numeral.eq_of_digits hdigits), h⟩

inductive TimeLayout where
  | hours (hour : Field 2)
  | minutes (hour minute : Field 2)
  | seconds (hour minute second : Field 2) (fraction : Option Numeral)

namespace TimeLayout

def chars : TimeLayout → List Char
  | .hours h => h.chars
  | .minutes h m => h.chars ++ ':' :: m.chars
  | .seconds h m s f => h.chars ++ ':' :: (m.chars ++ ':' :: (s.chars ++ fractionChars f))

def time : TimeLayout → TimeOfDay
  | .hours h => ⟨h.value, 0, 0, 0⟩
  | .minutes h m => ⟨h.value, m.value, 0, 0⟩
  | .seconds h m s f => ⟨h.value, m.value, s.value, fractionNanos f⟩

def Full : TimeLayout → Prop
  | .hours h => h.Full
  | .minutes h m => h.Full ∧ m.Full
  | .seconds h m s _ => h.Full ∧ m.Full ∧ s.Full

/-- What the reader asks of the length, by which it tells the three layouts apart. -/
def Fits : TimeLayout → Prop
  | .hours h => h.Full
  | .minutes h m => width (minutes h m).chars = 5
  | .seconds h m s f => width (seconds h m s f).chars ≠ 5

variable {cs rest : List Char}

theorem scan_minutes (h m : Field 2) (hr : Stops Char.isDigit rest) :
    scanMinutes (h.chars ++ ':' :: (m.chars ++ rest)) = some (⟨h.value, m.value, 0, 0⟩, rest) := by
  refine Option.bind_eq_some_iff.mpr ⟨_, h.scan (stops_cons (by decide) _), ?_⟩
  refine Option.bind_eq_some_iff.mpr ⟨_, Scan.literal_cons ':' _, ?_⟩
  refine Option.bind_eq_some_iff.mpr ⟨_, m.scan hr, ?_⟩
  rfl

theorem minutes_of_scan {time : TimeOfDay} (h : scanMinutes cs = some (time, rest)) :
    ∃ h m : Field 2, time = ⟨h.value, m.value, 0, 0⟩ ∧
      cs = h.chars ++ ':' :: (m.chars ++ rest) := by
  obtain ⟨⟨_, _⟩, hh, h⟩ := Option.bind_eq_some_iff.mp h
  obtain ⟨⟨_, _⟩, hc, h⟩ := Option.bind_eq_some_iff.mp h
  obtain ⟨⟨_, _⟩, hm, h⟩ := Option.bind_eq_some_iff.mp h
  obtain ⟨rfl, rfl⟩ := Prod.mk.inj (Option.some.inj h)
  obtain ⟨f, rfl, rfl⟩ := Field.of_scan hh
  obtain ⟨-, rfl⟩ := Scan.literal_eq_some_iff.mp hc
  obtain ⟨m, rfl, rfl⟩ := Field.of_scan hm
  exact ⟨f, m, rfl, rfl⟩

theorem scan_seconds (h m s : Field 2) (f : Option Numeral) (hr : Ends rest) :
    scanSeconds ((seconds h m s f).chars ++ rest) = some ((seconds h m s f).time, rest) := by
  simp only [chars, List.append_assoc, List.cons_append]
  refine Option.bind_eq_some_iff.mpr ⟨_, scan_minutes h m (stops_cons (by decide) _), ?_⟩
  refine Option.bind_eq_some_iff.mpr ⟨_, Scan.literal_cons ':' _, ?_⟩
  refine Option.bind_eq_some_iff.mpr ⟨_, s.scan (stops_fractionChars f hr.digit), ?_⟩
  refine Option.bind_eq_some_iff.mpr ⟨_, scan_fraction f hr, ?_⟩
  rfl

theorem seconds_of_scan {time : TimeOfDay} (h : scanSeconds cs = some (time, rest)) :
    ∃ (h m s : Field 2) (f : Option Numeral), (seconds h m s f).time = time ∧
      cs = (seconds h m s f).chars ++ rest := by
  obtain ⟨⟨_, _⟩, hm, h⟩ := Option.bind_eq_some_iff.mp h
  obtain ⟨⟨_, _⟩, hc, h⟩ := Option.bind_eq_some_iff.mp h
  obtain ⟨⟨_, _⟩, hs, h⟩ := Option.bind_eq_some_iff.mp h
  obtain ⟨⟨_, _⟩, hf, h⟩ := Option.bind_eq_some_iff.mp h
  obtain ⟨rfl, rfl⟩ := Prod.mk.inj (Option.some.inj h)
  obtain ⟨f, m, rfl, rfl⟩ := minutes_of_scan hm
  obtain ⟨-, rfl⟩ := Scan.literal_eq_some_iff.mp hc
  obtain ⟨s, rfl, rfl⟩ := Field.of_scan hs
  obtain ⟨fraction, rfl, rfl⟩ := fraction_of_scan hf
  refine ⟨f, m, s, fraction, rfl, ?_⟩
  simp only [chars, List.append_assoc, List.cons_append]

theorem not_hour_of_colon (h : ':' ∈ cs) : ¬ (cs.length = 2 ∧ cs.all Char.isDigit = true) := by
  rintro ⟨-, hall⟩
  exact absurd (List.all_eq_true.mp hall ':' h) (by decide)

theorem read (t : TimeLayout) (h : t.Fits) : readTime? t.chars = some t.time := by
  cases t with
  | hours f =>
    have hall : f.chars.all Char.isDigit = true := by
      rw [Field.chars, h.1, List.nil_append, List.all_eq_true]
      exact f.number.decimal
    rw [readTime?, if_pos ⟨f.length_of_full h, hall⟩, chars, Field.chars, h.1, List.nil_append]
    rfl
  | minutes f m =>
    have hscan := scan_minutes f m (stops_nil _)
    rw [List.append_nil] at hscan
    have hwidth : width (minutes f m).chars = 5 := h
    rw [readTime?, if_neg (not_hour_of_colon (by simp [chars])), if_pos hwidth, Scan.whole, chars,
      hscan]
    rfl
  | seconds f m s fraction =>
    have hscan := scan_seconds f m s fraction ends_nil
    rw [List.append_nil] at hscan
    have hwidth : width (seconds f m s fraction).chars ≠ 5 := h
    rw [readTime?, if_neg (not_hour_of_colon (by simp [chars])), if_neg hwidth, Scan.whole, hscan]

theorem of_read {time : TimeOfDay} (h : readTime? cs = some time) :
    ∃ t : TimeLayout, t.Fits ∧ t.time = time ∧ cs = t.chars := by
  unfold readTime? at h
  split at h
  · rename_i hhour
    obtain rfl := Option.some.inj h
    have hne : cs ≠ [] := by
      rintro rfl
      cases hhour.1
    exact ⟨.hours ⟨[], ⟨cs, hne, List.all_eq_true.mp hhour.2⟩, List.forall_mem_nil _, hhour.1.le⟩,
      ⟨rfl, hhour.1⟩, rfl, rfl⟩
  · split at h
    · rename_i hwidth
      obtain ⟨f, m, rfl, hcs⟩ := minutes_of_scan (whole_eq_some h)
      rw [List.append_nil] at hcs
      rw [hcs] at hwidth
      exact ⟨.minutes f m, hwidth, rfl, hcs⟩
    · rename_i hwidth
      obtain ⟨f, m, s, fraction, rfl, hcs⟩ := seconds_of_scan (whole_eq_some h)
      rw [List.append_nil] at hcs
      rw [hcs] at hwidth
      exact ⟨.seconds f m s fraction, hwidth, rfl, hcs⟩

theorem fits_of_full {t : TimeLayout} (h : t.Full) : t.Fits := by
  cases t with
  | hours f => exact h
  | minutes f m =>
    simp only [Fits, chars, width_append, width_cons, f.width_of_full h.1, m.width_of_full h.2]
    decide
  | seconds f m s fraction =>
    have hle := length_le_width (seconds f m s fraction).chars
    simp only [chars, List.length_append, List.length_cons, f.length_of_full h.1,
      m.length_of_full h.2.1, s.length_of_full h.2.2] at hle
    simp only [Fits, chars]
    omega

def hour : TimeLayout → Field 2
  | .hours h => h
  | .minutes h _ => h
  | .seconds h _ _ _ => h

def afterHour : TimeLayout → List Char
  | .hours _ => []
  | .minutes _ m => ':' :: m.chars
  | .seconds _ m s f => ':' :: (m.chars ++ ':' :: (s.chars ++ fractionChars f))

theorem chars_eq (t : TimeLayout) : t.chars = t.hour.chars ++ t.afterHour := by
  cases t with
  | hours h => exact (List.append_nil h.chars).symm
  | minutes h m => rfl
  | seconds h m s f => rfl

theorem stops_afterHour (t : TimeLayout) (h : Stops Char.isDigit rest) :
    Stops Char.isDigit (t.afterHour ++ rest) := by
  cases t with
  | hours f => exact h
  | minutes f m => exact stops_cons (by decide) _
  | seconds f m s g => exact stops_cons (by decide) _

/-- Each time of day has more numbers than the one before it, and ends where no more follows. -/
theorem append_inj {t t' : TimeLayout} {rest' : List Char}
    (h : t.chars ++ rest = t'.chars ++ rest') (hr : Ends rest) (hr' : Ends rest') :
    t = t' ∧ rest = rest' := by
  simp only [chars_eq, List.append_assoc] at h
  obtain ⟨hhour, h⟩ :=
    Field.append_inj h (t.stops_afterHour hr.digit) (t'.stops_afterHour hr'.digit)
  have hlonger {m m' : Field 2} {cs cs' : List Char} (hcs : Ends cs)
      (heq : ':' :: m.chars ++ cs = ':' :: (m'.chars ++ ':' :: cs')) : False := by
    obtain ⟨-, rfl⟩ := Field.append_inj (List.cons.inj heq).2 hcs.digit (stops_cons (by decide) _)
    exact hcs.not_colon
  cases t with
  | hours f =>
    cases t' with
    | hours f' => exact ⟨congrArg hours hhour, h⟩
    | minutes f' m' =>
      obtain rfl : rest = ':' :: (m'.chars ++ rest') := h
      exact hr.not_colon.elim
    | seconds f' m' s' g' =>
      obtain rfl : rest = ':' :: (m'.chars ++ ':' :: (s'.chars ++ fractionChars g') ++ rest') := h
      exact hr.not_colon.elim
  | minutes f m =>
    cases t' with
    | hours f' =>
      obtain rfl : rest' = ':' :: (m.chars ++ rest) := h.symm
      exact hr'.not_colon.elim
    | minutes f' m' =>
      obtain ⟨hminute, h⟩ := Field.append_inj (List.cons.inj h).2 hr.digit hr'.digit
      exact ⟨congrArg₂ minutes hhour hminute, h⟩
    | seconds f' m' s' g' =>
      simp only [afterHour, List.append_assoc, List.cons_append] at h
      exact (hlonger hr h).elim
  | seconds f m s g =>
    cases t' with
    | hours f' =>
      obtain rfl : rest' = ':' :: (m.chars ++ ':' :: (s.chars ++ fractionChars g) ++ rest) := h.symm
      exact hr'.not_colon.elim
    | minutes f' m' =>
      simp only [afterHour, List.append_assoc, List.cons_append] at h
      exact (hlonger hr' h.symm).elim
    | seconds f' m' s' g' =>
      simp only [afterHour, List.append_assoc, List.cons_append] at h
      obtain ⟨hminute, h⟩ := Field.append_inj (List.cons.inj h).2 (stops_cons (by decide) _)
        (stops_cons (by decide) _)
      obtain ⟨hsecond, h⟩ := Field.append_inj (List.cons.inj h).2 (stops_fractionChars g hr.digit)
        (stops_fractionChars g' hr'.digit)
      obtain ⟨hfraction, hrest⟩ := fraction_append_inj h hr hr'
      obtain rfl : f = f' := hhour
      rw [hminute, hsecond, hfraction]
      exact ⟨rfl, hrest⟩

end TimeLayout

end Timestamp

end RelativeTime
