import Mathlib.Data.List.Chain
import Mathlib.Data.List.Forall2
import Mathlib.Data.List.TakeWhile
import RelativeTime.Instruction.Parser

/-! The language of instructions, as rows of pieces, and the parser that accepts exactly it.

The only two pieces that must not stand side by side are a snap and a shift without a sign, whose
digits would be taken for a weekday. Everything else is kept apart by the runs of letters and
digits being read whole. -/
namespace RelativeTime

theorem TimeUnit.alias_unique : ∀ u v : TimeUnit, ∀ word ∈ u.aliases, word ∈ v.aliases → u = v := by
  intro u v
  cases u <;> cases v <;> decide

theorem TimeUnit.alias_letters :
    ∀ u : TimeUnit, ∀ word ∈ u.aliases, word.toList ≠ [] ∧ ∀ c ∈ word.toList, c.isAlpha = true := by
  intro u word hword
  have h : ∀ word ∈ u.aliases, word.toList ≠ [] ∧ word.toList.all Char.isAlpha = true := by
    cases u <;> decide
  exact ⟨(h word hword).1, List.all_eq_true.mp (h word hword).2⟩

theorem TimeUnit.ofAlias?_eq_some_iff {word : String} {u : TimeUnit} :
    ofAlias? word = some u ↔ word ∈ u.aliases := by
  constructor
  · intro h
    simpa using List.find?_some h
  · intro h
    cases hv : ofAlias? word with
    | none => exact absurd (List.find?_eq_none.mp hv u u.mem_descending) (by simp [h])
    | some v =>
      have hw : word ∈ v.aliases := by simpa using List.find?_some hv
      rw [alias_unique v u word hw h]

namespace Instruction

structure Word where
  unit : TimeUnit
  letters : String
  listed : letters ∈ unit.aliases
  deriving DecidableEq

/-- One or more digits; zeros may stand in front. -/
structure Numeral where
  digits : List Char
  nonempty : digits ≠ []
  decimal : ∀ c ∈ digits, c.isDigit = true
  deriving DecidableEq

def Numeral.value (n : Numeral) : Nat := Digits.value n.digits

inductive Piece where
  | snap (word : Word)
  | weekday (word : Word) (number : Numeral) (weekly : word.unit = .weeks)
      (known : number.value ≤ 7)
  | delta (sign : Option Sign) (number : Numeral) (word : Word)
  deriving DecidableEq

namespace Piece

def chars : Piece → List Char
  | .snap w => '@' :: w.letters.toList
  | .weekday w n _ _ => '@' :: (w.letters.toList ++ n.digits)
  | .delta sign n w => (sign.map Sign.symbol).toList ++ (n.digits ++ w.letters.toList)

def token : Piece → Token
  | .snap w => .snap ⟨w.unit, none⟩
  | .weekday w n _ _ => .snap ⟨w.unit, some n.value⟩
  | .delta sign n w => .delta ⟨sign.getD .plus, min n.value 0xFFFFFFFFFFFFFFFF, w.unit, by omega⟩

def Joins : Piece → Piece → Prop
  | .snap _, .delta none _ _ => False
  | .weekday _ _ _ _, .delta none _ _ => False
  | _, _ => True

def Respelled : Piece → Piece → Prop
  | .snap w, .snap w' => w.unit = w'.unit
  | .weekday _ n _ _, .weekday _ n' _ _ => n = n'
  | .delta sign n w, .delta sign' n' w' => sign = sign' ∧ n = n' ∧ w.unit = w'.unit
  | _, _ => False

end Piece

def Joinable (pieces : List Piece) : Prop := pieces.IsChain Piece.Joins

def spell (pieces : List Piece) : String := String.ofList (pieces.flatMap Piece.chars)

def Stops (p : Char → Bool) (rest : List Char) : Prop := ∀ c ∈ rest.head?, p c = false

theorem takeWhile_of_stops {p : Char → Bool} {run rest : List Char} (h : ∀ c ∈ run, p c = true)
    (hr : Stops p rest) : (run ++ rest).takeWhile p = run := by
  rw [List.takeWhile_append_of_pos h]
  cases rest with
  | nil => simp
  | cons c rest => simp [hr c (by simp)]

theorem dropWhile_of_stops {p : Char → Bool} {run rest : List Char} (h : ∀ c ∈ run, p c = true)
    (hr : Stops p rest) : (run ++ rest).dropWhile p = rest := by
  rw [List.dropWhile_append_of_pos h]
  cases rest with
  | nil => rfl
  | cons c rest => simp [hr c (by simp)]

theorem stops_dropWhile (p : Char → Bool) (cs : List Char) : Stops p (cs.dropWhile p) := by
  intro c hc
  simpa [Option.mem_def.mp hc] using List.head?_dropWhile_not p cs

theorem le_toNat_of_isAlpha {c : Char} (h : c.isAlpha = true) : 65 ≤ c.toNat := by
  have hcases : (decide ('A'.val ≤ c.val ∧ c.val ≤ 'Z'.val) ||
    (decide ('a'.val ≤ c.val) && decide (c.val ≤ 'z'.val))) = true := h
  simp only [Bool.or_eq_true, Bool.and_eq_true, decide_eq_true_eq, UInt32.le_iff_toNat_le]
    at hcases
  have hA : 'A'.val.toNat = 65 := rfl
  have ha : 'a'.val.toNat = 97 := rfl
  change 65 ≤ c.val.toNat
  omega

theorem isDigit_of_isAlpha {c : Char} (h : c.isAlpha = true) : c.isDigit = false := by
  rw [Bool.eq_false_iff]
  intro hd
  have := le_toNat_of_isAlpha h
  have : c.toNat ≤ 57 := (Char.isDigit_iff_toNat.mp hd).2
  omega

theorem isAlpha_of_isDigit {c : Char} (h : c.isDigit = true) : c.isAlpha = false := by
  cases ha : c.isAlpha with
  | false => rfl
  | true => rw [isDigit_of_isAlpha ha] at h; cases h

theorem stops_of_all {p q : Char → Bool} {run : List Char} (rest : List Char) (hne : run ≠ [])
    (h : ∀ c ∈ run, p c = true) (hpq : ∀ c, p c = true → q c = false) :
    Stops q (run ++ rest) := by
  cases run with
  | nil => exact absurd rfl hne
  | cons c run =>
    intro d hd
    obtain rfl : c = d := by simpa using hd
    exact hpq _ (h _ (by simp))

theorem Word.alpha (w : Word) : ∀ c ∈ w.letters.toList, c.isAlpha = true :=
  (TimeUnit.alias_letters w.unit w.letters w.listed).2

theorem Word.nonempty (w : Word) : w.letters.toList ≠ [] :=
  (TimeUnit.alias_letters w.unit w.letters w.listed).1

theorem Word.unitNamed? (w : Word) : unitNamed? w.letters.toList = some w.unit := by
  rw [Instruction.unitNamed?, String.ofList_toList]
  exact TimeUnit.ofAlias?_eq_some_iff.mpr w.listed

theorem exists_word {letters : List Char} {u : TimeUnit} (h : unitNamed? letters = some u) :
    ∃ w : Word, w.unit = u ∧ w.letters.toList = letters :=
  ⟨⟨u, String.ofList letters, TimeUnit.ofAlias?_eq_some_iff.mp h⟩, rfl, String.toList_ofList⟩

/-! ### One piece -/

theorem readSnap_word (w : Word) {digits rest : List Char} (hd : ∀ c ∈ digits, c.isDigit = true)
    (hs : Stops Char.isDigit rest) (hl : digits = [] → Stops Char.isAlpha rest) :
    readSnap (w.letters.toList ++ (digits ++ rest)) =
      if digits = [] then .ok (⟨w.unit, none⟩, rest)
      else if w.unit ≠ .weeks then .error (.unmatched (digits ++ rest))
      else if 7 < Digits.value digits then .error (.badWeekday digits)
      else .ok (⟨w.unit, some (Digits.value digits)⟩, rest) := by
  have hstop : Stops Char.isAlpha (digits ++ rest) := by
    by_cases hne : digits = []
    · simpa [hne] using hl hne
    · exact stops_of_all _ hne hd fun _ => isAlpha_of_isDigit
  simp only [readSnap, letterRun, afterLetters, digitRun, afterDigits,
    takeWhile_of_stops w.alpha hstop, dropWhile_of_stops w.alpha hstop,
    takeWhile_of_stops hd hs, dropWhile_of_stops hd hs, w.nonempty, w.unitNamed?, if_false]
  by_cases hne : digits = []
  · simp [hne]
  · simp [hne]

theorem readSign_piece (sign : Option Sign) (n : Numeral) (w : Word) (rest : List Char) :
    readSign ((Piece.delta sign n w).chars ++ rest) =
      (sign.getD .plus, n.digits ++ (w.letters.toList ++ rest)) := by
  rcases sign with _ | _ | _
  · cases hc : n.digits with
    | nil => exact absurd hc n.nonempty
    | cons c cs =>
      have hdig : c.isDigit = true := n.decimal c (by simp [hc])
      simp only [Piece.chars, hc, Option.map_none, Option.toList_none, List.nil_append,
        List.cons_append, List.append_assoc, Option.getD_none]
      unfold readSign
      split
      · simp_all
      · simp_all
      · rfl
  · simp [Piece.chars, readSign, Sign.symbol]
  · simp [Piece.chars, readSign, Sign.symbol]

theorem readDelta_piece (sign : Option Sign) (n : Numeral) (w : Word) {rest : List Char}
    (hs : Stops Char.isAlpha rest) :
    readDelta ((Piece.delta sign n w).chars ++ rest) =
      .ok (.saturating (sign.getD .plus) n.value w.unit, rest) := by
  have hd : Stops Char.isDigit (w.letters.toList ++ rest) :=
    stops_of_all _ w.nonempty w.alpha fun _ => isDigit_of_isAlpha
  simp only [readDelta, readSign_piece, digitRun, afterDigits, letterRun, afterLetters,
    takeWhile_of_stops n.decimal hd, dropWhile_of_stops n.decimal hd,
    takeWhile_of_stops w.alpha hs, dropWhile_of_stops w.alpha hs, n.nonempty, w.nonempty,
    w.unitNamed?, or_self, if_false, Numeral.value]

def Piece.Ends : Piece → List Char → Prop
  | .snap _, rest => Stops Char.isAlpha rest ∧ Stops Char.isDigit rest
  | .weekday _ _ _ _, rest => Stops Char.isDigit rest
  | .delta _ _ _, rest => Stops Char.isAlpha rest

theorem readToken_of_head {cs : List Char} (h : cs.head? ≠ some '@') :
    readToken cs = (readDelta cs).map fun (d, rest) => (.delta d, rest) := by
  unfold readToken
  split
  · simp at h
  · rfl

theorem Piece.delta_head (sign : Option Sign) (n : Numeral) (w : Word) (rest : List Char) :
    ∃ c cs, (Piece.delta sign n w).chars ++ rest = c :: cs ∧ c.isAlpha = false ∧ c ≠ '@' ∧
      (sign ≠ none → c.isDigit = false) ∧ (sign = none → c.isDigit = true) := by
  rcases sign with _ | _ | _
  · cases hc : n.digits with
    | nil => exact absurd hc n.nonempty
    | cons c cs =>
      have hdig : c.isDigit = true := n.decimal c (by simp [hc])
      refine ⟨c, cs ++ (w.letters.toList ++ rest), by simp [Piece.chars, hc],
        isAlpha_of_isDigit hdig, ?_, by simp, fun _ => hdig⟩
      rintro rfl
      simp at hdig
  · exact ⟨'+', n.digits ++ (w.letters.toList ++ rest), by simp [Piece.chars, Sign.symbol],
      by decide, by decide, fun _ => by decide, by simp⟩
  · exact ⟨'-', n.digits ++ (w.letters.toList ++ rest), by simp [Piece.chars, Sign.symbol],
      by decide, by decide, fun _ => by decide, by simp⟩

theorem readToken_piece (p : Piece) {rest : List Char} (h : p.Ends rest) :
    readToken (p.chars ++ rest) = .ok (p.token, rest) := by
  cases p with
  | snap w =>
    have := readSnap_word w (List.forall_mem_nil _) h.2 fun _ => h.1
    simp only [List.nil_append, if_true] at this
    simp [Piece.chars, readToken, this, Except.map, Piece.token]
  | weekday w n weekly known =>
    have := readSnap_word w n.decimal h fun hne => absurd hne n.nonempty
    simp only [n.nonempty, weekly, if_false, ne_eq, not_true_eq_false,
      show ¬ 7 < Digits.value n.digits from Nat.not_lt.mpr known] at this
    simp [Piece.chars, readToken, this, Except.map, Piece.token, weekly, Numeral.value]
  | delta sign n w =>
    obtain ⟨c, cs, hcs, -, hat, -⟩ := Piece.delta_head sign n w rest
    rw [readToken_of_head (by simp [hcs, hat]), readDelta_piece sign n w h]
    rfl

theorem piece_of_readSnap {cs rest : List Char} {s : Snap} (h : readSnap cs = .ok (s, rest)) :
    ∃ p : Piece, p.token = .snap s ∧ '@' :: cs = p.chars ++ rest ∧ p.Ends rest := by
  have hcut := List.takeWhile_append_dropWhile (p := Char.isAlpha) (l := cs)
  have hcut' := List.takeWhile_append_dropWhile (p := Char.isDigit) (l := afterLetters cs)
  simp only [readSnap] at h
  split at h
  · cases h
  cases hu : unitNamed? (letterRun cs) with
  | none => simp [hu] at h
  | some u =>
    obtain ⟨w, hwu, hw⟩ := exists_word hu
    simp only [hu] at h
    split at h
    · rename_i hnone
      simp only [Except.ok.injEq, Prod.mk.injEq] at h
      obtain ⟨rfl, rfl⟩ := h
      refine ⟨.snap w, by simp [Piece.token, hwu], ?_, stops_dropWhile _ _, ?_⟩
      · simp [Piece.chars, hw, letterRun, afterLetters]
      · have := stops_dropWhile Char.isDigit (afterLetters cs)
        rwa [← List.nil_append (List.dropWhile _ _), ← hnone, digitRun, hcut'] at this
    · rename_i hsome
      split at h
      · cases h
      split at h
      · cases h
      rename_i hweeks hsmall
      simp only [Except.ok.injEq, Prod.mk.injEq] at h
      obtain ⟨rfl, rfl⟩ := h
      have hdec : ∀ c ∈ digitRun (afterLetters cs), c.isDigit = true :=
        fun c hc => List.mem_takeWhile_imp hc
      refine ⟨.weekday w ⟨digitRun (afterLetters cs), hsome, hdec⟩
        (hwu.trans (not_not.mp hweeks)) (Nat.not_lt.mp hsmall), ?_, ?_, stops_dropWhile _ _⟩
      · simp [Piece.token, hwu, Numeral.value]
      · simp only [Piece.chars, hw, letterRun, digitRun, List.cons_append, List.append_assoc,
          afterDigits, hcut']
        rw [afterLetters, hcut]

theorem readSign_chars (cs : List Char) :
    ∃ sign : Option Sign, sign.getD .plus = (readSign cs).1 ∧
      cs = (sign.map Sign.symbol).toList ++ (readSign cs).2 := by
  unfold readSign
  split
  · exact ⟨some .plus, rfl, rfl⟩
  · exact ⟨some .minus, rfl, rfl⟩
  · exact ⟨none, rfl, rfl⟩

theorem piece_of_readDelta {cs rest : List Char} {d : Delta} (h : readDelta cs = .ok (d, rest)) :
    ∃ p : Piece, p.token = .delta d ∧ cs = p.chars ++ rest ∧ p.Ends rest := by
  obtain ⟨sign, hsign, hcs⟩ := readSign_chars cs
  have hcut := List.takeWhile_append_dropWhile (p := Char.isDigit) (l := (readSign cs).2)
  have hcut' := List.takeWhile_append_dropWhile (p := Char.isAlpha)
    (l := afterDigits (readSign cs).2)
  simp only [readDelta] at h
  split at h
  · cases h
  rename_i hne
  cases hu : unitNamed? (letterRun (afterDigits (readSign cs).2)) with
  | none => simp [hu] at h
  | some u =>
    obtain ⟨w, hwu, hw⟩ := exists_word hu
    simp only [hu, Except.ok.injEq, Prod.mk.injEq] at h
    obtain ⟨rfl, rfl⟩ := h
    have hdec : ∀ c ∈ digitRun (readSign cs).2, c.isDigit = true :=
      fun c hc => List.mem_takeWhile_imp hc
    refine ⟨.delta sign ⟨digitRun (readSign cs).2, (not_or.mp hne).1, hdec⟩ w, ?_, ?_,
      stops_dropWhile _ _⟩
    · simp [Piece.token, Delta.saturating, hsign, hwu, Numeral.value]
    · conv_lhs => rw [hcs]
      simp only [Piece.chars, hw, digitRun, letterRun, afterLetters, List.append_assoc, hcut']
      rw [afterDigits, hcut]

/-- The parser takes exactly one piece off the front. -/
theorem readToken_eq_ok_iff {cs rest : List Char} {t : Token} :
    readToken cs = .ok (t, rest) ↔
      ∃ p : Piece, p.token = t ∧ cs = p.chars ++ rest ∧ p.Ends rest := by
  constructor
  · intro h
    unfold readToken at h
    split at h
    · rename_i cs
      cases hs : readSnap cs with
      | error f => simp [hs, Except.map] at h
      | ok q =>
        simp only [hs, Except.map, Except.ok.injEq, Prod.mk.injEq] at h
        obtain ⟨rfl, rfl⟩ := h
        exact piece_of_readSnap hs
    · cases hd : readDelta cs with
      | error f => simp [hd, Except.map] at h
      | ok q =>
        simp only [hd, Except.map, Except.ok.injEq, Prod.mk.injEq] at h
        obtain ⟨rfl, rfl⟩ := h
        exact piece_of_readDelta hd
  · rintro ⟨p, rfl, rfl, h⟩
    exact readToken_piece p h

/-! ### Rows of pieces -/

theorem Piece.stops_alpha (q : Piece) (rest : List Char) :
    Stops Char.isAlpha (q.chars ++ rest) := by
  intro c hc
  cases q with
  | delta sign n w =>
    obtain ⟨d, cs, hcs, hd, -⟩ := Piece.delta_head sign n w rest
    obtain rfl : d = c := by simpa [hcs] using hc
    exact hd
  | _ =>
    obtain rfl : '@' = c := by simpa [Piece.chars] using hc
    decide

theorem stops_alpha_spelled (ps : List Piece) : Stops Char.isAlpha (ps.flatMap Piece.chars) := by
  cases ps with
  | nil => simp [Stops]
  | cons q ps => exact q.stops_alpha _

theorem Piece.ends_iff (p : Piece) (ps : List Piece) :
    p.Ends (ps.flatMap Piece.chars) ↔ ∀ q ∈ ps.head?, p.Joins q := by
  have hdigit : Stops Char.isDigit (ps.flatMap Piece.chars) ↔
      ∀ n w, Piece.delta none n w ∉ ps.head? := by
    cases ps with
    | nil => simp [Stops]
    | cons q ps =>
      cases q with
      | delta sign n w =>
        obtain ⟨c, cs, hcs, -, -, hsigned, hunsigned⟩ :=
          Piece.delta_head sign n w (ps.flatMap Piece.chars)
        rw [List.flatMap_cons, hcs]
        cases sign with
        | none => simp [Stops, hunsigned rfl]
        | some sign => simpa [Stops] using hsigned (by simp)
      | _ => simp [Stops, Piece.chars]
  have hjoins : ∀ q, p.Joins q ↔
      (∃ sign n w, p = .delta sign n w) ∨ ∀ n w, Piece.delta none n w ≠ q := by
    intro q
    rcases p with _ | _ | _ <;> rcases q with _ | _ | ⟨_ | _, _, _⟩ <;> simp [Piece.Joins]
  have halpha := stops_alpha_spelled ps
  cases p with
  | delta sign n w => simp [Piece.Ends, halpha, Piece.Joins]
  | _ =>
    simp only [Piece.Ends, halpha, hdigit, hjoins, true_and, reduceCtorEq, exists_false, false_or]
    exact ⟨fun h q hq n w he => h n w (he ▸ hq), fun h n w hq => h _ hq n w rfl⟩

theorem readTokens_of_readToken {cs rest : List Char} {t : Token}
    (h : readToken cs = .ok (t, rest)) : readTokens cs = (readTokens rest).map (t :: ·) := by
  cases cs with
  | nil => simp [readToken, readDelta, readSign, digitRun, Except.map] at h
  | cons c cs =>
    rw [readTokens]
    split
    · rename_i f hf
      rw [h] at hf
      cases hf
    · rename_i t' rest' hr
      rw [h] at hr
      obtain ⟨rfl, rfl⟩ : t = t' ∧ rest = rest' := by simpa using hr
      cases readTokens rest <;> rfl

theorem readTokens_spelled {ps : List Piece} (h : Joinable ps) :
    readTokens (ps.flatMap Piece.chars) = .ok (ps.map Piece.token) := by
  induction ps with
  | nil => simp [readTokens]
  | cons p ps ih =>
    have hp : p.Ends (ps.flatMap Piece.chars) := (p.ends_iff ps).mpr (List.isChain_cons.mp h).1
    rw [List.flatMap_cons, readTokens_of_readToken (readToken_piece p hp),
      ih (List.isChain_cons.mp h).2]
    rfl

/-- Induction on the tokens read: each is a piece, and what ended it lets the next piece follow. -/
theorem pieces_of_readTokens {cs : List Char} {ts : List Token} (h : readTokens cs = .ok ts) :
    ∃ ps, Joinable ps ∧ ps.flatMap Piece.chars = cs ∧ ps.map Piece.token = ts := by
  fun_induction readTokens cs generalizing ts with
  | case1 =>
    obtain rfl : [] = ts := by simpa using h
    exact ⟨[], List.isChain_nil, rfl, rfl⟩
  | case2 c cs f hf => cases h
  | case3 c cs t rest hr f hf ih => cases h
  | case4 c cs t rest hr ts' hts ih =>
    obtain rfl : t :: ts' = ts := by simpa using h
    obtain ⟨p, rfl, hcs, hp⟩ := readToken_eq_ok_iff.mp hr
    obtain ⟨ps, hj, rfl, rfl⟩ := ih hts
    exact ⟨p :: ps, List.isChain_cons.mpr ⟨(p.ends_iff ps).mp hp, hj⟩, hcs.symm, rfl⟩

/-- The digits of a shift without a sign are lost to the snap before it, and what is left of the
shift cannot be read. -/
theorem readTokens_snap_unsigned (w : Word) {digits : List Char}
    (hd : ∀ c ∈ digits, c.isDigit = true) (hne : digits ≠ []) (w' : Word) (rest : List Char)
    (ts : List Token) :
    readTokens ('@' :: (w.letters.toList ++ (digits ++ (w'.letters.toList ++ rest)))) ≠ .ok ts := by
  have hstop : Stops Char.isDigit (w'.letters.toList ++ rest) :=
    stops_of_all _ w'.nonempty w'.alpha fun _ => isDigit_of_isAlpha
  have hsnap := readSnap_word w hd hstop fun h => absurd h hne
  intro h
  obtain ⟨ps, hj, hcs, -⟩ := pieces_of_readTokens h
  cases ps with
  | nil => simp at hcs
  | cons p ps =>
    have hp : p.Ends (ps.flatMap Piece.chars) := (p.ends_iff ps).mpr (List.isChain_cons.mp hj).1
    have hread := readToken_piece p hp
    rw [← List.flatMap_cons (f := Piece.chars), hcs, readToken, hsnap, if_neg hne] at hread
    split at hread
    · simp [Except.map] at hread
    split at hread
    · simp [Except.map] at hread
    simp only [Except.map, Except.ok.injEq, Prod.mk.injEq] at hread
    -- The rest begins with the letters of the shift, and no piece does.
    have halpha := stops_alpha_spelled ps
    rw [← hread.2] at halpha
    cases hl : w'.letters.toList with
    | nil => exact w'.nonempty hl
    | cons c cs =>
      have h₁ := halpha c (by simp [hl])
      rw [w'.alpha c (by simp [hl])] at h₁
      cases h₁

/-- Rows that are not joinable are refused as a whole, however else they might be cut. -/
theorem readTokens_spelled_iff {ps : List Piece} {ts : List Token} :
    readTokens (ps.flatMap Piece.chars) = .ok ts ↔ Joinable ps ∧ ps.map Piece.token = ts := by
  constructor
  · intro h
    induction ps generalizing ts with
    | nil => simpa [readTokens, Joinable] using h
    | cons p ps ih =>
      by_cases hj : ∀ q ∈ ps.head?, p.Joins q
      · rw [List.flatMap_cons,
          readTokens_of_readToken (readToken_piece p ((p.ends_iff ps).mpr hj))] at h
        cases hr : readTokens (ps.flatMap Piece.chars) with
        | error f => simp [hr, Except.map] at h
        | ok ts' =>
          obtain ⟨hchain, rfl⟩ := ih hr
          simp only [hr, Except.map, Except.ok.injEq] at h
          exact ⟨List.isChain_cons.mpr ⟨hj, hchain⟩, h⟩
      · exfalso
        rcases ps with _ | ⟨q, ps⟩
        · simp at hj
        simp only [List.head?_cons, Option.mem_some_iff, forall_eq'] at hj
        rcases p with w | ⟨w, n, hw, hn⟩ | _ <;> rcases q with _ | _ | ⟨_ | _, n', w'⟩ <;>
          simp only [Piece.Joins, not_true_eq_false] at hj
        · refine readTokens_snap_unsigned w n'.decimal n'.nonempty w' (ps.flatMap Piece.chars) ts ?_
          simpa [Piece.chars] using h
        · have hdecimal : ∀ c ∈ n.digits ++ n'.digits, c.isDigit = true := fun c hc =>
            (List.mem_append.mp hc).elim (n.decimal c) (n'.decimal c)
          refine readTokens_snap_unsigned w hdecimal (by simp [n.nonempty]) w'
            (ps.flatMap Piece.chars) ts ?_
          simpa [Piece.chars] using h
  · rintro ⟨h, rfl⟩
    exact readTokens_spelled h

/-! ### One decomposition -/

theorem run_append_inj {p : Char → Bool} {run run' rest rest' : List Char}
    (h : run ++ rest = run' ++ rest') (hr : ∀ c ∈ run, p c = true) (hr' : ∀ c ∈ run', p c = true)
    (hs : Stops p rest) (hs' : Stops p rest') : run = run' ∧ rest = rest' := by
  constructor
  · rw [← takeWhile_of_stops hr hs, h, takeWhile_of_stops hr' hs']
  · rw [← dropWhile_of_stops hr hs, h, dropWhile_of_stops hr' hs']

theorem Word.eq_of_letters {w w' : Word} (h : w.letters.toList = w'.letters.toList) : w = w' := by
  obtain ⟨u, letters, listed⟩ := w
  obtain ⟨u', letters', listed'⟩ := w'
  obtain rfl : letters = letters' := String.toList_inj.mp h
  obtain rfl : u = u' := TimeUnit.alias_unique u u' letters listed listed'
  rfl

theorem Numeral.eq_of_digits {n n' : Numeral} (h : n.digits = n'.digits) : n = n' := by
  cases n
  cases n'
  simpa using h

theorem Numeral.stops_alpha (n : Numeral) : Stops Char.isAlpha n.digits := by
  simpa using stops_of_all [] n.nonempty n.decimal fun _ => isAlpha_of_isDigit

theorem Word.stops_digit (w : Word) : Stops Char.isDigit w.letters.toList := by
  simpa using stops_of_all [] w.nonempty w.alpha fun _ => isDigit_of_isAlpha

theorem Piece.chars_injective : Function.Injective Piece.chars := by
  have hsnap : ∀ w w' : Word, ∀ n : Numeral, w.letters.toList ≠ w'.letters.toList ++ n.digits := by
    intro w w' n h
    have hc := run_append_inj (show w.letters.toList ++ [] = _ by simpa using h) w.alpha w'.alpha
      (by simp [Stops]) n.stops_alpha
    exact n.nonempty hc.2.symm
  have hhead : ∀ sign n w cs, (Piece.delta sign n w).chars ≠ '@' :: cs := by
    intro sign n w cs h
    obtain ⟨c, cs', hcs, -, hat, -⟩ := Piece.delta_head sign n w []
    rw [List.append_nil, h] at hcs
    exact hat (List.cons.inj hcs).1.symm
  intro p q h
  cases p with
  | snap w =>
    cases q with
    | snap w' => rw [Word.eq_of_letters (List.cons.inj h).2]
    | weekday w' n' _ _ => exact absurd (List.cons.inj h).2 (hsnap w w' n')
    | delta sign' n' w' => exact absurd h.symm (hhead sign' n' w' _)
  | weekday w n hw hn =>
    cases q with
    | snap w' => exact absurd (List.cons.inj h).2.symm (hsnap w' w n)
    | weekday w' n' _ _ =>
      have hc := run_append_inj (List.cons.inj h).2 w.alpha w'.alpha n.stops_alpha n'.stops_alpha
      obtain rfl := Word.eq_of_letters hc.1
      obtain rfl := Numeral.eq_of_digits hc.2
      rfl
    | delta sign' n' w' => exact absurd h.symm (hhead sign' n' w' _)
  | delta sign n w =>
    cases q with
    | snap w' => exact absurd h (hhead sign n w _)
    | weekday w' n' _ _ => exact absurd h (hhead sign n w _)
    | delta sign' n' w' =>
      have htail : sign = sign' →
          n.digits ++ w.letters.toList = n'.digits ++ w'.letters.toList := by
        rintro rfl
        exact List.append_cancel_left h
      have hsign : sign = sign' := by
        obtain ⟨c, cs, hcs, -, -, hsigned, hunsigned⟩ := Piece.delta_head sign n w []
        obtain ⟨c', cs', hcs', -, -, hsigned', hunsigned'⟩ := Piece.delta_head sign' n' w' []
        have hc : c = c' := by
          rw [h, hcs'] at hcs
          exact (List.cons.inj hcs).1.symm
        rcases sign with _ | sign <;> rcases sign' with _ | sign'
        · rfl
        · have := hunsigned rfl
          rw [hc, hsigned' (by simp)] at this
          cases this
        · have := hunsigned' rfl
          rw [← hc, hsigned (by simp)] at this
          cases this
        · cases sign <;> cases sign' <;> first | rfl | simp [Piece.chars, Sign.symbol] at h
      have hc := run_append_inj (htail hsign) n.decimal n'.decimal w.stops_digit w'.stops_digit
      obtain rfl := hsign
      obtain rfl := Numeral.eq_of_digits hc.1
      obtain rfl := Word.eq_of_letters hc.2
      rfl

theorem joinable_unique {ps qs : List Piece} (hp : Joinable ps) (hq : Joinable qs)
    (h : ps.flatMap Piece.chars = qs.flatMap Piece.chars) : ps = qs := by
  have hne : ∀ q : Piece, q.chars ≠ [] := by
    intro q hq
    cases q with
    | delta sign n w => simp [Piece.chars, n.nonempty] at hq
    | _ => simp [Piece.chars] at hq
  induction ps generalizing qs with
  | nil =>
    cases qs with
    | nil => rfl
    | cons q qs => simp [hne q] at h
  | cons p ps ih =>
    cases qs with
    | nil => simp [hne p] at h
    | cons q qs =>
      have hreadp := readToken_piece p ((p.ends_iff ps).mpr (List.isChain_cons.mp hp).1)
      have hreadq := readToken_piece q ((q.ends_iff qs).mpr (List.isChain_cons.mp hq).1)
      simp only [List.flatMap_cons] at h
      rw [h, hreadq] at hreadp
      simp only [Except.ok.injEq, Prod.mk.injEq] at hreadp
      rw [hreadp.2] at h
      rw [Piece.chars_injective (List.append_cancel_right h),
        ih (List.isChain_cons.mp hp).2 (List.isChain_cons.mp hq).2 hreadp.2.symm]

/-! ### Whole instructions -/

theorem parse_eq_ok_iff {s : String} {ts : List Token} :
    parse s = .ok ts ↔ readTokens s.toList = .ok ts := by
  unfold parse
  cases readTokens s.toList <;> simp [Except.mapError]

theorem parse_spell_iff {ps : List Piece} {ts : List Token} :
    parse (spell ps) = .ok ts ↔ Joinable ps ∧ ps.map Piece.token = ts := by
  rw [parse_eq_ok_iff, spell, String.toList_ofList, readTokens_spelled_iff]

theorem Piece.Respelled.same {p q : Piece} (h : p.Respelled q) :
    p.token = q.token ∧ ∀ r : Piece, (p.Joins r ↔ q.Joins r) ∧ (r.Joins p ↔ r.Joins q) := by
  rcases p with w | ⟨w, n, hw, hn⟩ | ⟨sign, n, w⟩ <;>
    rcases q with w' | ⟨w', n', hw', hn'⟩ | ⟨sign', n', w'⟩ <;>
    simp only [Piece.Respelled] at h
  · exact ⟨by simp [Piece.token, h],
      fun r => by rcases r with _ | _ | ⟨_ | _, _, _⟩ <;> simp [Piece.Joins]⟩
  · subst h
    exact ⟨by simp [Piece.token, hw, hw'],
      fun r => by rcases r with _ | _ | ⟨_ | _, _, _⟩ <;> simp [Piece.Joins]⟩
  · obtain ⟨rfl, rfl, h⟩ := h
    refine ⟨by simp [Piece.token, h], fun r => ?_⟩
    rcases sign with _ | _ <;> rcases r with _ | _ | ⟨_ | _, _, _⟩ <;> simp [Piece.Joins]

theorem respelled_rows {ps qs : List Piece} (h : List.Forall₂ Piece.Respelled ps qs) :
    ps.map Piece.token = qs.map Piece.token ∧ (Joinable ps ↔ Joinable qs) := by
  induction h with
  | nil => exact ⟨rfl, Iff.rfl⟩
  | @cons p q ps qs hpq hrest ih =>
    refine ⟨by simp [hpq.same.1, ih.1], ?_⟩
    have hhead : (∀ r ∈ ps.head?, p.Joins r) ↔ ∀ r ∈ qs.head?, q.Joins r := by
      cases hrest with
      | nil => simp
      | @cons p' q' ps' qs' hpq' _ =>
        simpa using (hpq.same.2 p').1.trans (hpq'.same.2 q).2
    unfold Joinable at ih ⊢
    rw [List.isChain_cons, List.isChain_cons, hhead, ih.2]

/-- An instruction is readable exactly if it is a joinable row of pieces; the row is then unique and
its values are the tokens read. Which word names a unit makes no difference. -/
theorem parse_accepts_joinable_pieces :
    (∀ s ts, parse s = .ok ts ↔
      ∃ ps, Joinable ps ∧ spell ps = s ∧ ps.map Piece.token = ts) ∧
    (∀ ps qs, Joinable ps → Joinable qs → spell ps = spell qs → ps = qs) ∧
    ∀ ps qs, List.Forall₂ Piece.Respelled ps qs →
      ∀ ts, parse (spell ps) = .ok ts ↔ parse (spell qs) = .ok ts := by
  refine ⟨fun s ts => ?_, fun ps qs hp hq h => ?_, fun ps qs h ts => ?_⟩
  · constructor
    · intro h
      obtain ⟨ps, hj, hcs, hts⟩ := pieces_of_readTokens (parse_eq_ok_iff.mp h)
      exact ⟨ps, hj, by rw [spell, hcs, String.ofList_toList], hts⟩
    · rintro ⟨ps, hj, rfl, rfl⟩
      exact parse_spell_iff.mpr ⟨hj, rfl⟩
  · exact joinable_unique hp hq (String.ofList_injective h)
  · rw [parse_spell_iff, parse_spell_iff, (respelled_rows h).1, (respelled_rows h).2]

end Instruction

end RelativeTime
