import RelativeTime.Proofs.Instruction.Grammar

/-! Where the reading of an instruction stops. What comes before has been read, token by token,
and reads the same by itself. What is reported is then one of three things about the text behind
it: that nothing longer can be read, a word that names no unit, or the number of a weekday that
there is not. -/
namespace RelativeTime

namespace Instruction

structure WholeRun (p : Char → Bool) (run rest : List Char) : Prop where
  nonempty : run ≠ []
  all : ∀ c ∈ run, p c = true
  stops : Stops p rest

def Unknown (letters : List Char) : Prop := ∀ u : TimeUnit, String.ofList letters ∉ u.aliases

/-- The text begins like a token, whose word is no unit's or whose weekday there is not. The error
cites that much of it. -/
inductive Misnamed : List Char → Error → Prop where
  | snap {letters rest : List Char} (run : WholeRun Char.isAlpha letters rest)
      (unknown : Unknown letters) :
      Misnamed ('@' :: (letters ++ rest)) (.unknownUnit (String.ofList letters))
  | shift (sign : Option Sign) (n : Numeral) {letters rest : List Char}
      (run : WholeRun Char.isAlpha letters rest) (unknown : Unknown letters) :
      Misnamed ((sign.map Sign.symbol).toList ++ (n.digits ++ (letters ++ rest)))
        (.unknownUnit (String.ofList letters))
  | weekday (w : Word) (weekly : w.unit = .weeks) (n : Numeral) {rest : List Char}
      (run : WholeRun Char.isDigit n.digits rest) (beyond : 7 < n.value) :
      Misnamed ('@' :: (w.letters.toList ++ (n.digits ++ rest)))
        (.badWeekday (String.ofList n.digits))

variable {cs rest more : List Char} {p : Piece} {ps : List Piece} {f : Flaw}

theorem wholeRun_takeWhile {p : Char → Bool} (h : cs.takeWhile p ≠ []) :
    WholeRun p (cs.takeWhile p) (cs.dropWhile p) :=
  ⟨h, fun _ hc => List.mem_takeWhile_imp hc, stops_dropWhile p cs⟩

theorem unknown_of_unitNamed? {letters : List Char} (h : unitNamed? letters = none) :
    Unknown letters := by
  intro u hu
  rw [unitNamed?, TimeUnit.ofAlias?_eq_some_iff.mpr hu] at h
  cases h

/-! ### One token -/

/-- How the first token of a text is flawed. Digits behind a snap on other than weeks are told from
the snap, which is none the worse for them. -/
inductive Flawed : List Char → Flaw → Prop where
  | noPiece {rest : List Char} (absent : ∀ p : Piece, ¬ p.chars <+: rest) :
      Flawed rest (.unmatched rest)
  | digits (w : Word) (other : w.unit ≠ .weeks) {digits rest : List Char}
      (run : WholeRun Char.isDigit digits rest) :
      Flawed ('@' :: (w.letters.toList ++ (digits ++ rest))) (.unmatched (digits ++ rest))
  | misnamed {rest : List Char} {f : Flaw}
      (h : ∀ instruction, Misnamed rest (f.inInstruction instruction)) : Flawed rest f

theorem Word.not_stops (w : Word) (rest : List Char) :
    ¬ Stops Char.isAlpha (w.letters.toList ++ rest) := by
  intro h
  obtain ⟨c, letters, hc⟩ := List.exists_cons_of_ne_nil w.nonempty
  have hstop := h c (by simp [hc])
  rw [w.alpha c (by simp [hc])] at hstop
  cases hstop

theorem not_chars_prefix_at (h : Stops Char.isAlpha cs) (p : Piece) : ¬ p.chars <+: '@' :: cs := by
  rintro ⟨tail, htail⟩
  cases p with
  | snap w =>
    rw [← (List.cons.inj htail).2] at h
    exact w.not_stops tail h
  | weekday w n _ _ =>
    rw [← (List.cons.inj htail).2, List.append_eq, List.append_assoc] at h
    exact w.not_stops _ h
  | delta sign n w =>
    obtain ⟨c, cs', hcs, -, hat, -⟩ := Piece.delta_head sign n w tail
    rw [htail] at hcs
    exact hat (List.cons.inj hcs).1.symm

theorem not_chars_prefix_of_incomplete (hat : cs.head? ≠ some '@')
    (h : digitRun (readSign cs).2 = [] ∨ letterRun (afterDigits (readSign cs).2) = [])
    (p : Piece) : ¬ p.chars <+: cs := by
  rintro ⟨tail, rfl⟩
  cases p with
  | snap w => simp [Piece.chars] at hat
  | weekday w n _ _ => simp [Piece.chars] at hat
  | delta sign n w =>
    have hstop : Stops Char.isDigit (w.letters.toList ++ tail) :=
      stops_of_all _ w.nonempty w.alpha fun _ => isDigit_of_isAlpha
    simp only [readSign_piece, digitRun, letterRun, afterDigits, takeWhile_of_stops n.decimal hstop,
      dropWhile_of_stops n.decimal hstop, n.nonempty, false_or] at h
    obtain ⟨c, letters, hc⟩ := List.exists_cons_of_ne_nil w.nonempty
    simp [hc, w.alpha c (by simp [hc])] at h

theorem flawed_of_readSnap (h : readSnap cs = .error f) : Flawed ('@' :: cs) f := by
  have hcut : letterRun cs ++ afterLetters cs = cs := List.takeWhile_append_dropWhile
  have hcut' : digitRun (afterLetters cs) ++ afterDigits (afterLetters cs) = afterLetters cs :=
    List.takeWhile_append_dropWhile
  simp only [readSnap] at h
  split at h
  · rename_i hnone
    obtain rfl := Except.error.inj h
    have hstop : Stops Char.isAlpha (afterLetters cs) := stops_dropWhile Char.isAlpha cs
    rw [hnone, List.nil_append] at hcut
    exact .noPiece (not_chars_prefix_at (hcut ▸ hstop))
  rename_i hletters
  have hrun : WholeRun Char.isAlpha (letterRun cs) (afterLetters cs) := wholeRun_takeWhile hletters
  cases hu : unitNamed? (letterRun cs) with
  | none =>
    simp only [hu, Except.error.injEq] at h
    subst h
    refine .misnamed fun _ => ?_
    have hsnap := Misnamed.snap hrun (unknown_of_unitNamed? hu)
    rwa [hcut] at hsnap
  | some u =>
    obtain ⟨w, hwu, hw⟩ := exists_word hu
    simp only [hu] at h
    split at h
    · cases h
    rename_i hdigits
    have hrun' : WholeRun Char.isDigit (digitRun (afterLetters cs))
      (afterDigits (afterLetters cs)) := wholeRun_takeWhile hdigits
    split at h
    · rename_i hother
      obtain rfl := Except.error.inj h
      have hsnap := Flawed.digits w (hwu ▸ hother) hrun'
      rwa [hcut', hw, hcut] at hsnap
    rename_i hweeks
    split at h
    · rename_i hbeyond
      obtain rfl := Except.error.inj h
      refine .misnamed fun _ => ?_
      have hsnap := Misnamed.weekday w (hwu.trans (not_not.mp hweeks))
        ⟨digitRun (afterLetters cs), hdigits, hrun'.all⟩ hrun' hbeyond
      rwa [hcut', hw, hcut] at hsnap
    · cases h

theorem flawed_of_readDelta (hat : cs.head? ≠ some '@') (h : readDelta cs = .error f) :
    Flawed cs f := by
  obtain ⟨sign, -, hcs⟩ := readSign_chars cs
  have hcut : digitRun (readSign cs).2 ++ afterDigits (readSign cs).2 = (readSign cs).2 :=
    List.takeWhile_append_dropWhile
  have hcut' : letterRun (afterDigits (readSign cs).2) ++
      afterLetters (afterDigits (readSign cs).2) = afterDigits (readSign cs).2 :=
    List.takeWhile_append_dropWhile
  simp only [readDelta] at h
  split at h
  · rename_i hnone
    obtain rfl := Except.error.inj h
    exact .noPiece (not_chars_prefix_of_incomplete hat hnone)
  rename_i hsome
  obtain ⟨hdigits, hletters⟩ := not_or.mp hsome
  have hrun : WholeRun Char.isAlpha (letterRun (afterDigits (readSign cs).2))
    (afterLetters (afterDigits (readSign cs).2)) := wholeRun_takeWhile hletters
  cases hu : unitNamed? (letterRun (afterDigits (readSign cs).2)) with
  | none =>
    simp only [hu, Except.error.injEq] at h
    subst h
    refine .misnamed fun _ => ?_
    have hshift := Misnamed.shift sign
      ⟨digitRun (readSign cs).2, hdigits, (wholeRun_takeWhile hdigits).all⟩ hrun
      (unknown_of_unitNamed? hu)
    rwa [hcut', hcut, ← hcs] at hshift
  | some u =>
    simp only [hu, reduceCtorEq] at h

theorem flawed_of_readToken (h : readToken cs = .error f) : Flawed cs f := by
  unfold readToken at h
  split at h
  · rename_i cs
    cases hs : readSnap cs with
    | error f' =>
      simp only [hs, Except.map, Except.error.injEq] at h
      exact flawed_of_readSnap (h ▸ hs)
    | ok q => simp [hs, Except.map] at h
  · rename_i hat
    cases hd : readDelta cs with
    | error f' =>
      simp only [hd, Except.map, Except.error.injEq] at h
      refine flawed_of_readDelta (fun hhead => ?_) (h ▸ hd)
      obtain ⟨cs', rfl⟩ := List.head?_eq_some_iff.mp hhead
      exact hat cs' rfl
    | ok q => simp [hd, Except.map] at h

/-! ### The tokens before it -/

def CutBefore : List Piece → List Char → Prop
  | [], _ => True
  | p :: ps, rest => p.Ends (ps.flatMap Piece.chars ++ rest) ∧ CutBefore ps rest

theorem Stops.of_head {p : Char → Bool} (h : Stops p rest) (hm : ∀ c ∈ more.head?, c ∈ rest.head?) :
    Stops p more :=
  fun c hc => h c (hm c hc)

theorem Piece.Ends.of_head (h : p.Ends rest) (hm : ∀ c ∈ more.head?, c ∈ rest.head?) :
    p.Ends more := by
  cases p with
  | snap w => exact ⟨h.1.of_head hm, h.2.of_head hm⟩
  | weekday w n _ _ => exact Stops.of_head h hm
  | delta sign n w => exact Stops.of_head h hm

theorem Piece.ends_nil (p : Piece) : p.Ends [] := by
  cases p <;> simp [Piece.Ends, Stops]

theorem CutBefore.of_head (h : CutBefore ps rest) (hm : ∀ c ∈ more.head?, c ∈ rest.head?) :
    CutBefore ps more := by
  induction ps with
  | nil => trivial
  | cons p ps ih =>
    refine ⟨h.1.of_head fun c hc => ?_, ih h.2⟩
    cases hps : ps.flatMap Piece.chars with
    | nil =>
      rw [hps] at hc
      exact hm c hc
    | cons d cs =>
      rw [hps] at hc
      exact hc

theorem CutBefore.concat (h : CutBefore ps (p.chars ++ rest)) (hp : p.Ends rest) :
    CutBefore (ps ++ [p]) rest := by
  induction ps with
  | nil => exact ⟨hp, trivial⟩
  | cons q ps ih =>
    refine ⟨?_, ih h.2⟩
    rw [List.append_eq, List.flatMap_append, List.flatMap_singleton, List.append_assoc]
    exact h.1

theorem head_of_beginning (h : more <+: rest) : ∀ c ∈ more.head?, c ∈ rest.head? := by
  obtain ⟨tail, rfl⟩ := h
  intro c hc
  obtain ⟨cs, rfl⟩ := List.head?_eq_some_iff.mp hc
  rfl

theorem readTokens_of_cutBefore (h : CutBefore ps rest) :
    readTokens (ps.flatMap Piece.chars ++ rest) =
      (readTokens rest).map (ps.map Piece.token ++ ·) := by
  induction ps with
  | nil => cases hr : readTokens rest <;> simp [hr, Except.map]
  | cons p ps ih =>
    rw [List.flatMap_cons, List.append_assoc, readTokens_of_readToken (readToken_piece p h.1),
      ih h.2]
    cases readTokens rest <;> rfl

theorem cutBefore_of_readTokens (h : readTokens cs = .error f) :
    ∃ ps rest, cs = ps.flatMap Piece.chars ++ rest ∧ CutBefore ps rest ∧ rest ≠ [] ∧
      readToken rest = .error f := by
  fun_induction readTokens cs generalizing f with
  | case1 => cases h
  | case2 c cs f' hf =>
    obtain rfl := Except.error.inj h
    exact ⟨[], c :: cs, rfl, trivial, List.cons_ne_nil c cs, hf⟩
  | case3 c cs t rest hr f' hf ih =>
    obtain rfl := Except.error.inj h
    obtain ⟨p, -, hcs, hp⟩ := readToken_eq_ok_iff.mp hr
    obtain ⟨ps, rest', rfl, hcut, hne, hflaw⟩ := ih hf
    exact ⟨p :: ps, rest', by rw [hcs, List.flatMap_cons, List.append_assoc], ⟨hp, hcut⟩, hne,
      hflaw⟩
  | case4 c cs t rest hr ts hts ih => cases h

theorem parse_spell_append_ne_ok (h : CutBefore ps rest) (hrest : ∀ ts, readTokens rest ≠ .ok ts)
    (ts : List Token) : parse (spell ps ++ String.ofList rest) ≠ .ok ts := by
  rw [Ne, parse_eq_ok_iff, String.toList_append, spell, String.toList_ofList, String.toList_ofList,
    readTokens_of_cutBefore h]
  cases hr : readTokens rest with
  | ok ts' => exact absurd hr (hrest ts')
  | error f => simp [Except.map]

theorem parse_spell_of_cutBefore (h : CutBefore ps rest) :
    parse (spell ps) = .ok (ps.map Piece.token) := by
  have hcut : CutBefore ps [] := h.of_head nofun
  have hread := readTokens_of_cutBefore hcut
  rw [List.append_nil] at hread
  rw [parse_eq_ok_iff, spell, String.toList_ofList, hread, readTokens]
  simp [Except.map]

theorem readTokens_ne_ok_of_noPiece (absent : ∀ p : Piece, ¬ p.chars <+: rest) (hne : more ≠ [])
    (hm : more <+: rest) (ts : List Token) : readTokens more ≠ .ok ts := by
  intro h
  obtain ⟨ps, -, rfl, -⟩ := pieces_of_readTokens h
  cases ps with
  | nil => exact hne rfl
  | cons p ps => exact absent p ((List.prefix_append p.chars _).trans hm)

theorem readTokens_of_flaw (hne : cs ≠ []) (h : readToken cs = .error f) :
    readTokens cs = .error f := by
  cases cs with
  | nil => exact absurd rfl hne
  | cons c cs =>
    rw [readTokens]
    split
    · rename_i f' hf
      exact congrArg _ (Except.error.inj (hf.symm.trans h))
    · rename_i t rest hr
      cases hr.symm.trans h

theorem readTokens_snap_digits {w : Word} (other : w.unit ≠ .weeks) {digits : List Char}
    (run : WholeRun Char.isDigit digits rest) (hne : more ≠ []) (hm : more <+: digits ++ rest)
    (ts : List Token) : readTokens ('@' :: (w.letters.toList ++ more)) ≠ .ok ts := by
  obtain ⟨c, cs, rfl⟩ := List.exists_cons_of_ne_nil hne
  have hdigit : c.isDigit = true := by
    obtain ⟨d, digits', rfl⟩ := List.exists_cons_of_ne_nil run.nonempty
    obtain ⟨rfl, -⟩ := List.cons_prefix_cons.mp hm
    exact run.all c (by simp)
  have hrun : WholeRun Char.isDigit ((c :: cs).takeWhile Char.isDigit)
      ((c :: cs).dropWhile Char.isDigit) := wholeRun_takeWhile (by simp [hdigit])
  have hsnap := readSnap_word w hrun.all hrun.stops fun h => absurd h hrun.nonempty
  rw [List.takeWhile_append_dropWhile, if_neg hrun.nonempty, if_pos other] at hsnap
  have hflaw :
      readToken ('@' :: (w.letters.toList ++ c :: cs)) = .error (.unmatched (c :: cs)) := by
    rw [readToken, hsnap]
    rfl
  intro h
  cases (readTokens_of_flaw (List.cons_ne_nil _ _) hflaw).symm.trans h

theorem parse_eq_error_iff {s : String} {e : Error} :
    parse s = .error e ↔ ∃ f, readTokens s.toList = .error f ∧ f.inInstruction s = e := by
  unfold parse
  cases readTokens s.toList <;> simp [Except.mapError]

/-- An instruction that cannot be read begins with one that can, and the error is about the text
behind that: either no more of it can be read at all, and it is cited to its end, or it begins like
a token and the part that names nothing is cited. -/
theorem parse_error_pointsAt {s : String} {e : Error} (h : parse s = .error e) :
    ∃ (done : String) (rest : List Char) (ts : List Token), s = done ++ String.ofList rest ∧
      rest ≠ [] ∧ parse done = .ok ts ∧
      (e = .unreadableInstruction s (String.ofList rest) ∧
          (∀ more, more ≠ [] → more <+: rest → ∀ ts, parse (done ++ String.ofList more) ≠ .ok ts) ∨
        Misnamed rest e) := by
  obtain ⟨f, hread, rfl⟩ := parse_eq_error_iff.mp h
  obtain ⟨ps, rest, hs, hcut, hne, hflaw⟩ := cutBefore_of_readTokens hread
  have htext : s = spell ps ++ String.ofList rest := by
    rw [spell, ← String.ofList_append, ← hs, String.ofList_toList]
  have hdone := parse_spell_of_cutBefore hcut
  cases flawed_of_readToken hflaw with
  | noPiece absent =>
    refine ⟨_, rest, _, htext, hne, hdone, .inl ⟨rfl, fun more hmore hm => ?_⟩⟩
    exact parse_spell_append_ne_ok (hcut.of_head (head_of_beginning hm))
      (readTokens_ne_ok_of_noPiece absent hmore hm)
  | @digits w other digits rest run =>
    -- The snap has been read, too, and it is the digits that are not.
    have hsnaps : CutBefore (ps ++ [.snap w]) [] :=
      CutBefore.concat (hcut.of_head fun c hc => hc) (Piece.ends_nil _)
    have hsnap (more : List Char) : spell (ps ++ [.snap w]) ++ String.ofList more =
        spell ps ++ String.ofList ('@' :: (w.letters.toList ++ more)) := by
      simp [spell, Piece.chars, String.append_assoc]
    refine ⟨_, digits ++ rest, _, htext.trans (hsnap _).symm, by simp [run.nonempty],
      parse_spell_of_cutBefore hsnaps, .inl ⟨rfl, fun more hmore hm => ?_⟩⟩
    rw [hsnap]
    exact parse_spell_append_ne_ok (hcut.of_head fun c hc => hc)
      (readTokens_snap_digits other run hmore hm)
  | misnamed hnamed => exact ⟨_, rest, _, htext, hne, hdone, .inr (hnamed s)⟩

/-- Behind a snap on years, digits are cited, and all that comes after them. The snap is read. -/
theorem parse_error_pointsAt_digits :
    parse "+5d@y3d" = .error (.unreadableInstruction "+5d@y3d" "3d") ∧
      (∃ ts, parse "+5d@y" = .ok ts) ∧
      ∀ more, more ≠ [] → more <+: "3d".toList → ∀ ts,
        parse ("+5d@y" ++ String.ofList more) ≠ .ok ts := by
  have herror : parse "+5d@y3d" = .error (.unreadableInstruction "+5d@y3d" "3d") := by
    decide +kernel
  obtain ⟨done, rest, ts, hs, -, hdone, ⟨he, hlongest⟩ | hnamed⟩ := parse_error_pointsAt herror
  · obtain rfl : "3d".toList = rest := by
      rw [(Error.unreadableInstruction.inj he).2, String.toList_ofList]
    obtain rfl : "+5d@y" = done := String.append_left_inj "3d" |>.mp hs
    exact ⟨herror, ⟨ts, hdone⟩, hlongest⟩
  · cases hnamed

end Instruction

end RelativeTime
