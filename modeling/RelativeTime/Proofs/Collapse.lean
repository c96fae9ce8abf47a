import RelativeTime.Proofs.Instruction.Rendering
import RelativeTime.Reconstruction

/-! What a collapse keeps of a chain. The chain may have its units in any order and any number of
times, and snaps and positive deltas among its negative ones. -/
namespace RelativeTime

namespace Token

def isOn (u : TimeUnit) (t : Token) : Bool := t.shifts (· == u)

def isCoarser (u : TimeUnit) (t : Token) : Bool := t.shifts fun v => u < v

theorem isCoarser_of_isOn {t : Token} {u : TimeUnit} (h : t.isOn u = true) :
    t.isCoarser u = false := by
  cases t with
  | delta d =>
    have hunit : d.unit = u := eq_of_beq h
    exact decide_eq_false (hunit ▸ Nat.lt_irrefl _)
  | snap s => rfl

end Token

/-- The tokens end in a run of negative deltas, which is as long as it can be. -/
structure EndsBackward (tokens head run : List Token) : Prop where
  split : tokens = head ++ run
  negative : ∀ t ∈ run, t.isNegative = true
  longest : ∀ t, head.getLast? = some t → t.isNegative = false

structure LastOn (u : TimeUnit) (run before : List Token) (last : Token) (after : List Token) :
    Prop where
  split : run = before ++ last :: after
  on_unit : last.isOn u = true
  none_after : ∀ t ∈ after, t.isOn u = false

theorem exists_endsBackward (tokens : List Token) : ∃ head run, EndsBackward tokens head run := by
  induction tokens with
  | nil => exact ⟨[], [], rfl, by simp, by simp⟩
  | cons t tokens ih =>
    obtain ⟨head, run, hsplit, hneg, hlong⟩ := ih
    cases head with
    | cons first head =>
      refine ⟨t :: first :: head, run, by rw [hsplit]; rfl, hneg, fun s hs => ?_⟩
      rw [List.getLast?_cons_cons] at hs
      exact hlong s hs
    | nil =>
      -- The run goes on to the front if and only if the new token is one of its kind.
      cases ht : t.isNegative with
      | true =>
        refine ⟨[], t :: run, by rw [hsplit, List.nil_append, List.nil_append], ?_, by simp⟩
        exact List.forall_mem_cons.mpr ⟨ht, hneg⟩
      | false =>
        refine ⟨[t], run, by rw [hsplit]; rfl, hneg, fun s hs => ?_⟩
        obtain rfl : t = s := Option.some.inj hs
        exact ht

theorem exists_lastOn {u : TimeUnit} {run : List Token} (h : ∃ t ∈ run, t.isOn u = true) :
    ∃ before last after, LastOn u run before last after := by
  induction run with
  | nil => simp at h
  | cons t run ih =>
    by_cases hrest : ∃ t ∈ run, t.isOn u = true
    · obtain ⟨before, last, after, hsplit, hon, hafter⟩ := ih hrest
      exact ⟨t :: before, last, after, by rw [hsplit, List.cons_append], hon, hafter⟩
    · have hnone : ∀ t ∈ run, t.isOn u = false := fun t ht =>
        Bool.eq_false_iff.mpr fun hon => hrest ⟨t, ht, hon⟩
      obtain ⟨s, hs, hon⟩ := h
      rcases List.mem_cons.mp hs with rfl | hs
      · exact ⟨[], s, run, rfl, hon, hnone⟩
      · exact absurd ⟨s, hs, hon⟩ hrest

section Tokens

variable {tokens head run before after : List Token} {last : Token} {u : TimeUnit}

theorem EndsBackward.reversed (h : EndsBackward tokens head run) :
    tokens.reverse.takeWhile Token.isNegative = run.reverse ∧
      (tokens.reverse.dropWhile Token.isNegative).reverse = head := by
  obtain ⟨rfl, hneg, hlong⟩ := h
  have hall : ∀ t ∈ run.reverse, t.isNegative = true := fun t ht => hneg t (List.mem_reverse.mp ht)
  rw [List.reverse_append, List.takeWhile_append_of_pos hall, List.dropWhile_append_of_pos hall]
  cases hhead : head.reverse with
  | nil =>
    rw [List.reverse_eq_nil_iff] at hhead
    rw [hhead]
    exact ⟨List.append_nil _, rfl⟩
  | cons first rest =>
    have hfirst : first.isNegative = false := by
      refine hlong first ?_
      rw [← List.head?_reverse, hhead, List.head?_cons]
    rw [List.takeWhile_cons_of_neg (by simp [hfirst]),
      List.dropWhile_cons_of_neg (by simp [hfirst]), List.append_nil, ← hhead, List.reverse_reverse]
    exact ⟨rfl, rfl⟩

theorem LastOn.reversed (h : LastOn u run before last after) :
    run.reverse.takeWhile (fun t => !t.isOn u) = after.reverse ∧
      run.reverse.dropWhile (fun t => !t.isOn u) = last :: before.reverse := by
  obtain ⟨rfl, hon, hafter⟩ := h
  have hpass : ∀ t ∈ after.reverse, (!t.isOn u) = true := fun t ht => by
    simp [hafter t (List.mem_reverse.mp ht)]
  rw [List.reverse_append, List.reverse_cons, List.append_assoc, List.singleton_append,
    List.takeWhile_append_of_pos hpass, List.dropWhile_append_of_pos hpass,
    List.takeWhile_cons_of_neg (by simp [hon]), List.dropWhile_cons_of_neg (by simp [hon]),
    List.append_nil]
  exact ⟨rfl, rfl⟩

theorem collapse?_of_none (h : EndsBackward tokens head run)
    (hnone : ∀ t ∈ run, t.isOn u = false) : collapse? tokens u = none := by
  have hdrop : run.reverse.dropWhile (fun t => !t.isOn u) = [] :=
    List.dropWhile_eq_nil_iff.mpr fun t ht => by simp [hnone t (List.mem_reverse.mp ht)]
  unfold Token.isOn at hdrop
  simp only [collapse?, h.reversed.1, hdrop]

/-- Of the run there stay the coarser deltas before the last one on the unit, and that one. -/
theorem collapse?_of_lastOn (h : EndsBackward tokens head run)
    (hl : LastOn u run before last after) : collapse? tokens u =
      some (head ++ before.filter (Token.isCoarser u) ++ [last, .snap ⟨u, none⟩]) := by
  have hdrop := hl.reversed.2
  unfold Token.isOn at hdrop
  simp only [collapse?, h.reversed.1, h.reversed.2, hdrop, List.reverse_reverse]
  rfl

theorem exists_kept {collapsed : List Token} (h : collapse? tokens u = some collapsed) :
    ∃ kept, kept.Sublist tokens ∧ collapsed = kept ++ [.snap ⟨u, none⟩] := by
  obtain ⟨head, run, hends⟩ := exists_endsBackward tokens
  by_cases hon : ∃ t ∈ run, t.isOn u = true
  · obtain ⟨before, last, after, hlast⟩ := exists_lastOn hon
    rw [collapse?_of_lastOn hends hlast] at h
    obtain rfl := Option.some.inj h
    refine ⟨head ++ (before.filter (Token.isCoarser u) ++ [last]), ?_, by simp⟩
    rw [hends.split, hlast.split]
    exact (List.filter_sublist.append (List.singleton_sublist.mpr List.mem_cons_self)).append_left _
  · have hnone : ∀ t ∈ run, t.isOn u = false := fun t ht =>
      Bool.eq_false_iff.mpr fun hu => hon ⟨t, ht, hu⟩
    rw [collapse?_of_none hends hnone] at h
    cases h

theorem renderable_collapse (h : ∀ t ∈ tokens, t.Renderable) (u : TimeUnit) :
    ∀ t ∈ (collapse? tokens u).getD tokens, t.Renderable := by
  cases hcollapse : collapse? tokens u with
  | none => exact h
  | some collapsed =>
    obtain ⟨kept, hkept, rfl⟩ := exists_kept hcollapse
    intro t ht
    rw [Option.getD_some, List.mem_append, List.mem_singleton] at ht
    rcases ht with ht | rfl
    · exact h t (hkept.subset ht)
    · simp [Token.Renderable]

theorem collapseText_eq {chain : String} (hp : parse chain = .ok tokens) (u : TimeUnit) :
    collapseText chain u = .ok (((collapse? tokens u).map render).getD chain) := by
  rw [collapseText, hp]
  rfl

theorem collapseText_render (h : ∀ t ∈ tokens, t.Renderable) (u : TimeUnit) :
    collapseText (render tokens) u = .ok (render ((collapse? tokens u).getD tokens)) := by
  rw [collapseText_eq (parse_render h), Option.getD_map]

/-- The coarser deltas of the whole run are those before the last delta on the unit, unless one
comes after it. -/
theorem filter_before_eq_iff (hl : LastOn u run before last after) :
    before.filter (Token.isCoarser u) = run.filter (Token.isCoarser u) ↔
      ∀ t ∈ after, t.isCoarser u = false := by
  rw [hl.split, List.filter_append,
    List.filter_cons_of_neg (by simp [Token.isCoarser_of_isOn hl.on_unit]),
    List.self_eq_append_right, List.filter_eq_nil_iff]
  simp only [Bool.not_eq_true]

theorem EndsBackward.renderable (h : EndsBackward tokens head run)
    (hl : LastOn u run before last after) (ht : ∀ t ∈ tokens, t.Renderable) :
    ∀ t ∈ head ++ before.filter (Token.isCoarser u) ++ [last, .snap ⟨u, none⟩], t.Renderable := by
  rw [h.split, hl.split] at ht
  intro t hmem
  simp only [List.mem_append, List.mem_cons, List.not_mem_nil, or_false] at hmem ht
  rcases hmem with (hhead | hkept) | rfl | rfl
  · exact ht t (.inl hhead)
  · exact ht t (.inr (.inl (List.mem_filter.mp hkept).1))
  · exact ht t (.inr (.inr (.inl rfl)))
  · intro n hn
    cases hn

end Tokens

/-- What the collapse of a chain on a unit reads as. The chain stays as it is written if the run
that it ends in has no delta on the unit. Otherwise what comes before the run stays, then the
run's coarser deltas before its last delta on the unit, then that delta, and a snap on the unit
ends it. So all coarser deltas of the run are kept if and only if none of them comes after the
last delta on the unit. -/
theorem collapseText_keeps {chain : String} {tokens : List Token} (hp : parse chain = .ok tokens)
    (u : TimeUnit) : ∃ head run, EndsBackward tokens head run ∧
      ((∀ t ∈ run, t.isOn u = false) → collapseText chain u = .ok chain) ∧
      ((∃ t ∈ run, t.isOn u = true) → ∃ before last after text, LastOn u run before last after ∧
        collapseText chain u = .ok text ∧
        parse text =
          .ok (head ++ before.filter (Token.isCoarser u) ++ [last, .snap ⟨u, none⟩]) ∧
        (parse text = .ok (head ++ run.filter (Token.isCoarser u) ++ [last, .snap ⟨u, none⟩]) ↔
          ∀ t ∈ after, t.isCoarser u = false)) := by
  obtain ⟨head, run, hends⟩ := exists_endsBackward tokens
  have htext := collapseText_eq hp u
  refine ⟨head, run, hends, fun hnone => ?_, fun hsome => ?_⟩
  · rw [htext, collapse?_of_none hends hnone]
    rfl
  · obtain ⟨before, last, after, hlast⟩ := exists_lastOn hsome
    have hparse := parse_render (hends.renderable hlast (renderable_of_parse hp))
    rw [collapse?_of_lastOn hends hlast] at htext
    refine ⟨before, last, after, _, hlast, htext, hparse, ?_⟩
    rw [Option.map_some, Option.getD_some, hparse, Except.ok.injEq, List.append_left_inj,
      List.append_right_inj, filter_before_eq_iff hlast]

/-- Units in no order, some of them twice, after a snap: all coarser deltas of the run are kept.
On a unit that the run does not have, the chain stays as it is written. -/
theorem collapseText_keeps_mixed :
    ∃ head run before last after, EndsBackward (head ++ run) head run ∧
      parse "1year@mon-2d-1y-3h-1months-4days-5m" = .ok (head ++ run) ∧
      head.map Token.text = ["+1y", "@mon"] ∧
      run.map Token.text = ["-2d", "-1y", "-3h", "-1mon", "-4d", "-5m"] ∧
      LastOn .days run before last after ∧
      collapseText "1year@mon-2d-1y-3h-1months-4days-5m" .days = .ok "+1y@mon-1y-1mon-4d@d" ∧
      parse "+1y@mon-1y-1mon-4d@d" =
        .ok (head ++ run.filter (Token.isCoarser .days) ++ [last, .snap ⟨.days, none⟩]) ∧
      collapseText "1year@mon-2d-1y-3h-1months-4days-5m" .weeks =
        .ok "1year@mon-2d-1y-3h-1months-4days-5m" := by
  let head : List Token := [.delta ⟨.plus, 1, .years, by decide⟩, .snap ⟨.months, none⟩]
  let run : List Token := [.delta ⟨.minus, 2, .days, by decide⟩,
    .delta ⟨.minus, 1, .years, by decide⟩, .delta ⟨.minus, 3, .hours, by decide⟩,
    .delta ⟨.minus, 1, .months, by decide⟩, .delta ⟨.minus, 4, .days, by decide⟩,
    .delta ⟨.minus, 5, .minutes, by decide⟩]
  have hparse : parse "1year@mon-2d-1y-3h-1months-4days-5m" = .ok (head ++ run) := by
    decide +kernel
  have hunique {head' run' : List Token} (h : EndsBackward (head ++ run) head' run') :
      head' = head ∧ run' = run :=
    ⟨h.reversed.2.symm, List.reverse_injective h.reversed.1.symm⟩
  obtain ⟨head', run', hends, -, hsome⟩ := collapseText_keeps hparse .days
  obtain ⟨rfl, rfl⟩ := hunique hends
  obtain ⟨before, last, after, text, hlast, htext, -, hkept⟩ := hsome (by decide)
  obtain ⟨head', run', hends', hstays, -⟩ := collapseText_keeps hparse .weeks
  obtain ⟨rfl, rfl⟩ := hunique hends'
  have hcollapsed : collapseText "1year@mon-2d-1y-3h-1months-4days-5m" .days =
      .ok "+1y@mon-1y-1mon-4d@d" := by decide +kernel
  obtain rfl := Except.ok.inj (hcollapsed.symm.trans htext)
  have hafter : after = [.delta ⟨.minus, 5, .minutes, by decide⟩] :=
    List.reverse_injective hlast.reversed.1.symm
  have hfiner : ∀ t ∈ after, t.isCoarser .days = false := by
    rw [hafter]
    decide
  exact ⟨head, run, before, last, after, hends, hparse, by decide +kernel, by decide +kernel, hlast,
    hcollapsed, hkept.mpr hfiner, hstays (by decide)⟩

/-- A year behind the days is dropped, though it is coarser. -/
theorem collapseText_drops_coarser :
    ∃ run before last after, parse "-1d-1y" = .ok run ∧ EndsBackward run [] run ∧
      LastOn .days run before last after ∧ collapseText "-1d-1y" .days = .ok "-1d@d" ∧
      parse "-1d@d" ≠ .ok (run.filter (Token.isCoarser .days) ++ [last, .snap ⟨.days, none⟩]) := by
  let day : Token := .delta ⟨.minus, 1, .days, by decide⟩
  let year : Token := .delta ⟨.minus, 1, .years, by decide⟩
  have hends : EndsBackward [day, year] [] [day, year] :=
    ⟨rfl, List.all_eq_true.mp rfl, fun _ h => by cases h⟩
  have hlast : LastOn .days [day, year] [] day [year] := ⟨rfl, rfl, by decide⟩
  exact ⟨[day, year], [], day, [year], by decide +kernel, hends, hlast, by decide +kernel,
    by decide +kernel⟩

end RelativeTime
