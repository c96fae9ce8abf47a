import RelativeTime.Proofs.Instruction.Grammar
import RelativeTime.Proofs.Timestamp.Reread

/-! One instruction after another. What the first leads to is written down and read again before the
second is followed, and yet the two lead where both in one lead: nothing that is cut off in writing
would have been seen, and where one text ends and the other begins no token is lost. -/
namespace RelativeTime

namespace Instruction

/-- The second instruction begins with digits that the snap at the end of the first would take for
a weekday. -/
def RunsInto (tokens : List Token) (second : String) : Prop :=
  (∃ s, tokens.getLast? = some (.snap s)) ∧ ∃ c ∈ second.toList.head?, c.isDigit = true

theorem Piece.joins_of_not {p q : Piece}
    (h : ¬ ((∃ s, p.token = .snap s) ∧ ∃ n w, q = .delta none n w)) : p.Joins q := by
  by_contra hjoins
  apply h
  rcases p with _ | _ | _ <;> rcases q with _ | _ | ⟨_ | _, n, w⟩ <;>
    simp only [Piece.Joins, not_true_eq_false] at hjoins
  · exact ⟨⟨_, rfl⟩, n, w, rfl⟩
  · exact ⟨⟨_, rfl⟩, n, w, rfl⟩

theorem parse_append {first second : String} {ts ts' : List Token} (h : parse first = .ok ts)
    (h' : parse second = .ok ts') (hapart : ¬ RunsInto ts second) :
    parse (first ++ second) = .ok (ts ++ ts') := by
  obtain ⟨ps, hps, hchars, rfl⟩ := pieces_of_readTokens (parse_eq_ok_iff.mp h)
  obtain ⟨qs, hqs, hchars', rfl⟩ := pieces_of_readTokens (parse_eq_ok_iff.mp h')
  have hjoin : ∀ p ∈ ps.getLast?, ∀ q ∈ qs.head?, p.Joins q := by
    intro p hp q hq
    refine Piece.joins_of_not fun hcollide => hapart ?_
    obtain ⟨⟨s, hs⟩, n, w, rfl⟩ := hcollide
    obtain ⟨rest, rfl⟩ : ∃ rest, qs = .delta none n w :: rest := by
      cases qs with
      | nil => cases hq
      | cons q' rest =>
        obtain rfl := Option.some.inj hq
        exact ⟨rest, rfl⟩
    obtain ⟨c, cs, hcs, -, -, -, hdigit⟩ := Piece.delta_head none n w (rest.flatMap Piece.chars)
    constructor
    · refine ⟨s, ?_⟩
      rw [List.getLast?_map, Option.mem_def.mp hp, Option.map_some, hs]
    · refine ⟨c, ?_, hdigit rfl⟩
      rw [← hchars', List.flatMap_cons, hcs]
      rfl
  have hjoinable : Joinable (ps ++ qs) := List.isChain_append.mpr ⟨hps, hqs, hjoin⟩
  have hspell : spell (ps ++ qs) = first ++ second := by
    rw [spell, List.flatMap_append, hchars, hchars', String.ofList_append, String.ofList_toList,
      String.ofList_toList]
  rw [← hspell, ← List.map_append]
  exact parse_spell_iff.mpr ⟨hjoinable, rfl⟩

end Instruction

open Instruction

variable {s : Setting} {host timestamp first second text : String} {zone : Zone} {offset : Int}

/-- Under a fixed offset, two instructions one after the other lead where both in one lead, in
writing: either way the same text results, or none. The first must lead to a year that can be read
again, and its last token must not take anything from the second. -/
theorem snap_append_iff [Zone.Names] [Zone.Names.Lawful] {system : Option String}
    (hh : s.host = .ofSetting host system) (hs : s.zone = .ok zone)
    (hz : zone.rules = .constant offset) {ts ts' : List Token} (hp : parse first = .ok ts)
    (hp' : parse second = .ok ts') (hapart : ¬ RunsInto ts second)
    (hx : snap s timestamp first = .ok text) (hy : first ≠ "" → PlainYear text)
    (result : String) :
    snap s text second = .ok result ↔ snap s timestamp (first ++ second) = .ok result := by
  have hsteady := (Setting.known hh hs).steady hz
  obtain ⟨start, hstart⟩ := read_of_snap hx
  by_cases hfirst : first = ""
  · subst hfirst
    rw [snap_empty hstart] at hx
    obtain rfl := Except.ok.inj hx
    rw [String.empty_append]
  have hreached := hx
  rw [snap_of_read hstart hp hfirst] at hreached
  obtain ⟨reached, he, hf⟩ := Answer.bind_eq_ok.mp hreached
  have hregular : reached.Regular zone := by
    rw [Setting.read_eq hs] at hstart
    exact hsteady.evaluate_regular he (hsteady.read_regular hstart)
  by_cases hsecond : second = ""
  · subst hsecond
    have hread : s.read text = .ok reached.truncated := by
      rw [Setting.read_eq hs]
      exact Instant.read_format hsteady hregular hf (hy hfirst)
    rw [String.append_empty, hx, snap_empty hread]
  have hboth : first ++ second ≠ "" := by
    intro h
    exact hfirst (String.append_eq_empty_iff.mp h).1
  rw [← Answer.toOption_eq_some_iff, ← Answer.toOption_eq_some_iff,
    snap_rewritten hs hsteady hregular hf (hy hfirst) hp' hsecond,
    snap_of_read hstart (parse_append hp hp' hapart) hboth, Instant.evaluate_append, he,
    Answer.bind_ok]

/-- A day on, still within an inserted second, of which the text keeps the milliseconds. -/
theorem snap_append_in_inserted_second :
    ∃ zone ts ts', Setting.zone ⟨.ofSetting "UTC", some "+05:30"⟩ = .ok zone ∧
      zone.rules = .constant 19800 ∧ parse "+1d" = .ok ts ∧ parse "+13ms@h" = .ok ts' ∧
      ¬ RunsInto ts "+13ms@h" ∧
      snap ⟨.ofSetting "UTC", some "+05:30"⟩ "2016-12-31T23:59:60.9876Z" "+1d" =
        .ok "2017-01-02T05:29:60.987+05:30" ∧
      PlainYear "2017-01-02T05:29:60.987+05:30" ∧
      snap ⟨.ofSetting "UTC", some "+05:30"⟩ "2017-01-02T05:29:60.987+05:30" "+13ms@h" =
        .ok "2017-01-02T05:00:00.000+05:30" ∧
      snap ⟨.ofSetting "UTC", some "+05:30"⟩ "2016-12-31T23:59:60.9876Z" ("+1d" ++ "+13ms@h") =
        .ok "2017-01-02T05:00:00.000+05:30" := by
  have hzone : Setting.zone ⟨.ofSetting "UTC", some "+05:30"⟩ =
      .ok (.fixed ⟨19800, by decide, by decide⟩) := by decide +kernel
  have hfirst : parse "+1d" = .ok [.delta ⟨.plus, 1, .days, by decide⟩] := by decide +kernel
  have hsecond : parse "+13ms@h" =
      .ok [.delta ⟨.plus, 13, .milliseconds, by decide⟩, .snap ⟨.hours, none⟩] := by
    decide +kernel
  have hapart : ¬ RunsInto [.delta ⟨.plus, 1, .days, by decide⟩] "+13ms@h" := by
    rintro ⟨⟨s, hs⟩, -⟩
    cases hs
  have hreached : snap ⟨.ofSetting "UTC", some "+05:30"⟩ "2016-12-31T23:59:60.9876Z" "+1d" =
      .ok "2017-01-02T05:29:60.987+05:30" := by decide +kernel
  have hyear : PlainYear "2017-01-02T05:29:60.987+05:30" := by decide +kernel
  have hhost : Setting.host ⟨.ofSetting "UTC", some "+05:30"⟩ = .ofSetting "UTC" := rfl
  have hrules : (Zone.fixed ⟨19800, by decide, by decide⟩).rules = .constant 19800 := rfl
  have hstep : snap ⟨.ofSetting "UTC", some "+05:30"⟩ "2017-01-02T05:29:60.987+05:30" "+13ms@h" =
      .ok "2017-01-02T05:00:00.000+05:30" := by decide +kernel
  have happend := snap_append_iff hhost hzone hrules hfirst hsecond hapart hreached fun _ => hyear
  exact ⟨_, _, _, hzone, hrules, hfirst, hsecond, hapart, hreached, hyear, hstep,
    (happend _).mp hstep⟩

end RelativeTime
