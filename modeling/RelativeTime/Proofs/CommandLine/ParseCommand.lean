import RelativeTime.CommandLine.Run
import RelativeTime.Proofs.Instruction.RecordText
import RelativeTime.Zone.Catalogue

/-! What `parse` prints: its two outputs list the tokens of the instruction, and each can be read
back. -/
namespace RelativeTime.CommandLine

/-- The text begins with no hyphen, or with a hyphen and a digit, as no option does. -/
def Instructional (text : String) : Prop :=
  text.toList.head? ≠ some '-' ∨
    ∃ digit rest, text.toList = '-' :: digit :: rest ∧ digit.isDigit = true

theorem Form.part_of_instructional (f : Form) {text : String} (h : Instructional text) :
    f.part true text = .text := by
  unfold part
  rcases h with hhead | ⟨digit, rest, htext, hdigit⟩
  · split
    · rename_i hcs
      exact absurd (congrArg List.head? hcs) hhead
    · rename_i hcs
      exact absurd (congrArg List.head? hcs) hhead
    · rename_i hcs
      exact absurd (congrArg List.head? hcs) hhead
    · rfl
  · have hhyphen : digit ≠ '-' := by
      rintro rfl
      cases hdigit
    have hhelp : digit ≠ 'h' := by
      rintro rfl
      cases hdigit
    rw [htext]
    simp [hhyphen, hhelp, unlisted]

abbrev Form.ofParse : Form := ⟨[true], false, true⟩

variable {text : String}

theorem ofArguments?_parse {arguments : List String} {zone : Option String} {json : Bool}
    (h : Form.ofParse.gather? ⟨[], none, false⟩ arguments = some ⟨[text], zone, json⟩) :
    Command.ofArguments? ("parse" :: arguments) = some (.parse text json) := by
  have hversion : ("parse" == "--version" || "parse".startsWith "-V") = false := by decide +kernel
  have hsnap : ("parse" == "snap") = false := by decide
  have hunsnap : ("parse" == "unsnap") = false := by decide
  simp only [Command.ofArguments?, hversion, hsnap, hunsnap, Bool.false_eq_true, if_false,
    beq_self_eq_true, if_true, h]

theorem gather?_parse (h : Instructional text) :
    Form.ofParse.gather? ⟨[], none, false⟩ [text] = some ⟨[text], none, false⟩ ∧
    Form.ofParse.gather? ⟨[], none, false⟩ [text, "--json"] = some ⟨[text], none, true⟩ ∧
    Form.ofParse.gather? ⟨[], none, false⟩ ["--json", text] = some ⟨[text], none, true⟩ := by
  have hpart := Form.ofParse.part_of_instructional h
  have hjson : ∀ hyphen, Form.ofParse.part hyphen "--json" = .json := by
    intro hyphen
    cases hyphen <;> decide +kernel
  simp only [Form.gather?, Form.hyphenNext, List.length_nil, List.getD_cons_zero, hpart, hjson,
    List.nil_append, Bool.false_eq_true, if_false, and_self]

def joinLines (output : String) : String := String.ofList (output.toList.filter (· != '\n'))

theorem ne_newline_of_mem_chars (t : Token) : ∀ c ∈ t.chars, (c != '\n') = true := by
  have hsymbol : ∀ u : TimeUnit, ∀ c ∈ u.symbol.toList, (c != '\n') = true := by
    intro u
    cases u <;> exact List.all_eq_true.mp rfl
  have hdigits : ∀ n, ∀ c ∈ Digits.text n, (c != '\n') = true := by
    intro n c hc
    have hdigit := Digits.isDigit_of_mem_text hc
    rw [bne_iff_ne]
    rintro rfl
    cases hdigit
  intro c hc
  rcases t with d | ⟨unit, weekday⟩
  · rcases List.mem_cons.mp hc with rfl | hc
    · cases d.sign <;> rfl
    · rcases List.mem_append.mp hc with hc | hc
      · exact hdigits _ c hc
      · exact hsymbol _ c hc
  · rcases List.mem_cons.mp hc with rfl | hc
    · rfl
    · rcases List.mem_append.mp hc with hc | hc
      · exact hsymbol _ c hc
      · cases weekday with
        | none => cases hc
        | some n => exact hdigits n c hc

theorem joinLines_tokenLines (tokens : List Token) :
    joinLines (tokenLines tokens) = render tokens := by
  have hline : ∀ t : Token, (t.chars ++ ['\n']).filter (· != '\n') = t.chars := by
    intro t
    rw [List.filter_append, List.filter_eq_self.mpr (ne_newline_of_mem_chars t)]
    exact List.append_nil _
  rw [joinLines, tokenLines, String.toList_ofList, List.filter_flatMap, render]
  simp only [hline]

section Parse

variable [Zone.Names] {s : Surroundings} {tokens : List Token}

theorem run_parse_of_ok (h : parse text = .ok tokens) (json : Bool) :
    (Command.parse text json).run s = .printed (if json
      then recordsJson (tokens.map Token.record) ++ "\n" else tokenLines tokens) := by
  simp only [Command.run, h]
  rfl

theorem run_parse_of_error {e : Error} (h : parse text = .error e) (json : Bool) :
    ∃ report, (Command.parse text json).run s = .failed report := by
  simp only [Command.run, h]
  exact ⟨_, rfl⟩

/-- With and without `--json` the command ends well just when the instruction can be read, and
prints nothing otherwise. The lines of the one output, joined, are an instruction for the same
tokens; the other lists the tokens in JSON. It makes no difference where the option stands. -/
theorem parse_prints_the_tokens (s : Surroundings) (h : Instructional text) :
    run s ["parse", "--json", text] = run s ["parse", text, "--json"] ∧
    ((run s ["parse", text]).code = 0 ↔ ∃ tokens, parse text = .ok tokens) ∧
    ((run s ["parse", text, "--json"]).code = 0 ↔ ∃ tokens, parse text = .ok tokens) ∧
    (∀ e, parse text = .error e →
      (run s ["parse", text]).code = 1 ∧ (run s ["parse", text]).output = "" ∧
      (run s ["parse", text, "--json"]).code = 1 ∧
      (run s ["parse", text, "--json"]).output = "") ∧
    ∀ tokens, parse text = .ok tokens →
      parse (joinLines (run s ["parse", text]).output) = .ok tokens ∧
      Token.listOfJson? (run s ["parse", text, "--json"]).output = some tokens := by
  obtain ⟨hplain, hbehind, hbefore⟩ := gather?_parse h
  have hrun : run s ["parse", text] = (Command.parse text false).run s := by
    rw [run, ofArguments?_parse hplain]
  have hjson : run s ["parse", text, "--json"] = (Command.parse text true).run s := by
    rw [run, ofArguments?_parse hbehind]
  have hjson' : run s ["parse", "--json", text] = (Command.parse text true).run s := by
    rw [run, ofArguments?_parse hbefore]
  rw [hrun, hjson, hjson']
  refine ⟨rfl, ?_⟩
  cases hread : parse text with
  | error e =>
    obtain ⟨report, hfailed⟩ := run_parse_of_error (s := s) hread false
    obtain ⟨report', hfailed'⟩ := run_parse_of_error (s := s) hread true
    rw [hfailed, hfailed']
    refine ⟨?_, ?_, fun _ _ => ⟨rfl, rfl, rfl, rfl⟩, ?_⟩
    · simp [Outcome.code]
    · simp [Outcome.code]
    · intro tokens htokens
      cases htokens
  | ok tokens =>
    have hrenderable := renderable_of_parse hread
    rw [run_parse_of_ok hread, run_parse_of_ok hread]
    refine ⟨?_, ?_, ?_, ?_⟩
    · simp [Outcome.code]
    · simp [Outcome.code]
    · intro e he
      cases he
    · intro tokens' htokens
      obtain rfl := Except.ok.inj htokens
      refine ⟨?_, Token.listOfJson?_recordsJson hrenderable⟩
      have hlines : joinLines (tokenLines tokens) = render tokens := joinLines_tokenLines tokens
      exact hlines ▸ parse_render hrenderable

end Parse

/-- A weekday, both signs, and a magnitude that no signed word holds. -/
theorem parse_prints_three_tokens :
    Instructional "-7days@w7+18446744073709551615y" ∧
    parse (joinLines (run ⟨.utc, none⟩ ["parse", "-7days@w7+18446744073709551615y"]).output) =
      .ok [.delta ⟨.minus, 7, .days, by decide⟩, .snap ⟨.weeks, some 7⟩,
        .delta ⟨.plus, 18446744073709551615, .years, by decide⟩] ∧
    Token.listOfJson?
        (run ⟨.utc, none⟩ ["parse", "-7days@w7+18446744073709551615y", "--json"]).output =
      some [.delta ⟨.minus, 7, .days, by decide⟩, .snap ⟨.weeks, some 7⟩,
        .delta ⟨.plus, 18446744073709551615, .years, by decide⟩] := by
  have h : Instructional "-7days@w7+18446744073709551615y" := .inr ⟨'7', _, rfl, rfl⟩
  have hread : parse "-7days@w7+18446744073709551615y" =
      .ok [.delta ⟨.minus, 7, .days, by decide⟩, .snap ⟨.weeks, some 7⟩,
        .delta ⟨.plus, 18446744073709551615, .years, by decide⟩] := by
    decide +kernel
  exact ⟨h, (parse_prints_the_tokens ⟨.utc, none⟩ h).2.2.2.2 _ hread⟩

end RelativeTime.CommandLine
