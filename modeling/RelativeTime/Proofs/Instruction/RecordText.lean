import RelativeTime.Instruction.Record
import RelativeTime.Proofs.Instruction.Rendering
import RelativeTime.Proofs.Timestamp.Layout

/-! A reader of JSON for lists of flat records, and for those among them that are tokens.

It reads what the grammar of JSON has for such a list: any white space between the symbols, fields
in any order, no zero in front of a number, no comma behind the last item. Words with escapes,
numbers with a fraction and values with parts of their own are no part of a token and are not read.
What was printed is read as it was. -/
namespace RelativeTime

open Instruction (Stops takeWhile_of_stops dropWhile_of_stops)

theorem Digits.head_text_ne_zero {n : Nat} (h : 0 < n) : (text n).head? ≠ some '0' := by
  induction n using Nat.strong_induction_on with
  | _ n ih =>
    rw [text]
    by_cases hlt : n < 10
    · have hdigit : ∀ d < 10, 0 < d → [Nat.digitChar d].head? ≠ some '0' := by decide
      rw [Nat.toDigits_of_lt_base hlt]
      exact hdigit n hlt h
    · rw [Nat.toDigits_of_base_le (by decide) (by omega), List.head?_append]
      have hhead := ih (n / 10) (by omega) (by omega)
      rw [text] at hhead
      cases hdigits : Nat.toDigits 10 (n / 10) with
      | nil => exact absurd hdigits Nat.toDigits_ne_nil
      | cons c cs => rwa [hdigits] at hhead

namespace Json

def isSpace (c : Char) : Bool := c == ' ' || c == '\n' || c == '\r' || c == '\t'

def spaced {α : Type} (scan : Scan α) : Scan α := fun cs => scan (cs.dropWhile isSpace)

def isPlain (c : Char) : Bool := c != '"' && c != '\\' && 0x20 ≤ c.toNat

def scanText : Scan String := fun cs => do
  let (_, cs) ← Scan.literal '"' cs
  let (_, rest) ← Scan.literal '"' (cs.dropWhile isPlain)
  return (String.ofList (cs.takeWhile isPlain), rest)

/-- A zero ends a number that it begins. -/
def scanNumber : Scan Nat
  | '0' :: rest => some (0, rest)
  | cs => Scan.number cs

def scanScalar : Scan Scalar
  | '"' :: cs => (scanText ('"' :: cs)).map (Prod.map .word id)
  | 'n' :: 'u' :: 'l' :: 'l' :: rest => some (.null, rest)
  | cs => (scanNumber cs).map (Prod.map .number id)

def scanField : Scan (String × Scalar) := fun cs => do
  let (name, cs) ← scanText cs
  let (_, cs) ← spaced (Scan.literal ':') cs
  let (value, cs) ← spaced scanScalar cs
  return ((name, value), cs)

/-- Items with commas between them, at least one, up to the closing bracket. An item that took
nothing off the characters could be read for ever; no more than there are characters are read. -/
def scanItems {α : Type} (item : Scan α) (closing : Char) (cs : List Char) :
    Option (List α × List Char) :=
  match spaced item cs with
  | none => none
  | some (a, rest) =>
    match rest.dropWhile isSpace with
    | [] => none
    | c :: rest =>
      if c == closing then some ([a], rest)
      else if c == ',' then
        if _shorter : rest.length < cs.length then
          (scanItems item closing rest).map (Prod.map (a :: ·) id)
        else none
      else none
termination_by cs.length

def scanList {α : Type} (opening closing : Char) (item : Scan α) : Scan (List α) := fun cs => do
  let (_, cs) ← Scan.literal opening cs
  match spaced (Scan.literal closing) cs with
  | some (_, rest) => some ([], rest)
  | none => scanItems item closing cs

def readRecords (text : String) : Option (List Record) := do
  let (records, rest) ← spaced (scanList '[' ']' (scanList '\x7b' '\x7d' scanField)) text.toList
  if rest.all isSpace then some records else none

def Plain (text : String) : Prop := text.toList.all isPlain = true

def PlainScalar : Scalar → Prop
  | .word text => Plain text
  | .number _ => True
  | .null => True

def PlainRecord (r : Record) : Prop := ∀ field ∈ r, Plain field.1 ∧ PlainScalar field.2

theorem plainRecord_nil : PlainRecord [] := List.forall_mem_nil _

theorem plainRecord_cons {name : String} {value : Scalar} {r : Record} (hn : Plain name)
    (hv : PlainScalar value) (hr : PlainRecord r) : PlainRecord ((name, value) :: r) :=
  List.forall_mem_cons.mpr ⟨⟨hn, hv⟩, hr⟩

section Scans

variable {α : Type} {scan : Scan α} {blanks cs rest : List Char}

theorem spaced_append (hb : ∀ c ∈ blanks, isSpace c = true) (hr : Stops isSpace cs) :
    spaced scan (blanks ++ cs) = scan cs := by
  rw [spaced, dropWhile_of_stops hb hr]

theorem spaced_cons {c : Char} (hc : isSpace c = false) :
    spaced scan (c :: rest) = scan (c :: rest) :=
  spaced_append (List.forall_mem_nil _) (stops_cons hc rest)

theorem isSpace_of_isDigit {c : Char} (h : c.isDigit = true) : isSpace c = false := by
  rw [Bool.eq_false_iff]
  intro hspace
  simp only [isSpace, Bool.or_eq_true, beq_iff_eq] at hspace
  rcases hspace with ((rfl | rfl) | rfl) | rfl <;> cases h

theorem scanText_quoted {text : String} (h : Plain text)
    (rest : List Char) : scanText (quoted text ++ rest) = some (text, rest) := by
  have hplain := List.all_eq_true.mp h
  have hstops : Stops isPlain ('"' :: rest) := stops_cons (by decide) rest
  simp only [scanText, quoted, List.cons_append, List.append_assoc, List.nil_append,
    Scan.literal_cons, Option.bind_eq_bind, Option.bind_some, dropWhile_of_stops hplain hstops,
    takeWhile_of_stops hplain hstops, String.ofList_toList, Option.pure_def]

theorem scanNumber_text (n : Nat) (hr : Stops Char.isDigit rest) :
    scanNumber (Digits.text n ++ rest) = some (n, rest) := by
  have hpos := Digits.length_text_pos n
  have hnumber : Scan.number (Digits.text n ++ rest) = some (n, rest) := by
    rw [Scan.number, Scan.digits_run (fun _ => Digits.isDigit_of_mem_text) hpos (by simp) (.inr hr),
      Digits.value_text]
  rcases Nat.eq_zero_or_pos n with rfl | hn
  · rfl
  · unfold scanNumber
    split
    · rename_i tail hcs
      refine absurd ?_ (Digits.head_text_ne_zero hn)
      rw [← List.head?_append_of_ne_nil _ (List.length_pos_iff.mp hpos), hcs]
      rfl
    · exact hnumber

theorem quoted_append (text : String) (rest : List Char) :
    quoted text ++ rest = '"' :: (text.toList ++ '"' :: rest) := by
  simp only [quoted, List.cons_append, List.append_assoc, List.nil_append]

theorem scanScalar_chars {value : Scalar} (h : PlainScalar value) (hr : Stops Char.isDigit rest) :
    spaced scanScalar (value.chars ++ rest) = some (value, rest) := by
  cases value with
  | word text =>
    have hword := scanText_quoted h rest
    rw [quoted_append] at hword
    rw [Scalar.chars, quoted_append, spaced_cons (by decide), scanScalar, hword]
    rfl
  | number n =>
    have hnumber := scanNumber_text n hr
    obtain ⟨c, cs, hcs⟩ := List.exists_cons_of_length_pos (Digits.length_text_pos n)
    have hc : c.isDigit = true := Digits.isDigit_of_mem_text (hcs ▸ List.mem_cons_self)
    rw [hcs, List.cons_append] at hnumber
    rw [Scalar.chars, hcs, List.cons_append, spaced_cons (isSpace_of_isDigit hc)]
    -- A digit begins neither a word nor a null.
    unfold scanScalar
    split
    · rename_i hquote
      obtain rfl := (List.cons.inj hquote).1
      cases hc
    · rename_i hnull
      obtain rfl := (List.cons.inj hnull).1
      cases hc
    · rw [hnumber]
      rfl
  | null => rfl

theorem scanField_chars {field : String × Scalar} (h : Plain field.1 ∧ PlainScalar field.2)
    (hr : Stops Char.isDigit rest) :
    scanField (quoted field.1 ++ ':' :: ' ' :: field.2.chars ++ rest) = some (field, rest) := by
  have hcolon : spaced (Scan.literal ':') (':' :: ' ' :: (field.2.chars ++ rest)) =
      some (':', ' ' :: (field.2.chars ++ rest)) := spaced_cons (by decide)
  have hvalue : spaced scanScalar (' ' :: (field.2.chars ++ rest)) = some (field.2, rest) :=
    scanScalar_chars h.2 hr
  simp only [scanField, List.append_assoc, List.cons_append, scanText_quoted h.1, hcolon, hvalue,
    Option.bind_eq_bind, Option.bind_some, Option.pure_def]

end Scans

/-! ### Between brackets -/

def newLine (indent : Nat) : List Char := '\n' :: List.replicate indent ' '

def itemLines (indent : Nat) (items : List (List Char)) : List Char :=
  ((items.map fun item => newLine indent ++ ' ' :: ' ' :: item).intersperse [',']).flatten

theorem itemLines_singleton (indent : Nat) (item : List Char) :
    itemLines indent [item] = newLine indent ++ ' ' :: ' ' :: item := by
  simp only [itemLines, List.map_cons, List.map_nil, List.intersperse_singleton, List.flatten_cons,
    List.flatten_nil, List.append_nil]

theorem itemLines_cons_cons (indent : Nat) (item next : List Char) (items : List (List Char)) :
    itemLines indent (item :: next :: items) =
      newLine indent ++ ' ' :: ' ' :: (item ++ ',' :: itemLines indent (next :: items)) := by
  simp only [itemLines, List.map_cons, List.intersperse_cons_cons, List.flatten_cons,
    List.append_assoc, List.cons_append, List.nil_append]

theorem exists_itemLines_cons (indent : Nat) (item : List Char) (items : List (List Char)) :
    ∃ more, itemLines indent (item :: items) = newLine indent ++ ' ' :: ' ' :: (item ++ more) := by
  cases items with
  | nil => exact ⟨[], by rw [itemLines_singleton, List.append_nil]⟩
  | cons next items => exact ⟨_, itemLines_cons_cons indent item next items⟩

theorem bracketed_append (opening closing : Char) (indent : Nat) (items : List (List Char))
    (rest : List Char) : bracketed opening closing indent items ++ rest =
      opening :: (itemLines indent items ++ (newLine indent ++ closing :: rest)) := by
  simp only [bracketed, itemLines, newLine, List.cons_append, List.append_assoc, List.nil_append]

/-- The scan reads the item where it is printed, if no digit follows that would go on with it. -/
structure Reads {α : Type} (item : Scan α) (print : α → List Char) (first : Char) (a : α) :
    Prop where
  starts : ∃ cs, print a = first :: cs
  reads : ∀ rest, Stops Char.isDigit rest → item (print a ++ rest) = some (a, rest)

section Brackets

variable {α : Type} {item : Scan α} {print : α → List Char} {first opening closing : Char}
  {indent : Nat} {rest : List Char}

theorem isSpace_of_mem_newLine {c : Char} (h : c ∈ newLine indent) : isSpace c = true := by
  rcases List.mem_cons.mp h with rfl | h
  · rfl
  · rw [List.eq_of_mem_replicate h]
    rfl

theorem spaced_onLine {β : Type} {scan : Scan β} {cs : List Char} (h : Stops isSpace cs) :
    spaced scan (newLine indent ++ ' ' :: ' ' :: cs) = scan cs := by
  have hblanks : ∀ c ∈ newLine indent ++ [' ', ' '], isSpace c = true := by
    intro c hc
    rcases List.mem_append.mp hc with hc | hc
    · exact isSpace_of_mem_newLine hc
    · rw [List.eq_of_mem_replicate (n := 2) hc]
      rfl
  have hsplit : newLine indent ++ ' ' :: ' ' :: cs = (newLine indent ++ [' ', ' ']) ++ cs := by
    rw [List.append_assoc]
    rfl
  rw [hsplit, spaced_append hblanks h]

theorem Reads.onLine {a : α} (h : Reads item print first a) (indent : Nat)
    (hf : isSpace first = false) (hr : Stops Char.isDigit rest) :
    spaced item (newLine indent ++ ' ' :: ' ' :: (print a ++ rest)) = some (a, rest) := by
  obtain ⟨cs, hcs⟩ := h.starts
  have hstops : Stops isSpace (print a ++ rest) := by
    rw [hcs]
    exact stops_cons hf _
  rw [spaced_onLine hstops, h.reads rest hr]

/-- The items are read off line by line. By induction on those that follow the first: each ends
before a comma, and the last before the line of the closing bracket. -/
theorem scanItems_lines (hf : isSpace first = false)
    (hc : isSpace closing = false ∧ closing ≠ ',') {a : α} {as : List α}
    (h : ∀ b ∈ a :: as, Reads item print first b) :
    scanItems item closing (itemLines indent ((a :: as).map print) ++
      (newLine indent ++ closing :: rest)) = some (a :: as, rest) := by
  induction as generalizing a with
  | nil =>
    have hstops : Stops Char.isDigit (newLine indent ++ closing :: rest) := stops_cons (by decide) _
    have hskip : (newLine indent ++ closing :: rest).dropWhile isSpace = closing :: rest :=
      dropWhile_of_stops (fun _ => isSpace_of_mem_newLine) (stops_cons hc.1 rest)
    have hitem := (h a List.mem_cons_self).onLine indent hf hstops
    rw [List.map_cons, List.map_nil, itemLines_singleton, List.append_assoc, List.cons_append,
      List.cons_append, scanItems, hitem]
    simp only [hskip, beq_self_eq_true, if_true]
  | cons b bs ih =>
    have hitem := (h a List.mem_cons_self).onLine indent hf
      (stops_cons (show ','.isDigit = false by decide)
        (itemLines indent ((b :: bs).map print) ++ (newLine indent ++ closing :: rest)))
    have hlines : itemLines indent ((a :: b :: bs).map print) = newLine indent ++ ' ' :: ' ' ::
        (print a ++ ',' :: itemLines indent ((b :: bs).map print)) :=
      itemLines_cons_cons indent (print a) (print b) (bs.map print)
    have hcomma : (',' == closing) = false := beq_eq_false_iff_ne.mpr hc.2.symm
    have hskip : (',' :: (itemLines indent ((b :: bs).map print) ++
        (newLine indent ++ closing :: rest))).dropWhile isSpace =
          ',' :: (itemLines indent ((b :: bs).map print) ++
            (newLine indent ++ closing :: rest)) := rfl
    rw [hlines, scanItems]
    simp only [List.append_assoc, List.cons_append, hitem, hskip, hcomma, Bool.false_eq_true,
      if_false, beq_self_eq_true, if_true]
    rw [dif_pos, ih fun c hc => h c (List.mem_cons_of_mem a hc)]
    · rfl
    · simp only [List.length_append, List.length_cons]
      omega

theorem scanList_bracketed (hf : isSpace first = false)
    (hc : isSpace closing = false ∧ closing ≠ ',') (hne : first ≠ closing) {as : List α}
    (h : ∀ a ∈ as, Reads item print first a) (rest : List Char) :
    scanList opening closing item (bracketed opening closing indent (as.map print) ++ rest) =
      some (as, rest) := by
  simp only [bracketed_append, scanList, Scan.literal_cons, Option.bind_eq_bind, Option.bind_some]
  cases as with
  | nil =>
    have hclosing : spaced (Scan.literal closing) (newLine indent ++ closing :: rest) =
        some (closing, rest) := by
      rw [spaced_append (fun _ => isSpace_of_mem_newLine) (stops_cons hc.1 rest)]
      exact Scan.literal_cons closing rest
    simp only [List.map_nil, itemLines, List.intersperse_nil, List.flatten_nil, List.nil_append,
      hclosing]
  | cons a as =>
    -- The list is not closed before its first item.
    have hitem : spaced (Scan.literal closing) (itemLines indent ((a :: as).map print) ++
        (newLine indent ++ closing :: rest)) = none := by
      obtain ⟨cs, hcs⟩ := (h a List.mem_cons_self).starts
      obtain ⟨more, hmore⟩ := exists_itemLines_cons indent (print a) (as.map print)
      rw [List.map_cons, hmore, hcs, List.append_assoc, List.cons_append, List.cons_append,
        List.cons_append, List.cons_append, spaced_onLine (stops_cons hf _), Scan.literal, Scan.one,
        if_neg (by simpa using hne)]
    rw [hitem]
    exact scanItems_lines hf hc h

end Brackets

theorem reads_record {r : Record} (h : PlainRecord r) :
    Reads (scanList '\x7b' '\x7d' scanField) Record.json '\x7b' r := by
  have hfields : ∀ field ∈ r, Reads scanField
      (fun field => quoted field.1 ++ ':' :: ' ' :: field.2.chars) '"' field :=
    fun field hfield => ⟨⟨_, rfl⟩, fun _ hr => scanField_chars (h field hfield) hr⟩
  exact ⟨⟨_, rfl⟩, fun rest _ =>
    scanList_bracketed (by decide) (by decide) (by decide) hfields rest⟩

theorem readRecords_recordsJson {rs : List Record} (h : ∀ r ∈ rs, PlainRecord r) {tail : String}
    (ht : tail.toList.all isSpace = true) : readRecords (recordsJson rs ++ tail) = some rs := by
  have hscan : spaced (scanList '[' ']' (scanList '\x7b' '\x7d' scanField))
      (recordsJson rs ++ tail).toList = some (rs, tail.toList) := by
    rw [String.toList_append]
    cases rs with
    | nil => rfl
    | cons r rs =>
      have hrecords : scanList '[' ']' (scanList '\x7b' '\x7d' scanField)
          (bracketed '[' ']' 0 ((r :: rs).map Record.json) ++ tail.toList) =
            some (r :: rs, tail.toList) :=
        scanList_bracketed (by decide) (by decide) (by decide) (fun r hr => reads_record (h r hr)) _
      rw [recordsJson, String.toList_ofList]
      · exact (spaced_cons (by decide)).trans hrecords
      · exact List.cons_ne_nil _ _
  simp only [readRecords, hscan, Option.bind_eq_bind, Option.bind_some, ht, if_true]

end Json

/-! ### Tokens -/

def Sign.ofName? (word : String) : Option Sign := [.plus, .minus].find? fun s => s.name == word

theorem Sign.ofName?_name (s : Sign) : ofName? s.name = some s := by
  cases s <;> decide

namespace Scalar

def word? : Scalar → Option String
  | .word text => some text
  | .number _ => none
  | .null => none

def below? (bound : Nat) : Scalar → Option { n // n < bound }
  | .number n => if h : n < bound then some ⟨n, h⟩ else none
  | .word _ => none
  | .null => none

theorem below?_number {bound n : Nat} (h : n < bound) : below? bound (.number n) = some ⟨n, h⟩ :=
  dif_pos h

end Scalar

def Delta.ofRecord? (r : Record) : Option Delta := do
  let sign ← Sign.ofName? (← (← r.lookup "sign").word?)
  let magnitude ← (← r.lookup "magnitude").below? 0x10000000000000000
  let unit ← TimeUnit.ofName? (← (← r.lookup "unit").word?)
  return ⟨sign, magnitude, unit, magnitude.2⟩

/-- The alignment that a record has the fields of. The weekday has 32 bits and may be left out. -/
def Snap.ofRecord? (r : Record) : Option Snap := do
  let unit ← TimeUnit.ofName? (← (← r.lookup "unit").word?)
  match r.lookup "weekday" with
  | none => return ⟨unit, none⟩
  | some .null => return ⟨unit, none⟩
  | some value => return ⟨unit, some (← value.below? 0x100000000)⟩

namespace Token

def ofRecord? (r : Record) : Option Token := do
  let kind ← (← r.lookup "kind").word?
  if ¬ (r.map Prod.fst).Nodup then none
  else if kind == "delta" then (Delta.ofRecord? r).map .delta
  else if kind == "snap" then (Snap.ofRecord? r).map .snap
  else none

def listOfJson? (text : String) : Option (List Token) :=
  (Json.readRecords text).bind fun records => records.mapM ofRecord?

theorem ofRecord?_delta (d : Delta) : ofRecord? (delta d).record = some (.delta d) := by
  have hkind : (delta d).record.lookup "kind" = some (.word "delta") := rfl
  have hsign : (delta d).record.lookup "sign" = some (.word d.sign.name) := rfl
  have hmagnitude : (delta d).record.lookup "magnitude" = some (.number d.magnitude) := rfl
  have hunit : (delta d).record.lookup "unit" = some (.word d.unit.name) := rfl
  have hnames : ((delta d).record.map Prod.fst).Nodup :=
    show ["kind", "sign", "magnitude", "unit"].Nodup by decide
  simp only [ofRecord?, Delta.ofRecord?, hkind, hsign, hmagnitude, hunit, hnames, Scalar.word?,
    Scalar.below?_number d.magnitude_lt, Sign.ofName?_name, TimeUnit.ofName?_name,
    Option.bind_eq_bind, Option.bind_some, Option.pure_def, not_true_eq_false, if_false,
    beq_self_eq_true, if_true, Option.map_some]

theorem ofRecord?_snap {s : Snap} (h : (snap s).Renderable) :
    ofRecord? (snap s).record = some (.snap s) := by
  have hkind : (snap s).record.lookup "kind" = some (.word "snap") := rfl
  have hunit : (snap s).record.lookup "unit" = some (.word s.unit.name) := rfl
  have hnames : ((snap s).record.map Prod.fst).Nodup :=
    show ["kind", "unit", "weekday"].Nodup by decide
  have hsnap : Snap.ofRecord? (snap s).record = some s := by
    rcases s with ⟨unit, _ | n⟩
    · have hweekday : (snap ⟨unit, none⟩).record.lookup "weekday" = some .null := rfl
      simp only [Snap.ofRecord?, hunit, hweekday, Scalar.word?, TimeUnit.ofName?_name,
        Option.bind_eq_bind, Option.bind_some, Option.pure_def]
    · have hweekday : (snap ⟨unit, some n⟩).record.lookup "weekday" = some (.number n) := rfl
      have hn : n < 0x100000000 := by
        have hle := (h n rfl).2
        omega
      simp only [Snap.ofRecord?, hunit, hweekday, Scalar.word?, Scalar.below?_number hn,
        TimeUnit.ofName?_name, Option.bind_eq_bind, Option.bind_some, Option.pure_def]
  have hother : ("snap" == "delta") = false := by decide
  simp only [ofRecord?, hkind, hnames, hsnap, hother, Scalar.word?, Option.bind_eq_bind,
    Option.bind_some, not_true_eq_false, Bool.false_eq_true, if_false, beq_self_eq_true, if_true,
    Option.map_some]

theorem ofRecord?_record {t : Token} (h : t.Renderable) : ofRecord? t.record = some t := by
  cases t with
  | delta d => exact ofRecord?_delta d
  | snap s => exact ofRecord?_snap h

theorem plain_record (t : Token) : Json.PlainRecord t.record := by
  have hsign : ∀ s : Sign, Json.Plain s.name := by
    intro s
    cases s <;> rfl
  have hunit : ∀ u : TimeUnit, Json.Plain u.name := by
    intro u
    cases u <;> rfl
  cases t with
  | delta d =>
    refine Json.plainRecord_cons rfl (show Json.Plain "delta" from rfl) ?_
    refine Json.plainRecord_cons rfl (hsign d.sign) ?_
    refine Json.plainRecord_cons rfl trivial ?_
    exact Json.plainRecord_cons rfl (hunit d.unit) Json.plainRecord_nil
  | snap s =>
    have hweekday : Json.PlainScalar ((s.weekday.map Scalar.number).getD .null) := by
      cases s.weekday <;> trivial
    refine Json.plainRecord_cons rfl (show Json.Plain "snap" from rfl) ?_
    refine Json.plainRecord_cons rfl (hunit s.unit) ?_
    exact Json.plainRecord_cons rfl hweekday Json.plainRecord_nil

theorem listOfJson?_recordsJson {ts : List Token} (h : ∀ t ∈ ts, t.Renderable) :
    listOfJson? (recordsJson (ts.map record) ++ "\n") = some ts := by
  have hrecords : ∀ r ∈ ts.map record, Json.PlainRecord r := by
    intro r hr
    obtain ⟨t, -, rfl⟩ := List.mem_map.mp hr
    exact t.plain_record
  have htokens : (ts.map record).mapM ofRecord? = some ts := by
    clear hrecords
    induction ts with
    | nil => rfl
    | cons t ts ih =>
      rw [List.map_cons, List.mapM_cons, ofRecord?_record (h t List.mem_cons_self),
        ih fun t ht => h t (List.mem_cons_of_mem _ ht)]
      rfl
  rw [listOfJson?, Json.readRecords_recordsJson hrecords rfl, Option.bind_some, htokens]

/-- Fields in another order and other white space, and no weekday. -/
example : listOfJson? "[ \x7b\"unit\":\"days\",\t\"kind\" : \"snap\"\x7d\r\n]" =
    some [.snap ⟨.days, none⟩] := by
  decide +kernel

end Token

end RelativeTime
