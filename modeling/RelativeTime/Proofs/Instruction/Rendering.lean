import RelativeTime.Evaluation
import RelativeTime.Proofs.Instruction.Grammar

/-! Writing tokens and reading them back. Every delta is written with its sign, so that no row of
written tokens has two pieces that must not stand side by side. -/
namespace RelativeTime

open Instruction

/-- Only a snap on weeks has a weekday, and the weekday is one of 0 to 7. -/
def Token.Renderable : Token → Prop
  | .delta _ => True
  | .snap s => ∀ n ∈ s.weekday, s.unit = .weeks ∧ n ≤ 7

instance (t : Token) : Decidable t.Renderable :=
  match t with
  | .delta _ => isTrue trivial
  | .snap ⟨_, none⟩ => isTrue fun _ h => nomatch h
  | .snap ⟨unit, some n⟩ =>
    decidable_of_iff (unit = .weeks ∧ n ≤ 7) (by simp [Token.Renderable])

namespace Instruction

def Word.ofUnit (u : TimeUnit) : Word := ⟨u, u.symbol, by cases u <;> decide⟩

def Numeral.ofNat (n : Nat) : Numeral where
  digits := Digits.text n
  nonempty := Nat.toDigits_ne_nil
  decimal := fun _ hc => Nat.isDigit_of_mem_toDigits (by decide) (by decide) hc

theorem Numeral.value_ofNat (n : Nat) : (Numeral.ofNat n).value = n := Digits.value_text n

def Piece.Unsigned : Piece → Prop
  | .delta sign _ _ => sign = none
  | _ => False

theorem Piece.joins_of_signed {p q : Piece} (h : ¬ q.Unsigned) : p.Joins q := by
  rcases p with _ | _ | _ <;> rcases q with _ | _ | ⟨_ | _, _, _⟩ <;>
    simp_all [Piece.Unsigned, Piece.Joins]

theorem exists_piece {t : Token} (h : t.Renderable) :
    ∃ p : Piece, p.chars = t.chars ∧ p.token = t ∧ ¬ p.Unsigned := by
  rcases t with ⟨sign, magnitude, unit, hlt⟩ | ⟨unit, _ | n⟩
  · refine ⟨.delta (some sign) (.ofNat magnitude) (.ofUnit unit), rfl, ?_, by simp [Piece.Unsigned]⟩
    simp only [Piece.token, Option.getD_some, Numeral.value_ofNat, Word.ofUnit, Token.delta.injEq,
      Delta.mk.injEq, and_true, true_and]
    omega
  · exact ⟨.snap (.ofUnit unit), by simp [Piece.chars, Word.ofUnit, Token.chars, Snap.chars],
      rfl, by simp [Piece.Unsigned]⟩
  · obtain ⟨rfl, hn⟩ : unit = .weeks ∧ n ≤ 7 := by simpa [Token.Renderable] using h
    refine ⟨.weekday (.ofUnit .weeks) (.ofNat n) rfl (by rwa [Numeral.value_ofNat]), rfl, ?_,
      by simp [Piece.Unsigned]⟩
    simp only [Piece.token, Numeral.value_ofNat, Word.ofUnit]

theorem exists_pieces {ts : List Token} (h : ∀ t ∈ ts, t.Renderable) :
    ∃ ps, Joinable ps ∧ spell ps = render ts ∧ ps.map Piece.token = ts := by
  suffices ∃ ps : List Piece, (∀ p ∈ ps, ¬ p.Unsigned) ∧ ps.flatMap Piece.chars =
      ts.flatMap Token.chars ∧ ps.map Piece.token = ts by
    obtain ⟨ps, hsigned, hchars, htokens⟩ := this
    refine ⟨ps, ?_, by rw [spell, render, hchars], htokens⟩
    exact (List.pairwise_of_forall_mem_list fun _ _ q hq =>
      Piece.joins_of_signed (hsigned q hq)).isChain
  induction ts with
  | nil => exact ⟨[], by simp, rfl, rfl⟩
  | cons t ts ih =>
    obtain ⟨p, hchars, htoken, hsigned⟩ := exists_piece (h t (by simp))
    obtain ⟨ps, hsigneds, hcharss, htokens⟩ := ih fun t ht => h t (by simp [ht])
    refine ⟨p :: ps, ?_, by simp [hchars, hcharss], by simp [htoken, htokens]⟩
    rintro q (_ | ⟨_, hq⟩)
    · exact hsigned
    · exact hsigneds q hq

theorem Piece.renderable (p : Piece) : p.token.Renderable := by
  rcases p with w | ⟨w, n, hw, hn⟩ | ⟨sign, n, w⟩
  · simp [Piece.token, Token.Renderable]
  · simp [Piece.token, Token.Renderable, hw, hn]
  · trivial

end Instruction

theorem parse_render {ts : List Token} (h : ∀ t ∈ ts, t.Renderable) :
    parse (render ts) = .ok ts := by
  obtain ⟨ps, hj, hs, rfl⟩ := exists_pieces h
  rw [← hs]
  exact parse_spell_iff.mpr ⟨hj, rfl⟩

theorem renderable_of_parse {s : String} {ts : List Token} (h : parse s = .ok ts) :
    ∀ t ∈ ts, t.Renderable := by
  obtain ⟨ps, -, -, rfl⟩ := pieces_of_readTokens (parse_eq_ok_iff.mp h)
  intro t ht
  obtain ⟨p, -, rfl⟩ := List.mem_map.mp ht
  exact p.renderable

/-- The renderable lists are exactly those that some text is read as, and one such text is theirs.
An instruction may be replaced by the text of its tokens. -/
theorem renderable_iff_parsed :
    (∀ ts : List Token, (∀ t ∈ ts, t.Renderable) → parse (render ts) = .ok ts) ∧
    ∀ s ts, parse s = .ok ts → (∀ t ∈ ts, t.Renderable) ∧ parse (render ts) = .ok ts ∧
      ∀ i : Instant, (Answer.ofExcept (parse (render ts)) >>= evaluate i) =
        (Answer.ofExcept (parse s) >>= evaluate i) := by
  refine ⟨fun ts h => parse_render h, fun s ts h => ?_⟩
  have hr := parse_render (renderable_of_parse h)
  exact ⟨renderable_of_parse h, hr, fun i => by rw [hr, h]⟩

end RelativeTime
