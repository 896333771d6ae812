import Mathlib.Data.Bool.AllAny
import Stencil.Proofs.Expr.Lexing
import Stencil.Proofs.Expr.Orderly
import Stencil.Proofs.Text.Scanning

/-!
# The scanners of raw text agree with the tokens

A text with tokens leaves the search for a closing parenthesis at the depth at which its tokens end
(`Lexes.through`). The search for a closing mark passes over it, if an operand follows every question
mark among its tokens (`Lexes.closeTag?_append`).
-/

namespace Stencil.Lexer
open Text Grammar

variable {depth : Nat} {c quote : Char} {cs body rest : List Char} {found : Lexeme}
  {afterDot : Bool} {ks : List TokenKind}

def IsPlain (c : Char) : Prop :=
  isNeutral c = true ∧ c ≠ '?'

theorem isPlain_of_ne (h : ∀ d ∈ ['\'', '"', '(', ')', '?'], c ≠ d) : IsPlain c := by
  simp only [List.mem_cons, List.not_mem_nil, or_false, forall_eq_or_imp, forall_eq] at h
  obtain ⟨single, double, opening, closing, question⟩ := h
  exact ⟨by simp [isNeutral, isQuote, single, double, opening, closing], question⟩

theorem IsPlain.unasked (h : IsPlain c) : isQuote c = false ∧ c ≠ '?' := by
  have neutral := h.1
  simp only [isNeutral, Bool.and_eq_true, Bool.not_eq_true'] at neutral
  exact ⟨neutral.1.1, h.2⟩

theorem isPlain_of {p : Char → Bool} (outside : ['\'', '"', '(', ')', '?'].all (!p ·) = true)
    (h : p c = true) : IsPlain c := by
  refine isPlain_of_ne ?_
  rintro d mem rfl
  have absent := List.all_eq_true.1 outside c mem
  rw [h] at absent
  cases absent

theorem isPlain_of_isNameChar (h : isNameChar c = true) : IsPlain c :=
  isPlain_of rfl h

theorem isPlain_of_isDigit (h : Decimal.isDigit c = true) : IsPlain c :=
  isPlain_of rfl h

theorem isPlain_of_isSpace (h : isSpace c = true) : IsPlain c :=
  isPlain_of rfl h

theorem spelling_of_symbol? (h : symbol? cs = some found) :
    ∃ s, found.kind = .symbol s ∧ found.text = s.spelling.toList := by
  have three : ∀ {a b c s}, Symbol.ofThree? a b c = some s → [a, b, c] = s.spelling.toList := by
    intro a b c s spelled
    unfold Symbol.ofThree? at spelled
    split at spelled <;> cases spelled <;> rfl
  have two : ∀ {a b s}, Symbol.ofTwo? a b = some s → [a, b] = s.spelling.toList := by
    intro a b s spelled
    unfold Symbol.ofTwo? at spelled
    split at spelled <;> cases spelled <;> rfl
  have one : ∀ {a s}, Symbol.ofOne? a = some s → [a] = s.spelling.toList := by
    intro a s spelled
    unfold Symbol.ofOne? at spelled
    split at spelled <;> cases spelled <;> rfl
  unfold symbol? at h
  simp only [Option.or_eq_some_iff] at h
  rcases h with h | ⟨_, h | ⟨_, h⟩⟩
  all_goals
    split at h
    · obtain ⟨s, spelled, rfl⟩ := Option.map_eq_some_iff.1 h
      exact ⟨s, rfl, by first | exact three spelled | exact two spelled | exact one spelled⟩
    · cases h

/-! ## Quoted texts -/

theorem quote_ne_escape (quotes : isQuote quote = true) : quote ≠ '\\' := by
  rintro rfl
  exact absurd quotes (by decide)

theorem step_quote (quotes : isQuote quote = true) :
    step quote depth .outside = some (depth, .inside quote) := by
  simp only [isQuote, Bool.or_eq_true, beq_iff_eq] at quotes
  rcases quotes with rfl | rfl <;> rfl

theorem through_quoted (quotes : isQuote quote = true) (h : quoted? quote cs = some (body, rest)) :
    through depth (.inside quote) (body ++ [quote]) = some (depth, .outside) := by
  induction cs using quoted?.induct quote generalizing body rest with
  | case1 => cases h
  | case2 => cases h
  | case3 c cs ih =>
    rw [quoted?] at h
    obtain ⟨⟨inner, after⟩, read, same⟩ := Option.map_eq_some_iff.1 h
    cases same
    simpa [through, step, Quoting.after] using ih read
  | case4 cs notLast notEscape =>
    have plain := quote_ne_escape quotes
    rw [quoted?_cons plain, if_pos rfl] at h
    cases h
    simp [through, step, Quoting.after, plain]
  | case5 c cs notLast notEscape other ih =>
    have plain := ne_escape notLast notEscape
    rw [quoted?_cons plain, if_neg other] at h
    obtain ⟨⟨inner, after⟩, read, same⟩ := Option.map_eq_some_iff.1 h
    cases same
    simpa [through, step, Quoting.after, plain, other] using ih read

theorem closeTag?_quoted {tail : List Char} (quotes : isQuote quote = true)
    (h : quoted? quote cs = some (body, rest)) :
    closeTag? (.inside quote) (body ++ quote :: tail) =
      prefixed (body ++ [quote]) (closeTag? .outside tail) := by
  induction cs using quoted?.induct quote generalizing body rest with
  | case1 => cases h
  | case2 => cases h
  | case3 c cs ih =>
    rw [quoted?] at h
    obtain ⟨⟨inner, after⟩, read, same⟩ := Option.map_eq_some_iff.1 h
    cases same
    simp [closeTag?, Quoting.after, ih read, begunWith_prefixed]
  | case4 cs notLast notEscape =>
    have plain := quote_ne_escape quotes
    rw [quoted?_cons plain, if_pos rfl] at h
    cases h
    simp [closeTag?, Quoting.after, plain]
    rfl
  | case5 c cs notLast notEscape other ih =>
    have plain := ne_escape notLast notEscape
    rw [quoted?_cons plain, if_neg other] at h
    obtain ⟨⟨inner, after⟩, read, same⟩ := Option.map_eq_some_iff.1 h
    cases same
    simp [closeTag?, Quoting.after, plain, other, ih read, begunWith_prefixed]

/-! ## One token -/

/-- How the characters of a token are made up. -/
inductive Written : Lexeme → Prop
  | plain {l} : isQuiet l.kind = true → (∀ c ∈ l.text, IsPlain c) → Written l
  | quoted {l quote cs body rest} : isQuiet l.kind = true → isQuote quote = true →
      quoted? quote cs = some (body, rest) → l.text = quote :: (body ++ [quote]) → Written l
  | symbol {l s} : l.kind = .symbol s → l.text = s.spelling.toList → Written l

theorem written_of_word {kind : String → TokenKind} (quiet : ∀ name, isQuiet (kind name) = true) :
    Written (word kind cs) := by
  refine .plain (quiet _) fun c mem => isPlain_of_isNameChar ?_
  exact List.all_eq_true.1 List.all_takeWhile c mem

theorem written_of_number : Written (number cs) := by
  have digits : ∀ {ds c}, c ∈ List.takeWhile Decimal.isDigit ds → IsPlain c :=
    fun mem => isPlain_of_isDigit (List.all_eq_true.1 List.all_takeWhile _ mem)
  have whole : ∀ ds, isQuiet (wholeNumber ds) = true := by
    intro ds
    unfold wholeNumber
    split <;> rfl
  unfold number
  split
  · next d rest shape =>
    by_cases digit : Decimal.isDigit d = true
    · rw [if_pos digit]
      refine .plain rfl fun c mem => ?_
      simp only [List.mem_append, List.mem_cons] at mem
      rcases mem with mem | rfl | rfl | mem
      · exact digits mem
      · exact ⟨rfl, by decide⟩
      · exact isPlain_of_isDigit digit
      · exact digits mem
    · rw [if_neg digit]
      exact .plain (whole _) fun c mem => digits mem
  · exact .plain (whole _) fun c mem => digits mem

theorem written_of_lexeme (h : lexeme afterDot c cs = .ok found) : Written found := by
  unfold lexeme at h
  split at h
  · cases h
    exact written_of_word fun _ => rfl
  split at h
  · cases h
    exact written_of_number
  split at h
  · cases h
    exact written_of_word fun _ => rfl
  split at h
  · split at h
    · cases h
      refine .plain rfl fun c mem => ?_
      rcases List.mem_cons.1 mem with rfl | mem
      · exact ⟨rfl, by decide⟩
      · exact isPlain_of_isNameChar (List.all_eq_true.1 List.all_takeWhile c mem)
    · cases h
  split at h
  · next quote =>
    split at h
    · next read =>
      cases h
      have quotes : isQuote c = true := by rcases quote with rfl | rfl <;> rfl
      exact .quoted rfl quotes read rfl
    · cases h
  · split at h
    · next read =>
      cases h
      obtain ⟨s, kind, text⟩ := spelling_of_symbol? read
      exact .symbol kind text
    · cases h

theorem Written.through (h : Written found) :
    Text.through depth .outside found.text =
      (depthAfter depth [found.kind]).map fun depth => (depth, .outside) := by
  cases h with
  | plain quiet plain =>
    rw [through_of_neutral fun c mem => (plain c mem).1, (Settled.cons quiet .nil).balanced]
    rfl
  | quoted quiet quotes read text =>
    rw [text, Text.through, step_quote quotes, (Settled.cons quiet .nil).balanced]
    exact through_quoted quotes read
  | @symbol s kind text =>
    rw [kind, text]
    cases s with
    | rParen => cases depth <;> rfl
    | _ => rfl

theorem closeTag?_quote {tail : List Char} (quotes : isQuote quote = true) :
    closeTag? .outside (quote :: tail) = begunWith quote (closeTag? (.inside quote) tail) := by
  simp only [isQuote, Bool.or_eq_true, beq_iff_eq] at quotes
  rcases quotes with rfl | rfl <;> rfl

theorem Written.closeTag?_append {tail : List Char} (h : Written found)
    (other : asks found.kind = true → tail.head? ≠ some '>') :
    closeTag? .outside (found.text ++ tail) = prefixed found.text (closeTag? .outside tail) := by
  cases h with
  | plain quiet plain => exact closeTag?_of_plain fun c mem => (plain c mem).unasked
  | quoted quiet quotes read text =>
    rw [text, List.cons_append, List.append_assoc, closeTag?_quote quotes]
    rw [List.singleton_append, closeTag?_quoted quotes read, begunWith_prefixed]
  | @symbol s kind text =>
    rw [kind] at other
    rw [text]
    cases s with
    | question => exact closeTag?_question (other rfl)
    | coalesce =>
      have one : closeTag? .outside ('?' :: '?' :: tail) =
          prefixed ['?'] (closeTag? .outside ('?' :: tail)) := closeTag?_question (by simp)
      have two := closeTag?_question (other rfl)
      calc closeTag? .outside ('?' :: '?' :: tail)
        _ = prefixed ['?'] (prefixed ['?'] (closeTag? .outside tail)) := by rw [one, two]
        _ = prefixed ['?', '?'] (closeTag? .outside tail) := prefixed_prefixed
    | _ => exact closeTag?_of_plain (List.all_iff_forall_prop.1 rfl)

/-! ## Whole texts -/

theorem Lexes.through {depth depth' : Nat} (h : Lexes afterDot cs ks)
    (balanced : depthAfter depth ks = some depth') :
    Text.through depth .outside cs = some (depth', .outside) := by
  induction h generalizing depth with
  | nil =>
    cases balanced
    rfl
  | @space _ c cs _ blank _ ih =>
    have one : Text.through depth .outside [c] = some (depth, .outside) :=
      through_of_neutral fun d mem => by
        rw [List.mem_singleton.1 mem]
        exact (isPlain_of_isSpace blank).1
    rw [← List.singleton_append, through_append one]
    exact ih balanced
  | @token _ c cs found ks _ read _ ih =>
    obtain ⟨middle, first, last⟩ := depthAfter_cons_eq_some balanced
    have one : Text.through depth .outside found.text = some (middle, .outside) := by
      rw [(written_of_lexeme read).through, first]
      rfl
    rw [(lexeme_eq_append read).1, through_append one]
    exact ih last

theorem symbol?_of_lexeme (h : lexeme afterDot '>' cs = .ok found) :
    symbol? ('>' :: cs) = some found := by
  have name : isNameChar '>' = false := rfl
  have digit : Decimal.isDigit '>' = false := rfl
  have start : isNameStart '>' = false := rfl
  unfold lexeme at h
  rw [name, Bool.and_false, if_neg Bool.false_ne_true, digit, if_neg Bool.false_ne_true, start,
    if_neg Bool.false_ne_true, if_neg (by decide), if_neg (by decide)] at h
  split at h
  · next read =>
    cases h
    exact read
  · cases h

theorem Lexes.head_of_beginsOperand {k : TokenKind} {tail : List Char} (h : Lexes afterDot cs (k :: ks))
    (begins : beginsOperand k = true) : (cs ++ tail).head? ≠ some '>' := by
  generalize whole : k :: ks = kinds at h
  cases h with
  | nil => cases whole
  | space blank _ =>
    rintro ⟨⟩
    cases blank
  | @token _ c cs found _ _ read _ =>
    cases whole
    rintro ⟨⟩
    obtain ⟨s, kind, text⟩ := spelling_of_symbol? (symbol?_of_lexeme read)
    have front := (lexeme_eq_append read).1
    rw [text] at front
    rw [kind] at begins
    cases s with
    | gt | ge => cases begins
    | _ => cases front

theorem Lexes.closeTag?_append {tail : List Char} (h : Lexes afterDot cs ks)
    (answers : answered ks = true) :
    closeTag? .outside (cs ++ tail) = prefixed cs (closeTag? .outside tail) := by
  induction h with
  | nil => exact prefixed_nil.symm
  | @space _ c cs _ blank _ ih =>
    have one : closeTag? .outside ([c] ++ (cs ++ tail)) =
        prefixed [c] (closeTag? .outside (cs ++ tail)) :=
      closeTag?_of_plain fun d mem => by
        rw [List.mem_singleton.1 mem]
        exact (isPlain_of_isSpace blank).unasked
    rw [List.singleton_append] at one
    rw [List.cons_append, one, ih answers, prefixed_prefixed, List.singleton_append]
  | @token _ c cs found ks _ read rest ih =>
    have other : asks found.kind = true → (found.rest ++ tail).head? ≠ some '>' := by
      intro asking
      cases ks with
      | nil =>
        rw [answered, asking] at answers
        cases answers
      | cons l ks =>
        rw [answered, asking] at answers
        simp only [Bool.not_true, Bool.false_or, Bool.and_eq_true] at answers
        exact rest.head_of_beginsOperand answers.1
    have more : answered ks = true := by
      cases ks with
      | nil => rfl
      | cons l ks =>
        rw [answered, Bool.and_eq_true] at answers
        exact answers.2
    rw [(lexeme_eq_append read).1, List.append_assoc, (written_of_lexeme read).closeTag?_append other,
      ih more, prefixed_prefixed]

end Stencil.Lexer
