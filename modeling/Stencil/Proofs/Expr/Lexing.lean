import Stencil.Expr.Lexer
import Stencil.Proofs.Text.Trimming
import Stencil.Text.Quoting

/-!
# Texts and the kinds of their tokens

A relation between a text and the kinds of its tokens, without offsets. White space and closing
parentheses belong to no token that begins before them, so a text can be cut there: what comes before
and what comes after have their tokens apart (`lexes_append`, `lexes_split`).
-/

namespace Stencil.Lexer

/-! ## Characters that end tokens -/

def IsEnd (c : Char) : Prop :=
  c = ')' ∨ Text.isBlank c = true

theorem isBlank_bounds {c : Char} (h : Text.isBlank c = true) : c.toNat < 33 ∨ 132 < c.toNat := by
  simp [Text.isBlank, Text.inRanges, Text.blankRanges] at h
  omega

theorem IsEnd.bounds {c : Char} (h : IsEnd c) : c.toNat < 33 ∨ c.toNat = 41 ∨ 132 < c.toNat := by
  rcases h with rfl | blank
  · exact .inr (.inl rfl)
  · have := isBlank_bounds blank
    omega

theorem eq_underscore_iff {c : Char} : c = '_' ↔ c.toNat = 95 := by
  rw [← Char.toNat_inj]
  rfl

theorem isNameChar_bounds {c : Char} (h : Text.isNameChar c = true) :
    47 < c.toNat ∧ c.toNat < 58 ∨ 64 < c.toNat ∧ c.toNat < 91 ∨ c.toNat = 95 ∨
      96 < c.toNat ∧ c.toNat < 123 := by
  delta Text.isNameChar Char.isAlphanum Char.isAlpha Char.isUpper Char.isLower Char.isDigit at h
  simp only [Bool.or_eq_true, Bool.and_eq_true, decide_eq_true_eq, UInt32.le_iff_toNat_le,
    beq_iff_eq, eq_underscore_iff, Char.toNat, ge_iff_le] at h ⊢
  simp at h ⊢
  omega

theorem isNameStart_bounds {c : Char} (h : Text.isNameStart c = true) : 64 < c.toNat := by
  delta Text.isNameStart Char.isAlpha Char.isUpper Char.isLower at h
  simp only [Bool.or_eq_true,
    Bool.and_eq_true, decide_eq_true_eq, UInt32.le_iff_toNat_le, beq_iff_eq, eq_underscore_iff,
    Char.toNat, ge_iff_le] at h ⊢
  simp at h ⊢
  omega

theorem isDigit_bounds {c : Char} (h : Decimal.isDigit c = true) : 47 < c.toNat ∧ c.toNat < 58 := by
  simp only [Decimal.isDigit, Bool.and_eq_true, decide_eq_true_eq, Char.le_def,
    UInt32.le_iff_toNat_le] at h
  have low : 48 ≤ c.toNat := h.1
  have high : c.toNat ≤ 57 := h.2
  omega

theorem not_isSpace_of_isNameChar {c : Char} (name : Text.isNameChar c = true) :
    isSpace c = false := by
  refine Bool.eq_false_iff.2 fun blank => ?_
  have bounds := isNameChar_bounds name
  simp only [isSpace, Bool.or_eq_true, beq_iff_eq] at blank
  rcases blank with (((rfl | rfl) | rfl) | rfl) | feed
  all_goals first
    | (revert bounds; decide)
    | omega

namespace IsEnd

theorem not_isNameChar {c : Char} (h : IsEnd c) : Text.isNameChar c = false := by
  refine Bool.eq_false_iff.2 fun name => ?_
  have outer := h.bounds
  have inner := isNameChar_bounds name
  omega

theorem not_isNameStart {c : Char} (h : IsEnd c) : Text.isNameStart c = false :=
  Bool.eq_false_iff.2 fun start =>
    Bool.eq_false_iff.1 h.not_isNameChar (Text.isNameChar_of_isNameStart start)

theorem not_isDigit {c : Char} (h : IsEnd c) : Decimal.isDigit c = false := by
  refine Bool.eq_false_iff.2 fun digit => ?_
  have outer := h.bounds
  have inner := isDigit_bounds digit
  omega

theorem ne_dot {c : Char} (h : IsEnd c) : c ≠ '.' := by
  rintro rfl
  have outer := h.bounds
  revert outer
  decide

theorem ofTwo?_eq_none {a b : Char} (h : IsEnd b) : Symbol.ofTwo? a b = none := by
  have outer := h.bounds
  unfold Symbol.ofTwo?
  split
  all_goals first
    | rfl
    | (revert outer; decide)

theorem ofThree?_eq_none {a b c : Char} (h : IsEnd b ∨ IsEnd c) : Symbol.ofThree? a b c = none := by
  have outer := h.imp IsEnd.bounds IsEnd.bounds
  unfold Symbol.ofThree?
  split
  all_goals first
    | rfl
    | (revert outer; decide)

end IsEnd

/-- The text is empty or starts with a character that ends the token before it. -/
def EndsToken (cs : List Char) : Prop :=
  ∀ c ∈ cs.head?, IsEnd c

/-! ## Tokens in front of more text -/

def followed (found : Lexeme) (tail : List Char) : Lexeme :=
  { found with rest := found.rest ++ tail }

variable {cs tail : List Char}

theorem takeWhile_append {p : Char → Bool} (stops : ∀ c ∈ tail.head?, p c = false) :
    (cs ++ tail).takeWhile p = cs.takeWhile p := by
  induction cs with
  | nil =>
    cases tail with
    | nil => rfl
    | cons c tail => rw [List.nil_append, List.takeWhile_cons, stops c rfl, List.takeWhile_nil]; rfl
  | cons c cs ih =>
    rw [List.cons_append, List.takeWhile_cons, List.takeWhile_cons, ih]

theorem dropWhile_append {p : Char → Bool} (stops : ∀ c ∈ tail.head?, p c = false) :
    (cs ++ tail).dropWhile p = cs.dropWhile p ++ tail := by
  induction cs with
  | nil =>
    cases tail with
    | nil => rfl
    | cons c tail => rw [List.nil_append, List.dropWhile_cons, stops c rfl, List.dropWhile_nil]; rfl
  | cons c cs ih =>
    rw [List.cons_append, List.dropWhile_cons, List.dropWhile_cons, ih]
    split <;> rfl

theorem word_append (kind : String → TokenKind) (ends : EndsToken tail) :
    word kind (cs ++ tail) = followed (word kind cs) tail := by
  have stops : ∀ c ∈ tail.head?, Text.isNameChar c = false :=
    fun c first => (ends c first).not_isNameChar
  unfold word
  rw [takeWhile_append stops, dropWhile_append stops]
  rfl

theorem word_names {kind : String → TokenKind} (names : ∀ c ∈ cs, Text.isNameChar c = true)
    (stops : ∀ c ∈ tail.head?, Text.isNameChar c = false) :
    word kind (cs ++ tail) = ⟨kind (String.ofList cs), cs, tail⟩ := by
  have after : cs.dropWhile Text.isNameChar = [] := by
    have whole : (cs ++ []).dropWhile Text.isNameChar = [] := List.dropWhile_append_of_pos names
    rwa [List.append_nil] at whole
  have before := List.takeWhile_append_dropWhile (p := Text.isNameChar) (l := cs)
  rw [after, List.append_nil] at before
  unfold word
  rw [takeWhile_append stops, dropWhile_append stops, before, after, List.nil_append]

theorem number_append (ends : EndsToken tail) :
    number (cs ++ tail) = followed (number cs) tail := by
  have stops : ∀ c ∈ tail.head?, Decimal.isDigit c = false :=
    fun c first => (ends c first).not_isDigit
  unfold number
  rw [takeWhile_append stops, dropWhile_append stops]
  generalize cs.takeWhile Decimal.isDigit = whole
  generalize cs.dropWhile Decimal.isDigit = after
  by_cases point : ∃ d rest, after = '.' :: d :: rest
  · obtain ⟨d, rest, rfl⟩ := point
    by_cases digit : Decimal.isDigit d = true
    · simp only [List.cons_append, digit, if_true, takeWhile_append stops, dropWhile_append stops,
        followed]
    · simp only [List.cons_append, if_neg digit, followed]
  · split
    · next d rest same =>
      match after, same with
      | [], same =>
        rw [List.nil_append] at same
        subst same
        exact absurd rfl (ends _ rfl).ne_dot
      | [c], same =>
        cases same
        have outer := (ends d rfl).not_isDigit
        simp only [outer, followed]
        rfl
      | c :: e :: more, same =>
        cases same
        exact absurd ⟨_, _, rfl⟩ point
    · split
      · exact absurd ⟨_, _, rfl⟩ point
      · rfl

theorem symbol?_append {c : Char} (ends : EndsToken tail) :
    symbol? (c :: (cs ++ tail)) = (symbol? (c :: cs)).map (followed · tail) := by
  match cs with
  | [] =>
    match tail with
    | [] => simp [symbol?, followed, Function.comp_def]
    | [x] =>
      have outer := ends x rfl
      simp [symbol?, followed, outer.ofTwo?_eq_none, Function.comp_def]
    | x :: y :: tail =>
      have outer := ends x rfl
      simp [symbol?, followed, outer.ofTwo?_eq_none, IsEnd.ofThree?_eq_none (.inl outer),
        Function.comp_def]
  | [b] =>
    match tail with
    | [] => simp [symbol?, followed, Option.map_or, Function.comp_def]
    | x :: tail =>
      have outer := ends x rfl
      simp [symbol?, followed, IsEnd.ofThree?_eq_none (.inr outer), Option.map_or, Function.comp_def]
  | a :: b :: cs => simp [symbol?, followed, Option.map_or, Function.comp_def]

theorem ne_escape {c : Char} (notLast : c = '\\' → cs = [] → False)
    (notEscape : ∀ d ds, c = '\\' → cs = d :: ds → False) : c ≠ '\\' := by
  rintro rfl
  cases cs with
  | nil => exact notLast rfl rfl
  | cons d ds => exact notEscape d ds rfl rfl

theorem quoted?_cons {quote c : Char} (plain : c ≠ '\\') :
    quoted? quote (c :: cs) = if c = quote then some ([], cs)
      else (quoted? quote cs).map fun (body, rest) => (c :: body, rest) := by
  rw [quoted?]
  · exact fun same _ => plain same
  · exact fun _ _ same _ => plain same

theorem quoted?_append {quote : Char} {body rest : List Char}
    (h : quoted? quote cs = some (body, rest)) :
    quoted? quote (cs ++ tail) = some (body, rest ++ tail) := by
  induction cs using quoted?.induct quote generalizing body rest with
  | case1 => cases h
  | case2 => cases h
  | case3 c cs ih =>
    rw [quoted?] at h
    obtain ⟨⟨inner, after⟩, found, same⟩ := Option.map_eq_some_iff.1 h
    cases same
    rw [List.cons_append, List.cons_append, quoted?, ih found]
    rfl
  | case4 cs notLast notEscape =>
    have plain := ne_escape notLast notEscape
    rw [quoted?_cons plain, if_pos rfl] at h
    cases h
    rw [List.cons_append, quoted?_cons plain, if_pos rfl]
  | case5 c cs notLast notEscape other ih =>
    have plain := ne_escape notLast notEscape
    rw [quoted?_cons plain, if_neg other] at h
    obtain ⟨⟨inner, after⟩, found, same⟩ := Option.map_eq_some_iff.1 h
    cases same
    rw [List.cons_append, quoted?_cons plain, if_neg other, ih found]
    rfl

theorem quoted?_eq_none_of_not_mem {quote : Char} (other : quote ∉ cs) :
    quoted? quote cs = none := by
  refine Option.eq_none_iff_forall_ne_some.2 fun ⟨body, rest⟩ found => other ?_
  rw [quoted?_eq_append found]
  simp

theorem quoted?_append_eq_none {quote : Char} (h : quoted? quote cs = none) (other : quote ∉ tail) :
    quoted? quote (cs ++ tail) = none := by
  induction cs using quoted?.induct quote with
  | case1 => exact quoted?_eq_none_of_not_mem other
  | case2 =>
    cases tail with
    | nil => rfl
    | cons c tail =>
      have none := quoted?_eq_none_of_not_mem (List.not_mem_of_not_mem_cons other)
      rw [List.cons_append, List.nil_append, quoted?, none]
      rfl
  | case3 c cs ih =>
    rw [quoted?] at h
    rw [List.cons_append, List.cons_append, quoted?, ih (Option.map_eq_none_iff.1 h)]
    rfl
  | case4 cs notLast notEscape =>
    have plain := ne_escape notLast notEscape
    rw [quoted?_cons plain, if_pos rfl] at h
    cases h
  | case5 c cs notLast notEscape different ih =>
    have plain := ne_escape notLast notEscape
    rw [quoted?_cons plain, if_neg different] at h
    rw [List.cons_append, quoted?_cons plain, if_neg different, ih (Option.map_eq_none_iff.1 h)]
    rfl

theorem lexeme_append {afterDot : Bool} {c : Char} {found : Lexeme} (ends : EndsToken tail)
    (h : lexeme afterDot c cs = .ok found) :
    lexeme afterDot c (cs ++ tail) = .ok (followed found tail) := by
  -- Every branch is chosen by characters before `tail`, so the same one is taken on both sides.
  unfold lexeme at h ⊢
  simp only [← List.cons_append, word_append _ ends, number_append ends]
  split at h
  · next named =>
    cases h
    rw [if_pos named]
  next notNamed =>
  rw [if_neg notNamed]
  split at h
  · next digit =>
    cases h
    rw [if_pos digit]
  next notDigit =>
  rw [if_neg notDigit]
  split at h
  · next start =>
    cases h
    rw [if_pos start]
  next notStart =>
  rw [if_neg notStart]
  split at h
  · next dollar =>
    rw [if_pos dollar]
    split at h
    · next named =>
      cases h
      have more : (cs ++ tail).head?.any Text.isNameStart = true := by
        cases cs with
        | nil => cases named
        | cons d cs => exact named
      rw [if_pos more]
      rfl
    · cases h
  next notDollar =>
  rw [if_neg notDollar]
  split at h
  · next quote =>
    rw [if_pos quote]
    split at h
    · next body rest read =>
      cases h
      rw [quoted?_append read]
      rfl
    · cases h
  next notQuote =>
  rw [if_neg notQuote, List.cons_append, symbol?_append ends]
  split at h
  · next read =>
    cases h
    rw [read]
    rfl
  · cases h

theorem lexeme_append_error {afterDot : Bool} {c : Char} {problem : Problem} (ends : EndsToken tail)
    (unquoted : ∀ x ∈ tail, Text.isQuote x = false) (h : lexeme afterDot c cs = .error problem) :
    lexeme afterDot c (cs ++ tail) = .error problem := by
  unfold lexeme at h ⊢
  split at h
  · cases h
  next notNamed =>
  rw [if_neg notNamed]
  split at h
  · cases h
  next notDigit =>
  rw [if_neg notDigit]
  split at h
  · cases h
  next notStart =>
  rw [if_neg notStart]
  split at h
  · next dollar =>
    rw [if_pos dollar]
    split at h
    · cases h
    · next unnamed =>
      cases h
      rw [if_neg]
      cases cs with
      | nil =>
        cases tail with
        | nil => nofun
        | cons d tail => simp [(ends d rfl).not_isNameStart]
      | cons d cs => exact unnamed
  next notDollar =>
  rw [if_neg notDollar]
  split at h
  · next quote =>
    rw [if_pos quote]
    split at h
    · cases h
    · next unread =>
      cases h
      have other : c ∉ tail := by
        intro mem
        have plain := unquoted c mem
        rcases quote with rfl | rfl <;> cases plain
      rw [quoted?_append_eq_none unread other]
  next notQuote =>
  rw [if_neg notQuote, symbol?_append ends]
  split at h
  · cases h
  · next unread =>
    rw [unread]
    exact h

/-! ## The tokens of a text -/

/-- The text has tokens of these kinds. The flag says that it comes right after a dot. -/
inductive Lexes : Bool → List Char → List TokenKind → Prop
  | nil {afterDot} : Lexes afterDot [] []
  | space {afterDot c cs ks} : isSpace c = true → Lexes false cs ks → Lexes afterDot (c :: cs) ks
  | token {afterDot c cs found ks} : isSpace c = false → lexeme afterDot c cs = .ok found →
      Lexes (isDot found.kind) found.rest ks → Lexes afterDot (c :: cs) (found.kind :: ks)

variable {afterDot : Bool} {ks : List TokenKind}

theorem Lexes.cons {c : Char} {cs text rest : List Char} {k : TokenKind} (notSpace : isSpace c = false)
    (read : lexeme afterDot c cs = .ok ⟨k, text, rest⟩) (tail : Lexes (isDot k) rest ks) :
    Lexes afterDot (c :: cs) (k :: ks) :=
  .token notSpace read tail

theorem Lexes.of_tokensAt {afterDot : Bool} {offset : Nat} {cs : List Char} {ts : List Token}
    (h : tokensAt afterDot offset cs = .ok ts) : Lexes afterDot cs (ts.map Token.kind) := by
  match cs with
  | [] =>
    rw [tokensAt] at h
    cases h
    exact .nil
  | c :: cs =>
    rw [tokensAt] at h
    split at h
    · next space => exact .space space (Lexes.of_tokensAt h)
    · next notSpace =>
      split at h
      · cases h
      · next found read =>
        have fewer := lexeme_shorter read
        cases tail : tokensAt (isDot found.kind) (offset + Text.byteLength found.text) found.rest with
        | error e =>
          rw [tail] at h
          cases h
        | ok us =>
          rw [tail] at h
          cases h
          exact .token (by simpa using notSpace) read (Lexes.of_tokensAt tail)
termination_by cs.length
decreasing_by
  · exact fewer
  · exact Nat.lt_succ_self _

theorem Lexes.tokensAt {cs : List Char} (h : Lexes afterDot cs ks) (offset : Nat) :
    ∃ ts, tokensAt afterDot offset cs = .ok ts ∧ ts.map Token.kind = ks := by
  induction h generalizing offset with
  | nil => exact ⟨[], by rw [Lexer.tokensAt], rfl⟩
  | space blank _ ih =>
    obtain ⟨ts, read, kinds⟩ := ih (offset + 1)
    exact ⟨ts, by rw [Lexer.tokensAt, if_pos blank, read], kinds⟩
  | @token afterDot c cs found ks notSpace read _ ih =>
    obtain ⟨ts, rest, kinds⟩ := ih (offset + Text.byteLength found.text)
    refine ⟨⟨found.kind, offset⟩ :: ts, ?_, by rw [List.map_cons, kinds]⟩
    rw [Lexer.tokensAt, if_neg (by simp [notSpace])]
    split
    · next failed =>
      rw [read] at failed
      cases failed
    · next same =>
      rw [read] at same
      cases same
      rw [rest]
      rfl

theorem Lexes.unique {cs : List Char} {ls : List TokenKind} (one : Lexes afterDot cs ks)
    (two : Lexes afterDot cs ls) : ks = ls := by
  induction one generalizing ls with
  | nil =>
    cases two
    rfl
  | space blank _ ih =>
    cases two with
    | space _ tail => exact ih tail
    | token notSpace _ _ =>
      rw [blank] at notSpace
      cases notSpace
  | token notSpace read _ ih =>
    cases two with
    | space blank _ =>
      rw [blank] at notSpace
      cases notSpace
    | token _ again tail =>
      rw [read] at again
      cases again
      rw [ih tail]

/-! ## Cutting a text -/

theorem Lexes.of_endsToken {other : Bool} {cs : List Char} (ends : EndsToken cs)
    (h : Lexes afterDot cs ks) : Lexes other cs ks := by
  cases h with
  | nil => exact .nil
  | space blank tail => exact .space blank tail
  | token notSpace read tail =>
    refine .token notSpace ?_ tail
    have outer := (ends _ rfl).not_isNameChar
    unfold lexeme at read ⊢
    rw [outer, Bool.and_false, if_neg Bool.false_ne_true] at read ⊢
    exact read

theorem Lexes.append {cs tail : List Char} {ls : List TokenKind} (ends : EndsToken tail)
    (left : Lexes afterDot cs ks) (right : Lexes false tail ls) :
    Lexes afterDot (cs ++ tail) (ks ++ ls) := by
  induction left with
  | nil => exact right.of_endsToken ends
  | space blank _ ih => exact .space blank ih
  | @token afterDot c cs found ks notSpace read _ ih =>
    show Lexes afterDot (c :: (cs ++ tail)) ((followed found tail).kind :: (ks ++ ls))
    exact .token notSpace (lexeme_append ends read) ih

theorem Lexes.split {afterDot : Bool} {cs tail : List Char} {ks : List TokenKind}
    (ends : EndsToken tail) (unquoted : ∀ x ∈ tail, Text.isQuote x = false)
    (h : Lexes afterDot (cs ++ tail) ks) :
    ∃ ls ms, Lexes afterDot cs ls ∧ Lexes false tail ms ∧ ks = ls ++ ms := by
  match cs with
  | [] => exact ⟨[], ks, .nil, h.of_endsToken ends, rfl⟩
  | c :: cs =>
    rw [List.cons_append] at h
    cases h with
    | space blank h =>
      obtain ⟨ls, ms, left, right, same⟩ := Lexes.split ends unquoted h
      exact ⟨ls, ms, .space blank left, right, same⟩
    | token notSpace whole h =>
      cases read : lexeme afterDot c cs with
      | error problem =>
        rw [lexeme_append_error ends unquoted read] at whole
        cases whole
      | ok found =>
        have fewer := lexeme_shorter read
        rw [lexeme_append ends read] at whole
        cases whole
        obtain ⟨ls, ms, left, right, same⟩ := Lexes.split ends unquoted h
        exact ⟨found.kind :: ls, ms, .token notSpace read left, right, by rw [same]; rfl⟩
termination_by cs.length
decreasing_by
  · exact Nat.lt_succ_self _
  · exact fewer

/-! ## White space around a text -/

theorem lexeme_ne_ok_of_isBlank {c : Char} (blank : Text.isBlank c = true) (found : Lexeme) :
    lexeme afterDot c cs ≠ .ok found := by
  have bounds := isBlank_bounds blank
  have outer : IsEnd c := .inr blank
  have ne : ∀ d : Char, 32 < d.toNat → d.toNat < 133 → c ≠ d := by
    rintro d low high rfl
    omega
  have noSymbol : symbol? (c :: cs) = none := by
    have one : Symbol.ofOne? c = none := by
      unfold Symbol.ofOne?
      split <;> first | rfl | exact absurd rfl (ne _ (by decide) (by decide))
    have two : ∀ b, Symbol.ofTwo? c b = none := by
      intro b
      unfold Symbol.ofTwo?
      split <;> first | rfl | exact absurd rfl (ne _ (by decide) (by decide))
    have three : ∀ a b, Symbol.ofThree? c a b = none := by
      intro a b
      unfold Symbol.ofThree?
      split <;> first | rfl | exact absurd rfl (ne _ (by decide) (by decide))
    match cs with
    | [] => simp [symbol?, one]
    | [b] => simp [symbol?, one, two]
    | a :: b :: cs => simp [symbol?, one, two, three]
  have noQuote : ¬(c = '\'' ∨ c = '"') := by
    rintro (same | same)
    · exact ne _ (by decide) (by decide) same
    · exact ne _ (by decide) (by decide) same
  unfold lexeme
  rw [outer.not_isNameChar, outer.not_isDigit, outer.not_isNameStart, Bool.and_false,
    if_neg Bool.false_ne_true, if_neg Bool.false_ne_true, if_neg Bool.false_ne_true,
    if_neg (ne '$' (by decide) (by decide)), if_neg noQuote, noSymbol]
  nofun

theorem Lexes.of_before {before cs : List Char} (blank : Text.AllBlank before)
    (h : Lexes false (before ++ cs) ks) : Lexes false cs ks := by
  induction before with
  | nil => exact h
  | cons c before ih =>
    cases h with
    | space _ tail => exact ih (fun d mem => blank d (List.mem_cons_of_mem _ mem)) tail
    | token _ read _ => exact absurd read (lexeme_ne_ok_of_isBlank (blank c (List.mem_cons_self ..)) _)

theorem Lexes.eq_nil_of_allBlank {cs : List Char} (blank : Text.AllBlank cs)
    (h : Lexes false cs ks) : ks = [] := by
  have empty : Lexes false [] ks := .of_before blank (by rwa [List.append_nil])
  cases empty
  rfl

theorem isQuote_eq_false_of_isBlank {c : Char} (blank : Text.isBlank c = true) :
    Text.isQuote c = false := by
  have bounds := isBlank_bounds blank
  refine Bool.eq_false_iff.2 fun quote => ?_
  simp only [Text.isQuote, Bool.or_eq_true, beq_iff_eq] at quote
  rcases quote with rfl | rfl <;> revert bounds <;> decide

theorem endsToken_of_allBlank (blank : Text.AllBlank cs) : EndsToken cs := by
  intro c first
  cases cs with
  | nil => cases first
  | cons d cs =>
    cases first
    exact .inr (blank c (List.mem_cons_self ..))

theorem Lexes.trim {cs : List Char} (h : Lexes false cs ks) : Lexes false (Text.trim cs) ks := by
  obtain ⟨before, after, blank, space, whole⟩ := Text.trim_append cs
  rw [whole] at h
  obtain ⟨ls, ms, core, none, rfl⟩ := (Lexes.of_before blank h).split (endsToken_of_allBlank space)
    fun c mem => isQuote_eq_false_of_isBlank (space c mem)
  rw [none.eq_nil_of_allBlank space, List.append_nil]
  exact core

end Stencil.Lexer
