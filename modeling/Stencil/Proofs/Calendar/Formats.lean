import Mathlib
import Stencil.Calendar.Letters

/-!
# Formats, piece by piece

A format is a row of pieces: characters after a backslash, and characters on their own. Each piece has
a pattern. A pattern with known codes reads the same whatever comes after it, so no code takes anything
from its neighbours, and the moment in a format is the moment in its pieces one after another
(`writeFormat?_piecewise`).
-/

namespace Stencil.Calendar

/-- No backslash at the end of the format waits for a character: those at the end go in pairs. -/
def Finished (format : List Char) : Prop :=
  Even (format.reverse.takeWhile (· == '\\')).length

instance : DecidablePred Finished := fun _ => inferInstanceAs (Decidable (Even _))

inductive FormatPiece where
  | escaped (c : Char)
  | lone (c : Char)

namespace FormatPiece

def source : FormatPiece → List Char
  | escaped c => ['\\', c]
  | lone c => [c]

def pattern : FormatPiece → List Char
  | escaped c => plainPattern c
  | lone c =>
    match letterPattern? c with
    | some pattern => pattern.toList
    | none => plainPattern c

/-- The text that the piece stands for in a moment. -/
inductive Denotes (m : Moment) : FormatPiece → List Char → Prop where
  | escaped (c : Char) : Denotes m (escaped c) [c]
  | letter {c : Char} {pattern : String} {text : List Char} (listed : letterPattern? c = some pattern)
      (written : m.write? pattern.toList = some text) : Denotes m (lone c) text
  | other {c : Char} (unlisted : letterPattern? c = none) (unescaped : c ≠ '\\') :
      Denotes m (lone c) [c]

end FormatPiece

def pieces : List Char → List FormatPiece
  | [] => []
  | [c] => if c = '\\' then [] else [.lone c]
  | c :: d :: cs => if c = '\\' then .escaped d :: pieces cs else .lone c :: pieces (d :: cs)

variable {m : Moment} {cs first rest p : List Char} {items : List Item} {c : Char} {pattern : String}

/-! ## Codes -/

namespace Item

theorem ofCode?_letter (listed : ofLetter? c = some items) (rest : List Char) :
    ofCode? (c :: rest) = some (items, rest) := by
  unfold ofCode?
  split <;> grind [ofLetter?, fractionDigits?]

theorem ofCode?_digit {n : Nat} (digit : fractionDigits? c = some n) (rest : List Char) :
    ofCode? (c :: 'f' :: rest) = some ([.fractionDigits false n], rest) := by
  unfold ofCode?
  split <;> grind [fractionDigits?]

theorem map_append {α : Type} {found : Option α} {meaning : α → List Item}
    (h : (found.map fun a => (meaning a, first)) = some (items, rest)) (more : List Char) :
    (found.map fun a => (meaning a, first ++ more)) = some (items, rest ++ more) := by
  obtain ⟨a, rfl, same⟩ := Option.map_eq_some_iff.1 h
  cases same
  rfl

theorem ofCode?_append (h : ofCode? cs = some (items, rest)) (more : List Char) :
    ofCode? (cs ++ more) = some (items, rest ++ more) := by
  unfold ofCode? at h
  split at h
  case h_4 | h_5 | h_6 | h_7 =>
    cases h
    rfl
  case h_9 =>
    split at h
    · cases h
      exact ofCode?_digit ‹_› _
    · cases h
    · obtain ⟨_, listed, same⟩ := Option.map_eq_some_iff.1 h
      cases same
      exact ofCode?_letter listed _
  case h_10 => cases h
  case h_8 =>
    rw [List.cons_append, List.cons_append, List.cons_append, ofCode?]
    · exact map_append h more
    · assumption
  all_goals exact map_append h more

end Item

/-! ## Patterns -/

theorem items?_code (known : Item.ofCode? cs = some (items, rest)) :
    items? ('%' :: cs) = (items? rest).map (items ++ ·) := by
  rw [items?, if_pos rfl]
  split
  · next same =>
    rw [known] at same
    cases same
    rfl
  · next absent =>
    rw [known] at absent
    cases absent

theorem items?_char (other : c ≠ '%') (cs : List Char) :
    items? (c :: cs) = (items? cs).map (.char c :: ·) := by
  rw [items?, if_neg other]

theorem items?_append (h : items? p = some items) (q : List Char) :
    items? (p ++ q) = (items? q).map (items ++ ·) := by
  fun_induction items? p generalizing items with
  | case1 =>
    cases h
    simp
  | case2 cs code rest known ih =>
    obtain ⟨later, read, rfl⟩ := Option.map_eq_some_iff.1 h
    rw [List.cons_append, items?_code (Item.ofCode?_append known q), ih read, Option.map_map]
    simp only [Function.comp_def, List.append_assoc]
  | case3 => cases h
  | case4 c cs other ih =>
    obtain ⟨later, read, rfl⟩ := Option.map_eq_some_iff.1 h
    rw [List.cons_append, items?_char other, ih read, Option.map_map]
    rfl

theorem write?_append {text : List Char} (h : m.write? p = some text) (q : List Char) :
    m.write? (p ++ q) = (m.write? q).map (text ++ ·) := by
  obtain ⟨items, read, rfl⟩ := Option.map_eq_some_iff.1 h
  simp only [Moment.write?, items?_append read, Option.map_map, Function.comp_def, List.flatMap_append]

theorem write?_plainPattern (m : Moment) (c : Char) : m.write? (plainPattern c) = some [c] := by
  unfold plainPattern
  split
  · next percent =>
    subst percent
    have : items? ['%', '%'] = some [.char '%'] := by cbv
    rw [Moment.write?, this]
    rfl
  · next other =>
    rw [Moment.write?, items?_char other, items?]
    rfl

theorem items?_letterPattern? (listed : letterPattern? c = some pattern) :
    ∃ items, items? pattern.toList = some items := by
  unfold letterPattern? at listed
  split at listed
  all_goals cases listed
  all_goals exact ⟨_, by cbv⟩

/-! ## Pieces -/

theorem finished_lone (unescaped : c ≠ '\\') : Finished (c :: cs) ↔ Finished cs := by
  unfold Finished
  rw [List.reverse_cons, List.takeWhile_append]
  split <;> simp [*]

theorem finished_escaped : Finished ('\\' :: c :: cs) ↔ Finished cs := by
  unfold Finished
  rw [List.reverse_cons, List.reverse_cons, List.append_assoc, List.takeWhile_append]
  split
  · by_cases slash : c = '\\'
    · simp [*, Nat.even_add_one]
    · simp [*]
  · rfl

theorem not_finished_slash : ¬Finished ['\\'] :=
  Nat.not_even_one

theorem letterPattern_lone (unescaped : c ≠ '\\') (cs : List Char) :
    letterPattern (c :: cs) = (FormatPiece.lone c).pattern ++ letterPattern cs := by
  rw [letterPattern]
  · rfl
  · exact fun slash => absurd slash unescaped
  · exact fun _ _ slash => absurd slash unescaped

theorem pieces_lone (unescaped : c ≠ '\\') (cs : List Char) :
    pieces (c :: cs) = .lone c :: pieces cs := by
  cases cs <;> simp [pieces, unescaped]

theorem letterPattern_eq (f : List Char) : letterPattern f = (pieces f).flatMap FormatPiece.pattern := by
  fun_induction pieces f with
  | case1 => rfl
  | case2 => rfl
  | case3 c unescaped => exact letterPattern_lone unescaped []
  | case4 c cs ih =>
    rw [letterPattern, ih]
    rfl
  | case5 c d cs unescaped ih =>
    rw [letterPattern_lone unescaped, ih]
    rfl

theorem pieces_append {f : List Char} (finished : Finished f) (g : List Char) :
    pieces (f ++ g) = pieces f ++ pieces g := by
  fun_induction pieces f with
  | case1 => rfl
  | case2 => exact absurd finished not_finished_slash
  | case3 c unescaped => exact pieces_lone unescaped g
  | case4 c cs ih =>
    exact congrArg (.escaped c :: ·) (ih (finished_escaped.1 finished))
  | case5 c d cs unescaped ih =>
    rw [List.cons_append, pieces_lone unescaped, ih ((finished_lone unescaped).1 finished)]
    rfl

theorem source_pieces {f : List Char} (finished : Finished f) :
    (pieces f).flatMap FormatPiece.source = f := by
  fun_induction pieces f with
  | case1 => rfl
  | case2 => exact absurd finished not_finished_slash
  | case3 c unescaped => rfl
  | case4 c cs ih =>
    exact congrArg ('\\' :: c :: ·) (ih (finished_escaped.1 finished))
  | case5 c d cs unescaped ih =>
    exact congrArg (c :: ·) (ih ((finished_lone unescaped).1 finished))

theorem unescaped_of_mem_pieces {f : List Char} (mem : .lone c ∈ pieces f) : c ≠ '\\' := by
  fun_induction pieces f with
  | case1 => cases mem
  | case2 => cases mem
  | case3 d unescaped =>
    cases List.mem_singleton.1 mem
    exact unescaped
  | case4 d cs ih =>
    simp only [List.mem_cons, reduceCtorEq, false_or] at mem
    exact ih mem
  | case5 d e cs unescaped ih =>
    rcases List.mem_cons.1 mem with same | mem
    · cases same
      exact unescaped
    · exact ih mem

/-! ## Moments -/

theorem writeFormat?_unmarked {f : List Char} (unmarked : '%' ∉ f) :
    m.writeFormat? f = m.write? (letterPattern f) := by
  rw [Moment.writeFormat?, if_neg]
  simpa using unmarked

namespace FormatPiece

variable {p : FormatPiece}

theorem letterPattern_source (unescaped : p ≠ lone '\\') : letterPattern p.source = p.pattern := by
  cases p with
  | escaped c => exact List.append_nil _
  | lone c =>
    have other : c ≠ '\\' := fun slash => unescaped (congrArg lone slash)
    exact (letterPattern_lone other []).trans (List.append_nil _)

theorem exists_denoted (m : Moment) (unescaped : p ≠ lone '\\') :
    ∃ text, p.Denotes m text ∧ m.write? p.pattern = some text := by
  cases p with
  | escaped c => exact ⟨[c], .escaped c, write?_plainPattern m c⟩
  | lone c =>
    cases listed : letterPattern? c with
    | none =>
      refine ⟨[c], .other listed fun slash => unescaped (congrArg lone slash), ?_⟩
      simp only [pattern, listed]
      exact write?_plainPattern m c
    | some pattern =>
      obtain ⟨items, read⟩ := items?_letterPattern? listed
      have written : m.write? pattern.toList = some (items.flatMap (Item.write m)) := by
        rw [Moment.write?, read]
        rfl
      refine ⟨_, .letter listed written, ?_⟩
      simp only [FormatPiece.pattern, listed]
      exact written

end FormatPiece

theorem write?_pieces (m : Moment) {ps : List FormatPiece} (unescaped : .lone '\\' ∉ ps)
    (unmarked : '%' ∉ ps.flatMap FormatPiece.source) :
    ∃ texts, List.Forall₂ (fun p text => p.Denotes m text ∧ m.writeFormat? p.source = some text)
        ps texts ∧
      m.write? (ps.flatMap FormatPiece.pattern) = some texts.flatten := by
  induction ps with
  | nil =>
    refine ⟨[], .nil, ?_⟩
    rw [List.flatMap_nil, Moment.write?, items?]
    rfl
  | cons p ps ih =>
    rw [List.mem_cons, not_or] at unescaped
    rw [List.flatMap_cons, List.mem_append, not_or] at unmarked
    have other := Ne.symm unescaped.1
    obtain ⟨text, denoted, written⟩ := p.exists_denoted m other
    obtain ⟨texts, each, whole⟩ := ih unescaped.2 unmarked.2
    have alone : m.writeFormat? p.source = some text := by
      rw [writeFormat?_unmarked unmarked.1, FormatPiece.letterPattern_source other, written]
    refine ⟨text :: texts, .cons ⟨denoted, alone⟩ each, ?_⟩
    rw [List.flatMap_cons, write?_append written, whole]
    rfl

theorem letterPattern_escaped (t : List Char) :
    letterPattern (t.flatMap fun c => ['\\', c]) = t.flatMap plainPattern := by
  induction t with
  | nil => rfl
  | cons c t ih => exact congrArg (plainPattern c ++ ·) ih

/-- Every format without percent signs writes every moment, piece by piece: a letter as the part of the
moment that it stands for, an escaped character and any other as itself. Formats side by side have
their patterns side by side. A text of escaped characters only has itself for a pattern, with its
percent signs written twice. -/
theorem writeFormat?_piecewise :
    (∀ (m : Moment) (f : List Char), Finished f → '%' ∉ f →
      (pieces f).flatMap FormatPiece.source = f ∧
        ∃ texts, List.Forall₂ (fun p text => p.Denotes m text ∧ m.writeFormat? p.source = some text)
            (pieces f) texts ∧
          m.writeFormat? f = some texts.flatten) ∧
      (∀ f g, Finished f → letterPattern (f ++ g) = letterPattern f ++ letterPattern g) ∧
      ∀ t : List Char, letterPattern (t.flatMap fun c => ['\\', c]) =
        t.flatMap fun c => if c = '%' then ['%', '%'] else [c] := by
  refine ⟨fun m f finished unmarked => ?_, fun f g finished => ?_, letterPattern_escaped⟩
  · have whole := source_pieces finished
    refine ⟨whole, ?_⟩
    have unescaped : .lone '\\' ∉ pieces f := fun mem => unescaped_of_mem_pieces mem rfl
    rw [writeFormat?_unmarked unmarked, letterPattern_eq]
    exact write?_pieces m unescaped (whole.symm ▸ unmarked)
  · rw [letterPattern_eq, letterPattern_eq, letterPattern_eq, pieces_append finished, List.flatMap_append]

def marchEvening : Moment :=
  ⟨⟨2024, 3, 5⟩, 18, 7, 9, 0, 60⟩

theorem writeFormat?_piecewise_evening :
    let f := "jS\\o\\f F, G:iP".toList
    Finished f ∧ '%' ∉ f ∧
      (∃ texts, List.Forall₂
          (fun p text => p.Denotes marchEvening text ∧ marchEvening.writeFormat? p.source = some text)
          (pieces f) texts ∧
        marchEvening.writeFormat? f = some texts.flatten) ∧
      marchEvening.writeFormat? f = some "5Sof March, 18:07+01:00".toList ∧
      letterPattern (f ++ ['\\', 'd']) = letterPattern f ++ ['d'] := by
  have finished : Finished "jS\\o\\f F, G:iP".toList := by decide
  have unmarked : '%' ∉ "jS\\o\\f F, G:iP".toList := by decide
  exact ⟨finished, unmarked, (writeFormat?_piecewise.1 marchEvening _ finished unmarked).2, by cbv,
    writeFormat?_piecewise.2.1 _ _ finished⟩

end Stencil.Calendar
