import Stencil.Marker
import Stencil.Proofs.Expr.Headers

namespace Stencil

theorem Segment.text_ofText (s : String) : (ofText s).text = s := by
  unfold ofText
  split
  · next n _ =>
    split
    · next shortest =>
      rw [Bool.and_eq_true, beq_iff_eq] at shortest
      rw [← String.toList_inj, ← shortest.2]
      exact Nat.toList_repr
    · rfl
  · rfl

theorem Text.isNameChar_of_isMember {cs : List Char} (h : isMember cs = true) :
    ∀ c ∈ cs, isNameChar c = true := by
  unfold isMember at h
  rw [Bool.and_eq_true] at h
  exact List.all_eq_true.1 h.2

namespace Lexer
open Text

variable {name rest : List Char} {ks : List TokenKind}

theorem Lexes.dot_member {word : List Char} (member : isMember word = true)
    (stops : ∀ c ∈ rest.head?, isNameChar c = false) (tail : Lexes false rest ks) :
    Lexes false ('.' :: (word ++ rest)) (.symbol .dot :: .segment (String.ofList word) :: ks) := by
  have names := isNameChar_of_isMember member
  cases word with
  | nil => cases member
  | cons c word =>
    have first := names c (List.mem_cons_self ..)
    have read : lexeme true c (word ++ rest) = .ok (Lexer.word .segment ((c :: word) ++ rest)) := by
      unfold lexeme
      rw [Bool.true_and, if_pos first]
      rfl
    rw [word_names names stops] at read
    refine .cons rfl (lexeme_lone (by decide) _) ?_
    exact .cons (not_isSpace_of_isNameChar first) read tail

theorem Lexes.dollar_name (named : isName name = true)
    (stops : ∀ c ∈ rest.head?, isNameChar c = false) (tail : Lexes false rest ks) :
    Lexes false ('$' :: (name ++ rest)) (.variable (String.ofList name) :: ks) := by
  have start : (name ++ rest).head?.any isNameStart = true := by
    cases name with
    | nil => cases named
    | cons c name =>
      simp only [isName, Bool.and_eq_true] at named
      exact named.1
  have read : lexeme false '$' (name ++ rest) =
      .ok ⟨.variable (String.ofList name), '$' :: name, rest⟩ := by
    unfold lexeme
    rw [Bool.false_and, if_neg Bool.false_ne_true, if_neg (by decide), if_neg (by decide),
      if_pos rfl, if_pos start, word_names (isNameChar_of_isName named) stops]
  exact .cons rfl read tail

theorem Lexes.bare_name (named : isName name = true)
    (stops : ∀ c ∈ rest.head?, isNameChar c = false) (tail : Lexes false rest ks) :
    Lexes false (name ++ rest) (.ident (String.ofList name) :: ks) := by
  cases name with
  | nil => cases named
  | cons c name =>
    have char := isNameChar_of_isName named c (List.mem_cons_self ..)
    exact .cons (not_isSpace_of_isNameChar char) (lexeme_name named stops) tail

end Lexer

namespace VariablePath
open Grammar Lexer Text

variable {cs root : List Char} {members : List (List Char)}

theorem isPath_cases (h : isPath cs = true) :
    ∃ root members, split '.' cs = root :: members ∧ isName root = true ∧
      ∀ m ∈ members, isMember m = true := by
  unfold isPath at h
  split at h
  · next root members shape =>
    rw [Bool.and_eq_true] at h
    exact ⟨root, members, shape, h.1, List.all_eq_true.1 h.2⟩
  · cases h

theorem isPathChar_of_isPath (h : isPath cs = true) : ∀ c ∈ cs, Marker.isPathChar c = true := by
  obtain ⟨root, members, shape, named, follow⟩ := isPath_cases h
  intro c mem
  unfold Marker.isPathChar
  rw [split_eq_cons shape, List.mem_append, List.mem_flatMap] at mem
  rw [Bool.or_eq_true]
  rcases mem with mem | ⟨m, other, mem⟩
  · exact .inl (isNameChar_of_isName named c mem)
  · rcases List.mem_cons.1 mem with rfl | mem
    · exact .inr rfl
    · exact .inl (isNameChar_of_isMember (follow m other) c mem)

theorem text_members (root : String) (members : List (List Char)) :
    (text ⟨root, members.map fun m => Segment.ofText (String.ofList m)⟩).toList =
      root.toList ++ members.flatMap ('.' :: ·) := by
  unfold text
  induction members generalizing root with
  | nil => simp
  | cons m members ih =>
    rw [List.map_cons, List.foldl_cons]
    exact (ih (root ++ "." ++ (Segment.ofText (String.ofList m)).text)).trans
      (by simp [Segment.text_ofText])

/-! ## Reading a path -/

theorem stops_members : ∀ c ∈ (members.flatMap ('.' :: ·)).head?, isNameChar c = false := by
  cases members with
  | nil => nofun
  | cons m members =>
    rintro c ⟨⟩
    rfl

def memberKinds (members : List (List Char)) : List TokenKind :=
  members.flatMap fun m => [.symbol .dot, .segment (String.ofList m)]

theorem lexes_members (h : ∀ m ∈ members, isMember m = true) :
    Lexes false (members.flatMap ('.' :: ·)) (memberKinds members) := by
  induction members with
  | nil => exact .nil
  | cons m members ih =>
    have rest := ih fun n mem => h n (List.mem_cons_of_mem _ mem)
    exact .dot_member (h m (List.mem_cons_self ..)) stops_members rest

theorem derives_members {p : VariablePath} {ks : List TokenKind} (h : Derives .access ks (.path p)) :
    Derives .access (ks ++ memberKinds members)
      (.path ⟨p.root, p.segments ++ members.map fun m => Segment.ofText (String.ofList m)⟩) := by
  induction members generalizing p ks with
  | nil =>
    rw [memberKinds, List.flatMap_nil, List.append_nil, List.map_nil, List.append_nil]
    exact h
  | cons m members ih =>
    have next := ih (Derives.extension h (.segment (String.ofList m)))
    rw [List.append_assoc, List.append_assoc] at next
    exact next

theorem lexes_path (named : isName root = true) (follow : ∀ m ∈ members, isMember m = true) :
    Lexes false ('$' :: (root ++ members.flatMap ('.' :: ·)))
      (.variable (String.ofList root) :: memberKinds members) :=
  .dollar_name named stops_members (lexes_members follow)

theorem derives_path (root : String) (members : List (List Char)) :
    Derives .access (.variable root :: memberKinds members)
      (.path ⟨root, members.map fun m => Segment.ofText (String.ofList m)⟩) :=
  derives_members (.looser (.dollarName root))

theorem parse_path {p : VariablePath} (h : ofText? (String.ofList cs) = .ok p) :
    Expr.parse ('$' :: cs) = .ok (.path p) := by
  unfold ofText? at h
  rw [String.toList_ofList] at h
  split at h
  · next root members shape =>
    split at h
    · next path =>
      cases h
      obtain ⟨root', members', same, named, follow⟩ := isPath_cases path
      rw [shape] at same
      cases same
      rw [split_eq_cons shape, Expr.parse_eq_ok_iff]
      exact ⟨_, lexes_path named follow, (derives_path _ members).loosen (by decide)⟩
    · cases h
  · cases h

end VariablePath

end Stencil
