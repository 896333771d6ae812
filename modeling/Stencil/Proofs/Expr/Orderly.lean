import Stencil.Expr.Parser
import Stencil.Proofs.Expr.Grammar

namespace Stencil.Grammar
open Stencil.Parser

def depthAfter : Nat → List TokenKind → Option Nat
  | depth, [] => some depth
  | depth, .symbol .lParen :: ks => depthAfter (depth + 1) ks
  | 0, .symbol .rParen :: _ => none
  | depth + 1, .symbol .rParen :: ks => depthAfter depth ks
  | depth, _ :: ks => depthAfter depth ks

def asks : TokenKind → Bool
  | .symbol .question | .symbol .coalesce => true
  | _ => false

def answered : List TokenKind → Bool
  | [] => true
  | [k] => !asks k
  | k :: l :: ks => (!asks k || beginsOperand l) && answered (l :: ks)

/-- The tokens say nothing to a scanner that counts parentheses and looks for question marks. -/
structure Settled (ks : List TokenKind) : Prop where
  balanced : ∀ depth, depthAfter depth ks = some depth
  answered : answered ks = true

structure Orderly (ks : List TokenKind) : Prop extends Settled ks where
  unchanging : ∀ k ∈ ks, Change.ofToken? k = none

def isQuiet : TokenKind → Bool
  | .symbol .lParen | .symbol .rParen | .symbol .question | .symbol .coalesce => false
  | _ => true

theorem depthAfter_append {depth middle : Nat} {ks ls : List TokenKind}
    (h : depthAfter depth ks = some middle) : depthAfter depth (ks ++ ls) = depthAfter middle ls := by
  fun_induction depthAfter depth ks with
  | case1 =>
    cases h
    rfl
  | case2 depth ks ih => exact ih h
  | case3 => cases h
  | case4 depth ks ih => exact ih h
  | case5 depth k ks notOpen notClose notClosed ih =>
    rw [List.cons_append, depthAfter]
    · exact ih h
    all_goals assumption

theorem depthAfter_cons {depth : Nat} {k : TokenKind} {ks : List TokenKind}
    (notOpen : k ≠ .symbol .lParen) (notClosed : k ≠ .symbol .rParen) :
    depthAfter depth (k :: ks) = depthAfter depth ks := by
  rw [depthAfter]
  · exact notOpen
  · exact fun _ => notClosed
  · exact fun _ _ => notClosed

theorem depthAfter_cons_eq_some {depth last : Nat} {k : TokenKind} {ks : List TokenKind}
    (h : depthAfter depth (k :: ks) = some last) :
    ∃ middle, depthAfter depth [k] = some middle ∧ depthAfter middle ks = some last := by
  by_cases opened : k = .symbol .lParen
  · subst opened
    exact ⟨depth + 1, rfl, h⟩
  by_cases closed : k = .symbol .rParen
  · subst closed
    cases depth with
    | zero => cases h
    | succ depth => exact ⟨depth, rfl, h⟩
  · rw [depthAfter_cons opened closed] at h
    exact ⟨depth, depthAfter_cons opened closed, h⟩

theorem answered_append {ks ls : List TokenKind} (left : answered ks = true)
    (right : answered ls = true) : answered (ks ++ ls) = true := by
  fun_induction answered ks with
  | case1 => exact right
  | case2 k =>
    cases ls with
    | nil => exact left
    | cons l ls =>
      rw [List.singleton_append, answered, left, right]
      rfl
  | case3 k l ks ih =>
    rw [Bool.and_eq_true] at left
    have tail := ih left.2
    rw [List.cons_append] at tail
    rw [List.cons_append, List.cons_append, answered, left.1, tail]
    rfl

namespace Settled

theorem nil : Settled [] :=
  ⟨fun _ => rfl, rfl⟩

theorem append {ks ls : List TokenKind} (left : Settled ks) (right : Settled ls) :
    Settled (ks ++ ls) := by
  refine ⟨fun depth => ?_, answered_append left.answered right.answered⟩
  rw [depthAfter_append (left.balanced depth), right.balanced]

theorem cons {k : TokenKind} {ks : List TokenKind} (quiet : isQuiet k = true) (h : Settled ks) :
    Settled (k :: ks) := by
  have single : Grammar.answered [k] = true := by
    cases k with
    | symbol s => cases s <;> first | rfl | cases quiet
    | _ => rfl
  have answers : Grammar.answered ([k] ++ ks) = true := answered_append single h.answered
  refine ⟨fun depth => ?_, answers⟩
  rw [depthAfter_cons, h.balanced]
  · rintro rfl
    exact absurd quiet (by decide)
  · rintro rfl
    exact absurd quiet (by decide)

theorem parentheses {ks : List TokenKind} (h : Settled ks) :
    Settled (.symbol .lParen :: (ks ++ [.symbol .rParen])) := by
  constructor
  · intro depth
    rw [depthAfter, depthAfter_append (h.balanced _)]
    rfl
  · have answers : Grammar.answered ([.symbol .lParen] ++ (ks ++ [.symbol .rParen])) = true :=
      answered_append rfl (answered_append h.answered rfl)
    exact answers

theorem asked {k : TokenKind} {ks : List TokenKind} (asking : asks k = true) (begun : Begun ks)
    (h : Settled ks) : Settled (k :: ks) := by
  obtain ⟨l, ls, rfl, begins⟩ := begun
  constructor
  · intro depth
    rw [depthAfter_cons, h.balanced]
    · rintro rfl
      exact absurd asking (by decide)
    · rintro rfl
      exact absurd asking (by decide)
  · rw [Grammar.answered, begins, h.answered, Bool.or_true]
    rfl

end Settled

namespace Orderly

theorem nil : Orderly [] :=
  ⟨.nil, nofun⟩

theorem append {ks ls : List TokenKind} (left : Orderly ks) (right : Orderly ls) :
    Orderly (ks ++ ls) :=
  ⟨left.toSettled.append right.toSettled,
    fun k mem => (List.mem_append.1 mem).elim (left.unchanging k) (right.unchanging k)⟩

theorem cons {k : TokenKind} {ks : List TokenKind} (quiet : isQuiet k = true)
    (unchanging : Change.ofToken? k = none) (h : Orderly ks) : Orderly (k :: ks) := by
  refine ⟨h.toSettled.cons quiet, fun l mem => ?_⟩
  rcases List.mem_cons.1 mem with rfl | mem
  · exact unchanging
  · exact h.unchanging l mem

theorem parentheses {ks : List TokenKind} (h : Orderly ks) :
    Orderly (.symbol .lParen :: (ks ++ [.symbol .rParen])) := by
  refine ⟨h.toSettled.parentheses, fun k mem => ?_⟩
  simp only [List.mem_append, List.mem_cons, List.not_mem_nil, or_false] at mem
  rcases mem with rfl | mem | rfl
  · rfl
  · exact h.unchanging k mem
  · rfl

theorem asked {k : TokenKind} {ks : List TokenKind} (asking : asks k = true) (begun : Begun ks)
    (h : Orderly ks) : Orderly (k :: ks) := by
  refine ⟨h.toSettled.asked asking begun, fun l mem => ?_⟩
  rcases List.mem_cons.1 mem with rfl | mem
  · cases l with
    | symbol s => cases s <;> first | rfl | cases asking
    | _ => cases asking
  · exact h.unchanging l mem

end Orderly

mutual

theorem Derives.orderly {s : Stratum} {ks : List TokenKind} {e : Expr} (h : Derives s ks e) :
    Orderly ks := by
  match h with
  | .looser h => exact h.orderly
  | .choice hc hy hn =>
    have rest := hy.orderly.append (hn.orderly.cons (k := .symbol .colon) rfl rfl)
    exact hc.orderly.append (rest.asked rfl (hy.begun.append _))
  | .fallback hl hr => exact hl.orderly.append (hr.orderly.asked rfl hr.begun)
  | .joint joint hl hr =>
    refine hl.orderly.append (hr.orderly.cons ?_ ?_)
    · cases joint <;> rfl
    · cases joint <;> rfl
  | .sign sign h =>
    refine h.orderly.cons ?_ ?_
    · cases sign <;> rfl
    · cases sign <;> rfl
  | .extension h name | .member h _ name =>
    refine h.orderly.append (.cons rfl rfl (.cons ?_ ?_ .nil))
    · cases name <;> rfl
    · cases name <;> rfl
  | .subscript h hi =>
    exact h.orderly.append (.cons rfl rfl (hi.orderly.append (.cons rfl rfl .nil)))
  | .literal literal =>
    refine .cons ?_ ?_ .nil
    · cases literal <;> rfl
    · cases literal <;> rfl
  | .dollarName _ => exact .cons rfl rfl .nil
  | .bareName _ => exact .cons rfl rfl .nil
  | .call _ list => exact .cons rfl rfl list.orderly.parentheses
  | .group h => exact h.orderly.parentheses
  | .array list => exact .cons rfl rfl (list.orderly.append (.cons rfl rfl .nil))

theorem DerivesList.orderly {ks : List TokenKind} {es : List Expr} (h : DerivesList ks es) :
    Orderly ks := by
  match h with
  | .nil => exact .nil
  | .last h => exact h.orderly
  | .comma h list => exact h.orderly.append (list.orderly.cons rfl rfl)

end

end Stencil.Grammar
