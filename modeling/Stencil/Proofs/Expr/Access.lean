import Stencil.Expr.Eval
import Stencil.Proofs.Expr.Spelling

namespace Stencil
open Grammar Lexer

/-! ## Steps into a value -/

namespace Value

def follow (v : Value) (words : List String) : Value :=
  words.foldl (fun found word => found.member (.ofText word)) v

theorem follow_append (v : Value) (words : List String) (word : String) :
    v.follow (words ++ [word]) = (v.follow words).member (.ofText word) := by
  rw [follow, List.foldl_append]
  rfl

theorem follow_null (words : List String) : null.follow words = null := by
  induction words with
  | nil => rfl
  | cons word words ih => exact ih

theorem getD_foldlM_step? (v : Value) (words : List String) :
    ((words.map Segment.ofText).foldlM step? v).getD null = v.follow words := by
  induction words generalizing v with
  | nil => rfl
  | cons word words ih =>
    rw [List.map_cons, List.foldlM_cons, follow, List.foldl_cons, member]
    cases v.step? (.ofText word) with
    | none => exact (follow_null words).symm
    | some found => exact ih found

end Value

/-! ## Whole numbers in brackets -/

theorem Segment.ofText_toDigits {n : Nat} (small : n < indexBound) :
    ofText (String.ofList (Nat.toDigits 10 n)) = .index n := by
  have digits : (Nat.toDigits 10 n).all Decimal.isDigit = true :=
    List.all_eq_true.2 fun c mem => isDigit_of_mem_toDigits mem
  have read : Decimal.readNatural? (Nat.toDigits 10 n) = some n := by
    simp [Decimal.readNatural?, Nat.toDigits_ne_nil, digits, digitsValue_toDigits]
  simp [ofText, String.toList_ofList, read, small]

theorem Segment.ofText_minus (cs : List Char) :
    ofText (String.ofList ('-' :: cs)) = .key (String.ofList ('-' :: cs)) := by
  have read : Decimal.readNatural? ('-' :: cs) = none := rfl
  simp [ofText, String.toList_ofList, read]

theorem Segment.ofValue?_int (i : Int64) :
    ofValue? (.int i) = ofValue? (.string (toString i.toInt)) := by
  by_cases whole : 0 ≤ i.toInt
  · have small : i.toInt.toNat < indexBound := by
      have high := i.toInt_lt
      have bound : indexBound = 2 ^ 64 := rfl
      omega
    have spelled := congrArg String.ofList (toList_toString whole)
    rw [String.ofList_toList] at spelled
    simp only [ofValue?, if_pos whole, spelled, ofText_toDigits small]
  · have spelled := congrArg String.ofList (toList_toString_of_neg (Int.not_le.1 whole))
    rw [String.ofList_toList] at spelled
    simp only [ofValue?, if_neg whole, spelled, ofText_minus]

theorem Expr.evaluate_index_int {functions : FunctionTable} {scope : Scope} {position : Expr}
    {i : Int64} (target : Expr) (found : position.evaluate functions scope = .ok (.int i)) :
    (index target position).evaluate functions scope =
      (index target (.literal (.string (toString i.toInt)))).evaluate functions scope := by
  rw [evaluate, evaluate, evaluate, found]
  cases target.evaluate functions scope with
  | error f => rfl
  | ok v =>
    show Except.ok (v.subscript (.int i)) = .ok (v.subscript (.string (toString i.toInt)))
    rw [Value.subscript, Value.subscript, Segment.ofValue?_int]

/-! ## Expressions that go from a root -/

/-- The expression goes from the root through members of these names: as a path, after dots, as texts in
brackets, or in a mixture of these. -/
inductive Expr.Accesses (root : String) : List String → Expr → Prop
  | path (words) : Accesses root words (.path ⟨root, words.map .ofText⟩)
  | member {words e} (word) : Accesses root words e →
      Accesses root (words ++ [word]) (.member e (.ofText word))
  | index {words e} (word) : Accesses root words e →
      Accesses root (words ++ [word]) (.index e (.literal (.string word)))

theorem Expr.Accesses.evaluate {root : String} {words : List String} {e : Expr}
    (h : Accesses root words e) (functions : FunctionTable) (scope : Scope) :
    e.evaluate functions scope = .ok ((scope.current root).follow words) := by
  induction h with
  | path words =>
    rw [Expr.evaluate, VariablePath.resolve?, Scope.current]
    cases scope.lookup root with
    | none => exact congrArg Except.ok (Value.follow_null words).symm
    | some v => exact congrArg Except.ok (Value.getD_foldlM_step? v words)
  | member word _ ih =>
    rw [Expr.evaluate, ih, Value.follow_append]
    rfl
  | index word _ ih =>
    rw [Expr.evaluate, Expr.evaluate, ih, Value.follow_append]
    rfl

/-! ## As they are written -/

inductive Accessor where
  | dot (word : String) (member : Text.isMember word.toList = true)
  | bracket (text : String)

namespace Accessor

def key : Accessor → String
  | dot word _ => word
  | bracket text => text

def spelling : Accessor → List Char
  | dot word _ => '.' :: word.toList
  | bracket text => '[' :: ((quotedText text).toList ++ [']'])

def kinds : Accessor → List TokenKind
  | dot word _ => [.symbol .dot, .segment word]
  | bracket text => [.symbol .lBracket, .str text, .symbol .rBracket]

theorem stops (accessors : List Accessor) :
    ∀ c ∈ (accessors.flatMap spelling).head?, Text.isNameChar c = false := by
  cases accessors with
  | nil => nofun
  | cons accessor accessors =>
    cases accessor <;>
    · rintro c ⟨⟩
      rfl

theorem lexes_bracket {rest : List Char} {ks : List TokenKind} (text : String)
    (tail : Lexes false rest ks) :
    Lexes false ((bracket text).spelling ++ rest) ((bracket text).kinds ++ ks) := by
  have closed : Lexes false (']' :: rest) (.symbol .rBracket :: ks) :=
    .cons rfl (lexeme_lone (by decide) _) tail
  rw [spelling, List.cons_append, List.append_assoc]
  exact .cons rfl (lexeme_lone (by decide) _) (.quoted text closed)

theorem lexes (accessors : List Accessor) :
    Lexes false (accessors.flatMap spelling) (accessors.flatMap kinds) := by
  induction accessors with
  | nil => exact .nil
  | cons accessor accessors ih =>
    rw [List.flatMap_cons, List.flatMap_cons]
    cases accessor with
    | dot word member =>
      have read := Lexes.dot_member member (stops accessors) ih
      rwa [String.ofList_toList] at read
    | bracket text => exact lexes_bracket text ih

theorem exists_derives {root : String} {words : List String} {e : Expr} (accessors : List Accessor)
    (goes : e.Accesses root words) :
    ∃ e', e'.Accesses root (words ++ accessors.map key) ∧
      ∀ {ks}, Derives .access ks e → Derives .access (ks ++ accessors.flatMap kinds) e' := by
  induction accessors generalizing words e with
  | nil => exact ⟨e, by simpa using goes, fun derived => by simpa using derived⟩
  | cons accessor accessors ih =>
    have next : ∃ e', e'.Accesses root (words ++ [accessor.key]) ∧
        ∀ {ks}, Derives .access ks e → Derives .access (ks ++ accessor.kinds) e' := by
      cases accessor with
      | dot word member =>
        by_cases path : ∃ p, e = .path p
        · obtain ⟨p, rfl⟩ := path
          cases goes
          have longer : Expr.Accesses root _ _ := .path (words ++ [word])
          rw [List.map_append] at longer
          exact ⟨_, longer, fun derived => .extension derived (.segment word)⟩
        · exact ⟨_, .member word goes,
            fun derived => .member derived (fun p same => path ⟨p, same⟩) (.segment word)⟩
      | bracket text =>
        have position : Derives .choice [.str text] (.literal (.string text)) :=
          (Derives.literal (.str text)).loosen (by decide)
        exact ⟨_, .index text goes, fun derived => .subscript derived position⟩
    obtain ⟨e', goes', one⟩ := next
    obtain ⟨last, there, rest⟩ := ih goes'
    rw [List.append_assoc] at there
    refine ⟨last, there, fun derived => ?_⟩
    have whole := rest (one derived)
    rwa [List.append_assoc] at whole

theorem exists_parse {root : String} (named : Text.isName root.toList = true)
    (accessors : List Accessor) :
    ∃ e, e.Accesses root (accessors.map key) ∧
      Expr.parse ('$' :: (root.toList ++ accessors.flatMap spelling)) = .ok e ∧
      (isKeyword root = false → Expr.parse (root.toList ++ accessors.flatMap spelling) = .ok e) := by
  have start : (Expr.path ⟨root, []⟩).Accesses root [] := .path []
  obtain ⟨e, goes, derived⟩ := exists_derives accessors start
  have ends := stops accessors
  have steps := lexes accessors
  refine ⟨e, goes, ?_, fun free => ?_⟩
  · have read := Lexes.dollar_name named ends steps
    rw [String.ofList_toList] at read
    exact Expr.parse_eq_ok_iff.2
      ⟨_, read, (derived (.looser (.dollarName root))).loosen (by decide)⟩
  · have read := Lexes.bare_name named ends steps
    rw [String.ofList_toList] at read
    exact Expr.parse_eq_ok_iff.2
      ⟨_, read, (derived (.looser (.bareName free))).loosen (by decide)⟩

end Accessor

/-- Every way to go from a root through members of these names leads to the same place, each name is the
key under which a map or a record is asked, and an integer in brackets stands for its decimal form. -/
theorem access_agrees :
    (∀ root words e, Expr.Accesses root words e → ∀ functions scope,
      e.evaluate functions scope = .ok ((scope.current root).follow words)) ∧
    (∀ (root : String) (accessors : List Accessor), Text.isName root.toList = true →
      ∃ e, e.Accesses root (accessors.map Accessor.key) ∧
        Expr.parse ('$' :: (root.toList ++ accessors.flatMap Accessor.spelling)) = .ok e ∧
        (isKeyword root = false →
          Expr.parse (root.toList ++ accessors.flatMap Accessor.spelling) = .ok e)) ∧
    (∀ (functions : FunctionTable) (scope : Scope) (target position : Expr) (i : Int64),
      position.evaluate functions scope = .ok (.int i) →
      (Expr.index target position).evaluate functions scope =
        (Expr.index target (.literal (.string (toString i.toInt)))).evaluate functions scope) ∧
    (∀ entries word, (Value.map entries).step? (.ofText word) = entries.lookup word) ∧
    ∀ identity typeName names fields word,
      (Value.record identity typeName names fields).step? (.ofText word) = fields.lookup word := by
  refine ⟨fun root words e goes => goes.evaluate,
    fun root accessors named => Accessor.exists_parse named accessors,
    fun functions scope target position i => Expr.evaluate_index_int target,
    fun entries word => ?_, fun identity typeName names fields word => ?_⟩
  · rw [Value.step?, Segment.text_ofText]
  · rw [Value.step?, Segment.text_ofText]

theorem access_agrees_mixed :
    let agent : Value := .record 0 "Agent" ["007"] [("007", .string "bond")]
    let scope : Scope := .start [("staff", .map [("1", .array [.null, agent])])]
    let staff : Expr := .path ⟨"staff", []⟩
    (∃ e, Expr.parse "$staff['1'].1.007".toList = .ok e ∧
      Expr.parse "staff['1'].1.007".toList = .ok e ∧
      ∀ functions, e.evaluate functions scope = .ok (.string "bond")) ∧
    (∀ functions, (Expr.path ⟨"staff", [.index 1, .index 1, .key "007"]⟩).evaluate functions scope =
      .ok (.string "bond")) ∧
    ∀ functions, (Expr.index staff (.literal (.int 1))).evaluate functions scope =
      (Expr.index staff (.literal (.string "1"))).evaluate functions scope := by
  intro agent scope staff
  obtain ⟨values, texts, integers, -, -⟩ := access_agrees
  have place : (scope.current "staff").follow ["1", "1", "007"] = .string "bond" := rfl
  obtain ⟨e, goes, dollar, bare⟩ :=
    texts "staff" [.bracket "1", .dot "1" (by decide), .dot "007" (by decide)] (by decide)
  refine ⟨⟨e, dollar, bare (by decide), fun functions => ?_⟩, fun functions => ?_, fun functions => ?_⟩
  · rw [← place]
    exact values "staff" _ e goes functions scope
  · rw [← place]
    exact values "staff" _ _ (.path ["1", "1", "007"]) functions scope
  · exact integers functions scope staff (.literal (.int 1)) 1 rfl

end Stencil
