import Stencil.Function.Builtin
import Stencil.Proofs.Expr.Access
import Stencil.Proofs.Program.Limits
import Stencil.Proofs.Value.Equality

/-!
# The pairs of a container

`foreach`, `keys`, `count` and brackets enumerate a container each for itself, and agree on what it holds
(`containers_agree`).
-/

namespace Stencil
namespace Value

/-! ## What is under a key -/

theorem subscript_string (v : Value) (key : String) :
    v.subscript (.string key) = v.member (.ofText key) :=
  rfl

theorem subscript_position (items : List Value) {i : Nat} (small : i < 2 ^ 63) :
    (array items).subscript (.int (Int64.ofNat i)) = items[i]?.getD .null := by
  have position : (Int64.ofNat i).toInt = i := Int64.toInt_ofNat_of_lt small
  have read : Segment.ofValue? (.int (Int64.ofNat i)) = some (.index i) := by
    rw [Segment.ofValue?, position, if_pos (Int.natCast_nonneg i), Int.toNat_natCast]
  rw [subscript, read]
  rfl

theorem member_map (entries : Entries Value) (key : String) :
    (map entries).member (.ofText key) = (entries.lookup key).getD .null := by
  rw [member, step?, Segment.text_ofText]

theorem member_record (identity : Nat) (typeName : String) (names : List String)
    (fields : Entries Value) (key : String) :
    (record identity typeName names fields).member (.ofText key) =
      (fields.lookup key).getD .null := by
  rw [member, step?, Segment.text_ofText]

/-! ## What the pairs say -/

variable {v : Value} {pairs : List (Value × Value)}

theorem pairs?_isSome_iff : v.pairs?.isSome ↔ v.kind ∈ [.null, .array, .map, .record] := by
  cases v <;> simp [pairs?, kind]

theorem keysOf_of_pairs? (held : v.pairs? = some pairs) :
    Builtin.keysOf v = .ok (pairs.map Prod.fst) := by
  cases v with
  | null =>
    cases held
    rfl
  | array items =>
    cases held
    refine congrArg Except.ok (List.ext_getElem? fun i => ?_)
    simp only [List.getElem?_map, List.getElem?_zipIdx, List.range_eq_range', Option.map_map,
      Nat.zero_add]
    by_cases inside : i < items.length
    · simp [inside]
    · simp [inside]
  | map entries =>
    cases held
    exact congrArg Except.ok (by rw [List.map_map]; rfl)
  | record identity typeName names fields =>
    cases held
    exact congrArg Except.ok (by rw [listed, List.map_map, List.map_map]; rfl)
  | bool | int | float | string => cases held

theorem size_of_pairs? (held : v.pairs? = some pairs) : Builtin.size v = pairs.length := by
  cases v <;> cases held <;> simp [Builtin.size, listed]

theorem subscript_of_pairs? (few : Builtin.size v < 2 ^ 63)
    (once : ∀ entries, v = .map entries → Entries.Distinct entries) (held : v.pairs? = some pairs) :
    ∀ pair ∈ pairs, v.subscript pair.1 = pair.2 := by
  intro pair mem
  cases v with
  | null =>
    cases held
    cases mem
  | array items =>
    cases held
    obtain ⟨⟨x, i⟩, place, rfl⟩ := List.mem_map.1 mem
    have here : items[i]? = some x := List.mk_mem_zipIdx_iff_getElem?.1 place
    have inside : i < items.length := (List.getElem?_eq_some_iff.1 here).1
    rw [subscript_position items (Nat.lt_trans inside few), here]
    rfl
  | map entries =>
    cases held
    obtain ⟨⟨key, x⟩, entry, rfl⟩ := List.mem_map.1 mem
    rw [subscript_string, member_map, (once entries rfl).lookup_eq_some_iff.2 entry]
    rfl
  | record identity typeName names fields =>
    cases held
    rw [listed, List.map_map] at mem
    obtain ⟨name, -, rfl⟩ := List.mem_map.1 mem
    exact member_record identity typeName names fields name
  | bool | int | float | string => cases held

theorem keysOf_of_no_pairs (none : v.pairs? = none) :
    Builtin.keysOf v = .error (.cannotListKeys v.kind) := by
  cases v <;> first | rfl | cases none

end Value

/-! ## Loops, calls and brackets -/

section

variable {tools : Tools} {s : State} {target : Expr} {v : Value}

theorem Expr.evaluate_call_one {name : String} {function : Function}
    (known : tools.functions.find? name = some function)
    (found : target.evaluate tools.functions s.scope = .ok v) :
    (call name [target]).evaluate tools.functions s.scope =
      (function [v]).mapError (.call name) := by
  rw [evaluate, evaluateAll, found, evaluateAll]
  show tools.functions.call name [v] = _
  rw [FunctionTable.call, known]

theorem Expr.evaluate_index_ok {position : Expr} {k : Value}
    (found : target.evaluate tools.functions s.scope = .ok v)
    (place : position.evaluate tools.functions s.scope = .ok k) :
    (index target position).evaluate tools.functions s.scope = .ok (v.subscript k) := by
  rw [evaluate, found, place]
  rfl

/-- For null, an array, a map and a record there is one list of pairs: `foreach` goes through it, `keys`
lists its keys, `count` is its length, and each of its keys in brackets finds the value beside it. For any
other value `foreach` and `keys` have a fault. That there are fewer than `2 ^ 63` members, and that a map
has each key once, is true of every container that a memory holds. -/
theorem containers_agree (few : Builtin.size v < 2 ^ 63)
    (once : ∀ entries, v = .map entries → Entries.Distinct entries)
    (lists : tools.functions.find? "keys" = some Builtin.keys)
    (counts : tools.functions.find? "count" = some Builtin.count)
    (found : target.evaluate tools.functions s.scope = .ok v) :
    (v.kind ∈ [.null, .array, .map, .record] → ∃ (pairs : List (Value × Value)) (n : Int64),
      Run.pairs v = .ok pairs ∧
      (∀ rounds key value body, Run.node tools rounds (.foreach ⟨target, key, value⟩ body) s =
        Run.eachLoop (fun pair s => Run.nodes tools rounds body (Run.bind ⟨target, key, value⟩ pair s))
          rounds pairs s) ∧
      (Expr.call "keys" [target]).evaluate tools.functions s.scope =
        .ok (.array (pairs.map Prod.fst)) ∧
      (Expr.call "count" [target]).evaluate tools.functions s.scope = .ok (.int n) ∧
      n.toInt = pairs.length ∧
      ∀ k x, (k, x) ∈ pairs → ∀ position : Expr, position.evaluate tools.functions s.scope = .ok k →
        (Expr.index target position).evaluate tools.functions s.scope = .ok x) ∧
    (v.kind ∉ [.null, .array, .map, .record] →
      (∀ rounds key value body, Run.node tools rounds (.foreach ⟨target, key, value⟩ body) s =
        .error (.fault (.notIterable v.kind))) ∧
      (Expr.call "keys" [target]).evaluate tools.functions s.scope =
        .error (.call "keys" (.cannotListKeys v.kind))) := by
  constructor
  · intro container
    obtain ⟨pairs, held⟩ := Option.isSome_iff_exists.1 (Value.pairs?_isSome_iff.2 container)
    have visits : Run.pairs v = .ok pairs := by rw [Run.pairs, held]
    refine ⟨pairs, Int64.ofNat (Builtin.size v), visits, fun rounds key value body => ?_, ?_, ?_, ?_,
      fun k x mem position place => ?_⟩
    · rw [Run.node_foreach, found]
      exact congrArg (fun items => Run.faulting items >>= _) visits
    · rw [Expr.evaluate_call_one lists found, Builtin.keys, Builtin.unary, Value.keysOf_of_pairs? held]
      rfl
    · exact Expr.evaluate_call_one counts found
    · rw [Int64.toInt_ofNat_of_lt few, Value.size_of_pairs? held]
    · rw [Expr.evaluate_index_ok found place]
      exact congrArg Except.ok (Value.subscript_of_pairs? few once held (k, x) mem)
  · intro scalar
    have none := Option.not_isSome_iff_eq_none.1 (Value.pairs?_isSome_iff.not.2 scalar)
    refine ⟨fun rounds key value body => ?_, ?_⟩
    · have fault : Run.pairs v = .error (.notIterable v.kind) := by rw [Run.pairs, none]
      rw [Run.node_foreach, found]
      exact congrArg (fun items => Run.faulting items >>= _) fault
    · rw [Expr.evaluate_call_one lists found, Builtin.keys, Builtin.unary,
        Value.keysOf_of_no_pairs none]
      rfl

theorem containers_agree_digits :
    let entries : Entries Value := [("007", .int 7), ("-1", .null), ("", .string "x"), ("0", .array [])]
    let tools : Tools := ⟨.builtins .epoch, Value.display⟩
    let s : State := ⟨.start [("m", .map entries), ("t", .string "abc")], ""⟩
    let m : Expr := .path ⟨"m", []⟩
    let t : Expr := .path ⟨"t", []⟩
    Run.pairs (.map entries) = .ok (entries.map fun (k, x) => (.string k, x)) ∧
      (Expr.call "keys" [m]).evaluate tools.functions s.scope =
        .ok (.array [.string "007", .string "-1", .string "", .string "0"]) ∧
      (Expr.call "count" [m]).evaluate tools.functions s.scope = .ok (.int 4) ∧
      (Expr.index m (.literal (.string "007"))).evaluate tools.functions s.scope = .ok (.int 7) ∧
      (Expr.index m (.literal (.string ""))).evaluate tools.functions s.scope = .ok (.string "x") ∧
      (Expr.call "keys" [t]).evaluate tools.functions s.scope =
        .error (.call "keys" (.cannotListKeys .string)) := by
  intro entries tools s m t
  have once : ∀ others, Value.map entries = .map others → Entries.Distinct others := by
    rintro others ⟨⟩
    exact (by decide : (Entries.keys entries).Nodup)
  have scalar : ∀ others, Value.string "abc" = .map others → Entries.Distinct others := nofun
  have lists : tools.functions.find? "keys" = some Builtin.keys := rfl
  have counts : tools.functions.find? "count" = some Builtin.count := rfl
  have atM : m.evaluate tools.functions s.scope = .ok (.map entries) := rfl
  have atT : t.evaluate tools.functions s.scope = .ok (.string "abc") := rfl
  obtain ⟨pairs, n, visits, -, keys, count, length, finds⟩ :=
    (containers_agree (by decide) once lists counts atM).1 (by decide)
  have fault := (containers_agree (by decide) scalar lists counts atT).2 (by decide)
  cases visits
  have four : n = 4 := Int64.toInt_inj.1 length
  refine ⟨rfl, keys, four ▸ count, ?_, ?_, fault.2⟩
  · exact finds _ _ (by simp [entries]) _ rfl
  · exact finds _ _ (by simp [entries]) _ rfl

end

end Stencil
