import Mathlib.Data.List.Chain
import Stencil.Proofs.Expr.Offsets

/-!
# Tilings of artifacts

The pieces of an artifact stand side by side and cover it (`tiling_cut`): its texts and the whole tags of
its instructions, one after the other, are the artifact again. Every instruction knows the offset of its
tag and that of its header, so what is at some offset of the header is at the sum of both in the artifact,
between the marks of the tag (`Instruction.Sits.header`).
-/

namespace Stencil
open Text

/-! ## Places -/

variable {cs front back : List Char} {n : Nat}

theorem Text.IsPlace.le (place : IsPlace cs n) : n ≤ byteLength cs := by
  obtain ⟨front, back, rfl, rfl⟩ := place
  rw [byteLength_append]
  exact Nat.le_add_right ..

theorem Text.IsPlace.isBoundary (place : IsPlace cs n) : Text.isBoundary cs n = true := by
  obtain ⟨front, back, rfl, rfl⟩ := place
  exact isBoundary_append front back

/-! ## Tags -/

namespace Instruction

variable {i : Instruction} {inner rest : List Char}

def tag? (cs : List Char) (i : Instruction) : Option (List Char) := do
  let body ← Fragment.openTag.isPrefixOf? (← dropBytes i.offset cs)
  let (inner, _) ← closeTag? .outside body
  return Fragment.openTag ++ inner ++ Fragment.closeTag

def Covers (cs : List Char) (i : Instruction) (offset : Nat) : Prop :=
  ∃ tag, i.tag? cs = some tag ∧ i.offset + byteLength Fragment.openTag ≤ offset ∧
    offset + byteLength Fragment.closeTag ≤ i.offset + byteLength tag

def Sits (cs : List Char) (i : Instruction) : Prop :=
  ∃ front inner back, cs = front ++ (Fragment.openTag ++ inner ++ Fragment.closeTag ++ back) ∧
    closeTag? .outside (inner ++ (Fragment.closeTag ++ back)) = some (inner, back) ∧
    i = .ofBody (byteLength front) inner

theorem tag?_ofBody (front : List Char)
    (closes : closeTag? .outside (inner ++ (Fragment.closeTag ++ rest)) = some (inner, rest)) :
    (ofBody (byteLength front) inner).tag?
        (front ++ (Fragment.openTag ++ inner ++ Fragment.closeTag ++ rest)) =
      some (Fragment.openTag ++ inner ++ Fragment.closeTag) := by
  have body : Fragment.openTag.isPrefixOf? (Fragment.openTag ++ inner ++ Fragment.closeTag ++ rest) =
      some (inner ++ (Fragment.closeTag ++ rest)) :=
    isPrefixOf?_eq_some_iff.2 (by simp only [List.append_assoc])
  have here : (ofBody (byteLength front) inner).offset = byteLength front := rfl
  simp only [tag?, here, dropBytes_byteLength, Option.bind_eq_bind, Option.bind_some, body, closes]
  rfl

theorem ofBody_header (offset : Nat) (body : List Char) :
    ∃ lead tail, body = lead ++ ((ofBody offset body).header ++ tail) ∧
      (ofBody offset body).headerOffset = offset + byteLength Fragment.openTag + byteLength lead := by
  obtain ⟨before, -, start⟩ := trimStart_append body
  let after := (trimStart body).dropWhile (!isBlank ·)
  obtain ⟨between, -, spaced⟩ := trimStart_append after
  obtain ⟨tail, -, ending⟩ := trimEnd_append (trimStart after)
  have word : trimStart body = (trimStart body).takeWhile (!isBlank ·) ++ after :=
    List.takeWhile_append_dropWhile.symm
  have whole : body =
      before ++ (trimStart body).takeWhile (!isBlank ·) ++ between ++ trimStart after := by
    rw [List.append_assoc _ between, ← spaced, List.append_assoc, ← word]
    exact start
  refine ⟨before ++ (trimStart body).takeWhile (!isBlank ·) ++ between, tail, ?_, ?_⟩
  · exact whole.trans (congrArg _ ending)
  · have size := congrArg byteLength whole
    rw [byteLength_append _ (trimStart after)] at size
    show offset + byteLength Fragment.openTag + (byteLength body - byteLength (trimStart after)) = _
    omega

namespace Sits

theorem tag? (sits : i.Sits cs) : ∃ inner, i.tag? cs =
    some (Fragment.openTag ++ inner ++ Fragment.closeTag) := by
  obtain ⟨front, inner, back, rfl, closes, rfl⟩ := sits
  exact ⟨inner, tag?_ofBody front closes⟩

theorem isPlace (sits : i.Sits cs) : IsPlace cs i.offset := by
  obtain ⟨front, inner, back, rfl, -, rfl⟩ := sits
  exact ⟨front, _, rfl, rfl⟩

theorem header (sits : i.Sits cs) (split : i.header = front ++ back) :
    IsPlace cs (i.headerOffset + byteLength front) ∧
      (∃ rest, dropBytes (i.headerOffset + byteLength front) cs = some (back ++ rest)) ∧
      i.Covers cs (i.headerOffset + byteLength front) := by
  obtain ⟨before, inner, after, rfl, closes, rfl⟩ := sits
  obtain ⟨lead, tail, body, place⟩ := ofBody_header (byteLength before) inner
  have whole : before ++ (Fragment.openTag ++ inner ++ Fragment.closeTag ++ after) =
      (before ++ Fragment.openTag ++ lead ++ front) ++ (back ++ (tail ++ Fragment.closeTag ++ after)) := by
    rw [split] at body
    rw [body]
    simp only [List.append_assoc]
  have sum : (ofBody (byteLength before) inner).headerOffset + byteLength front =
      byteLength (before ++ Fragment.openTag ++ lead ++ front) := by
    rw [place]
    simp only [byteLength_append]
  have size := congrArg byteLength body
  rw [split] at size
  simp only [byteLength_append] at size
  refine ⟨⟨_, _, whole, sum⟩, ⟨_, by rw [whole, sum, dropBytes_byteLength]⟩,
    _, tag?_ofBody before closes, ?_, ?_⟩
  · show byteLength before + byteLength Fragment.openTag ≤ _
    rw [place]
    omega
  · show _ ≤ byteLength before + _
    rw [place]
    simp only [byteLength_append]
    omega

end Sits

end Instruction

/-! ## Pieces side by side -/

namespace Piece

/-- The characters of an artifact that a piece stands for: a text itself, and the whole tag of an
instruction. -/
def source (cs : List Char) : Piece → List Char
  | .text ds => ds
  | .instruction i => (i.tag? cs).getD []

def isText : Piece → Bool
  | .text _ => true
  | .instruction _ => false

/-- The pieces stand side by side after what is done and cover the rest. -/
inductive Tiles : List Char → List Piece → List Char → Prop
  | nil {done} : Tiles done [] []
  | text {done ds pieces rest} : ds ≠ [] → (∀ p ∈ pieces.head?, p.isText = false) →
      Tiles (done ++ ds) pieces rest → Tiles done (.text ds :: pieces) (ds ++ rest)
  | tag {done inner pieces rest} :
      closeTag? .outside (inner ++ (Fragment.closeTag ++ rest)) = some (inner, rest) →
      Tiles (done ++ (Fragment.openTag ++ inner ++ Fragment.closeTag)) pieces rest →
      Tiles done (.instruction (.ofBody (byteLength done) inner) :: pieces)
        (Fragment.openTag ++ inner ++ Fragment.closeTag ++ rest)

variable {c : Char} {done rest : List Char} {pieces : List Piece} {i : Instruction}

namespace Tiles

theorem begunWith (tiles : Tiles (done ++ [c]) pieces rest) :
    Tiles done (begunWith c pieces) (c :: rest) := by
  cases tiles with
  | nil => exact @text _ [c] _ _ (by simp) (by simp) nil
  | @text _ ds pieces rest some apart tiles =>
    rw [List.append_assoc] at tiles
    exact @text _ (c :: ds) _ _ (by simp) apart tiles
  | tag closes tiles => exact @text _ [c] _ _ (by simp) (by simp [isText]) (tag closes tiles)

theorem whole (tiles : Tiles done pieces rest) : pieces.flatMap (source (done ++ rest)) = rest := by
  induction tiles with
  | nil => rfl
  | text _ _ _ ih => rw [List.flatMap_cons, ← List.append_assoc, ih, source]
  | tag closes _ ih =>
    rw [List.flatMap_cons, source, Instruction.tag?_ofBody _ closes, Option.getD_some,
      ← List.append_assoc, ih]

theorem sits (tiles : Tiles done pieces rest) (mem : .instruction i ∈ pieces) : i.Sits (done ++ rest) := by
  induction tiles with
  | nil => cases mem
  | text _ _ _ ih =>
    rw [← List.append_assoc]
    exact ih ((List.mem_cons.1 mem).resolve_left (by simp))
  | @tag done inner pieces rest closes _ ih =>
    rcases List.mem_cons.1 mem with same | mem
    · cases same
      exact ⟨done, inner, rest, rfl, closes, rfl⟩
    · rw [← List.append_assoc]
      exact ih mem

theorem offset {front back : List Piece} (tiles : Tiles done pieces rest)
    (place : pieces = front ++ .instruction i :: back) :
    i.offset = byteLength (done ++ front.flatMap (source (done ++ rest))) := by
  induction tiles generalizing front with
  | nil => simp at place
  | @text done ds pieces rest _ _ _ ih =>
    cases front with
    | nil => cases place
    | cons p front =>
      cases place
      rw [List.flatMap_cons, ← List.append_assoc, ← List.append_assoc]
      exact ih rfl
  | @tag done inner pieces rest closes _ ih =>
    cases front with
    | nil =>
      cases place
      rw [List.flatMap_nil, List.append_nil]
      rfl
    | cons p front =>
      cases place
      have later := ih rfl
      rw [List.flatMap_cons, source, Instruction.tag?_ofBody _ closes, Option.getD_some]
      simpa only [List.append_assoc] using later

theorem some {ds : List Char} (tiles : Tiles done pieces rest) (mem : .text ds ∈ pieces) : ds ≠ [] := by
  induction tiles with
  | nil => cases mem
  | text some _ _ ih =>
    rcases List.mem_cons.1 mem with same | mem
    · cases same
      exact some
    · exact ih mem
  | tag _ _ ih => exact ih ((List.mem_cons.1 mem).resolve_left (by simp))

theorem apart (tiles : Tiles done pieces rest) :
    pieces.IsChain fun p q => ¬(p.isText = true ∧ q.isText = true) := by
  induction tiles with
  | nil => exact .nil
  | text _ next _ ih =>
    refine List.isChain_cons.2 ⟨fun q first both => ?_, ih⟩
    rw [next q first] at both
    cases both.2
  | tag _ _ ih => exact List.isChain_cons.2 ⟨fun _ _ both => Bool.false_ne_true both.1, ih⟩

end Tiles

def Unterminated (cs : List Char) (e : Error) : Prop :=
  ∃ front body, cs = front ++ (Fragment.openTag ++ body) ∧ body.head?.all isBlank = true ∧
    closeTag? .outside body = none ∧ e = .malformed (byteLength front) .unterminatedTag

theorem cut_ensures (done cs : List Char) : Ensures (fun pieces => Tiles done pieces cs)
    (Unterminated (done ++ cs)) (cut (byteLength done) cs) := by
  match cs with
  | [] =>
    rw [cut]
    exact .nil
  | c :: cs =>
    cases start : tagStart? (c :: cs) with
    | none =>
      have one : byteLength done + c.utf8Size = byteLength (done ++ [c]) := by
        rw [byteLength_append, byteLength_cons, byteLength_nil, Nat.add_zero]
      have later := cut_ensures (done ++ [c]) cs
      rw [List.append_assoc, List.singleton_append] at later
      rw [cut_cons _ start, one]
      exact Ensures.map (later.mono (fun _ tiles => tiles.begunWith) fun _ bad => bad)
    | some body =>
      obtain ⟨whole, blank⟩ := exists_of_tagStart? start
      rw [cut_of_start _ start]
      cases closes : closeTag? .outside body with
      | none => exact ⟨done, body, by rw [whole], blank, closes, rfl⟩
      | some parts =>
        obtain ⟨inner, rest⟩ := parts
        have split : body = inner ++ (Fragment.closeTag ++ rest) := closeTag?_eq_append closes
        have tag : c :: cs = Fragment.openTag ++ inner ++ Fragment.closeTag ++ rest := by
          rw [whole, split]
          simp only [List.append_assoc]
        have shorter : rest.length < (c :: cs).length := by
          rw [tag]
          simp only [List.length_append, Fragment.openTag, List.length_cons]
          omega
        have later := cut_ensures (done ++ (Fragment.openTag ++ inner ++ Fragment.closeTag)) rest
        rw [List.append_assoc done, ← tag] at later
        rw [split] at closes
        dsimp only
        rw [← byteLength_append]
        refine Ensures.map (later.mono (fun _ tiles => ?_) fun _ bad => bad)
        rw [tag]
        exact .tag closes tiles
termination_by cs.length
decreasing_by
  · exact Nat.lt_succ_self _
  · exact shorter

theorem tiles_cut {cs : List Char} (h : cut 0 cs = .ok pieces) : Tiles [] pieces cs := by
  have cuts := cut_ensures [] cs
  rwa [byteLength_nil, h] at cuts

/-- The pieces cover the artifact: texts, none of them empty or next to another text, and the whole tags
of instructions, each at its offset, with its header at the offset of that. -/
structure Tiling (cs : List Char) (pieces : List Piece) : Prop where
  whole : pieces.flatMap (source cs) = cs
  some : ∀ ds, .text ds ∈ pieces → ds ≠ []
  apart : pieces.IsChain fun p q => ¬(p.isText = true ∧ q.isText = true)
  tag : ∀ front i back, pieces = front ++ .instruction i :: back →
    (∃ inner, i.tag? cs = Option.some (Fragment.openTag ++ inner ++ Fragment.closeTag)) ∧
      i.offset = byteLength (front.flatMap (source cs))
  header : ∀ i, .instruction i ∈ pieces →
    ∃ rest, dropBytes i.headerOffset cs = Option.some (i.header ++ rest)

theorem sits_of_cut {cs : List Char} (h : cut 0 cs = .ok pieces) (mem : .instruction i ∈ pieces) :
    i.Sits cs :=
  (tiles_cut h).sits mem

theorem tiling_cut {cs : List Char} (h : cut 0 cs = .ok pieces) : Tiling cs pieces := by
  have tiles := tiles_cut h
  refine ⟨tiles.whole, fun ds => tiles.some, tiles.apart,
    fun front i back place => ⟨?_, tiles.offset place⟩, fun i mem => ?_⟩
  · exact (sits_of_cut h (by simp [place])).tag?
  · have first : i.header = [] ++ i.header := rfl
    exact ((sits_of_cut h mem).header first).2.1

end Piece

end Stencil
