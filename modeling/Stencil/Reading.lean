/-!
Readers take what they read from the front of a list. Their results say that the list gets shorter, so
that reading again and again ends.
-/

namespace Stencil

/-- What was read from the front of `xs`, and the fewer elements that are left. -/
structure Read (α : Type) {β : Type} (xs : List β) where
  value : α
  rest : List β
  shorter : rest.length < xs.length

structure Continued (α : Type) {β : Type} (xs : List β) where
  value : α
  rest : List β
  bounded : rest.length ≤ xs.length

end Stencil
