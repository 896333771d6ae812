namespace Stencil.Text

theorem isPrefixOf?_cons_cons (s c : Char) (start cs : List Char) :
    (s :: start).isPrefixOf? (c :: cs) = if s == c then start.isPrefixOf? cs else none := rfl

theorem isPrefixOf?_eq_some_iff {start cs rest : List Char} :
    start.isPrefixOf? cs = some rest ↔ cs = start ++ rest := by
  induction start generalizing cs with
  | nil => exact ⟨Option.some.inj, congrArg some⟩
  | cons s start ih =>
    cases cs with
    | nil => exact ⟨nofun, nofun⟩
    | cons c cs =>
      rw [isPrefixOf?_cons_cons]
      by_cases same : s = c
      · simp [same, ih]
      · simp [same, Ne.symm same]

theorem length_of_isPrefixOf? {start cs rest : List Char} (h : start.isPrefixOf? cs = some rest) :
    cs.length = start.length + rest.length := by
  rw [isPrefixOf?_eq_some_iff.1 h, List.length_append]

end Stencil.Text
