import Stencil.Proofs.Directive.Parts

namespace Stencil.Directive
open Text

theorem instruction_opens (body : List Char) : ∃ cs, Fragment.instruction body = '<' :: cs :=
  ⟨_, rfl⟩

theorem unsigned_of_name {cs : List Char} (named : isName cs = true) : '@' ∉ cs := by
  intro mem
  cases isNameChar_of_isName named _ mem

theorem tame_headed {name : String} {keyword : List Char} (named : isName name.toList = true)
    (key : isName keyword = true) : Tame ⟨name, true, Fragment.headed keyword⟩ where
  named := named
  opens _ := instruction_opens _
  unsigned _ := Fragment.not_mem_headed (by decide) (unsigned_of_name key)

theorem tame_block {name : String} (named : isName name.toList = true) : Tame (block name) :=
  tame_headed named named

theorem tame_bare {name : String} (named : isName name.toList = true) : Tame (bare name) where
  named := named
  opens _ := instruction_opens _
  unsigned _ _ := Fragment.not_mem_instruction (by decide) (unsigned_of_name named)

theorem tame_calling {name function : String} (named : isName name.toList = true)
    (key : isName function.toList = true) : Tame (calling name function) where
  named := named
  opens _ := instruction_opens _
  unsigned h unsigned := by
    refine Fragment.not_mem_headed (by decide) (by decide) fun mem => ?_
    simp only [List.mem_append, List.mem_cons, List.not_mem_nil, or_false] at mem
    rcases mem with (mem | other | mem) | other
    · exact unsigned_of_name key mem
    · cases other
    · exact unsigned mem
    · cases other

theorem tame_builtins : ∀ d ∈ builtins, d.Tame := by
  simp only [builtins, List.forall_mem_cons]
  exact ⟨tame_headed rfl rfl, tame_block rfl, tame_block rfl, tame_bare rfl, tame_bare rfl,
    tame_block rfl, tame_bare rfl, tame_block rfl, tame_bare rfl, tame_block rfl, tame_bare rfl,
    tame_bare rfl, tame_block rfl, tame_calling rfl rfl, tame_calling rfl rfl, tame_calling rfl rfl,
    tame_calling rfl rfl, tame_calling rfl rfl, tame_block rfl, nofun⟩

end Stencil.Directive
