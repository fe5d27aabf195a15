import GormModels.Naming
import GormModels.Naming.Inflection
import GormModels.Proofs.Attempt
import GormModels.Proofs.Naming.GoName
import GormModels.Proofs.Naming.SnakeCase
import GormModels.Proofs.Text.Blank
import GormModels.Proofs.Text.Case

/-!
# Every name of a struct has a plural

The name of a struct holds neither blanks nor hyphens, so the parts of its snake case are single words. Of a language
it is only taken for granted that it knows of a single word whether it is a plural and what its plural is.
-/

namespace GormModels

open Text

/-! ### Characters that part words -/

/-- The codes of the hyphen and of all blanks. -/
def partingCodes : List Nat := '-'.toNat :: blankCodes

theorem caseFree_partingCodes : CaseFree partingCodes :=
  ⟨by decide, by decide +kernel, by decide +kernel, by decide +kernel, by decide +kernel⟩

/-- Neither a blank nor a hyphen stands in a text. -/
def Solid (s : List Char) : Prop := ∀ c ∈ s, c.toNat ∉ partingCodes

theorem isBlank_eq_false {c : Char} (hc : c.toNat ∉ partingCodes) : isBlank c = false := by
  rw [← Bool.not_eq_true]
  intro hblank
  exact hc (List.mem_cons_of_mem _ (toNat_mem_blankCodes hblank))

theorem not_hyphen {c : Char} (hc : c.toNat ∉ partingCodes) : c ≠ '-' := by
  rintro rfl
  exact hc List.mem_cons_self

namespace Solid

variable {s : List Char}

theorem hyphen_not_mem (hs : Solid s) : '-' ∉ s := fun h => not_hyphen (hs _ h) rfl

theorem space_not_mem (hs : Solid s) : ' ' ∉ s := fun h => hs _ h (by decide)

theorem newline_not_mem (hs : Solid s) : '\n' ∉ s := fun h => hs _ h (by decide)

theorem sublist {part : List Char} (hs : Solid s) (hpart : ∀ c ∈ part, c ∈ s) : Solid part :=
  fun c hc => hs c (hpart c hc)

theorem lower (hs : Solid s) : Solid (lower s) := caseFree_partingCodes.of_mem_lower hs

end Solid

/-! ### Languages -/

/-- Single words have plurals. -/
class LawfulInflection [Naming.Inflection] : Prop where
  isPlural_succeeds {word : List Char} : word ≠ [] → Solid word → ∃ b, Naming.Inflection.isPlural word = .ok b
  plural_succeeds {word : List Char} : word ≠ [] → Solid word → ∃ p, Naming.Inflection.plural word = .ok p

theorem Naming.Plural.ofName_of_solid [Inflection] [LawfulInflection] {name : String} (hs : Solid name.toList) :
    ∃ plural, ofName name = .ok plural := by
  rw [ofName]
  dsimp only
  split
  case isTrue => exact ⟨name, rfl⟩
  case isFalse hne =>
      have hlast : Solid (splitLast '_' name.toList).2 := by
        refine hs.sublist fun c hc => ?_
        rw [splitLast, List.mem_reverse] at hc
        exact List.mem_reverse.mp ((List.takeWhile_prefix _).subset hc)
      have hne : (splitLast '_' name.toList).2 ≠ [] := by simpa using hne
      obtain ⟨b, hb⟩ := LawfulInflection.isPlural_succeeds hne hlast
      obtain ⟨plural, hplural⟩ := LawfulInflection.plural_succeeds hne hlast
      rw [hb, hplural, Attempt.ok_bind]
      cases b <;> exact ⟨_, rfl⟩

/-! ### Names of structs -/

namespace Naming

variable {s : List Char}

theorem solid_snakeCase (hs : Solid s) : Solid (snakeCase s) := by
  have hunderscore : '_'.toNat ∉ partingCodes := by decide
  refine Solid.lower fun c hc => ?_
  obtain rfl | hc := mem_markCapitals hc
  · exact hunderscore
  obtain rfl | hc := mem_markCapitalized (mem_joinUnderscores hc)
  · exact hunderscore
  exact hs c hc

theorem solid_goName (s : List Char) : Solid (goName s) :=
  caseFree_partingCodes.of_mem_goName (by decide) (by decide +kernel) s

/-- The name of a struct always suggests the name of a table. -/
theorem conventionalTable_structName [Inflection] [LawfulInflection] (table beginnings : String) :
    ∃ plural, conventionalTable (structName table beginnings) = .ok plural := by
  refine Plural.ofName_of_solid ?_
  rw [snakeCaseText, structName, goNameText, String.toList_ofList, String.toList_ofList]
  exact solid_snakeCase (solid_goName _)

end Naming

end GormModels
