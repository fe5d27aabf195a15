import GormModels.Naming.GoName
import GormModels.Proofs.Naming.Word
import GormModels.Proofs.Text.Case

/-!
# Characters of names

A name is made of the characters of words and of what letter case makes of them, so whatever is part of no word,
and no upper or lower case of another character, is in no name.
-/

namespace GormModels.Text.CaseFree

open Naming

variable {codes : List Nat} (hfree : CaseFree codes)

include hfree

theorem of_mem_goWord {word : List Char} (hword : ∀ c ∈ word, c.toNat ∉ codes) :
    ∀ c ∈ goWord word, c.toNat ∉ codes := by
  rw [goWord]
  split
  · exact hfree.of_mem_upper hword
  · split
    · exact hword
    · intro c hc
      obtain hc | hc := List.mem_append.mp hc
      · exact hfree.of_mem_upper (fun d hd => hword d (List.mem_of_mem_take hd)) c hc
      · exact hfree.of_mem_lower (fun d hd => hword d (List.mem_of_mem_drop hd)) c hc

theorem of_mem_goName (hlead : digitLead.toNat ∉ codes) (hcodes : ∀ n ∈ codes, isWordChar (Char.ofNat n) = false)
    (s : List Char) : ∀ c ∈ goName s, c.toNat ∉ codes := by
  have hwords : ∀ c ∈ (nameWords s).flatMap goWord, c.toNat ∉ codes := by
    intro c hc
    obtain ⟨word, hword, hc⟩ := List.mem_flatMap.mp hc
    refine hfree.of_mem_goWord (fun d hd hmem => ?_) c hc
    have hnot := hcodes d.toNat hmem
    rw [Char.ofNat_toNat, isWordChar_of_mem_nameWords hword d hd] at hnot
    cases hnot
  rw [goName]
  split
  case h_1 => simpa using hlead
  case h_2 d rest heq =>
      rw [heq] at hwords
      split
      · exact List.forall_mem_cons.mpr ⟨hlead, hwords⟩
      · exact hwords

end GormModels.Text.CaseFree
