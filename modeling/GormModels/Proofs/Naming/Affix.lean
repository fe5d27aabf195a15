import Mathlib.Data.List.TakeWhile
import GormModels.Naming.Affix

/-!
# Names without a beginning

Entries are tried from the longest to the shortest, so what is left of a name is what the longest entry leaves
of those that apply. Which one that is does not depend on how the list writes its entries.
-/

namespace GormModels.Naming

/-- An entry of a comma-separated list, without the blanks around it. -/
def IsEntry (list : String) (entry : List Char) : Prop :=
  entry ≠ [] ∧ ∃ part ∈ Text.split ',' list.toList, Text.trim part = entry

/-- The entry applies to the name and leaves something of it: the entry ends with an underscore, or underscores
follow it, which go with it. -/
inductive Leaves (entry : List Char) : (name left : List Char) → Prop
  | closed {left : List Char} (hentry : entry.getLast? = some '_') (hleft : left ≠ []) :
      Leaves entry (entry ++ left) left
  | followed {n : Nat} {c : Char} {rest : List Char} (hentry : entry.getLast? ≠ some '_') (hc : c ≠ '_') :
      Leaves entry (entry ++ List.replicate (n + 1) '_' ++ c :: rest) (c :: rest)

variable {entry name left : List Char} {list list' : String}

/-! ### One entry -/

theorem dropWhile_underscores {c : Char} (hc : c ≠ '_') (n : Nat) (rest : List Char) :
    (List.replicate n '_' ++ c :: rest).dropWhile (· == '_') = c :: rest := by
  rw [List.dropWhile_append_of_pos (by simp), List.dropWhile_cons_of_neg (by simpa using hc)]

theorem exists_underscores {rest : List Char} (hhead : rest.head? = some '_')
    (hne : rest.dropWhile (· == '_') ≠ []) :
    ∃ n c others, c ≠ '_' ∧ rest = List.replicate (n + 1) '_' ++ c :: others := by
  obtain ⟨tail, rfl⟩ := List.head?_eq_some_iff.mp hhead
  obtain ⟨c, others, hdrop⟩ := List.exists_cons_of_ne_nil hne
  have hc := List.head?_dropWhile_not (· == '_') ('_' :: tail)
  rw [hdrop] at hc
  have hfront : tail.takeWhile (· == '_') = List.replicate (tail.takeWhile (· == '_')).length '_' :=
    List.eq_replicate_iff.mpr ⟨rfl, fun d hd => by simpa using List.mem_takeWhile_imp hd⟩
  refine ⟨(tail.takeWhile (· == '_')).length, c, others, by simpa using hc, ?_⟩
  rw [List.replicate_succ, ← hfront, ← hdrop, List.dropWhile_cons_of_pos (by simp), List.cons_append,
    List.takeWhile_append_dropWhile]

theorem without?_eq_some_iff : without? name entry = some left ↔ Leaves entry name left := by
  constructor
  · intro hleft
    rw [without?] at hleft
    split at hleft
    case isFalse => cases hleft
    case isTrue hprefix =>
        obtain ⟨rest, rfl⟩ := List.isPrefixOf_iff_prefix.mp hprefix
        rw [List.drop_left] at hleft
        dsimp only at hleft
        split at hleft
        case isTrue hentry =>
            split at hleft
            case isTrue => cases hleft
            case isFalse hne =>
                cases hleft
                exact .closed (beq_iff_eq.mp hentry) (by simpa using hne)
        case isFalse hentry =>
            split at hleft
            case isFalse => cases hleft
            case isTrue hhead =>
                split at hleft
                case isTrue => cases hleft
                case isFalse hne =>
                    cases hleft
                    obtain ⟨n, c, others, hc, rfl⟩ := exists_underscores (beq_iff_eq.mp hhead) (by simpa using hne)
                    rw [dropWhile_underscores hc, ← List.append_assoc]
                    exact .followed (by simpa using hentry) hc
  · rintro (⟨hentry, hleft⟩ | ⟨hentry, hc⟩)
    · simp [without?, hentry, hleft]
    · rename_i n c rest
      have hbehind : (List.replicate (n + 1) '_' ++ c :: rest).head? = some '_' := rfl
      rw [without?, List.append_assoc, if_pos (List.isPrefixOf_iff_prefix.mpr (List.prefix_append _ _)), List.drop_left]
      simp [hentry, hbehind, dropWhile_underscores hc]

theorem Leaves.eq_append (hleaves : Leaves entry name left) : ∃ rest, name = entry ++ rest ∧ left <:+ rest := by
  cases hleaves with
  | closed hentry hleft => exact ⟨left, rfl, List.suffix_refl left⟩
  | followed hentry hc => exact ⟨_, List.append_assoc _ _ _, List.suffix_append _ _⟩

theorem Leaves.suffix (hleaves : Leaves entry name left) : left <:+ name := by
  obtain ⟨rest, rfl, hsuffix⟩ := hleaves.eq_append
  exact hsuffix.trans (List.suffix_append entry rest)

theorem Leaves.ne_nil (hleaves : Leaves entry name left) : left ≠ [] := by
  cases hleaves with
  | closed hentry hleft => exact hleft
  | followed hentry hc => exact List.cons_ne_nil _ _

/-! ### The order of entries -/

theorem mem_beginnings_iff : entry ∈ beginnings list ↔ IsEntry list entry := by
  simp [beginnings, IsEntry, List.mem_eraseDups, and_comm]

theorem length_le_of_tryBefore {a b : List Char} (hbefore : tryBefore a b = true) : b.length ≤ a.length := by
  rw [tryBefore] at hbefore
  split at hbefore
  case isTrue hlength => exact le_of_eq hlength.symm
  case isFalse => exact le_of_lt (of_decide_eq_true hbefore)

theorem tryBefore_trans (a b c : List Char) (hab : tryBefore a b = true) (hbc : tryBefore b c = true) :
    tryBefore a c = true := by
  have hlengths := And.intro (length_le_of_tryBefore hab) (length_le_of_tryBefore hbc)
  by_cases hac : a.length = c.length
  · have hab' : a.length = b.length := by omega
    have hbc' : b.length = c.length := by omega
    simp only [tryBefore, hab', hbc', if_true, Bool.not_eq_true', List.lex_eq_false_iff_ge] at hab hbc ⊢
    exact List.le_trans hab hbc
  · rw [tryBefore, if_neg hac]
    exact decide_eq_true (by omega)

theorem tryBefore_total (a b : List Char) : (tryBefore a b || tryBefore b a) = true := by
  by_cases hlength : a.length = b.length
  · simp only [tryBefore, hlength, if_true, Bool.or_eq_true, Bool.not_eq_true', List.lex_eq_false_iff_ge]
    exact List.le_total a b
  · simp only [tryBefore, hlength, Ne.symm hlength, if_false, Bool.or_eq_true, decide_eq_true_eq]
    omega

theorem pairwise_beginnings (list : String) :
    (beginnings list).Pairwise fun earlier later => later.length ≤ earlier.length :=
  (List.pairwise_mergeSort tryBefore_trans tryBefore_total _).imp length_le_of_tryBefore

/-! ### The longest entry that applies -/

/-- The entry leaves this of the name, and no longer entry of the list applies. -/
structure LeavesLongest (list : String) (entry name left : List Char) : Prop where
  isEntry : IsEntry list entry
  leaves : Leaves entry name left
  longest : ∀ other left', IsEntry list other → Leaves other name left' → other.length ≤ entry.length

/-- Entries of one length that both apply are the same, as the name starts with either. -/
theorem LeavesLongest.unique {entry' left' : List Char} (h : LeavesLongest list entry name left)
    (h' : LeavesLongest list entry' name left') : left = left' := by
  have hlength : entry.length = entry'.length :=
    le_antisymm (h'.longest entry left h.isEntry h.leaves) (h.longest entry' left' h'.isEntry h'.leaves)
  obtain ⟨rest, hname, -⟩ := h.leaves.eq_append
  obtain ⟨rest', hname', -⟩ := h'.leaves.eq_append
  obtain ⟨rfl, -⟩ := List.append_inj (hname.symm.trans hname') hlength
  have hleft := without?_eq_some_iff.mpr h.leaves
  rw [without?_eq_some_iff.mpr h'.leaves] at hleft
  exact (Option.some.inj hleft).symm

theorem leavesLongest_of_findSome? (hfound : (beginnings list).findSome? (without? name) = some left) :
    ∃ entry, LeavesLongest list entry name left := by
  obtain ⟨tried, entry, others, hsplit, hleft, hnone⟩ := List.findSome?_eq_some_iff.mp hfound
  have hmem : entry ∈ beginnings list := by simp [hsplit]
  refine ⟨entry, mem_beginnings_iff.mp hmem, without?_eq_some_iff.mp hleft, ?_⟩
  intro other left' hother hleaves
  have hsorted := pairwise_beginnings list
  rw [← mem_beginnings_iff, hsplit, List.mem_append, List.mem_cons] at hother
  rw [hsplit, List.pairwise_append, List.pairwise_cons] at hsorted
  obtain htried | rfl | hothers := hother
  · have happlies := without?_eq_some_iff.mpr hleaves
    rw [hnone other htried] at happlies
    cases happlies
  · exact le_refl _
  · exact hsorted.2.1.1 other hothers

/-- What is left of a name: what the longest entry that applies leaves, and the name itself if none applies. -/
def LeftOf (list : String) (name left : List Char) : Prop :=
  (∃ entry, LeavesLongest list entry name left) ∨
    (∀ entry rest, IsEntry list entry → ¬Leaves entry name rest) ∧ left = name

theorem leftOf_stripBeginning (list : String) (name : List Char) : LeftOf list name (stripBeginning name list) := by
  rw [stripBeginning]
  cases hfound : (beginnings list).findSome? (without? name) with
  | some left => exact .inl (leavesLongest_of_findSome? hfound)
  | none =>
      refine .inr ⟨fun entry rest hentry hleaves => ?_, rfl⟩
      have hnone := List.findSome?_eq_none_iff.mp hfound entry (mem_beginnings_iff.mpr hentry)
      rw [without?_eq_some_iff.mpr hleaves] at hnone
      cases hnone

theorem LeftOf.suffix (h : LeftOf list name left) : left <:+ name := by
  obtain ⟨entry, hlongest⟩ | ⟨-, rfl⟩ := h
  · exact hlongest.leaves.suffix
  · exact List.suffix_refl _

theorem stripBeginning_suffix (name : List Char) (list : String) : stripBeginning name list <:+ name :=
  (leftOf_stripBeginning list name).suffix

theorem LeftOf.ne_nil (h : LeftOf list name left) (hname : name ≠ []) : left ≠ [] := by
  obtain ⟨entry, hlongest⟩ | ⟨-, rfl⟩ := h
  · exact hlongest.leaves.ne_nil
  · exact hname

/-- Both lists have the same entries, whatever their order, how often they stand there and the blanks around
them. -/
def SameEntries (list list' : String) : Prop := ∀ entry, IsEntry list entry ↔ IsEntry list' entry

theorem LeavesLongest.congr (h : LeavesLongest list entry name left) (hsame : SameEntries list list') :
    LeavesLongest list' entry name left where
  isEntry := (hsame entry).mp h.isEntry
  leaves := h.leaves
  longest other left' hother := h.longest other left' ((hsame other).mpr hother)

/-- The entries of a list tell what is left of a name. -/
theorem LeftOf.unique {left' : List Char} (h : LeftOf list name left) (h' : LeftOf list' name left')
    (hsame : SameEntries list list') : left = left' := by
  obtain ⟨entry, hlongest⟩ | ⟨hnone, rfl⟩ := h <;> obtain ⟨entry', hlongest'⟩ | ⟨hnone', rfl⟩ := h'
  · exact (hlongest.congr hsame).unique hlongest'
  · exact absurd hlongest.leaves (hnone' entry left ((hsame entry).mp hlongest.isEntry))
  · exact absurd hlongest'.leaves (hnone entry' left' ((hsame entry').mpr hlongest'.isEntry))
  · rfl

/-- What is left of a name starts behind the longest entry that applies; it is an end of the name, no name is
stripped of everything, and only which entries there are counts. -/
theorem stripText_leaves (name list : String) :
    LeftOf list name.toList (stripText name list).toList ∧ (stripText name list).toList <:+ name.toList ∧
      (name ≠ "" → stripText name list ≠ "") ∧
      ∀ list', SameEntries list list' → stripText name list = stripText name list' := by
  have hleft : ∀ list, LeftOf list name.toList (stripText name list).toList := by
    intro list
    rw [stripText, String.toList_ofList]
    exact leftOf_stripBeginning list name.toList
  refine ⟨hleft list, (hleft list).suffix, ?_, ?_⟩
  · intro hname hempty
    refine (hleft list).ne_nil (fun hnil => hname ?_) ?_
    · exact String.toList_inj.mp hnil
    · rw [hempty]
      rfl
  · intro list' hsame
    exact String.toList_inj.mp ((hleft list).unique (hleft list') hsame)

end GormModels.Naming
