import Mathlib.Data.List.Basic
import Mathlib.Data.List.TakeWhile

/-!
# Texts put together

Parts joined by a separator, and parts that a text is cut into.
-/

namespace GormModels.Text

/-- The separator stands before each part but the first one. -/
theorem intercalate_cons {α : Type} (sep part : List α) (parts : List (List α)) :
    sep.intercalate (part :: parts) = part ++ parts.flatMap (sep ++ ·) := by
  induction parts generalizing part with
  | nil => rw [List.intercalate_singleton, List.flatMap_nil, List.append_nil]
  | cons next parts ih =>
      rw [List.intercalate_cons_cons, ih, List.flatMap_cons]
      simp only [List.append_assoc]

theorem mem_of_mem_intercalate {sep c : Char} {parts : List (List Char)} (hc : c ∈ [sep].intercalate parts) :
    c = sep ∨ ∃ part ∈ parts, c ∈ part := by
  cases parts with
  | nil => cases hc
  | cons part parts =>
      rw [intercalate_cons, List.mem_append, List.mem_flatMap] at hc
      obtain hc | ⟨other, hother, hc⟩ := hc
      · exact .inr ⟨part, List.mem_cons_self, hc⟩
      · obtain heq | hc := List.mem_cons.mp hc
        · exact .inl heq
        · exact .inr ⟨other, List.mem_cons_of_mem part hother, hc⟩

theorem mem_intercalate_of_mem {α : Type} {sep part : List α} {parts : List (List α)} {a : α}
    (hpart : part ∈ parts) (ha : a ∈ part) : a ∈ sep.intercalate parts := by
  cases parts with
  | nil => cases hpart
  | cons first parts =>
      rw [intercalate_cons, List.mem_append, List.mem_flatMap]
      obtain rfl | hpart := List.mem_cons.mp hpart
      · exact .inl ha
      · exact .inr ⟨part, hpart, List.mem_append_right sep ha⟩

theorem mem_of_mem_splitOn {s part : List Char} {sep c : Char} (hpart : part ∈ s.splitOn sep) (hc : c ∈ part) :
    c ∈ s := by
  have hself : [sep].intercalate (s.splitOn sep) = s := List.intercalate_splitOn sep
  exact hself ▸ mem_intercalate_of_mem hpart hc

theorem intercalate_append {α : Type} {sep : List α} {front back : List (List α)} (hfront : front ≠ [])
    (hback : back ≠ []) :
    sep.intercalate (front ++ back) = sep.intercalate front ++ sep ++ sep.intercalate back := by
  obtain ⟨part, front, rfl⟩ := List.exists_cons_of_ne_nil hfront
  obtain ⟨next, back, rfl⟩ := List.exists_cons_of_ne_nil hback
  simp only [List.cons_append, intercalate_cons, List.flatMap_append, List.flatMap_cons, List.append_assoc]

/-- With one more separator at the end, each part has its own behind it. -/
theorem intercalate_append_sep {α : Type} {sep : List α} {parts : List (List α)} (hparts : parts ≠ []) :
    sep.intercalate parts ++ sep = parts.flatMap (· ++ sep) := by
  induction parts with
  | nil => contradiction
  | cons part parts ih =>
      by_cases hrest : parts = []
      · rw [hrest, List.intercalate_singleton, List.flatMap_singleton]
      · rw [List.intercalate_cons_of_ne_nil hrest, List.append_assoc, ih hrest, List.flatMap_cons]

theorem any_intercalate {α : Type} {p : α → Bool} {sep : List α} (hsep : sep.any p = false) (parts : List (List α)) :
    (sep.intercalate parts).any p = parts.any (·.any p) := by
  cases parts with
  | nil => rfl
  | cons part parts =>
    simp only [intercalate_cons, List.any_append, List.any_flatMap, hsep, Bool.false_or, List.any_cons]

/-- Without the separators the parts stand together again. -/
theorem filter_ne_intercalate {α : Type} [BEq α] [LawfulBEq α] {sep : α} {parts : List (List α)}
    (hparts : ∀ part ∈ parts, sep ∉ part) : ([sep].intercalate parts).filter (· != sep) = parts.flatten := by
  have hself : ∀ part ∈ parts, part.filter (· != sep) = part := fun part hpart =>
    List.filter_eq_self.mpr fun a ha => bne_iff_ne.mpr fun heq => hparts part hpart (heq ▸ ha)
  cases parts with
  | nil => rfl
  | cons part parts =>
      have hbehind : ∀ part ∈ parts, ([sep] ++ part).filter (· != sep) = part := by
        intro part hpart
        rw [List.filter_append, hself part (List.mem_cons_of_mem _ hpart), List.filter_singleton, bne_self_eq_false]
        rfl
      rw [intercalate_cons, List.filter_append, hself part List.mem_cons_self, List.filter_flatMap,
        List.flatMap_congr hbehind, List.flatMap_id', List.flatten_cons]

/-- Of texts whose characters agree on a test, those that pass it are what passes of all. -/
theorem flatten_filter_head? {α : Type} {p : α → Bool} {texts : List (List α)}
    (htexts : ∀ text ∈ texts, ∀ a ∈ text, ∀ b ∈ text, p a = p b) :
    (texts.filter (·.head?.any p)).flatten = texts.flatten.filter p := by
  induction texts with
  | nil => rfl
  | cons text texts ih =>
      obtain ⟨htext, htexts⟩ := List.forall_mem_cons.mp htexts
      rw [List.flatten_cons, List.filter_append, ← ih htexts]
      cases text with
      | nil => rfl
      | cons a text =>
          cases ha : p a with
          | true =>
              have hall : (a :: text).filter p = a :: text :=
                List.filter_eq_self.mpr fun b hb => (htext b hb a List.mem_cons_self).trans ha
              rw [List.filter_cons_of_pos (by simpa using ha), List.flatten_cons, hall]
          | false =>
              have hnone : (a :: text).filter p = [] :=
                List.filter_eq_nil_iff.mpr fun b hb => by
                  rw [htext b hb a List.mem_cons_self, ha]; exact Bool.false_ne_true
              rw [List.filter_cons_of_neg (by simpa using ha), hnone, List.nil_append]

/-- Parts joined end as the last part does, unless it is empty. -/
theorem getLast?_intercalate_concat {α : Type} {sep last : List α} (front : List (List α)) (hlast : last ≠ []) :
    (sep.intercalate (front ++ [last])).getLast? = last.getLast? := by
  by_cases hfront : front = []
  · rw [hfront, List.nil_append, List.intercalate_singleton]
  · rw [intercalate_append hfront (by simp), List.intercalate_singleton, List.getLast?_append_of_ne_nil _ hlast]

/-- Joining twice is joining once, as no part is empty. -/
theorem intercalate_map_intercalate {α : Type} {sep : List α} {f : List α → List (List α)}
    (hf : ∀ s, f s ≠ []) (parts : List (List α)) :
    sep.intercalate (parts.map fun s => sep.intercalate (f s)) = sep.intercalate (parts.flatMap f) := by
  induction parts with
  | nil => rfl
  | cons part parts ih =>
      cases parts with
      | nil => simp
      | cons next parts =>
          have hback : (next :: parts).flatMap f ≠ [] := by simp [hf next]
          rw [List.map_cons, List.intercalate_cons_of_ne_nil (by simp), ih,
            ← intercalate_append (hf part) hback]
          rfl

theorem takeWhile_append_of_head {α : Type} {continues : α → Bool} {d : α} (hstop : continues d = false)
    (s e : List α) : (s ++ d :: e).takeWhile continues = s.takeWhile continues := by
  rw [List.takeWhile_append]
  split
  case isTrue hall =>
      rw [List.takeWhile_cons_of_neg (by simp [hstop]), List.append_nil]
      exact ((List.takeWhile_prefix continues).eq_of_length hall).symm
  case isFalse => rfl

theorem dropWhile_append_of_head {α : Type} {continues : α → Bool} {d : α} (hstop : continues d = false)
    (s e : List α) : (s ++ d :: e).dropWhile continues = s.dropWhile continues ++ d :: e := by
  rw [List.dropWhile_append]
  split
  case isTrue hall =>
      rw [List.dropWhile_cons_of_neg (by simp [hstop]), List.isEmpty_iff.mp hall, List.nil_append]
  case isFalse => rfl

theorem takeWhile_ne_append {α : Type} [BEq α] [LawfulBEq α] {s : List α} {sep : α} (hs : sep ∉ s)
    (rest : List α) : (s ++ sep :: rest).takeWhile (· != sep) = s := by
  have hpass : ∀ c ∈ s, (c != sep) = true := fun c hc => bne_iff_ne.mpr fun heq => hs (heq ▸ hc)
  rw [List.takeWhile_append_of_pos hpass, List.takeWhile_cons_of_neg (by simp), List.append_nil]

theorem dropWhile_ne_append {α : Type} [BEq α] [LawfulBEq α] {s : List α} {sep : α} (hs : sep ∉ s)
    (rest : List α) : (s ++ sep :: rest).dropWhile (· != sep) = sep :: rest := by
  have hpass : ∀ c ∈ s, (c != sep) = true := fun c hc => bne_iff_ne.mpr fun heq => hs (heq ▸ hc)
  rw [List.dropWhile_append_of_pos hpass, List.dropWhile_cons_of_neg (by simp)]

theorem not_mem_of_mem_splitOn {s part : List Char} {sep : Char} (hpart : part ∈ s.splitOn sep) :
    sep ∉ part := by
  induction s generalizing part with
  | nil => simp_all
  | cons c s ih =>
      rw [List.splitOn_cons_eq_if_modifyHead] at hpart
      split at hpart
      case isTrue =>
          obtain rfl | hpart := List.mem_cons.mp hpart
          · simp
          · exact ih hpart
      case isFalse hc =>
          obtain ⟨first, parts, hcons⟩ := List.exists_cons_of_ne_nil (List.splitOn_ne_nil sep s)
          rw [hcons, List.modifyHead_cons, List.mem_cons] at hpart
          obtain rfl | hpart := hpart
          · have hfirst : sep ∉ first := ih (by simp [hcons])
            rw [List.mem_cons, not_or]
            exact ⟨fun heq => hc (by simp [heq]), hfirst⟩
          · exact ih (by simp [hcons, hpart])

end GormModels.Text
