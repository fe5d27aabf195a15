import Mathlib.Data.List.Nodup
import GormModels.Naming
import GormModels.Proofs.Attempt

/-!
# Names that must differ

The check for repeated names keeps what it has seen in a list that grows at its front. What matters of that
list is only which identifier took which name, so the invariant of the loop is that it is the part of the
identifiers already gone through, in reverse.
-/

namespace GormModels.Naming

variable {make : String → String}

/-- Where names differ, a name leads to what has it. -/
theorem find?_of_nodup {α : Type} {nameOf : α → String} {xs : List α} (hnodup : (xs.map nameOf).Nodup) {x : α}
    (hx : x ∈ xs) {name : String} (hname : nameOf x = name) : xs.find? (nameOf · == name) = some x := by
  subst hname
  have hsome : (xs.find? (nameOf · == nameOf x)).isSome := List.find?_isSome.mpr ⟨x, hx, beq_self_eq_true _⟩
  obtain ⟨found, hfound⟩ := Option.isSome_iff_exists.mp hsome
  have hsame : nameOf found = nameOf x := by simpa using List.find?_some hfound
  rw [hfound, List.inj_on_of_nodup_map hnodup (List.mem_of_find?_eq_some hfound) hx hsame]

/-- A collision is the first name that occurs a second time: up to its later identifier all names differ. -/
def FirstRepeat (make : String → String) (identifiers : List String) (c : Collision) : Prop :=
  ∃ before between after, identifiers = before ++ c.earlier :: (between ++ c.later :: after) ∧
    ((before ++ c.earlier :: between).map make).Nodup ∧ make c.earlier = c.name ∧ make c.later = c.name

/-- What the check has seen behind some identifiers. -/
def seenAfter (make : String → String) (gone : List String) : List (String × String) :=
  (gone.map fun identifier => (make identifier, identifier)).reverse

theorem seenAfter_concat (gone : List String) (identifier : String) :
    (make identifier, identifier) :: seenAfter make gone = seenAfter make (gone ++ [identifier]) := by
  simp [seenAfter]

theorem lookup_seenAfter_eq_none_iff {gone : List String} {name : String} :
    (seenAfter make gone).lookup name = none ↔ name ∉ gone.map make := by
  simp only [seenAfter, List.lookup_eq_none_iff, List.mem_reverse, List.mem_map, bne_iff_ne, ne_eq]
  constructor
  · rintro h ⟨identifier, hgone, rfl⟩
    exact h _ ⟨identifier, hgone, rfl⟩ rfl
  · rintro h _ ⟨identifier, hgone, rfl⟩ rfl
    exact h ⟨identifier, hgone, rfl⟩

theorem lookup_seenAfter_eq_some {before between : List String} {earlier : String}
    (hnodup : ((before ++ earlier :: between).map make).Nodup) :
    (seenAfter make (before ++ earlier :: between)).lookup (make earlier) = some earlier := by
  rw [List.lookup_eq_some_iff]
  refine ⟨seenAfter make between, seenAfter make before, by simp [seenAfter], ?_⟩
  intro seen hseen
  simp only [seenAfter, List.mem_reverse, List.mem_map] at hseen
  obtain ⟨identifier, hbetween, rfl⟩ := hseen
  simp only [List.map_append, List.map_cons, List.nodup_append, List.nodup_cons] at hnodup
  have hne : make earlier ≠ make identifier :=
    fun heq => hnodup.2.1.1 (heq ▸ List.mem_map_of_mem hbetween)
  simpa using hne

theorem mem_of_lookup_seenAfter {gone : List String} {name earlier : String}
    (hlookup : (seenAfter make gone).lookup name = some earlier) :
    earlier ∈ gone ∧ make earlier = name := by
  obtain ⟨front, back, hsplit, -⟩ := List.lookup_eq_some_iff.mp hlookup
  have hmem : (name, earlier) ∈ seenAfter make gone := by simp [hsplit]
  simp only [seenAfter, List.mem_reverse, List.mem_map, Prod.mk.injEq] at hmem
  obtain ⟨identifier, hgone, hname, rfl⟩ := hmem
  exact ⟨hgone, hname⟩

/-- One step of the check: a name that was seen ends it, another one is kept. -/
theorem distinctNames_seenAfter_cons {gone rest : List String} {identifier : String} :
    distinctNames make (seenAfter make gone) (identifier :: rest) =
      match (seenAfter make gone).lookup (make identifier) with
      | some earlier => .error ⟨make identifier, earlier, identifier⟩
      | none =>
          (make identifier :: ·) <$> distinctNames make (seenAfter make (gone ++ [identifier])) rest := by
  cases hlookup : (seenAfter make gone).lookup (make identifier) with
  | some earlier => simp only [distinctNames, hlookup]
  | none => simp only [distinctNames, hlookup, seenAfter_concat]

theorem nodup_map_concat_iff {gone : List String} {identifier : String}
    (hgone : (gone.map make).Nodup) :
    ((gone ++ [identifier]).map make).Nodup ↔ make identifier ∉ gone.map make := by
  simp only [List.map_append, List.map_cons, List.map_nil, List.nodup_append, hgone, List.nodup_singleton,
    true_and, List.mem_singleton]
  constructor
  · intro h hmem
    exact h _ hmem _ rfl rfl
  · rintro h name hmem _ rfl rfl
    exact h hmem

theorem distinctNames_seenAfter_eq_ok_iff {gone identifiers names : List String}
    (hgone : (gone.map make).Nodup) :
    distinctNames make (seenAfter make gone) identifiers = .ok names ↔
      ((gone ++ identifiers).map make).Nodup ∧ names = identifiers.map make := by
  induction identifiers generalizing gone names with
  | nil => simp [distinctNames, hgone, eq_comm]
  | cons identifier rest ih =>
      rw [distinctNames_seenAfter_cons]
      cases hlookup : (seenAfter make gone).lookup (make identifier) with
      | some earlier =>
          obtain ⟨hmem, hmake⟩ := mem_of_lookup_seenAfter hlookup
          have hrepeat : ¬((gone ++ identifier :: rest).map make).Nodup := by
            intro hnodup
            rw [List.map_append, List.nodup_append] at hnodup
            exact hnodup.2.2 _ (List.mem_map_of_mem hmem) _ (by simp [hmake]) rfl
          simp only [reduceCtorEq, hrepeat, false_and]
      | none =>
          have hnew := lookup_seenAfter_eq_none_iff.mp hlookup
          have hnext := (nodup_map_concat_iff hgone).mpr hnew
          have hassoc : gone ++ identifier :: rest = gone ++ [identifier] ++ rest := by simp
          simp only [Attempt.map_eq_ok_iff, ih hnext, hassoc, List.map_cons]
          constructor
          · rintro ⟨names, ⟨hnodup, rfl⟩, rfl⟩
            exact ⟨hnodup, rfl⟩
          · rintro ⟨hnodup, rfl⟩
            exact ⟨_, ⟨hnodup, rfl⟩, rfl⟩

/-- Names that differ are gone through without an end. -/
theorem distinctNames_seenAfter_append {gone identifiers rest : List String}
    (hnodup : ((gone ++ identifiers).map make).Nodup) :
    distinctNames make (seenAfter make gone) (identifiers ++ rest) =
      (identifiers.map make ++ ·) <$> distinctNames make (seenAfter make (gone ++ identifiers)) rest := by
  induction identifiers generalizing gone with
  | nil => simp
  | cons identifier identifiers ih =>
      have hassoc : gone ++ identifier :: identifiers = gone ++ [identifier] ++ identifiers := by simp
      rw [hassoc] at hnodup ⊢
      have hgone : ((gone ++ [identifier]).map make).Nodup := by
        rw [List.map_append] at hnodup
        exact hnodup.of_append_left
      have hnew : make identifier ∉ gone.map make :=
        (nodup_map_concat_iff (by rw [List.map_append] at hgone; exact hgone.of_append_left)).mp hgone
      rw [List.cons_append, distinctNames_seenAfter_cons, lookup_seenAfter_eq_none_iff.mpr hnew]
      simp only [ih hnodup, List.map_cons, List.cons_append, Functor.map_map]

theorem firstRepeat_of_distinctNames_eq_error {gone identifiers : List String}
    (hgone : (gone.map make).Nodup) {c : Collision}
    (herror : distinctNames make (seenAfter make gone) identifiers = .error c) :
    FirstRepeat make (gone ++ identifiers) c := by
  induction identifiers generalizing gone with
  | nil => cases herror
  | cons identifier rest ih =>
      rw [distinctNames_seenAfter_cons] at herror
      cases hlookup : (seenAfter make gone).lookup (make identifier) with
      | some earlier =>
          rw [hlookup] at herror
          cases herror
          obtain ⟨hmem, hmake⟩ := mem_of_lookup_seenAfter hlookup
          obtain ⟨before, between, rfl⟩ := List.append_of_mem hmem
          exact ⟨before, between, rest, by simp, hgone, hmake, rfl⟩
      | none =>
          rw [hlookup] at herror
          have hnext := (nodup_map_concat_iff hgone).mpr (lookup_seenAfter_eq_none_iff.mp hlookup)
          have htail := ih hnext (Attempt.map_eq_error_iff.mp herror)
          simpa using htail

theorem distinctNames_eq_error_of_firstRepeat {identifiers : List String} {c : Collision}
    (h : FirstRepeat make identifiers c) : distinctNames make [] identifiers = .error c := by
  obtain ⟨before, between, after, rfl, hnodup, hearlier, hlater⟩ := h
  have hsplit : before ++ c.earlier :: (between ++ c.later :: after) =
      (before ++ c.earlier :: between) ++ c.later :: after := by simp
  have hrun : distinctNames make [] (before ++ c.earlier :: (between ++ c.later :: after)) =
      ((before ++ c.earlier :: between).map make ++ ·) <$>
        distinctNames make (seenAfter make (before ++ c.earlier :: between)) (c.later :: after) := by
    have hfromStart : (([] ++ (before ++ c.earlier :: between)).map make).Nodup := hnodup
    rw [hsplit]
    exact distinctNames_seenAfter_append hfromStart
  have hlookup := lookup_seenAfter_eq_some hnodup
  rw [hrun, distinctNames_seenAfter_cons, hlater, ← hearlier, hlookup]
  simp [hearlier, Functor.map, Except.map]

theorem distinctNames_eq_ok_iff {identifiers names : List String} :
    distinctNames make [] identifiers = .ok names ↔
      (identifiers.map make).Nodup ∧ names = identifiers.map make := by
  have hempty : (([] : List String).map make).Nodup := by simp
  exact distinctNames_seenAfter_eq_ok_iff hempty

theorem distinctNames_eq_error_iff {identifiers : List String} {c : Collision} :
    distinctNames make [] identifiers = .error c ↔ FirstRepeat make identifiers c := by
  have hempty : (([] : List String).map make).Nodup := by simp
  exact ⟨firstRepeat_of_distinctNames_eq_error hempty, distinctNames_eq_error_of_firstRepeat⟩

end GormModels.Naming
