import GormModels.Files
import GormModels.Proofs.Attempt

/-!
# Writing a file

A write changes the content of one place. The directories on the way to it are still there, so the same path leads
to the same place again and what was written is read back.
-/

namespace GormModels.Files.Tree

variable {t t' : Tree} {p : Path} {content : List UInt8} {place place' : List String}

/-! ### The content of places -/

theorem lookup_replaced {files : List (List String × List UInt8)} (place other : List String)
    (content : List UInt8) :
    (files.map fun (name, old) => if name == place then (name, content) else (name, old)).lookup other =
      if other = place then (files.lookup place).map fun _ => content else files.lookup other := by
  induction files with
  | nil => simp
  | cons file files ih =>
      obtain ⟨name, old⟩ := file
      rw [List.map_cons]
      rcases eq_or_ne name place with rfl | hname
      · rcases eq_or_ne other name with rfl | hother
        · simp
        · simpa [List.lookup_cons, beq_eq_false_iff_ne.mpr hother, hother] using ih
      · rcases eq_or_ne other name with rfl | hother
        · simp [hname]
        · simpa [List.lookup_cons, beq_eq_false_iff_ne.mpr hother, beq_eq_false_iff_ne.mpr hname.symm, hname] using ih

theorem content?_put (t : Tree) (place other : List String) (content : List UInt8) :
    (t.put place content).content? other = if other = place then some content else t.content? other := by
  unfold put hasFile content?
  split
  case isTrue hfile =>
      obtain ⟨old, hold⟩ := Option.isSome_iff_exists.mp hfile
      rw [lookup_replaced, hold]
      rfl
  case isFalse hfile =>
      rw [Option.not_isSome_iff_eq_none] at hfile
      rw [List.lookup_append]
      rcases eq_or_ne other place with rfl | hother
      · simp [hfile]
      · simp [List.lookup_cons, beq_eq_false_iff_ne.mpr hother, hother]

/-! ### The way to a place -/

theorem exists_file_put {name : List String} (h : ∃ old, (name, old) ∈ t.files) (place : List String)
    (content : List UInt8) : ∃ old, (name, old) ∈ (t.put place content).files := by
  obtain ⟨old, hmem⟩ := h
  unfold put
  split
  · by_cases hname : name = place
    · exact ⟨content, List.mem_map.mpr ⟨_, hmem, by simp [hname]⟩⟩
    · exact ⟨old, List.mem_map.mpr ⟨_, hmem, by simp [hname]⟩⟩
  · exact ⟨old, List.mem_append_left _ hmem⟩

theorem directories_put : (t.put place content).directories = t.directories := by
  unfold put
  split <;> rfl

theorem hasDirectory_iff : t.hasDirectory place ↔ isStanding place ∨ place ∈ t.directories ∨
    ∃ name, (∃ content, (name, content) ∈ t.files) ∧ place <+: name ∧ name ≠ place := by
  simp [hasDirectory, or_assoc]

/-- A write takes no directory away. -/
theorem hasDirectory_put (h : t.hasDirectory place') : (t.put place content).hasDirectory place' := by
  rw [hasDirectory_iff] at h ⊢
  obtain hstanding | hlisted | ⟨name, hfile, hbelow⟩ := h
  · exact .inl hstanding
  · exact .inr (.inl (by rwa [directories_put]))
  · exact .inr (.inr ⟨name, exists_file_put hfile place content, hbelow⟩)

/-- Where all directories stay, a path leads where it led. -/
theorem follow_of_directories (hstays : ∀ d, t.hasDirectory d → t'.hasDirectory d) {here parts : List String}
    (h : t.follow here parts = .ok place) : t'.follow here parts = .ok place := by
  induction parts generalizing here with
  | nil => exact h
  | cons part rest ih =>
      unfold follow at h ⊢
      by_cases hup : (part == "..") = true
      · rw [if_pos hup] at h ⊢
        exact ih h
      · rw [if_neg hup] at h ⊢
        dsimp only at h ⊢
        split_ifs at h with hlong hlast hstep
        · rw [if_neg hlong, if_pos hlast]
          exact h
        · rw [if_neg hlong, if_neg hlast, if_pos (hstays _ hstep)]
          exact ih h

theorem locate_put (h : t.locate p = .ok place') : (t.put place content).locate p = .ok place' := by
  unfold locate at h ⊢
  split_ifs at h ⊢
  exact follow_of_directories (fun _ => hasDirectory_put) h

/-! ### Writing -/

/-- A path leads to a file of the content, and all other files are as before. -/
structure Wrote (t t' : Tree) (p : Path) (content : List UInt8) : Prop where
  read : t'.read p = .ok content
  others : ∃ place, t.locate p = .ok place ∧ ∀ other, other ≠ place → t'.content? other = t.content? other

theorem wrote_of_write (h : t.write p content = .ok t') : t.Wrote t' p content := by
  simp only [write, Attempt.bind_eq_ok_iff] at h
  obtain ⟨place, hplace, h⟩ := h
  split at h
  · cases h
  · cases h
    refine ⟨?_, place, hplace, fun other hother => ?_⟩
    · rw [read, locate_put hplace, Attempt.ok_bind, content?_put, if_pos rfl]
    · rw [content?_put, if_neg hother]

end GormModels.Files.Tree
