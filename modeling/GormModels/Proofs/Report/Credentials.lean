import Mathlib.Data.List.Infix
import GormModels.Report.Credentials
import GormModels.Proofs.Text.Join

/-!
# What is left of a password

Masking goes through an address from one at sign to the next, as neither the mark behind a scheme nor a user
reaches beyond one. So what is shown of credentials depends on nothing but them, and it is the user alone that
decides: behind a name the password is replaced, and where there is no name none is.
-/

namespace GormModels.Credentials

/-- The mark behind a scheme. -/
def mark : List Char := [':', '/', '/']

theorem not_mark_prefix_append_at {c : Char} {s : List Char} (h : ¬ mark <+: c :: s) (rest : List Char) :
    ¬ mark <+: c :: (s ++ '@' :: rest) := by
  match s with
  | [] | [_] => simp [mark]
  | _ :: _ :: _ => simpa [mark] using h

/-! ### Schemes -/

theorem hasScheme_cons {c : Char} {s : List Char} (h : ¬ mark <+: c :: s) : hasScheme (c :: s) = hasScheme s := by
  apply hasScheme.eq_2
  rintro rest rfl rfl
  exact h ⟨rest, rfl⟩

theorem hasScheme_iff {s : List Char} : hasScheme s = true ↔ mark <:+: s := by
  induction s with
  | nil => simp [hasScheme, mark]
  | cons c s ih =>
      by_cases hmark : mark <+: c :: s
      · obtain ⟨rest, hrest⟩ := hmark
        exact hrest ▸ iff_of_true rfl (List.infix_append [] mark rest)
      · rw [hasScheme_cons hmark, ih, List.infix_cons_iff, or_iff_right hmark]

theorem hasScheme_append {front : List Char} (hfront : ':' ∉ front) (s : List Char) :
    hasScheme (front ++ s) = hasScheme s := by
  induction front with
  | nil => rfl
  | cons c front ih =>
      obtain ⟨hc, hfront⟩ := not_or.mp (mt List.mem_cons.mpr hfront)
      rw [List.cons_append, hasScheme_cons (by simp [mark, hc]), ih hfront]

/-- A mark does not reach beyond an at sign. -/
theorem hasScheme_append_at (s rest : List Char) :
    hasScheme (s ++ '@' :: rest) = (hasScheme s || hasScheme rest) := by
  induction s with
  | nil => exact hasScheme_cons (by simp [mark])
  | cons c s ih =>
      by_cases hmark : mark <+: c :: s
      · obtain ⟨behind, hbehind⟩ := hmark
        rw [← hbehind]
        rfl
      · rw [List.cons_append, hasScheme_cons (not_mark_prefix_append_at hmark rest), hasScheme_cons hmark, ih]

/-! ### Masking from one at sign to the next -/

theorem maskAddresses_cons {c : Char} {s : List Char} (h : ¬ mark <+: c :: s) :
    maskAddresses (c :: s) = c :: maskAddresses s := by
  apply maskAddresses.eq_2
  rintro rest rfl rfl
  exact h ⟨rest, rfl⟩

theorem maskAddresses_of_split? {s user after : List Char} (h : split? s = some (user, after)) :
    maskAddresses (mark ++ s) = mark ++ hidden user ++ maskAddresses after := by
  change maskAddresses (':' :: '/' :: '/' :: s) = _
  rw [maskAddresses.eq_1]
  split
  case h_1 heq =>
      rw [h] at heq
      cases heq
      rfl
  case h_2 heq => simp [h] at heq

theorem maskAddresses_of_split?_eq_none {s : List Char} (h : split? s = none) :
    maskAddresses (mark ++ s) = ':' :: maskAddresses ('/' :: '/' :: s) := by
  change maskAddresses (':' :: '/' :: '/' :: s) = _
  rw [maskAddresses.eq_1]
  split
  case h_1 heq => simp [h] at heq
  case h_2 => rfl

theorem maskAddresses_append {s : List Char} (hs : ':' ∉ s) (rest : List Char) :
    maskAddresses (s ++ rest) = s ++ maskAddresses rest := by
  induction s with
  | nil => rfl
  | cons c s ih =>
      obtain ⟨hc, hs⟩ := not_or.mp (mt List.mem_cons.mpr hs)
      rw [List.cons_append, maskAddresses_cons (by simp [mark, hc]), ih hs, List.cons_append]

theorem maskAddresses_of_hasScheme_eq_false {s : List Char} (hs : hasScheme s = false) : maskAddresses s = s := by
  induction s with
  | nil => exact maskAddresses.eq_3
  | cons c s ih =>
      by_cases hmark : mark <+: c :: s
      · obtain ⟨rest, hrest⟩ := hmark
        rw [← hrest] at hs
        cases hs
      · rw [maskAddresses_cons hmark, ih (hasScheme_cons hmark ▸ hs)]

theorem maskAddresses_ne_nil {s : List Char} (hs : s ≠ []) : maskAddresses s ≠ [] := by
  fun_cases maskAddresses s with
  | case1 | case2 | case3 => simp
  | case4 => exact absurd rfl hs

/-- Masking leaves the marks. -/
theorem hasScheme_maskAddresses {s : List Char} (hs : hasScheme s = true) : hasScheme (maskAddresses s) = true := by
  fun_induction maskAddresses s with
  | case1 rest user after hsplit hlt ih => rfl
  | case2 rest hsplit ih =>
      rw [maskAddresses_cons (by simp [mark]), maskAddresses_cons (by simp [mark])]
      rfl
  | case3 c s hmark ih =>
      rw [hasScheme.eq_2 _ _ hmark] at hs
      exact hasScheme_iff.mpr (List.infix_cons (hasScheme_iff.mp (ih hs)))
  | case4 => exact hs

/-- Whether a text starts with credentials is decided up to its first at sign. -/
theorem split?_append_at {s : List Char} (hs : '@' ∉ s) :
    (∃ user, ∀ rest, split? (s ++ '@' :: rest) = some (user, rest)) ∨
      ∀ rest, split? (s ++ '@' :: rest) = none := by
  cases hbehind : s.dropWhile (· ∉ [':', '/', '@']) with
  | nil =>
      refine .inr fun rest => ?_
      rw [split?, Text.dropWhile_append_of_head (by decide), hbehind]
      rfl
  | cons c password =>
      have hpassword : '@' ∉ password := by
        intro hmem
        apply hs
        exact (List.dropWhile_suffix _).subset (hbehind ▸ List.mem_cons_of_mem c hmem)
      by_cases hc : c = ':'
      · subst hc
        have hsplit (rest : List Char) : split? (s ++ '@' :: rest) =
            let user := s.takeWhile (· ∉ [':', '/', '@'])
            if user.isEmpty || password.isEmpty then none else some (user, rest) := by
          rw [split?, Text.takeWhile_append_of_head (by decide), Text.dropWhile_append_of_head (by decide), hbehind]
          simp only [List.cons_append]
          rw [Text.takeWhile_ne_append hpassword, Text.dropWhile_ne_append hpassword]
        by_cases hempty : (s.takeWhile (· ∉ [':', '/', '@'])).isEmpty || password.isEmpty
        · exact .inr fun rest => (hsplit rest).trans (if_pos hempty)
        · exact .inl ⟨_, fun rest => (hsplit rest).trans (if_neg hempty)⟩
      · refine .inr fun rest => ?_
        rw [split?, Text.dropWhile_append_of_head (by decide), hbehind]
        simp [hc]

theorem split?_colon (s : List Char) : split? (':' :: s) = none := by
  have hdrop : (':' :: s).dropWhile (· ∉ [':', '/', '@']) = ':' :: s := List.dropWhile_cons_of_neg (by decide)
  rw [split?, hdrop]
  cases hbehind : s.dropWhile (· != '@') with
  | nil => simp [hbehind]
  | cons => simp [hbehind]

/-- Nothing is masked behind a scheme where there is no user. -/
theorem maskAddresses_mark_colon (s : List Char) :
    maskAddresses (mark ++ ':' :: s) = mark ++ maskAddresses (':' :: s) := by
  have hslash (behind : List Char) : maskAddresses ('/' :: behind) = '/' :: maskAddresses behind :=
    maskAddresses_cons (by simp [mark])
  rw [maskAddresses_of_split?_eq_none (split?_colon s), hslash, hslash]
  rfl

/-- Masking starts afresh behind each at sign. -/
theorem maskAddresses_append_at {s : List Char} (hs : '@' ∉ s) (rest : List Char) :
    maskAddresses (s ++ '@' :: rest) = maskAddresses (s ++ ['@']) ++ maskAddresses rest := by
  induction s with
  | nil =>
      have halone (behind : List Char) : maskAddresses ('@' :: behind) = '@' :: maskAddresses behind :=
        maskAddresses_cons (by simp [mark])
      rw [List.nil_append, List.nil_append, halone, halone, maskAddresses.eq_3, List.singleton_append]
  | cons c s ih =>
      have hbehind : '@' ∉ s := fun hmem => hs (List.mem_cons_of_mem c hmem)
      by_cases hmark : mark <+: c :: s
      · obtain ⟨t, ht⟩ := hmark
        have ht' : '@' ∉ t := fun hmem => hs (ht ▸ List.mem_append_right mark hmem)
        rw [← ht, List.append_assoc, List.append_assoc]
        obtain ⟨user, hsplit⟩ | hsplit := split?_append_at ht'
        · rw [maskAddresses_of_split? (hsplit rest), maskAddresses_of_split? (hsplit []), maskAddresses.eq_3,
            List.append_nil]
        · cases ht
          rw [maskAddresses_of_split?_eq_none (hsplit rest), maskAddresses_of_split?_eq_none (hsplit [])]
          exact congrArg (':' :: ·) (ih hbehind)
      · have hstep (behind : List Char) :
            maskAddresses (c :: s ++ '@' :: behind) = c :: maskAddresses (s ++ '@' :: behind) :=
          maskAddresses_cons (not_mark_prefix_append_at hmark behind)
        rw [hstep, hstep, ih hbehind, List.cons_append]

/-! ### Credentials -/

/-- Whether a text may stand before the colon of credentials. -/
def IsUser (user : List Char) : Prop := ∀ c ∈ user, c ∉ [':', '/', '@']

instance (user : List Char) : Decidable (IsUser user) := List.decidableBAll (· ∉ [':', '/', '@']) user

/-- What is shown of a password where there is no user that hides it. -/
def bared (password : List Char) : List Char := maskAddresses (':' :: password ++ ['@'])

/-- All of a password is bared, unless there is an address in it. -/
theorem bared_eq_self {password : List Char} (h : hasScheme (':' :: password) = false) :
    bared password = ':' :: password ++ ['@'] := by
  apply maskAddresses_of_hasScheme_eq_false
  rw [hasScheme_append_at, h]
  rfl

section

variable {user password : List Char} (huser : IsUser user) (hpassword : '@' ∉ password) (rest : List Char)

include huser in
theorem colon_not_mem_of_isUser : ':' ∉ user := fun hmem => huser ':' hmem (by simp)

include hpassword in
theorem maskAddresses_nameless :
    maskAddresses (':' :: password ++ '@' :: rest) = bared password ++ maskAddresses rest := by
  apply maskAddresses_append_at
  simpa using hpassword

include huser hpassword

theorem split?_credentials (hname : user ≠ []) (hfilled : password ≠ []) :
    split? (user ++ ':' :: password ++ '@' :: rest) = some (user, rest) := by
  have htake : user.takeWhile (· ∉ [':', '/', '@']) = user :=
    List.takeWhile_eq_self_iff.mpr fun c hc => decide_eq_true (huser c hc)
  have hdrop : user.dropWhile (· ∉ [':', '/', '@']) = [] :=
    List.dropWhile_eq_nil_iff.mpr fun c hc => decide_eq_true (huser c hc)
  rw [List.append_assoc, List.cons_append, split?, Text.takeWhile_append_of_head (by decide),
    Text.dropWhile_append_of_head (by decide), htake, hdrop]
  simp [Text.takeWhile_ne_append hpassword, Text.dropWhile_ne_append hpassword, hname, hfilled]

theorem maskAddresses_credentials :
    maskAddresses (user ++ ':' :: password ++ '@' :: rest) = user ++ bared password ++ maskAddresses rest := by
  rw [List.append_assoc, maskAddresses_append (colon_not_mem_of_isUser huser), maskAddresses_nameless hpassword,
    List.append_assoc]

end

end GormModels.Credentials
