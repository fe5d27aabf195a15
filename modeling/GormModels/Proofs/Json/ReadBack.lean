import Mathlib.Data.List.Nodup
import GormModels.Json
import GormModels.Proofs.Attempt
import GormModels.Proofs.Options.Entries
import GormModels.Proofs.Text.Join
import GormModels.Web.Framework

/-!
# Reading what is written

A text is written so that each of its characters is read back by one step, and an object whose names differ is
read back member by member.
-/

namespace GormModels.Json

/-! ### Texts -/

theorem hexNumber?_control : ∀ n < 32,
    Text.hexNumber? ['0', '0', Nat.digitChar (n / 16), Nat.digitChar (n % 16)] = some n := by
  decide

theorem codePoint_control [Text.Halves] {c : Char} (hc : c.toNat < 32) {s : List Char} (hs : s ≠ []) :
    codePoint ('0' :: '0' :: Nat.digitChar (c.toNat / 16) :: Nat.digitChar (c.toNat % 16) :: s) = .ok (c, s) := by
  have hunit : codeUnit? ('0' :: '0' :: Nat.digitChar (c.toNat / 16) :: Nat.digitChar (c.toNat % 16) :: s) =
      some c.toNat := by
    rw [codeUnit?, if_neg (by simp)]
    exact hexNumber?_control c.toNat hc
  have hhigh : Text.isHighHalf c.toNat = false := by simp [Text.isHighHalf]; omega
  have hself : unitChar c.toNat s = .ok (c, s) := by
    have hlow : Text.isLowHalf c.toNat = false := by simp [Text.isLowHalf]; omega
    simp [unitChar, Text.ofUnit?, Text.isHalf, hhigh, hlow]
  rw [codePoint, hunit]
  simp [hs, hhigh, hself]

theorem text_codePoint [Text.Halves] (fuel opening : Nat) (s : List Char) :
    text (fuel + 1) opening ('\\' :: 'u' :: s) = (do
      let (c, rest) ← codePoint s
      let (cs, rest) ← text fuel opening rest
      return (c :: cs, rest)) := rfl

/-- A character is read back from its escape, unless nothing is left behind it. -/
theorem text_escape [Text.Halves] (c : Char) (fuel opening : Nat) {s : List Char} (hs : s ≠ []) :
    text (fuel + 1) opening (escape c ++ s) = (do
      let (cs, rest) ← text fuel opening s
      return (c :: cs, rest)) := by
  unfold escape
  split
  case h_8 hquote hbackslash _ _ _ _ _ =>
      split
      case isTrue hcontrol =>
          rw [List.cons_append, List.cons_append, text_codePoint]
          simp only [List.cons_append, List.nil_append, codePoint_control hcontrol hs, Attempt.ok_bind]
      case isFalse hplain =>
          rw [List.singleton_append, text, if_neg hplain]
          all_goals simp_all
  all_goals rfl

theorem text_flatMap_escape [Text.Halves] {cs : List Char} {fuel : Nat} (hfuel : cs.length < fuel) (opening : Nat)
    (rest : List Char) : text fuel opening (cs.flatMap escape ++ '"' :: rest) = .ok (cs, rest) := by
  induction cs generalizing fuel with
  | nil =>
      match fuel with
      | fuel + 1 => rfl
  | cons c cs ih =>
      match fuel with
      | fuel + 1 =>
        rw [List.flatMap_cons, List.append_assoc, text_escape c fuel opening (by simp),
          ih (Nat.lt_of_succ_lt_succ hfuel), Attempt.ok_bind]
        rfl

theorem length_le_flatMap_escape (cs : List Char) : cs.length ≤ (cs.flatMap escape).length := by
  have hescape (c : Char) : 1 ≤ (escape c).length := by
    unfold escape
    split
    case h_8 => split <;> simp
    all_goals decide
  induction cs with
  | nil => exact Nat.le_refl 0
  | cons c cs ih =>
      have := hescape c
      simp only [List.flatMap_cons, List.length_append, List.length_cons]
      omega

/-! ### Values -/

/-- The values that members have in what follows: texts and flags that are on. -/
def IsPlain (v : Value) : Prop := v = .bool true ∨ ∃ s, v = .text s

theorem text_quoted [Text.Halves] (s : String) (opening : Nat) (rest : List Char) :
    text ((s.toList.flatMap escape ++ '"' :: rest).length + 1) opening (s.toList.flatMap escape ++ '"' :: rest) =
      .ok (s.toList, rest) := by
  apply text_flatMap_escape
  have := length_le_flatMap_escape s.toList
  simp only [List.length_append]
  omega

theorem quote_append (s : String) (rest : List Char) :
    (quote s).toList ++ rest = '"' :: (s.toList.flatMap escape ++ '"' :: rest) := by
  simp [quote]

theorem value_write [Text.Halves] {v : Value} (hv : IsPlain v) (fuel depth : Nat) (rest : List Char) :
    value (fuel + 1) depth ((write v).toList ++ rest) = .ok (v, rest) := by
  obtain rfl | ⟨s, rfl⟩ := hv
  · rfl
  · rw [write, quote_append, value, text_quoted, Attempt.ok_bind]
    simp [pure, Except.pure]

theorem skipBlanks_write {v : Value} (hv : IsPlain v) (rest : List Char) :
    skipBlanks ((write v).toList ++ rest) = (write v).toList ++ rest := by
  obtain rfl | ⟨s, rfl⟩ := hv
  · rfl
  · rw [write, quote_append]
    rfl

/-! ### Objects -/

/-- The text of a member. -/
def member (m : String × Value) : List Char := (quote m.1).toList ++ ':' :: (write m.2).toList

theorem toList_write_object (ms : List (String × Value)) :
    (write (Web.object ms)).toList = '\x7b' :: ([','].intercalate (ms.map member) ++ ['\x7d']) := by
  have hparts : (writeEntries (Options.texted ms)).map String.toList = ms.map member := by
    induction ms with
    | nil => rfl
    | cons m ms ih =>
        rw [Options.texted, List.map_cons, writeEntries, List.map_cons, List.map_cons, ← Options.texted, ih]
        simp [member, Value.display]
  change (write (.map (Options.texted ms))).toList = _
  rw [write, String.toList_append, String.toList_append, String.toList_intercalate, hparts]
  rfl

theorem exists_intercalate_member (m : String × Value) (ms : List (String × Value)) (rest : List Char) :
    ∃ behind, [','].intercalate ((m :: ms).map member) ++ rest = '"' :: behind := by
  rw [List.map_cons, Text.intercalate_cons, member, List.append_assoc, List.append_assoc, quote_append]
  exact ⟨_, rfl⟩

theorem members_member [Text.Halves] {m : String × Value} (hm : IsPlain m.2) (fuel depth : Nat)
    (before : List (Value × Value)) (rest : List Char) :
    members (fuel + 2) depth before (member m ++ rest) =
      match skipBlanks rest with
      | '\x7d' :: rest => .ok (Value.insert (.text m.1) m.2 before, rest)
      | ',' :: rest => members (fuel + 1) depth (Value.insert (.text m.1) m.2 before) (skipBlanks rest)
      | rest => stop .comma rest := by
  have hcolon (s : List Char) : skipBlanks (':' :: s) = ':' :: s := rfl
  rw [member, List.append_assoc, List.cons_append, quote_append, members, text_quoted, Attempt.ok_bind]
  simp only [hcolon, skipBlanks_write hm, value_write hm, Attempt.ok_bind, String.ofList_toList]
  rfl

/-- The members of an object are read back, behind those that were read before. -/
theorem members_intercalate [Text.Halves] {ms before : List (String × Value)} (hne : ms ≠ [])
    (hplain : ∀ m ∈ ms, IsPlain m.2) (hnodup : ((before ++ ms).map Prod.fst).Nodup) {fuel : Nat}
    (hfuel : ms.length < fuel) (depth : Nat) (rest : List Char) :
    members fuel depth (Options.texted before) ([','].intercalate (ms.map member) ++ '\x7d' :: rest) =
      .ok (Options.texted (before ++ ms), rest) := by
  induction ms generalizing before fuel with
  | nil => exact absurd rfl hne
  | cons m ms ih =>
      obtain ⟨hm, hplain⟩ := List.forall_mem_cons.mp hplain
      have hinsert : Value.insert (.text m.1) m.2 (Options.texted before) = Options.texted (before ++ [m]) := by
        rw [← Options.setEntry_of_fresh (Options.fresh_of_nodup hnodup) m.2]
        exact Options.override_texted m.1 m.2 before
      match fuel with
      | fuel + 2 =>
        cases ms with
        | nil =>
            rw [List.map_singleton, List.intercalate_singleton, members_member hm, hinsert]
            rfl
        | cons next ms =>
            have hrest : (((before ++ [m]) ++ next :: ms).map Prod.fst).Nodup := by
              rwa [List.append_assoc, List.singleton_append]
            have hread := ih (by simp) hplain hrest (Nat.lt_of_succ_lt_succ hfuel)
            rw [List.map_cons, List.map_cons, List.intercalate_cons_cons, List.append_assoc, List.append_assoc,
              members_member hm, hinsert]
            change members (fuel + 1) depth (Options.texted (before ++ [m]))
              (skipBlanks ([','].intercalate ((next :: ms).map member) ++ '\x7d' :: rest)) = _
            obtain ⟨behind, hbehind⟩ := exists_intercalate_member next ms ('\x7d' :: rest)
            have hskip : skipBlanks ('"' :: behind) = '"' :: behind := rfl
            rw [hbehind, hskip, ← hbehind, hread, List.append_assoc, List.singleton_append]

theorem length_le_intercalate (ms : List (String × Value)) :
    ms.length ≤ ([','].intercalate (ms.map member)).length + 1 := by
  cases ms with
  | nil => exact Nat.zero_le _
  | cons m ms =>
      have hbehind : ms.length ≤ ((ms.map member).flatMap ([','] ++ ·)).length := by
        induction ms with
        | nil => exact Nat.le_refl 0
        | cons next ms ih =>
            simp only [List.map_cons, List.flatMap_cons, List.length_append, List.length_cons]
            omega
      rw [List.map_cons, Text.intercalate_cons, List.length_append, List.length_cons]
      omega

theorem value_members [Text.Halves] {fuel depth : Nat} {s : List Char} {entries : List (Value × Value)}
    (h : members fuel depth [] ('"' :: s) = .ok (entries, [])) :
    value (fuel + 1) (depth + 1) ('\x7b' :: '"' :: s) = .ok (.map entries, []) := by
  have hskip : skipBlanks ('"' :: s) = '"' :: s := rfl
  rw [value, if_neg (Nat.succ_ne_zero depth), hskip]
  exact congrArg (· >>= fun r => .ok (Value.map r.1, r.2)) h

/-- An object of texts and flags is read back. -/
theorem read_write_object [Text.Halves] {ms : List (String × Value)} (hne : ms ≠ [])
    (hplain : ∀ m ∈ ms, IsPlain m.2) (hnodup : (ms.map Prod.fst).Nodup) :
    read (write (Web.object ms)).toList = .ok (Web.object ms) := by
  obtain ⟨m, rest, rfl⟩ := List.exists_cons_of_ne_nil hne
  have hlength := length_le_intercalate (m :: rest)
  obtain ⟨behind, hbehind⟩ := exists_intercalate_member m rest ['\x7d']
  have hwritten := toList_write_object (m :: rest)
  rw [hbehind] at hwritten
  have hmembers : members (2 * ('\x7b' :: '"' :: behind).length + 1) (maxDepth - 1) [] ('"' :: behind) =
      .ok (Options.texted (m :: rest), []) := by
    change members _ _ (Options.texted []) _ = .ok (Options.texted ([] ++ m :: rest), [])
    rw [← hbehind]
    refine members_intercalate hne hplain hnodup ?_ (maxDepth - 1) []
    simp only [List.length_cons, List.length_append] at hlength ⊢
    omega
  have hvalue : value (2 * ('\x7b' :: '"' :: behind).length + 2) maxDepth ('\x7b' :: '"' :: behind) =
      .ok (Web.object (m :: rest), []) := value_members hmembers
  have hskip : skipBlanks ('\x7b' :: '"' :: behind) = '\x7b' :: '"' :: behind := rfl
  rw [hwritten, read, hskip, hvalue]
  rfl

end GormModels.Json
