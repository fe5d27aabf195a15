import GormModels.Sql.Mysql.Definition.Constraint

/-!
# Running readings

A reading takes tokens from the front. These lemmas run the primitive ones on a list of tokens and take a
composed one apart at its steps.
-/

namespace GormModels.Sql.Token

theorem isWord_eq_false {t : Token} {word other : String} (hword : t.isWord word = true)
    (hne : word ≠ other) : t.isWord other = false := by
  simp only [isWord, Bool.and_eq_true, beq_iff_eq] at hword
  simp only [isWord, hword.2, beq_eq_false_iff_ne.mpr hne, Bool.and_false]

theorem isSymbol_eq_false {t : Token} {word symbol : String} (hword : t.isWord word = true) :
    t.isSymbol symbol = false := by
  simp only [isWord, Bool.and_eq_true, beq_iff_eq] at hword
  simp [isSymbol, hword.1]

end GormModels.Sql.Token

namespace GormModels.Sql.Mysql.Reading

variable {α β : Type} {tokens rest : List Token} {t : Token}

theorem bind_eq_ok_iff {r : Reading α} {f : α → Reading β} {b : β} :
    (r >>= f) tokens = .ok (b, rest) ↔ ∃ a mid, r tokens = .ok (a, mid) ∧ f a mid = .ok (b, rest) := by
  change (StateT.bind r f tokens = _) ↔ _
  cases hr : r tokens with
  | error fault => simp [StateT.bind, hr, bind, Except.bind]
  | ok result =>
      simp only [StateT.bind, hr, bind, Except.bind]
      constructor
      · exact fun h => ⟨result.1, result.2, rfl, h⟩
      · rintro ⟨a, mid, heq, h⟩
        cases heq
        exact h

theorem bind_apply {r : Reading α} {f : α → Reading β} {a : α} (h : r tokens = .ok (a, rest)) :
    (r >>= f) tokens = f a rest := by
  change StateT.bind r f tokens = _
  simp [StateT.bind, h, bind, Except.bind]

@[simp]
theorem pure_apply {a : α} : (pure a : Reading α) tokens = .ok (a, tokens) := rfl

theorem get_apply : (get : Reading (List Token)) tokens = .ok (tokens, tokens) := rfl

theorem peek_apply : peek tokens = .ok (tokens.head?, tokens) := rfl

theorem takeIf_of_true {test : Token → Bool} (h : test t = true) :
    takeIf test (t :: rest) = .ok (some t, rest) := by
  rw [takeIf, bind_apply get_apply]
  simp only [h, if_true]
  rfl

theorem takeIf_of_false {test : Token → Bool} (h : test t = false) :
    takeIf test (t :: rest) = .ok (none, t :: rest) := by
  rw [takeIf, bind_apply get_apply]
  simp only [h]
  rfl

theorem word_of_false {w : String} (h : t.isWord w = false) : word w (t :: rest) = .ok (false, t :: rest) := by
  rw [word, bind_apply (takeIf_of_false h)]
  rfl

theorem find?_isWord {w : String} {ws : List String} (h : t.isWord w = true) (hmem : w ∈ ws) :
    ws.find? t.isWord = some w := by
  have hsome : (ws.find? t.isWord).isSome := List.find?_isSome.mpr ⟨w, hmem, h⟩
  obtain ⟨found, hfound⟩ := Option.isSome_iff_exists.mp hsome
  by_cases heq : w = found
  · rw [hfound, heq]
  · have hword := List.find?_some hfound
    rw [Token.isWord_eq_false h heq] at hword
    cases hword

theorem oneOf_of_mem {w : String} {ws : List String} (h : t.isWord w = true) (hmem : w ∈ ws) :
    oneOf ws (t :: rest) = .ok (some w, rest) := by
  have htest : ws.any t.isWord = true := List.any_eq_true.mpr ⟨w, hmem, h⟩
  rw [oneOf, bind_apply (takeIf_of_true htest)]
  simp [find?_isWord h hmem]

end GormModels.Sql.Mysql.Reading
