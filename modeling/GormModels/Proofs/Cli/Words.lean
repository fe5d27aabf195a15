import Mathlib.Data.List.Nodup
import GormModels.Cli.Arguments
import GormModels.Proofs.Attempt
import GormModels.Proofs.Text.Join

/-!
# Command lines of long switches

Words that are switches with their values behind equals signs are read one by one, whatever the values are:
no name has an equals sign, so a name ends at the first one of its word, and a word with one is no name.
-/

namespace GormModels.Cli

/-- A switch that is given by one of its names and has an effect on the arguments. -/
inductive Setting
  | flag (name : String) (switch : Switch) (set : Arguments → Arguments) (found : switch? name = some switch)
      (effect : switch.effect = .flag set)
  | value (name : String) (switch : Switch) (set : String → Arguments → Arguments)
      (found : switch? name = some switch) (effect : switch.effect = .value set) (v : String)

namespace Setting

def word : Setting → String
  | flag name .. => name
  | value name _ _ _ _ v => name ++ "=" ++ v

def name : Setting → String
  | flag name .. | value name .. => name

def given : Setting → Given
  | flag _ switch .. => ⟨switch, none⟩
  | value _ switch _ _ _ v => ⟨switch, some v⟩

def read (s : Setting) : Word := .switch s.given.switch s.name s.given.value

def apply (a : Arguments) : Setting → Arguments
  | flag _ _ set .. => set a
  | value _ _ set _ _ v => set v a

end Setting

/-! ### Reading a word -/

theorem of_switch? {name : String} {switch : Switch} (h : switch? name = some switch) :
    '=' ∉ name.toList ∧ name.toList.head? = some '-' := by
  have hall : ∀ p ∈ names, '=' ∉ p.1.toList ∧ p.1.toList.head? = some '-' := by
    have hcheck : names.all (fun p => !p.1.toList.contains '=' && p.1.toList.head? == some '-') = true := by decide
    simpa using hcheck
  exact hall (name, switch) (Attempt.mem_of_lookup_eq_some h)

theorem switch?_of_equals {word : String} (h : '=' ∈ word.toList) : switch? word = none := by
  by_contra hsome
  obtain ⟨switch, hswitch⟩ := Option.ne_none_iff_exists'.mp hsome
  exact (of_switch? hswitch).1 h

theorem readWord_word (s : Setting) : readWord s.word = .ok s.read := by
  cases s with
  | flag name switch set found effect =>
      obtain ⟨-, hdash⟩ := of_switch? found
      simp [Setting.word, Setting.read, Setting.given, Setting.name, readWord, hdash, found]
  | value name switch set found effect v =>
      obtain ⟨hequals, hdash⟩ := of_switch? found
      have hword : (name ++ "=" ++ v).toList = name.toList ++ '=' :: v.toList := by simp
      have hmem : '=' ∈ (name ++ "=" ++ v).toList := by simp
      have hhead : (name ++ "=" ++ v).toList.head? = some '-' := by
        rw [hword, List.head?_append, hdash]
        rfl
      have hlength : ((name ++ "=" ++ v).toList.length == 1) = false := by
        obtain ⟨c, rest, hname⟩ := List.exists_cons_of_ne_nil (show name.toList ≠ [] by rintro h; simp [h] at hdash)
        simp [hword, hname]
      have hsplit : splitValue (name ++ "=" ++ v) = (name, some v) := by
        rw [splitValue, hword, Text.splitFirst, Text.takeWhile_ne_append hequals, Text.dropWhile_ne_append hequals]
        simp
      simp only [Setting.word, readWord, hhead, switch?_of_equals hmem, hlength, hsplit, found]
      rfl

theorem word_ne_dashes (s : Setting) : s.word ≠ "--" := by
  cases s with
  | flag name switch set found effect =>
      rintro rfl
      have hnone : switch? "--" = none := rfl
      simp [hnone] at found
  | value name switch set found effect v =>
      intro heq
      have hmem : '=' ∈ "--".toList := by
        rw [← heq]
        simp [Setting.word]
      exact absurd hmem (by decide)

theorem readWords_map_word (settings : List Setting) :
    readWords (settings.map Setting.word) = .ok (settings.map Setting.read) := by
  induction settings with
  | nil => rfl
  | cons s settings ih =>
      rw [List.map_cons, readWords, if_neg (by simpa using word_ne_dashes s), readWord_word, ih]
      rfl

/-! ### Carrying out -/

theorem unfold_given (s : Setting) (fuel : Nat) :
    unfold (fuel + 1) s.given.switch s.name s.given.value = .ok [s.given] := by
  cases s with
  | flag name switch set found effect => rfl
  | value name switch set found effect v => simp [Setting.given, unfold, effect, Effect.takesValue]

/-- A setting has the value that it needs. -/
theorem supply_given (s : Setting) (rest : List Word) : supply [s.given] rest = .ok ([s.given], rest) := by
  cases s with
  | flag name switch set found effect => simp [Setting.given, supply, effect, Effect.takesValue]
  | value name switch set found effect v => rfl

theorem carryOut_given (s : Setting) (a : Arguments) : carryOut a [s.given] = .ok (.run (s.apply a)) := by
  cases s with
  | flag name switch set found effect => simp [Setting.given, Setting.apply, carryOut, effect]
  | value name switch set found effect v => simp [Setting.given, Setting.apply, carryOut, effect]

theorem follow_map_read {fuel : Nat} (a : Arguments) {settings : List Setting} (hfuel : settings.length < fuel) :
    follow fuel a [] (settings.map Setting.read) = .ok (.run (settings.foldl Setting.apply a)) := by
  induction settings generalizing fuel a with
  | nil =>
      match fuel with
      | fuel + 1 => rfl
  | cons s settings ih =>
      match fuel with
      | fuel + 1 =>
        rw [List.map_cons, Setting.read, follow, unfold_given, Attempt.ok_bind, supply_given, Attempt.ok_bind]
        dsimp only
        rw [carryOut_given, Attempt.ok_bind]
        exact ih (s.apply a) (Nat.lt_of_succ_lt_succ hfuel)

/-- A command line of settings is understood as a whole and applies them in order. -/
theorem ofWords_map_word (settings : List Setting) :
    Command.ofWords (settings.map Setting.word) = .ok (.run (settings.foldl Setting.apply {})) := by
  rw [Command.ofWords, readWords_map_word, Attempt.ok_bind]
  exact follow_map_read {} (by simp)

end GormModels.Cli
