/-!
Terminal control sequences: the escape character and an opening bracket, parameters, intermediate
characters, and a final character.
-/
namespace Residency.Text

def escape : Char := '\x1b'

def isParameter (c : Char) : Bool :=
  '0' ≤ c && c ≤ '?'

def isIntermediate (c : Char) : Bool :=
  ' ' ≤ c && c ≤ '/'

def isFinal (c : Char) : Bool :=
  '@' ≤ c && c ≤ '~'

def sequenceLength? : List Char → Option Nat
  | c :: '[' :: s =>
      let parameters := s.takeWhile isParameter
      let rest := s.drop parameters.length
      let intermediates := rest.takeWhile isIntermediate
      if c = escape ∧ (rest.drop intermediates.length).head?.any isFinal then
        some (parameters.length + intermediates.length + 3)
      else none
  | _ => none

def withoutEscapesFrom : (skip : Nat) → List Char → List Char
  | _, [] => []
  | skip + 1, _ :: s => withoutEscapesFrom skip s
  | 0, c :: s =>
      match sequenceLength? (c :: s) with
      | some n => withoutEscapesFrom (n - 1) s
      | none => c :: withoutEscapesFrom 0 s

def withoutEscapes (s : List Char) : List Char :=
  withoutEscapesFrom 0 s

theorem withoutEscapes_of_escape_not_mem {s : List Char} (h : escape ∉ s) :
    withoutEscapes s = s := by
  unfold withoutEscapes
  induction s with
  | nil => rfl
  | cons c s ih =>
      have hc : c ≠ escape := fun e => h (by simp [e])
      have hs : sequenceLength? (c :: s) = none := by
        cases s with
        | nil => rfl
        | cons d s =>
            by_cases hd : d = '['
            · subst hd
              simp [sequenceLength?, hc]
            · simp [sequenceLength?, hd]
      rw [withoutEscapesFrom, hs]
      exact congrArg (c :: ·) (ih fun m => h (List.mem_cons_of_mem c m))

example : withoutEscapes "a\x1b[1;31mb\x1b[c\x1b".toList = "ab\x1b".toList := by decide +kernel

example : withoutEscapes "\x1b[ qz\x1b[31)".toList = "z\x1b[31)".toList := by decide +kernel

end Residency.Text
