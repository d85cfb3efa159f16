/-!
How much two texts have in common. The longest run of characters that both have is looked for, the
first one of that length, and then the parts before it and the parts after it are compared in the
same way.
-/
namespace Residency.Text

def sharedLength : List Char → List Char → Nat
  | a :: s, b :: t => if a = b then sharedLength s t + 1 else 0
  | _, _ => 0

structure SharedRun where
  length : Nat := 0
  left : Nat := 0
  right : Nat := 0
  deriving DecidableEq, Repr

def longestShared (s t : List Char) : SharedRun :=
  let runs := (List.range s.length).flatMap fun i => (List.range t.length).map fun j =>
    (⟨sharedLength (s.drop i) (t.drop j), i, j⟩ : SharedRun)
  runs.foldl (fun best run => if best.length < run.length then run else best) {}

def commonFrom : Nat → List Char → List Char → Nat
  | 0, _, _ => 0
  | fuel + 1, s, t =>
      let run := longestShared s t
      if run.length = 0 then 0
      else
        run.length + commonFrom fuel (s.take run.left) (t.take run.right) +
          commonFrom fuel (s.drop (run.left + run.length)) (t.drop (run.right + run.length))

def common (s t : List Char) : Nat :=
  commonFrom (s.length + 1) s t

def isClose (s t : List Char) : Bool :=
  3 * (s.length + t.length) ≤ 10 * common s t

example : isClose "--format".toList "--form".toList = true := by decide +kernel

example : isClose "--help".toList "--bogus".toList = false := by decide +kernel

end Residency.Text
