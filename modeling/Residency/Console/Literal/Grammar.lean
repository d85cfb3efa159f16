import Residency.Console.Literal.Token
import Std.Data.HashMap

/-!
Grammars with ordered choice over tokens. A phrase of a grammar either reads some tokens from a
position on or does not apply. Faults are phrases that must not apply: where one does, the reading
ends with a flaw that is told from the tokens read. The tokens may stop with a flaw of their own,
which counts once a phrase asks for the token there.
-/
namespace Residency.Console.Literal

inductive Rule where
  | whole | expression | disjunction | conjunction | inversion | comparison
  | bitOr | bitXor | bitAnd | shift | sum | term | factor | power | awaited | primary | atom
  | quotations | tuple | group | generator | dictionary | set | starred | named | assigned
  | starNamed | starNameds | starExpression | starExpressions | pair | clauses | clause
  | target | targets | yielded | function | arguments | argumentList | namedList | namedOrStarred
  | namedOrDouble
  deriving DecidableEq, Hashable, Repr

abbrev Diagnosis := (first second : List Placed) → Option LiteralError

inductive Phrase where
  | fail
  | empty
  | token (accepts : Token → Bool)
  | finish
  | seq (p q : Phrase)
  | alt (p q : Phrase)
  | many (p : Phrase)
  | ahead (p : Phrase)
  | notAhead (p : Phrase)
  | rule (r : Rule)
  | calm (p : Phrase)
  | fault (strict : Bool) (p q : Phrase) (d : Diagnosis) (otherwise : Phrase)

structure Source where
  placed : Array Placed
  stop : Option LiteralError
  opened : Option Nat

structure Progress where
  known : Std.HashMap (Rule × Nat) (Option Nat) := ∅
  last : Nat := 0

abbrev Reading := ExceptT LiteralError (StateM Progress)

namespace Source

def token? (x : Source) (i : Nat) : Reading (Option Token) := do
  modify fun s => { s with last := max s.last i }
  match x.placed[i]?, x.stop with
  | some t, _ => pure (some t.token)
  | none, some e => throw e
  | none, none => pure none

def between (x : Source) (i j : Nat) : List Placed :=
  (x.placed.extract i j).toList

/-- The position to which a phrase of a grammar leads from a position. A calm reading looks for
strict faults only. The fuel bounds the depth of phrases within phrases. -/
def read (x : Source) (grammar : Rule → Phrase) (isKept : Rule → Bool) :
    Nat → (calm : Bool) → Phrase → Nat → Reading (Option Nat)
  | 0, _, _, _ => pure none
  | fuel + 1, calm, phrase, i =>
      let go := read x grammar isKept fuel
      match phrase with
      | .fail => pure none
      | .empty => pure (some i)
      | .token accepts => do
          let t ← x.token? i
          pure (if t.any accepts then some (i + 1) else none)
      | .finish => do
          let t ← x.token? i
          pure (if t.isNone then some i else none)
      | .seq p q => do
          match ← go calm p i with
          | some j => go calm q j
          | none => pure none
      | .alt p q => do
          match ← go calm p i with
          | some j => pure (some j)
          | none => go calm q i
      | .many p => do
          match ← go calm p i with
          | some j => if i < j then go calm (.many p) j else pure (some i)
          | none => pure (some i)
      | .ahead p => do
          let found ← go calm p i
          pure (found.map fun _ => i)
      | .notAhead p => do
          let found ← go calm p i
          pure (if found.isSome then none else some i)
      | .rule r => do
          match (← get).known[(r, i)]? with
          | some found => pure found
          | none =>
              let found ← go calm (grammar r) i
              if isKept r then modify fun s => { s with known := s.known.insert (r, i) found }
              pure found
      | .calm p => go true p i
      | .fault strict p q d otherwise => do
          if calm && !strict then return none
          let some j ← go calm p i | go calm otherwise i
          let some k ← go calm q j | go calm otherwise i
          match d (x.between i j) (x.between j k) with
          | some e => throw e
          | none => pure none

end Source

namespace Phrase

def sequence (ps : List Phrase) : Phrase :=
  ps.foldr .seq .empty

def first (ps : List Phrase) : Phrase :=
  ps.foldr .alt .fail

def optional (p : Phrase) : Phrase :=
  .alt p .empty

def fixed (s : String) : Phrase :=
  .token fun t => t = .word s || t = .symbol s

def oneOf (ss : List String) : Phrase :=
  .token fun t => match t with
    | .word s | .symbol s => ss.contains s
    | _ => false

def name : Phrase :=
  .token fun t => match t with
    | .name _ => true
    | _ => false

def separated (separator : String) (p : Phrase) : Phrase :=
  .seq p (.many (.seq (fixed separator) p))

def chain (operators : List String) (p : Phrase) : Phrase :=
  .seq p (.many (.seq (oneOf operators) p))

def wrong (p : Phrase) (e : LiteralError) (otherwise : Phrase) : Phrase :=
  .fault false p .empty (fun _ _ => some e) otherwise

end Phrase

end Residency.Console.Literal
