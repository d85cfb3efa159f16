import Residency.Console.Literal.Expression

namespace Residency.Console.Literal

def flaw? (s : List Char) : Option LiteralError :=
  match Tokens.ofText s with
  | .error e => some e
  | .ok ts => Source.flaw? ⟨ts.placed.toArray, ts.stop, ts.opened⟩

end Residency.Console.Literal
