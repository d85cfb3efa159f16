import Residency.Toml.Reader

/-!
TOML documents. A document is a list of lines, each a key with its value, and of headers; a header
opens the table that the lines after it belong to. Tables whose headers follow directly and begin
with the key of a table are parts of that table.
-/
namespace Residency.Toml

structure Block where
  key : Key
  isElement : Bool
  lines : List (Key × Toml)

def readLine (s : List Char) : Reading (Key × Toml) :=
  (readKey s).bind fun (key, r) =>
    (readEquals r).bind fun r =>
      (readValue maxDepth r).bind fun (v, r) =>
        (endLine r).map fun r => ((key, v), r)

def readHeader (s : List Char) : Reading (Key × Bool) :=
  let isElement := s.tail.head? = some '['
  (readKey (if isElement then s.drop 2 else s.tail)).bind fun (key, r) =>
    let close := if isElement then [']', ']'] else [']']
    if close.isPrefixOf r then
      (endLine (r.drop close.length)).map fun r => ((key, isElement), r)
    else none

def readLines : Nat → List Char → Reading (List (Key × Toml))
  | 0, _ => none
  | fuel + 1, s =>
      (skipFiller s.length s).bind fun s =>
        if s.isEmpty || s.head? = some '[' then some ([], s)
        else
          (readLine s).bind fun (line, r) =>
            (readLines fuel r).map fun (lines, r) => (line :: lines, r)

def readBlocks : Nat → List Char → Option (List Block)
  | 0, _ => none
  | fuel + 1, s =>
      if s.isEmpty then some []
      else
        (readHeader s).bind fun ((key, isElement), r) =>
          (readLines (r.length + 1) r).bind fun (lines, r) =>
            (readBlocks fuel r).map fun blocks => ⟨key, isElement, lines⟩ :: blocks

def Block.isBelow (key : Key) (b : Block) : Bool :=
  b.key != key && key.isPrefixOf b.key

def Block.entry (b : Block) (above : Nat) (es : Entries) : Option (String × Toml) :=
  let v := if b.isElement then .tables [es] else .table .header es
  nest .implied v (b.key.drop above)

def addLines (es : Entries) (lines : List (Key × Toml)) : Option Entries :=
  lines.foldlM (fun es (key, v) =>
    (addLine es key v).filter fun es => key.head?.all (isJoinable · es)) es

def addBlocks (above : Nat) (es : Entries) : List Block → Option Entries
  | [] => some es
  | b :: blocks =>
      let below := blocks.takeWhile (Block.isBelow b.key)
      let after := blocks.dropWhile (Block.isBelow b.key)
      (addLines [] b.lines).bind fun own =>
        (addBlocks b.key.length own below).bind fun own =>
          if !isConsistent own then none
          else
            (b.entry above own).bind fun e =>
              ((addEntry assemblyFuel (above = 0) es e).filter fun es =>
                above = 0 || isJoinable e.1 es).bind fun es =>
                addBlocks above es after
  termination_by blocks => blocks.length
  decreasing_by
    · have := (List.takeWhile_sublist (Block.isBelow b.key) (l := blocks)).length_le
      simp only [List.length_cons]
      omega
    · have := (List.dropWhile_sublist (Block.isBelow b.key) (l := blocks)).length_le
      simp only [List.length_cons]
      omega

def readDocument (s : List Char) : Option Entries :=
  (readLines (s.length + 1) s).bind fun (lines, r) =>
    (lines.foldlM (fun es (key, v) => addLine es key v) []).bind fun es =>
      (readBlocks (r.length + 1) r).bind (addBlocks 0 es)

end Residency.Toml
