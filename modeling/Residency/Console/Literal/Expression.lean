import Residency.Console.Literal.Grammar

namespace Residency.Console.Literal

def outside (opened : Nat) : List Token → List Token
  | [] => []
  | t :: ts =>
      match t with
      | .symbol "(" | .symbol "\x7b" =>
          if opened = 0 then t :: outside 1 ts else outside (opened + 1) ts
      | .symbol ")" | .symbol "\x7d" =>
          if opened = 1 then t :: outside 0 ts else outside (opened - 1) ts
      | _ => if opened = 0 then t :: outside 0 ts else outside opened ts

def hasAny (ts : List Token) (ss : List String) : Bool :=
  ts.any fun t => match t with
    | .word s | .symbol s => ss.contains s
    | _ => false

def arithmeticOperators : List String :=
  ["+", "-", "*", "/", "//", "%", "@", "<<", ">>", "&", "|", "^", "**", "~"]

def comparisonOperators : List String :=
  ["==", "!=", "<", ">", "<=", ">=", "in", "is"]

def formOf : Nat → List Token → Form
  | 0, _ => .operation
  | fuel + 1, ts =>
      let top := outside 0 ts
      let inside := (ts.drop 1).dropLast
      let within := outside 0 inside
      if top.head? = some (.word "lambda") then .function
      else if top.head? = some (.word "yield") then .yielded
      else if hasAny top [":="] then .named
      else if hasAny top ["if"] then .conditional
      else if hasAny top ["or", "and"] || top.head? = some (.word "not") then .operation
      else if hasAny top comparisonOperators then .comparison
      else if hasAny top arithmeticOperators then .operation
      else match top with
        | .word "await" :: _ => .awaited
        | [.name _] => .name
        | [.word s] => .constant s
        | [.symbol "..."] => .ellipsis
        | [.symbol "(", .symbol ")"] =>
            if hasAny within ["for"] then .generator
            else if inside.isEmpty || hasAny within [","] then .tuple
            else formOf fuel inside
        | [.symbol "\x7b", .symbol "\x7d"] =>
            if hasAny within ["for"] then
              if hasAny within [":"] then .dictionaryComprehension else .setComprehension
            else if inside.isEmpty || hasAny within [":", "**"] then .dictionary
            else .set
        | _ =>
            match top.getLast? with
            | some (.symbol ")") => .call
            | some (.name _) => .attribute
            | some (.quoted ..) =>
                if top.any fun t => match t with
                  | .quoted q _ => q.isTemplate
                  | _ => false then .template
                else .literal
            | _ => .literal

def Form.of (ts : List Placed) : Form :=
  formOf ts.length (ts.map (·.token))

def oldStatement? : List Placed → Option String
  | [⟨.name s, _, _⟩] => if s = "print" || s = "exec" then some s else none
  | _ => none

def commaDiagnosis : Diagnosis := fun first second =>
  if (oldStatement? first).isSome then none
  else match second.getLast? with
    | some t => if t.depth = 0 then none else some .missingComma
    | none => none

def statementDiagnosis : Diagnosis := fun first _ =>
  (oldStatement? first).map .missingCall

def quotationDiagnosis : Diagnosis := fun first _ =>
  (first.foldl (fun (before, flaw) t => match t.token, flaw with
    | .quoted q inside, none =>
        let mixed := if before.any (· ≠ q.isBytes) then some .mixedQuotation else none
        (some q.isBytes, inside.or mixed)
    | _, _ => (before, flaw)) ((none : Option Bool), (none : Option LiteralError))).2

def targetDiagnosis : Diagnosis := fun _ second =>
  let before := second.takeWhile (·.token ≠ .word "in")
  match Form.of before with
  | .name | .attribute | .tuple => none
  | f => if hasAny (outside 0 (before.map (·.token))) [","] then none else some (.assigned f)

def generatorDiagnosis : Diagnosis := fun first _ =>
  if hasAny (outside 0 (first.map (·.token))) [","] then some .bareGenerator else none

def argumentDiagnosis : Diagnosis := fun first _ =>
  some (if hasAny (outside 0 (first.map (·.token))) ["**"] then .positionalAfterDouble
    else .positionalAfterNamed)

open Phrase

def aQuotation : Phrase :=
  .token fun t => match t with
    | .quoted .. => true
    | _ => false

def softWord : Phrase :=
  .token fun t => match t with
    | .name s => ["_", "case", "match"].any fun w => s.toList.isPrefixOf w.toList
    | _ => false

def plainExpression : Phrase :=
  first [
    sequence [.rule .disjunction, fixed "if", .rule .disjunction, fixed "else", .rule .expression],
    .rule .disjunction,
    .rule .function]

def expressionFaults : Phrase :=
  .fault false
    (.seq (.notAhead (.alt (.seq name aQuotation) softWord)) (.rule .disjunction))
    (.calm plainExpression) commaDiagnosis
    (.fault false (.rule .disjunction)
      (sequence [fixed "if", .rule .disjunction, .notAhead (oneOf ["else", ":"])])
      (fun _ _ => some .missingElse) .fail)

def noMoreAssignment : Phrase :=
  .notAhead (oneOf ["=", ":="])

def namedFaults : Phrase :=
  .fault false (.rule .expression) (.seq (fixed ":=") (.rule .expression))
    (fun first _ => some (.namedTo (.of first)))
    (.fault false name (sequence [fixed "=", .rule .bitOr, noMoreAssignment])
      (fun _ _ => some .assignment)
      (.fault false
        (.seq (.notAhead (Phrase.first
          [.rule .tuple, .rule .generator, oneOf ["True", "None", "False"]])) (.rule .bitOr))
        (sequence [fixed "=", .rule .bitOr, noMoreAssignment])
        (fun first _ => some (.assignedTo (.of first))) .fail))

def groupFaults : Phrase :=
  wrong (sequence [fixed "(", .rule .starred, fixed ")"]) .starred
    (wrong (sequence [fixed "(", fixed "**", .rule .expression, fixed ")"]) .doublyStarred .fail)

def comprehensionFaults : Phrase :=
  wrong (sequence [oneOf ["(", "\x7b"], .rule .starred, .rule .clauses]) .starredComprehension
    (wrong (sequence [fixed "\x7b", .rule .starNamed, fixed ",", .rule .starNameds, .rule .clauses])
      .bareTarget
      (wrong (sequence [fixed "\x7b", .rule .starNamed, fixed ",", .rule .clauses]) .bareTarget
        .fail))

def keyAndValue : Phrase :=
  sequence [.rule .expression, fixed ":", .rule .expression]

def keyFault (after : Phrase) (e : LiteralError) (otherwise : Phrase) : Phrase :=
  .fault true (.rule .expression) after (fun _ _ => some e) otherwise

def valueFaults : Phrase :=
  keyFault (sequence [fixed ":", fixed "*", .rule .bitOr]) .starredValue
    (keyFault (.seq (fixed ":") (.ahead (oneOf ["\x7d", ","]))) .missingValue .fail)

def dictionaryFaults : Phrase :=
  .alt (sequence [separated "," (.rule .pair), fixed ",",
      keyFault (.notAhead (fixed ":")) .missingColon valueFaults])
    valueFaults

def namedArgumentFaults : Phrase :=
  .fault false (oneOf ["True", "False", "None"]) (fixed "=")
    (fun first _ => some (.assigned (.of first)))
    (wrong (sequence [name, fixed "=", .rule .expression, .rule .clauses]) .assignment
      (wrong (sequence [.notAhead (.seq name (fixed "=")), .rule .expression, fixed "="])
        .assignedArgument .fail))

def argumentFaults : Phrase :=
  wrong (sequence [.rule .argumentList, fixed ",", fixed "*"]) .starredAfterDouble
    (wrong (sequence [.rule .expression, .rule .clauses, fixed ",",
        optional (.alt (.rule .argumentList) (.seq (.rule .expression) (.rule .clauses)))])
      .bareGenerator
      (wrong (sequence [name, fixed "=", .rule .expression, .rule .clauses]) .assignment
        (.fault false (.rule .argumentList) (.rule .clauses) generatorDiagnosis
          (wrong (sequence [.rule .argumentList, fixed ",", .rule .expression, .rule .clauses])
            .bareGenerator
            (.fault false (.rule .argumentList) (.seq (fixed ",") (.rule .argumentList))
              argumentDiagnosis .fail)))))

def unnamed : Phrase :=
  .alt (.rule .assigned) (.seq (.rule .expression) (.notAhead (fixed ":=")))

def namedArgument : Phrase :=
  sequence [name, fixed "=", .rule .expression]

def parameter : Phrase :=
  Phrase.first [
    .seq name (optional (.seq (fixed "=") (.rule .expression))),
    .seq (fixed "*") (optional name),
    .seq (fixed "**") name,
    fixed "/"]

def grammar : Rule → Phrase
  | .whole => sequence [
      separated "," (.rule .expression), optional (fixed ","),
      .many (.token (· = .lineEnd)), .finish]
  | .expression => Phrase.first [
      expressionFaults,
      .fault false (.seq name (.notAhead (fixed "("))) (.rule .starExpressions)
        statementDiagnosis .fail,
      plainExpression]
  | .disjunction => chain ["or"] (.rule .conjunction)
  | .conjunction => chain ["and"] (.rule .inversion)
  | .inversion => .alt (.seq (fixed "not") (.rule .inversion)) (.rule .comparison)
  | .comparison => .seq (.rule .bitOr) (.many (.seq
      (Phrase.first [
        oneOf ["==", "!=", "<=", "<", ">=", ">"],
        .seq (fixed "not") (fixed "in"), fixed "in",
        .seq (fixed "is") (fixed "not"), fixed "is"])
      (.rule .bitOr)))
  | .bitOr => chain ["|"] (.rule .bitXor)
  | .bitXor => chain ["^"] (.rule .bitAnd)
  | .bitAnd => chain ["&"] (.rule .shift)
  | .shift => chain ["<<", ">>"] (.rule .sum)
  | .sum => chain ["+", "-"] (.rule .term)
  | .term => chain ["*", "/", "//", "%", "@"] (.rule .factor)
  | .factor => .alt (.seq (oneOf ["+", "-", "~"]) (.rule .factor)) (.rule .power)
  | .power => .seq (.rule .awaited) (optional (.seq (fixed "**") (.rule .factor)))
  | .awaited => .alt (.seq (fixed "await") (.rule .primary)) (.rule .primary)
  | .primary => .seq (.rule .atom) (.many (Phrase.first [
      .seq (fixed ".") name,
      .rule .generator,
      sequence [fixed "(", optional (.rule .arguments), fixed ")"]]))
  | .atom => Phrase.first [
      name, oneOf ["True", "False", "None", "..."],
      .seq (.ahead aQuotation) (.rule .quotations),
      .token (· = .number),
      .seq (.ahead (fixed "("))
        (Phrase.first [.rule .tuple, .rule .group, .rule .generator]),
      .seq (.ahead (fixed "\x7b")) (Phrase.first [.rule .dictionary, .rule .set])]
  | .quotations =>
      let texts := .seq aQuotation (.many aQuotation)
      .alt (.fault true texts .empty quotationDiagnosis .fail) texts
  | .tuple => sequence [fixed "(",
      optional (sequence [.rule .starNamed, fixed ",", optional (.rule .starNameds)]), fixed ")"]
  | .group => .alt
      (sequence [fixed "(", .alt (.rule .yielded) (.rule .named), fixed ")"]) groupFaults
  | .generator => .alt
      (sequence [fixed "(", unnamed, .rule .clauses, fixed ")"]) comprehensionFaults
  | .dictionary => .alt
      (sequence [fixed "\x7b",
        optional (.seq (separated "," (.rule .pair)) (optional (fixed ","))), fixed "\x7d"])
      (sequence [fixed "\x7b", dictionaryFaults, fixed "\x7d"])
  | .set => Phrase.first [
      sequence [fixed "\x7b", .rule .starNameds, fixed "\x7d"],
      sequence [fixed "\x7b", keyAndValue, .rule .clauses, fixed "\x7d"],
      wrong (sequence [fixed "\x7b", fixed "**", .rule .bitOr, .rule .clauses, fixed "\x7d"])
        .doublyStarredComprehension .fail,
      sequence [fixed "\x7b", .rule .named, .rule .clauses, fixed "\x7d"],
      comprehensionFaults]
  | .starred => .alt (.seq (fixed "*") (.rule .expression)) (wrong (fixed "*") .bareStar .fail)
  | .named => Phrase.first [
      .rule .assigned, namedFaults, .seq (.rule .expression) (.notAhead (fixed ":="))]
  | .assigned => sequence [name, fixed ":=", .rule .expression]
  | .starNamed => .alt (.seq (fixed "*") (.rule .bitOr)) (.rule .named)
  | .starNameds => .seq (separated "," (.rule .starNamed)) (optional (fixed ","))
  | .starExpression => .alt (.seq (fixed "*") (.rule .bitOr)) (.rule .expression)
  | .starExpressions => .seq (separated "," (.rule .starExpression)) (optional (fixed ","))
  | .pair => .alt (.seq (fixed "**") (.rule .bitOr)) keyAndValue
  | .clauses => .seq (.rule .clause) (.many (.rule .clause))
  | .clause => .alt
      (sequence [optional (fixed "async"), fixed "for", .rule .targets, fixed "in",
        .rule .disjunction, .many (.seq (fixed "if") (.rule .disjunction))])
      (.fault false (.seq (optional (fixed "async")) (fixed "for")) (.rule .starExpressions)
        targetDiagnosis .fail)
  | .target => .seq (optional (fixed "*")) (.alt
      (.seq name (.many (.seq (fixed ".") name)))
      (sequence [fixed "(", optional (.rule .targets), fixed ")"]))
  | .targets => .seq (separated "," (.rule .target)) (optional (fixed ","))
  | .yielded => .seq (fixed "yield") (.alt (.seq (fixed "from") (.rule .expression))
      (optional (.rule .starExpressions)))
  | .function => sequence [fixed "lambda",
      optional (.seq (separated "," parameter) (optional (fixed ","))), fixed ":",
      .rule .expression]
  | .arguments => .alt
      (sequence [.rule .argumentList, optional (fixed ","), .ahead (fixed ")")]) argumentFaults
  | .argumentList => .alt
      (.seq (separated "," (.alt (.rule .starred) (.seq unnamed (.notAhead (fixed "=")))))
        (optional (.seq (fixed ",") (.rule .namedList))))
      (.rule .namedList)
  | .namedList => Phrase.first [
      sequence [separated "," (.rule .namedOrStarred), fixed ",",
        separated "," (.rule .namedOrDouble)],
      separated "," (.rule .namedOrStarred),
      separated "," (.rule .namedOrDouble)]
  | .namedOrStarred => Phrase.first [namedArgumentFaults, namedArgument, .rule .starred]
  | .namedOrDouble =>
      Phrase.first [namedArgumentFaults, namedArgument, .seq (fixed "**") (.rule .expression)]

def isKept : Rule → Bool
  | .expression | .disjunction | .conjunction | .inversion | .bitOr | .bitXor | .bitAnd | .shift
  | .sum | .term | .factor | .awaited | .primary | .quotations | .starExpression | .arguments =>
      true
  | _ => false

/-- What keeps some tokens from being an expression: the flaw of a fault if there is one. A bracket
that is not closed on the lines before the last token that was asked for counts more. -/
def Source.flaw? (x : Source) : Option LiteralError :=
  let fuel := 512 * (x.placed.size + 2)
  let reading (calm : Bool) := (x.read grammar isKept fuel calm (.rule .whole) 0).run {}
  let unclosed (last : Nat) (e : LiteralError) :=
    match x.opened, x.stop, x.placed[last]? with
    | some started, some stop, some t => if started < t.line then stop else e
    | _, _, _ => e
  match reading true with
  | (.error e, s) => some (unclosed s.last e)
  | (.ok (some _), _) => none
  | (.ok none, s) =>
      match reading false with
      | (.error e, t) => some (unclosed (max s.last t.last) e)
      | (.ok _, t) => some (unclosed (max s.last t.last) .malformed)

end Residency.Console.Literal
