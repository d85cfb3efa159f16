import Residency.Json.Arithmetic
import Residency.Json.Printer
import Residency.Json.Reader

/-!
Usage records as they are exchanged. A record is read from a JSON value without a check of what
its fields hold: the identifiers and names are kept as they are, and whatever can be gone through
becomes a list. What a field cannot do is reported when it is asked to.
-/
namespace Residency

inductive RecordError where
  | missingKey (key : String)
  | notSubscriptable (v : Json)
  | listIndexedByName
  | stringIndexedByName
  | notIterable (v : Json)
  | arithmetic (e : ArithmeticError)
  | integerTooLong
  | text (e : Json.ReadError)

def RecordError.message : RecordError → String
  | .missingKey key => Text.quote key
  | .notSubscriptable v => "'" ++ v.typeName ++ "' object is not subscriptable"
  | .listIndexedByName => "list indices must be integers or slices, not str"
  | .stringIndexedByName => "string indices must be integers, not 'str'"
  | .notIterable v => "'" ++ v.typeName ++ "' object is not iterable"
  | .arithmetic e => e.message
  | .integerTooLong => Number.notWritableMessage
  | .text e => e.message

def Json.field (v : Json) (key : String) : Except RecordError Json :=
  match v with
  | .obj members => match Json.member? key members with
    | some w => .ok w
    | none => .error (.missingKey key)
  | .arr _ => .error .listIndexedByName
  | .str _ => .error .stringIndexedByName
  | v => .error (.notSubscriptable v)

def Json.elements : Json → Except RecordError (List Json)
  | .arr items => .ok items
  | .str s => .ok (s.toList.map fun c => .str (String.singleton c))
  | .obj members => .ok (members.map fun m => .str m.1)
  | v => .error (.notIterable v)

def readAll {α β : Type} (f : α → Except RecordError β) : List α → Except RecordError (List β)
  | [] => .ok []
  | a :: l => (f a).bind fun b => (readAll f l).map (b :: ·)

structure ThreadRecord where
  id : Json
  name : Json
  times : List Json

structure ProcessRecord where
  id : Json
  name : Json
  uid : Json
  threads : List ThreadRecord

namespace ThreadRecord

def toJson (t : ThreadRecord) : Json :=
  .obj [("thread_id", t.id), ("thread_name", t.name), ("usage_times_millis", .arr t.times)]

/-- Reads a thread; the fields are looked at in the order in which they are written. -/
def ofJson (v : Json) : Except RecordError ThreadRecord :=
  (v.field "thread_id").bind fun id =>
    (v.field "thread_name").bind fun name =>
      (v.field "usage_times_millis").bind fun times =>
        times.elements.map fun times => ⟨id, name, times⟩

def same (t u : ThreadRecord) : Bool :=
  t.id.same u.id && t.name.same u.name && Json.sameItems t.times u.times

end ThreadRecord

def columns {α : Type} : List (List α) → List (List α)
  | [] => []
  | [row] => row.map ([·])
  | row :: rows => List.zipWith (· :: ·) row (columns rows)

namespace ProcessRecord

def members (p : ProcessRecord) : List (String × Json) :=
  [("process_id", p.id), ("process_name", p.name), ("uid", p.uid),
    ("thread_cpu_usages", .arr (p.threads.map ThreadRecord.toJson))]

def toJson (p : ProcessRecord) : Json :=
  .obj p.members

def ofJson (v : Json) : Except RecordError ProcessRecord :=
  (v.field "process_id").bind fun id =>
    (v.field "process_name").bind fun name =>
      (v.field "uid").bind fun uid =>
        (v.field "thread_cpu_usages").bind fun threads =>
          threads.elements.bind fun threads =>
            (readAll ThreadRecord.ofJson threads).map fun threads => ⟨id, name, uid, threads⟩

def toText (p : ProcessRecord) : Except RecordError String :=
  if p.toJson.isWritable then .ok p.toJson.render else .error .integerTooLong

def ofText (s : String) : Except RecordError ProcessRecord :=
  ((Json.read s).mapError .text).bind ofJson

def total (p : ProcessRecord) : Except RecordError (List Json) :=
  readAll (fun column => (Json.sum column).mapError .arithmetic)
    (columns (p.threads.map (·.times)))

def same (p q : ProcessRecord) : Bool :=
  p.id.same q.id && p.name.same q.name && p.uid.same q.uid &&
    p.threads.length == q.threads.length && (p.threads.zip q.threads).all fun (t, u) => t.same u

end ProcessRecord

end Residency
