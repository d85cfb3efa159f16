import Residency.TextFile
import Residency.TimeInState

namespace Residency

/-- A source of raw data. Only the listing tells why it fails; whatever else cannot be read is
missing. -/
structure StatsSource where
  listing : Path → Except FileError (List String)
  residences : Path → Option (List Residence)
  firstLine : Path → Option String
  tokens : Path → Option (List String)

namespace FileTree

def threadEntries (t : FileTree) (process : Path) : Except FileError (List String) :=
  t.list (process ++ "task")

def residences (t : FileTree) (p : Path) : Option (List Residence) :=
  (t.readText p).toOption.bind fun text => (TimeInState.parse text).toOption

def firstLineOf (bytes : List UInt8) : Option String :=
  let line := (Text.universalNewlines (Text.Utf8.decodeLossy bytes)).takeWhile (· ≠ '\n')
  if line.isEmpty then none else some (String.ofList line)

def firstLine (t : FileTree) (p : Path) : Except FileError (Option String) :=
  match t.readBytes p with
  | .ok bytes => .ok (firstLineOf bytes)
  | .error .embeddedNul => .error .embeddedNul
  | .error _ => .ok none

def tokensOf (bytes : List UInt8) : List String :=
  ((bytes.splitOnP (· == 0)).filter (!·.isEmpty)).map fun token =>
    String.ofList (Text.Utf8.decodeLossy token)

def tokens (t : FileTree) (p : Path) : Except FileError (Option (List String)) :=
  match t.readBytes p with
  | .ok bytes => .ok (if (tokensOf bytes).isEmpty then none else some (tokensOf bytes))
  | .error .embeddedNul => .error .embeddedNul
  | .error _ => .ok none

def statsSource (t : FileTree) : StatsSource where
  listing := t.threadEntries
  residences := t.residences
  firstLine p := (t.firstLine p).toOption.join
  tokens p := (t.tokens p).toOption.join

end FileTree

structure StatsTable where
  listings : List (Path × List String) := []
  residences : List (Path × List Residence) := []
  firstLines : List (Path × String) := []
  tokens : List (Path × List String) := []

def StatsTable.statsSource (t : StatsTable) : StatsSource where
  listing p := match t.listings.lookup p with
    | some entries => .ok entries
    | none => .error (.refused .notFound (p ++ "task").toString)
  residences p := t.residences.lookup p
  firstLine p := t.firstLines.lookup p
  tokens p := t.tokens.lookup p

end Residency
