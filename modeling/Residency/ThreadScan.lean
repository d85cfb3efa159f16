import Residency.TableFile

/-!
Going through the threads of a process. Processes and threads may go away at any moment: a thread
that cannot be read is left out, and a process without a readable thread gives nothing. What is read
of a thread is handed on at once, so a failure ends the scan at that thread.
-/
namespace Residency

inductive ScanError where
  | threadId (e : Number.IntegerError)
  | processPath (e : FileError)
  deriving DecidableEq, Repr

def ScanError.message : ScanError → String
  | .threadId e => e.message
  | .processPath e => e.message

structure ThreadReading where
  id : Int
  name : Option String
  ticks : List Int
  deriving DecidableEq, Repr

structure ProcessReading (α : Type) where
  name : Option String
  threads : List α

def statisticsFile : String := "time_in_state"

def processNameFile : String := "cmdline"

def threadNameFile : String := "comm"

def isThreadEntry (entry : String) : Bool :=
  !entry.toList.isEmpty && entry.toList.all fun c => '0' ≤ c && c ≤ '9'

def readThread (fs : FrequencyTable) (source : StatsSource) (threads : Path) (entry : String) :
    List Event × Except ScanError (Option ThreadReading) :=
  if !isThreadEntry entry then ([.threadIdRejected entry threads], .ok none)
  else match Number.readInteger entry.toList with
    | .error e => ([], .error (.threadId e))
    | .ok id =>
        let thread := threads ++ entry
        match fs.ticks source (thread ++ statisticsFile) with
        | (events, none) => (events, .ok none)
        | (events, some ticks) =>
            (events, .ok (some { id := id, name := source.firstLine (thread ++ threadNameFile),
                                 ticks := ticks }))

section Scan

variable {α ε : Type} (fs : FrequencyTable) (source : StatsSource) (fail : ScanError → ε)
  (f : ThreadReading → Except ε α)

def scanThreads (threads : Path) : List String → List Event × Except ε (List α)
  | [] => ([], .ok [])
  | entry :: entries =>
      match readThread fs source threads entry with
      | (events, .error e) => (events, .error (fail e))
      | (events, .ok none) =>
          let (more, rest) := scanThreads threads entries
          (events ++ more, rest)
      | (events, .ok (some r)) => match f r with
        | .error e => (events, .error e)
        | .ok a =>
            let (more, rest) := scanThreads threads entries
            (events ++ more, rest.map (a :: ·))

def processName (process : Path) : Option String :=
  (source.tokens (process ++ processNameFile)).bind (·.head?)

def scanProcess (process : Path) : List Event × Except ε (Option (ProcessReading α)) :=
  match source.listing process with
  | .error .embeddedNul => ([], .error (fail (.processPath .embeddedNul)))
  | .error _ => ([], .ok none)
  | .ok entries =>
      match scanThreads fs source fail f (process ++ "task") entries with
      | (events, .error e) => (events, .error e)
      | (events, .ok []) => (events, .ok none)
      | (events, .ok threads) =>
          (events, .ok (some { name := processName source process, threads := threads }))

end Scan

end Residency
