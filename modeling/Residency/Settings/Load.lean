import Residency.Settings
import Residency.TextFile
import Residency.Toml.Document

/-!
Loading the settings file. A setting that the file does not name has its default, and a file that
is not there names none. Sections and keys that are not known are passed over.
-/
namespace Residency

inductive SettingsError where
  | notTable (v : Toml)
  | notString (s : Setting) (v : Toml)
  | notInteger (s : Setting) (v : Toml)
  | belowMinimum (s : Setting) (n : Int)
  | parts (name : String)

def withShown (text : String) (v : Toml) : String :=
  if v.isWritable then text ++ String.ofList v.shown else Number.notWritableMessage

def SettingsError.message : SettingsError → String
  | .notTable v => "'" ++ v.typeName ++ "' object has no attribute 'get'"
  | .notString s v => withShown (s.key ++ " must be a string, got ") v
  | .notInteger s v => withShown (s.key ++ " must be an integer, got ") v
  | .belowMinimum s n =>
      withShown (s.key ++ " must be >= " ++ toString s.minimum ++ ", got ") (.int n)
  | .parts name => "Key \"" ++ name ++ "\" already exists."

namespace Settings

def find (entries : Toml.Entries) (name : String) : Except SettingsError (Option Toml) :=
  (Toml.find name entries).mapError .parts

def readString (entries : Toml.Entries) (s : Setting) (default : String) :
    Except SettingsError String := do
  match ← find entries s.key with
  | none => .ok default
  | some (.str text) => .ok text
  | some v => .error (.notString s v)

def readNumber (entries : Toml.Entries) (s : Setting) (default : Int) :
    Except SettingsError Int := do
  match ← find entries s.key with
  | none => .ok default
  | some (.int n) => if n < s.minimum then .error (.belowMinimum s n) else .ok n
  | some v => .error (.notInteger s v)

def sectionEntries (document : Toml.Entries) (s : Section) :
    Except SettingsError Toml.Entries := do
  match ← find document s.name with
  | none => .ok []
  | some (.table _ entries) => .ok entries
  | some v => .error (.notTable v)

def ofDocument (document : Toml.Entries) : Except SettingsError Settings := do
  let defaults : Settings := {}
  let entries ← sectionEntries document .collector
  let procPath ← readString entries .procPath defaults.procPath
  let initialPath ← readString entries .initialPath defaults.initialPath
  let buckets ← readNumber entries .buckets defaults.buckets
  let tickMillis ← readNumber entries .tickMillis defaults.tickMillis
  let entries ← sectionEntries document .names
  let processName ← readString entries .processName defaults.processName
  let threadName ← readString entries .threadName defaults.threadName
  let entries ← sectionEntries document .logging
  let logBytes ← readNumber entries .logBytes defaults.logBytes
  let logBackups ← readNumber entries .logBackups defaults.logBackups
  return { procPath, initialPath, buckets, tickMillis, processName, threadName, logBytes,
           logBackups }

end Settings

inductive LoadError where
  | text (e : TextFileError)
  | malformed (p : Path)
  | settings (e : SettingsError)

def LoadError.message : LoadError → String
  | .text e => e.message
  | .malformed p => "Failed to parse config file " ++ p.toString
  | .settings e => e.message

namespace Settings

def ofText (p : Path) (text : List Char) : Except LoadError Settings :=
  match Toml.readDocument text with
  | none => .error (.malformed p)
  | some document => (ofDocument document).mapError .settings

def load (t : FileTree) (p : Path) : Except LoadError Settings :=
  match t.exists? p with
  | .error e => .error (.text (.file e))
  | .ok false => .ok {}
  | .ok true => ((t.readText p).mapError .text).bind (ofText p)

end Settings

end Residency
