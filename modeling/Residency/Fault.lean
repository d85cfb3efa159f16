import Residency.Console.Notice
import Residency.DraftCollector
import Residency.EventLog
import Residency.Label
import Residency.Settings.Load
import Residency.Settings.Save

namespace Residency

inductive Fault where
  | label (e : LabelError)
  | entry (e : EntryError)
  | mapping (e : MappingError)
  | times (e : TimeInStateError)
  | record (e : RecordError)
  | collector (e : CollectorError)
  | draftCollector (e : DraftCollectorError)
  | noTable (initial : Path)
  | arithmetic (e : ArithmeticError)
  | file (e : FileError)
  | text (e : TextFileError)
  | load (e : LoadError)
  | save (e : SaveError)
  | draft (e : DraftError)
  | log (e : LogError)
  | notice (e : NoticeError)
  | integerTooLong
  | notMade (operation : String)
  | noSection (name : String)

def Fault.message : Fault → String
  | .label e => e.message
  | .entry e => e.message
  | .mapping e => e.message
  | .times e => e.message
  | .record e => e.message
  | .collector e => e.message
  | .draftCollector e => e.message
  | .noTable initial => noTableMessage initial
  | .arithmetic e => e.message
  | .file e => e.message
  | .text e => e.message
  | .load e => e.message
  | .save e => e.message
  | .draft e => e.message
  | .log e => e.message
  | .notice e => e.message
  | .integerTooLong => Number.notWritableMessage
  | .notMade operation => "'NoneType' object has no attribute '" ++ operation ++ "'"
  | .noSection name => "'Config' object has no attribute '" ++ name ++ "'"

end Residency
