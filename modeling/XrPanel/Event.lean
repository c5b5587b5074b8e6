import XrPanel.Text.Hidden

namespace XrPanel

inductive LogLevel where
  | error
  | warn
  | info
  | debug
  | trace
  deriving DecidableEq

namespace LogLevel

def rank : LogLevel → Nat
  | error => 0
  | warn => 1
  | info => 2
  | debug => 3
  | trace => 4

def label : LogLevel → String
  | error => "ERROR"
  | warn => "WARN"
  | info => "INFO"
  | debug => "DEBUG"
  | trace => "TRACE"

end LogLevel

structure LogLine where
  level : LogLevel
  target : String
  message : String
  deriving DecidableEq

def LogLine.text (l : LogLine) : String :=
  l.level.label ++ " " ++ l.target ++ ": " ++ Text.inert l.message

def LogLine.shownAt (l : LogLine) (limit : LogLevel) : Bool := l.level.rank ≤ limit.rank

structure Notice where
  title : String
  message : String
  deriving DecidableEq

namespace Notice

def text (n : Notice) : String := n.title ++ ": " ++ n.message

def error (message : String) : Notice := ⟨"Error", message⟩

def storeAccess : Notice :=
  error "Failed to write to registry. Please make sure the app is running elevated."

def logged (n : Notice) : LogLine := ⟨.error, "xrctl_settings::notify", n.text⟩

end Notice

inductive Event where
  | notice (n : Notice)
  | log (l : LogLine)
  | output (text : String)
  deriving DecidableEq

def Event.notice? : Event → Option Notice
  | notice n => some n
  | _ => none

def Event.logNotices : Event → Event
  | notice n => log n.logged
  | e => e

end XrPanel
