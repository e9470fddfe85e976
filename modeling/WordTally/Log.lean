import WordTally.Unicode.Blank

set_option autoImplicit false

namespace WordTally

inductive LogLevel where
  | off
  | error
  | warn
  | info
  | debug
  | trace
  deriving DecidableEq, Repr, Inhabited

namespace LogLevel

def name : LogLevel → String
  | .off => "OFF"
  | .error => "ERROR"
  | .warn => "WARN"
  | .info => "INFO"
  | .debug => "DEBUG"
  | .trace => "TRACE"

/-- A level by its name; letter case and blanks around it do not matter. -/
def ofName? (name : String) : Option LogLevel :=
  match (Unicode.trim name).map Char.toLower with
  | "off" => some .off
  | "error" => some .error
  | "warn" | "warning" => some .warn
  | "info" => some .info
  | "debug" => some .debug
  | "trace" => some .trace
  | _ => none

end LogLevel

inductive Severity where
  | error
  | warn
  | info
  | debug
  deriving DecidableEq, Repr, Inhabited

namespace Severity

def name : Severity → String
  | .error => "ERROR"
  | .warn => "WARN"
  | .info => "INFO"
  | .debug => "DEBUG"

def passes (severity : Severity) (level : LogLevel) : Bool :=
  match severity, level with
  | _, .off => false
  | .error, _ => true
  | .warn, .error => false
  | .warn, _ => true
  | .info, .error | .info, .warn => false
  | .info, _ => true
  | .debug, .debug | .debug, .trace => true
  | .debug, _ => false

end Severity

structure LogLine where
  severity : Severity
  text : String
  deriving DecidableEq, Repr, Inhabited

namespace LogLine

def info (text : String) : LogLine := ⟨.info, text⟩

def warn (text : String) : LogLine := ⟨.warn, text⟩

def error (text : String) : LogLine := ⟨.error, text⟩

def debug (text : String) : LogLine := ⟨.debug, text⟩

/-- A line as it is printed, after a stamp. A line for debugging names the thread, and there is only
one. -/
def entry (stamp : String) (line : LogLine) : String :=
  let thread := if line.severity = .debug then "(1) " else ""
  stamp ++ "[" ++ line.severity.name ++ "] " ++ thread ++ "wordcount: " ++ line.text

end LogLine

end WordTally
