/-
The codes of problem reports. The first digit of a code is its category.
-/

namespace StateTraces.Report

/-- What went wrong, as a code that programs can act on. -/
inductive Code where
  | invalidMinimumDepth
  | invalidMaximumDepth
  | invalidConfig
  | parseFailed
  | syntaxError
  | sourceNotFound
  | traceWriteFailed
  | unknown
  deriving DecidableEq, Repr, Inhabited

namespace Code

/-- All codes, by number. -/
def all : List Code :=
  [.invalidMinimumDepth, .invalidMaximumDepth, .invalidConfig, .parseFailed, .syntaxError,
    .sourceNotFound, .traceWriteFailed, .unknown]

def number : Code → Nat
  | .invalidMinimumDepth => 101
  | .invalidMaximumDepth => 102
  | .invalidConfig => 201
  | .parseFailed => 301
  | .syntaxError => 302
  | .sourceNotFound => 401
  | .traceWriteFailed => 402
  | .unknown => 999

/-- The letter E and the number. -/
def text (c : Code) : String := s!"E{c.number}"

def ofText? (s : String) : Option Code := all.find? fun c => c.text == s

def name : Code → String
  | .invalidMinimumDepth => "INVALID_MINIMUM_DEPTH"
  | .invalidMaximumDepth => "INVALID_MAXIMUM_DEPTH"
  | .invalidConfig => "INVALID_CONFIG"
  | .parseFailed => "PARSE_FAILED"
  | .syntaxError => "SYNTAX_ERROR"
  | .sourceNotFound => "SOURCE_NOT_FOUND"
  | .traceWriteFailed => "TRACE_WRITE_FAILED"
  | .unknown => "UNKNOWN"

/-- The category that a code belongs to, by its number. -/
def category (c : Code) : String :=
  if c.number < 200 then "enumeration"
  else if c.number < 300 then "config"
  else if c.number < 400 then "parsing"
  else if c.number < 500 then "pipeline"
  else "unknown"

end Code

end StateTraces.Report
