/-
The settings by name.
-/

namespace StateTraces.Config

/-- A setting. -/
inductive Field where
  | minDepth
  | maxDepth
  | includePaths
  | filePattern
  | tracesSuffix
  | showTraces
  | verbose
  | jsonLogs
  deriving DecidableEq, Repr

namespace Field

/-- All settings, in the order in which they are checked. -/
def all : List Field :=
  [.minDepth, .maxDepth, .includePaths, .filePattern, .tracesSuffix, .showTraces, .verbose,
    .jsonLogs]

def name : Field → String
  | .minDepth => "min_depth"
  | .maxDepth => "max_depth"
  | .includePaths => "include_paths"
  | .filePattern => "file_pattern"
  | .tracesSuffix => "traces_suffix"
  | .showTraces => "show_traces"
  | .verbose => "verbose"
  | .jsonLogs => "json_logs"

theorem mem_all (f : Field) : f ∈ all := by cases f <;> decide

end Field

end StateTraces.Config
