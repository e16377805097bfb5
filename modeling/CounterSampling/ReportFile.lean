import CounterSampling.DataFormat
import CounterSampling.FileSystem

/-!
# Report files

Writing a report to a file can fail in several steps. The text is gathered and handed on whenever
the next piece does not fit, so a device without room is noticed while the report is written if the
report is longer than what is gathered, at the line end after it if the report fills that exactly,
and otherwise only when the rest is handed on.
-/

namespace CounterSampling

/-- Why a report could not be written to a file. -/
inductive ReportFileError where
  /-- The file could not be opened. -/
  | create (path : String) (cause : FileError)
  /-- The report could not be stored. -/
  | report (cause : FileError)
  /-- The line end after the report could not be stored. -/
  | lineEnd (cause : FileError)
  /-- What was gathered last could not be stored. -/
  | rest (cause : FileError)
  deriving DecidableEq, Repr

namespace ReportFileError

/-- The number of bytes that are gathered before they are handed on. -/
def gathered : Nat := 8192

/-- Which step fails where a report, of which the text is given without its line end, cannot be
stored. -/
def ofText (text : String) (cause : FileError) : ReportFileError :=
  if gathered < text.utf8ByteSize then .report cause
  else if text.utf8ByteSize = gathered then .lineEnd cause
  else .rest cause

/-- What a writing that fails makes of a report. -/
def ofWrite (path : String) (r : RunReport) : WriteError → ReportFileError
  | .opening cause => .create path cause
  | .storing cause => ofText (RunReport.codec.pretty r) cause

/-- What could not be done. -/
def message : ReportFileError → String
  | .create path _ => "Failed to create output file: " ++ path
  | .report _ => "Failed to serialize report to JSON"
  | .lineEnd cause => cause.message
  | .rest _ => "Failed to flush report"

/-- The cause, where the message does not tell it. -/
def cause? : ReportFileError → Option String
  | .create _ cause => some cause.message
  | .report cause => some cause.message
  | .lineEnd _ => none
  | .rest cause => some cause.message

end ReportFileError

end CounterSampling
