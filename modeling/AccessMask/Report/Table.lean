import AccessMask.Report.Basic

/-!
# The table of a report

On a screen every entry has a line of its own: the heading with a colon in a
column of eighteen characters, then the value.
-/

namespace AccessMask.Report

/-- The width of the column of headings. -/
def headingWidth : Nat := 18

/-- A heading with its colon, filled up with spaces. -/
def headingText (heading : String) : String :=
  String.ofList ((heading ++ ":").toList.rightpad headingWidth ' ')

/-- The value of an entry as it stands in the table. -/
def Value.plain : Value → String
  | .text value => value
  | .truth value => truthText value

/-- The line of an entry. -/
def Entry.line (entry : Entry) : String := headingText entry.heading ++ entry.value.plain

/-- The lines of the table. -/
def lines (report : Report) : List String := report.entries.map Entry.line

/-- The table, each line with its end. -/
def table (report : Report) : String := String.join (report.lines.map (· ++ "\n"))

end AccessMask.Report
