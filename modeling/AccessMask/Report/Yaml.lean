import AccessMask.Literal
import AccessMask.Report.Basic

/-!
# The YAML document of a report

In the document every entry is a line with its key and its value. A text that
would be read back as something else than text stands in single quotes. Values
are made of letters, digits and single spaces, so that nothing else asks for
quotes and no line has to be folded.
-/

namespace AccessMask.Report.Yaml

/-! ## Texts that read as something else -/

/-- True of a text that is read as the absence of a value. -/
def readsAsNull (text : String) : Bool := text ∈ ["", "~", "null", "Null", "NULL"]

/-- True of a text that is read as a truth value. -/
def readsAsTruth (text : String) : Bool :=
  text ∈ ["true", "True", "TRUE", "false", "False", "FALSE"]

/-- True of a text that has a digit and nothing but digits of a radix. -/
def isDigits (radix : Literal.Radix) (text : List Char) : Bool :=
  !text.isEmpty && text.all fun c => (Literal.digit? radix c).isSome

/-- True of an exponent: `e` and an integer, or nothing. -/
def isExponent : List Char → Bool
  | [] => true
  | mark :: '+' :: digits => mark.toLower == 'e' && isDigits .decimal digits
  | mark :: '-' :: digits => mark.toLower == 'e' && isDigits .decimal digits
  | mark :: digits => mark.toLower == 'e' && isDigits .decimal digits

/-- True of a decimal number without a sign: digits with or without a point
among them, and an exponent. -/
def isDecimal (text : List Char) : Bool :=
  let whole := text.takeWhile Char.isDigit
  match text.dropWhile Char.isDigit with
  | '.' :: rest =>
      let fraction := rest.takeWhile Char.isDigit
      !(whole ++ fraction).isEmpty && isExponent (rest.dropWhile Char.isDigit)
  | rest => !whole.isEmpty && isExponent rest

/-- True of a number without a sign: an integer in radix sixteen, eight or two,
a decimal number, an infinity or no number at all. -/
def isUnsignedNumber : List Char → Bool
  | '0' :: 'x' :: digits => isDigits .hexadecimal digits
  | '0' :: 'o' :: digits => isDigits .octal digits
  | '0' :: 'b' :: digits => isDigits .binary digits
  | text =>
      isDecimal text ||
        String.ofList text ∈ [".inf", ".Inf", ".INF", ".nan", ".NaN", ".NAN"]

/-- True of a text that is read as a number. -/
def readsAsNumber (text : String) : Bool :=
  match text.toList with
  | '+' :: unsigned => isUnsignedNumber unsigned
  | '-' :: unsigned => isUnsignedNumber unsigned
  | unsigned => isUnsignedNumber unsigned

/-- True of a text that is not read back as itself unless it is in quotes. -/
def needsQuotes (text : String) : Bool :=
  readsAsNull text || readsAsTruth text || readsAsNumber text

/-! ## The document -/

/-- A text in single quotes. -/
def quoted (text : String) : String := "\x27" ++ text ++ "\x27"

/-- The value of an entry as it stands in the document. -/
def scalar : Value → String
  | .text value => if needsQuotes value then quoted value else value
  | .truth value => truthText value

/-- The line of an entry. -/
def line (entry : Entry) : String := entry.key ++ ": " ++ scalar entry.value

/-- The lines of the document. -/
def lines (report : Report) : List String := report.entries.map line

/-- The document, each line with its end. -/
def document (report : Report) : String :=
  String.join ((lines report).map (· ++ "\n"))

example : scalar (.text "0x0012") = "\x270x0012\x27" := by decide

example : scalar (.text "") = "\x27\x27" := by decide

example : scalar (.text "public 0x80200") = "public 0x80200" := by decide

end AccessMask.Report.Yaml
