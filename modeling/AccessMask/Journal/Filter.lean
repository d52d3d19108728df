import AccessMask.Journal
import AccessMask.Text.Blank

/-!
# Filters of a journal

A filter decides which records of a journal are shown. It is a text of
directives with commas between them. A directive lets records through up to a
level, either from everywhere or from the sources whose names start as it says.
The most exact directive for a source decides, and of two such the later one.
-/

namespace AccessMask

/-- How much a directive lets through. -/
inductive Threshold where
  | off
  | error
  | warn
  | info
  | debug
  | trace
  deriving DecidableEq, Repr

namespace Threshold

def all : List Threshold := [.off, .error, .warn, .info, .debug, .trace]

def name : Threshold → String
  | .off => "off"
  | .error => "error"
  | .warn => "warn"
  | .info => "info"
  | .debug => "debug"
  | .trace => "trace"

/-- Reads the name of a threshold whatever the case of its ASCII letters. -/
def ofName? (text : String) : Option Threshold :=
  all.find? fun threshold => threshold.name = String.ofList (text.toList.map Char.toLower)

def shows : Threshold → Level → Bool
  | .trace, _ => true
  | .debug, .debug => true
  | _, _ => false

end Threshold

/-- A threshold for the sources whose names start with a text. Without a text it
is for all of them. -/
structure Directive where
  source : String
  threshold : Threshold
  deriving DecidableEq, Repr

namespace Directive

/-- Takes the blanks off both ends. -/
def trimmed (text : List Char) : List Char :=
  ((text.dropWhile Text.isBlank).reverse.dropWhile Text.isBlank).reverse

/-- Reads the threshold for everywhere, a source to be shown in full, or a source
with its threshold behind an equals sign. -/
def ofText? (text : List Char) : Option Directive :=
  match text.splitOn '=' with
  | [whole] =>
      match Threshold.ofName? (String.ofList whole) with
      | some threshold => some ⟨"", threshold⟩
      | none => some ⟨String.ofList whole, .trace⟩
  | [source, name] =>
      if trimmed name = [] then some ⟨String.ofList source, .trace⟩
      else
        (Threshold.ofName? (String.ofList (trimmed name))).map fun threshold =>
          ⟨String.ofList source, threshold⟩
  | _ => none

def covers (directive : Directive) (source : String) : Bool :=
  directive.source.toList.isPrefixOf source.toList

end Directive

/-- The directives of a filter in their order. -/
structure Filter where
  directives : List Directive
  deriving DecidableEq, Repr

namespace Filter

/-- Reads the directives of a filter. Those that make no sense are left out. A
slash would start a pattern for messages, and a text with one has no directives. -/
def ofText (text : String) : Filter :=
  match text.toList.splitOn '/' with
  | [directives] =>
      ⟨(((directives.splitOn ',').map Directive.trimmed).filter (· ≠ [])).filterMap
        Directive.ofText?⟩
  | _ => ⟨[]⟩

/-- The directive that decides about the records of a source. -/
def deciding (source : String) : List Directive → Option Directive
  | [] => none
  | first :: rest =>
      match deciding source rest with
      | none => if first.covers source then some first else none
      | some later =>
          if first.covers source && later.source.length < first.source.length then some first
          else some later

/-- True when the records of a source and a level are shown. A source about which
nothing is said shows no record of either level. -/
def shows (filter : Filter) (source : String) (level : Level) : Bool :=
  (deciding source filter.directives).any (·.threshold.shows level)

/-- The records of a source that are shown. -/
def kept (filter : Filter) (source : String) (records : List Record) : List Record :=
  records.filter fun entry => filter.shows source entry.level

example : (ofText "warn, net = Debug,net::wire=trace,=,a=b").directives =
    [⟨"", .warn⟩, ⟨"net ", .debug⟩, ⟨"net::wire", .trace⟩, ⟨"", .trace⟩] := by
  decide

end Filter

end AccessMask
