import Docket.Logging.Entry
import Docket.Text.Blank
import Docket.Text.Digits

/-!
# Log filters

A filter is a list of directives with commas between them. A directive is a
level for everything, a target with a level, or a target alone, which lets
through every level. Targets are beginnings of component paths, and of the
directives whose target begins the path of an entry the longest decides; of two
with one target the later one does. An entry that no directive covers is not
written.

A directive may also name a span in brackets, or fields in braces within them.
Nothing here is reported inside a span, so a directive with a span name or with
the value of a field governs no entry; one that names only fields governs the
entries that have them all.
-/

set_option autoImplicit false

namespace Docket

open Docket.Text

/-- One directive of a filter. Without a level nothing passes. -/
structure LogDirective where
  target : Option String
  /-- Only reports from inside a span are meant. -/
  spanned : Bool
  fields : List String
  level : Option LogLevel
  deriving DecidableEq

namespace LogDirective

/-- The level of a name in any case, or of its number. The inner value is absent
for the name that stands for silence. -/
def level? (text : List Char) : Option (Option LogLevel) :=
  let number := match signedInteger? text with
    | some value => if text.head? = some '-' then none else some value
    | none => none
  match number with
  | some 0 => some none
  | some 1 => some (some .error)
  | some 2 => some (some .warn)
  | some 3 => some (some .info)
  | some 4 => some (some .debug)
  | some 5 => some (some .trace)
  | _ =>
      match asciiLower text with
      | "error" => some (some .error)
      | "warn" => some (some .warn)
      | "info" => some (some .info)
      | "debug" => some (some .debug)
      | "trace" => some (some .trace)
      | "off" => some none
      | _ => none
where
  /-- Text with the letters of ASCII in lower case. -/
  asciiLower (text : List Char) : String :=
    String.ofList (text.map Char.toLower)

/-- A character with which a target may begin. -/
def beginsTarget (character : Char) : Bool :=
  character.isAlphanum || character == '-' || character == ':' || character == '_' ||
    0x7F < character.toNat

/-- The level behind an equals sign; none written means every level. -/
def levelPart? (text : List Char) : Option (Option LogLevel) :=
  if text.isEmpty then some (some .trace) else level? text

/-- What may follow a bracketed part: nothing, or a level. -/
def behindBrackets? : List Char → Option (Option LogLevel)
  | [] => some (some .trace)
  | '=' :: rest => levelPart? rest
  | _ => none

/-- Reads a directive behind an opening bracket. -/
def bracketed? (target : Option String) (text : List Char) : Option LogDirective :=
  let name := text.takeWhile fun character => character != ']' && character != '\x7b'
  match text.drop name.length with
  | ']' :: rest => (behindBrackets? rest).map fun level => ⟨target, true, [], level⟩
  | '\x7b' :: rest =>
      let inner := rest.takeWhile (· != '\x7d')
      match rest.drop inner.length with
      | '\x7d' :: ']' :: behind =>
          if inner.isEmpty then none
          else
            let valued := inner.contains '='
            (behindBrackets? behind).map fun level =>
              ⟨target, !name.isEmpty || valued, [String.ofList inner], level⟩
      | _ => none
  | _ => none

/-- Reads a directive. -/
def parse? (text : List Char) : Option LogDirective :=
  match trimmed text with
  | [] => none
  | '[' :: rest => bracketed? none rest
  | first :: rest =>
      if !beginsTarget first then none
      else
        let head := (first :: rest).takeWhile fun character => character != '=' && character != '['
        let target := String.ofList head
        match (first :: rest).drop head.length with
        | [] =>
            match level? head with
            | some level => some ⟨none, false, [], level⟩
            | none => some ⟨some target, false, [], some .trace⟩
        | '[' :: behind => bracketed? (some target) behind
        | _ :: behind => (levelPart? behind).map fun level => ⟨some target, false, [], level⟩

/-- A directive governs an entry. -/
def governs (directive : LogDirective) (entry : LogEntry) : Bool :=
  !directive.spanned &&
    (match directive.target with
      | none => true
      | some target => startsWith entry.origin.path target) &&
    directive.fields.all fun field =>
      field == "message" || entry.values.any fun value => value.1 == field

/-- How specific a directive is. -/
def precision (directive : LogDirective) : Nat :=
  match directive.target with
  | none => directive.fields.length
  | some target => (target.utf8ByteSize + 1) * 1000 + directive.fields.length

/-- A directive lets a level through. -/
def admits (directive : LogDirective) (level : LogLevel) : Bool :=
  match directive.level with
  | none => false
  | some greatest => level.rank ≤ greatest.rank

end LogDirective

/-- A list of directives. -/
structure LogFilter where
  directives : List LogDirective
  deriving DecidableEq

namespace LogFilter

/-- The filter that lets everything through down to a level. -/
def atLevel (level : LogLevel) : LogFilter :=
  ⟨[⟨none, false, [], some level⟩]⟩

/-- Reads a filter; empty parts between commas are passed over. -/
def parse? (text : String) : Option LogFilter :=
  let parts := (pieces (· == ',') text.toList).filter fun part => !part.isEmpty
  (parts.mapM LogDirective.parse?).map LogFilter.mk

/-- The filter of a configuration: one that cannot be read stands for the level
of information. -/
def ofText (text : String) : LogFilter :=
  (parse? text).getD (atLevel .info)

/-- The directive that decides on an entry: the most specific one, and the last
of those. -/
def deciding? (filter : LogFilter) (entry : LogEntry) : Option LogDirective :=
  (filter.directives.filter fun directive => directive.governs entry).foldl
    (fun best directive =>
      match best with
      | none => some directive
      | some other =>
          if other.precision ≤ directive.precision then some directive else some other)
    none

/-- An entry is written. -/
def admits (filter : LogFilter) (entry : LogEntry) : Bool :=
  match filter.deciding? entry with
  | none => false
  | some directive => directive.admits entry.level

end LogFilter

end Docket
