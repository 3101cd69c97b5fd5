import Batching.Environment
import Batching.Text.Blank
import Batching.Text.Letter

namespace Batching.LogFilter

/-! Filters for log entries: comma-separated directives such as `parser=debug` or `warn`.

A directive sets how much is logged, for all or for those within a target, a span and a
field that it names.  Printing a filter puts the most specific directives first, those
that need a span or a field behind the others.
-/

/-- The least severe level that is logged; nothing stands for no logging at all. -/
abbrev Verbosity := Option Level

def Verbosity.text : Verbosity → String
  | none => "off"
  | some level => level.text

def verbosityOfName? (name : String) : Option Verbosity :=
  match name with
  | "" => some (some .error)
  | "off" => some none
  | "error" => some (some .error)
  | "warn" => some (some .warn)
  | "info" => some (some .info)
  | "debug" => some (some .debug)
  | "trace" => some (some .trace)
  | _ => none

def verbosityOfNumber? : Nat → Option Verbosity
  | 0 => some none
  | 1 => some (some .error)
  | 2 => some (some .warn)
  | 3 => some (some .info)
  | 4 => some (some .debug)
  | 5 => some (some .trace)
  | _ => none

def verbosityOf? (text : String) : Option Verbosity :=
  match (Text.numeral? text.toList).bind verbosityOfNumber? with
  | some verbosity => some verbosity
  | none => verbosityOfName? (String.ofList (text.toList.map Char.toLower))

/-- A field that a directive asks for, perhaps with a value. -/
structure Field where
  name : String
  value : Option String := none
deriving DecidableEq, Repr

def Field.text (field : Field) : String :=
  match field.value with
  | none => field.name
  | some value => field.name ++ "=" ++ value

/-- The field that a text names.  A numeral counts by its value. -/
def Field.ofText (text : String) : Field :=
  match text.splitOn "=" with
  | name :: value :: _ =>
      let shown := match Text.numeral? value.toList with
        | some number => toString number
        | none => value
      { name, value := some shown }
  | _ => { name := text }

structure Directive where
  target : Option String := none
  span : Option String := none
  field : Option Field := none
  verbosity : Verbosity := some .trace
deriving DecidableEq, Repr

namespace Directive

/-- The directive depends on where an entry is logged from. -/
def isDynamic (directive : Directive) : Bool :=
  directive.span.isSome || directive.field.isSome

def isStatic (directive : Directive) : Bool :=
  directive.span.isNone && (directive.field.bind Field.value).isNone

def scope (directive : Directive) : String :=
  if directive.isDynamic then
    let field := match directive.field with
      | none => ""
      | some field => "\x7b" ++ field.text ++ "\x7d"
    "[" ++ directive.span.getD "" ++ field ++ "]"
  else ""

def text (directive : Directive) : String :=
  let subject := directive.target.getD "" ++ directive.scope
  let isGeneral := directive.target.isNone && !directive.isDynamic
  (if isGeneral then "" else subject ++ "=") ++ Verbosity.text directive.verbosity

def compareFields : Option Field → Option Field → Ordering
  | none, none => .eq
  | none, some _ => .lt
  | some _, none => .gt
  | some first, some second =>
      (compare first.value.isSome second.value.isSome).then
        ((compare first.name second.name).then
          (compare (first.value.getD "") (second.value.getD "")))

def compareTexts : Option String → Option String → Ordering
  | none, none => .eq
  | none, some _ => .lt
  | some _, none => .gt
  | some first, some second => compare first second

/-- The length of a target, by which one that is there exceeds one that is not. -/
def targetSize (directive : Directive) : Nat :=
  match directive.target with
  | none => 0
  | some target => target.utf8ByteSize + 1

/-- Compares how specific directives are, and else orders them by their texts. -/
def specificity (first second : Directive) : Ordering :=
  (compare first.targetSize second.targetSize).then <|
    (compare first.span.isSome second.span.isSome).then <|
      (compare first.field.isSome second.field.isSome).then <|
        (compareTexts first.target second.target).then <|
          (compareTexts first.span second.span).then
            (compareFields first.field second.field)

/-- Places a directive by its specificity, in the place of one that is for the same. -/
def place (directive : Directive) : List Directive → List Directive
  | [] => [directive]
  | other :: rest =>
      match specificity directive other with
      | .gt => directive :: other :: rest
      | .eq => directive :: rest
      | .lt => other :: place directive rest

inductive ReadState where
  | start
  | word (held : List Char)
  | inSpan (held : List Char)
  | inField (held : List Char)
  | afterField
  | afterScope
  | level (held : List Char)
deriving Repr

def begins (c : Char) : Bool :=
  c == '-' || c == ':' || c == '_' || Text.isLetterOrNumber c

/-- What one more character makes of a directive.  By `seen` is decided what comes next,
and `kept` is what is held back in its place. -/
def next? (directive : Directive) (state : ReadState) (seen kept : Char) :
    Option (Directive × ReadState) :=
  match state with
  | .start =>
      if seen = '[' then some (directive, .inSpan [])
      else if begins seen then some (directive, .word [kept])
      else none
  | .word held =>
      if seen = '=' then some ({ directive with target := some (String.ofList held) }, .level [])
      else if seen = '[' then
        some ({ directive with target := some (String.ofList held) }, .inSpan [])
      else some (directive, .word (held ++ [kept]))
  | .inSpan held =>
      if seen = ']' then some ({ directive with span := some (String.ofList held) }, .afterScope)
      else if seen = '\x7b' then
        let span := if held.isEmpty then none else some (String.ofList held)
        some ({ directive with span }, .inField [])
      else some (directive, .inSpan (held ++ [kept]))
  | .inField held =>
      if seen = '\x7d' then
        if held.isEmpty then none
        else
          some ({ directive with field := some (Field.ofText (String.ofList held)) }, .afterField)
      else some (directive, .inField (held ++ [kept]))
  | .afterField => if seen = ']' then some (directive, .afterScope) else none
  | .afterScope => if seen = '=' then some (directive, .level []) else none
  | .level held => some (directive, .level (held ++ [kept]))

/-- A lone word is a level if it can be, and a target else; a level that is missing is
the most verbose. -/
def finish? (directive : Directive) (state : ReadState) (remainder : List Char) :
    Option Directive :=
  match state with
  | .word held =>
      let word := String.ofList (held ++ remainder)
      match verbosityOf? word with
      | some verbosity => some { directive with verbosity }
      | none => some { directive with target := some word }
  | .level held =>
      let level := String.ofList (held ++ remainder)
      if level.isEmpty then some directive
      else (verbosityOf? level).map fun verbosity => { directive with verbosity }
  | .afterScope => some directive
  | _ => none

def readFrom? (directive : Directive) (state : ReadState) (remainder : List Char) :
    List (Char × Char) → Option Directive
  | [] => directive.finish? state remainder
  | (seen, kept) :: rest =>
      match directive.next? state seen kept with
      | some (next, state) => readFrom? next state remainder rest
      | none => none

/-- Reads a directive.  The blanks around it do not count for where its parts lie, but
the parts are cut from the text that still has them. -/
def ofText? (text : String) : Option Directive :=
  let whole := text.toList
  let trimmed := Text.trim whole
  readFrom? {} .start (whole.drop trimmed.length) (trimmed.zip whole)

end Directive

/-- The directives that need nothing but a target or the name of a field, and those that
need more, each in the order of their specificity. -/
structure Filter where
  statics : List Directive := []
  dynamics : List Directive := []
deriving DecidableEq, Repr

namespace Filter

def placeAll (directives : List Directive) : List Directive :=
  directives.foldl (fun placed directive => directive.place placed) []

def ofDirectives (directives : List Directive) : Filter :=
  let (dynamics, plain) := directives.partition Directive.isDynamic
  { statics := placeAll (plain ++ dynamics.filter Directive.isStatic)
    dynamics := placeAll dynamics }

def ofText? (text : String) : Option Filter := do
  let parts := (text.splitOn ",").filter fun part => !part.isEmpty
  return ofDirectives (← parts.mapM Directive.ofText?)

def text (filter : Filter) : String :=
  ",".intercalate ((filter.statics ++ filter.dynamics).map Directive.text)

/-- The filter that stands when none is given: everything from `info` on. -/
def standard : Filter :=
  { statics := [{ verbosity := some .info }] }

def ownKey : String := "BATCHLINE_LOG"

def commonKey : String := "RUST_LOG"

/-- The first filter that the environment gives and that can be read. -/
def ofEnvironment (environment : Environment) : Filter :=
  let given := fun key => (environment.text? key).bind ofText?
  ((given ownKey).or (given commonKey)).getD standard

end Filter

end Batching.LogFilter
