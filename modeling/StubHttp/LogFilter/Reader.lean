import StubHttp.LogFilter.Basic
import StubHttp.Pattern.Groups
import StubHttp.Text.Bytes

/-!
# Log filters in text

Directives are separated by commas. A directive is the name of a level, which
holds for every event, or the beginning of a target, after which an equals sign
and a level may follow. A part in brackets restricts it to events in a span or
to events that have a field, perhaps with a value. If any directive cannot be
read, neither can the filter.

White space around a directive is left out when its parts are looked for, but
not when they are counted off: they are taken from the text as it stands. So
behind a blank at the front every part is displaced, and blanks at the end
belong to the last one.
-/

namespace StubHttp

/-! ## Levels -/

/-- The names of the levels, in upper or lower case. -/
def Limit.ofName? (s : String) : Option Limit :=
  match s.toLower with
  | "off" => some none
  | "error" => some (some .error)
  | "warn" => some (some .warn)
  | "info" => some (some .info)
  | "debug" => some (some .debug)
  | "trace" => some (some .trace)
  | _ => none

/-- The levels by their verbosity: digits, perhaps behind a plus sign. -/
def Limit.ofNumber? (s : String) : Option Limit :=
  let ds := match s.toList with
    | '+' :: ds => ds
    | ds => ds
  if ds.isEmpty || !ds.all Char.isDigit then none
  else
    match Nat.ofDigitChars 10 ds 0 with
    | 0 => some none
    | 1 => some (some .error)
    | 2 => some (some .warn)
    | 3 => some (some .info)
    | 4 => some (some .debug)
    | 5 => some (some .trace)
    | _ => none

def Limit.ofString? (s : String) : Option Limit :=
  (Limit.ofNumber? s).orElse fun _ => Limit.ofName? s

/-! ## Values of fields -/

/-- Whether a text is a number, infinity or no number in the usual words, its sign apart. -/
def isUnsignedNumber (cs : List Char) : Bool :=
  let whole := cs.takeWhile Char.isDigit
  let (fraction, rest) := match cs.drop whole.length with
    | '.' :: cs => (cs.takeWhile Char.isDigit, cs.dropWhile Char.isDigit)
    | cs => ([], cs)
  let exponent := match rest with
    | 'e' :: '+' :: ds | 'e' :: '-' :: ds | 'E' :: '+' :: ds | 'E' :: '-' :: ds => some ds
    | 'e' :: ds | 'E' :: ds => some ds
    | _ => none
  let isDecimal := (!whole.isEmpty || !fraction.isEmpty) &&
    (rest.isEmpty || exponent.any fun ds => !ds.isEmpty && ds.all Char.isDigit)
  isDecimal || (String.ofList cs).toLower ∈ ["inf", "infinity", "nan"]

/-- Whether a field can be asked for this value: one is either a number or a pattern. Without a
plus sign every number is a pattern too. -/
def isFieldValue (value : List Char) : Bool :=
  Pattern.isValid value ||
    match value with
    | '+' :: cs => isUnsignedNumber cs
    | _ => false

/-! ## Directives -/

namespace Directive

/-- What may follow a target and its brackets, at place `i` of the text: a level behind an equals
sign. Nothing, and no level, lets everything through. -/
def readLimit? (text : List Char) (i : Nat) : List Char → Option Limit
  | [] => some (some .trace)
  | '=' :: _ =>
    match Text.dropBytes? (i + 1) text with
    | some [] => some (some .trace)
    | some cs => Limit.ofString? (String.ofList cs)
    | none => none
  | _ => none

/-- A field, perhaps with an equals sign and a value. What follows a second equals sign means
nothing. Only without a value, and outside spans, can events themselves have it. -/
def readField? (inSpan : Bool) (field : List Char) : Option Scope :=
  let name := field.takeWhile (· ≠ '=')
  match field.drop name.length with
  | [] => if inSpan then some .inSpan else some (.withField (String.ofList name))
  | _ :: cs => if isFieldValue (cs.takeWhile (· ≠ '=')) then some .inSpan else none

/-- The rest of a directive behind an opening bracket, at place `i` of the text: a span, in braces
a field that it has, or both; the closing bracket, and perhaps a level. -/
def readScoped? (text : List Char) (target : Option String) (i : Nat) (cs : List Char) :
    Option Directive := do
  let span := cs.takeWhile fun c => c ≠ ']' ∧ c ≠ '\x7b'
  let j := i + Text.byteLength span
  match cs.drop span.length with
  | ']' :: rest =>
    let _ ← Text.slice? i j text
    return ⟨target, .inSpan, ← readLimit? text (j + 1) rest⟩
  | '\x7b' :: rest =>
    let field := rest.takeWhile (· ≠ '\x7d')
    let k := j + 1 + Text.byteLength field
    match field, rest.drop field.length with
    | _ :: _, '\x7d' :: ']' :: rest =>
      let _ ← Text.slice? i j text
      let scope ← readField? (!span.isEmpty) (← Text.slice? (j + 1) k text)
      return ⟨target, scope, ← readLimit? text (k + 2) rest⟩
    | _, _ => none
  | _ => none

/-- The characters a target begins with: letters, digits and some marks. -/
def opensTarget (c : Char) : Bool :=
  c == '-' || c == ':' || c == '_' || Text.isAlphanumeric c

/-- A directive. A word alone is a level if it is the name of one, and else a target. -/
def ofString? (s : String) : Option Directive :=
  let text := s.toList
  match Text.trim text with
  | [] => none
  | '[' :: cs => readScoped? text none 1 cs
  | c :: cs =>
    if opensTarget c then
      let word := (c :: cs).takeWhile fun c => c ≠ '=' ∧ c ≠ '['
      let i := Text.byteLength word
      match (c :: cs).drop word.length with
      | [] =>
        match Limit.ofString? s with
        | some limit => some ⟨none, .all, limit⟩
        | none => some ⟨some s, .all, some .trace⟩
      | d :: rest => do
        let target := String.ofList (← Text.slice? 0 i text)
        if d = '[' then readScoped? text (some target) (i + 1) rest
        else return ⟨some target, .all, ← readLimit? text i (d :: rest)⟩
    else none

end Directive

/-! ## Filters -/

namespace LogFilter

/-- What is shown unless the filter is set: everything from the program down to `INFO`, and
warnings and errors from elsewhere. -/
def default : LogFilter :=
  ⟨[⟨some "fixture_adapters", .all, some .info⟩, ⟨some "fixture_protocol", .all, some .info⟩,
    ⟨some "fixture_server", .all, some .info⟩, ⟨none, .all, some .warn⟩]⟩

/-- A filter. Empty directives are skipped, and without any directive errors are shown. -/
def ofString? (s : String) : Option LogFilter :=
  let words := (s.splitToList (· = ',')).filter (!·.isEmpty)
  (words.mapM Directive.ofString?).map fun
    | [] => ⟨[⟨none, .all, some .error⟩]⟩
    | directives => ⟨directives⟩

/-- The filter of a setting; one that is absent or cannot be read means the default. -/
def ofSetting (setting : Option String) : LogFilter :=
  (setting.bind ofString?).getD default

end LogFilter

end StubHttp
