import EdgeRouting.Json.Numeral
import EdgeRouting.Text.Alphanumeric
import EdgeRouting.Text.Blank
import EdgeRouting.Text.Bytes

/-!
# Log filters

A log filter lists directives between commas.  A directive names a target, or a span in brackets, or
both, and may then set a level.  A span may have a field in braces, with a value behind an equals
sign or without one; any text but the empty one is a field.  A level alone is no different from a
target.

Blanks around a directive are skipped when its parts are looked for.  But the parts are then cut out
of the directive with the blanks, at places that were counted without them.  A level that is cut out
so is none; and there is no way to cut at a place within a character.
-/

namespace EdgeRouting.LogFilter

/-- A level by its number. -/
def isLevelNumber (word : List Char) : Bool :=
  let digits := match word with
    | '+' :: rest => rest
    | word => word
  !digits.isEmpty && digits.all Numeral.isDigit && Numeral.ofDigits digits ≤ 5

/-- A level by its name in any case, or by its number. -/
def isLevel (word : List Char) : Bool :=
  isLevelNumber word ||
    ["trace", "debug", "info", "warn", "error", "off"].any fun name =>
      name.toList = word.map Char.toLower

/-- A target begins with a letter, a number or one of these marks. -/
def startsTarget (c : Char) : Bool :=
  c = '-' || c = ':' || c = '_' || Text.isAlphanumeric c

/-- Why a text is no log filter. -/
inductive Fault where
  | refused
  /-- A part would have to be cut within a character. -/
  | withinCharacter
  deriving DecidableEq, Repr

/-- A directive, with the blanks around it and without. -/
structure Directive where
  whole : List Char
  text : List Char
  deriving DecidableEq, Repr

namespace Directive

def ofWhole (whole : List Char) : Directive := ⟨whole, Text.trim whole⟩

/-- Cuts the directive at the place that `rest` has at the end of the text. -/
def cut (directive : Directive) (rest : List Char) : Except Fault Unit :=
  if Text.isBoundary directive.whole (Text.byteCount directive.text - Text.byteCount rest) then
    .ok ()
  else
    .error .withinCharacter

/-- The end of a directive, behind a target and a span: nothing, or a level, which may be left out.
With blanks around the directive there is no level. -/
def checkEnd (directive : Directive) : List Char → Except Fault Unit
  | [] => .ok ()
  | '=' :: level => do
      directive.cut level
      if directive.text = directive.whole ∧ (level.isEmpty ∨ isLevel level) then .ok ()
      else .error .refused
  | _ => .error .refused

/-- The rest of a directive behind the brace that opens a field. -/
def checkField (directive : Directive) (field : List Char) : Except Fault Unit :=
  match field.dropWhile (· ≠ '\x7d') with
  | [] => .error .refused
  | brace :: behind => do
      directive.cut field
      directive.cut (brace :: behind)
      match behind with
      | ']' :: rest => if field = brace :: behind then .error .refused else directive.checkEnd rest
      | _ => .error .refused

/-- The rest of a directive behind the bracket that opens a span. -/
def checkSpan (directive : Directive) (span : List Char) : Except Fault Unit :=
  match span.dropWhile fun c => c ≠ ']' && c ≠ '\x7b' with
  | [] => .error .refused
  | mark :: behind => do
      directive.cut span
      directive.cut (mark :: behind)
      if mark = ']' then directive.checkEnd behind else directive.checkField behind

def check (directive : Directive) : Except Fault Unit :=
  match directive.text with
  | [] => .error .refused
  | '[' :: span => directive.checkSpan span
  | c :: _ =>
      if !startsTarget c then .error .refused
      else
        match directive.text.dropWhile fun c => c ≠ '=' && c ≠ '[' with
        | [] => .ok ()
        | '[' :: span => do
            directive.cut ('[' :: span)
            directive.checkSpan span
        | rest => do
            directive.cut rest
            directive.checkEnd rest

end Directive

def check (filter : String) : Except Fault Unit :=
  ((filter.toList.splitOnP (· = ',')).filter fun directive => !directive.isEmpty).forM
    fun directive => (Directive.ofWhole directive).check

end EdgeRouting.LogFilter
