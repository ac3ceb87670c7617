import EdgeRouting.Json.Basic

/-!
# Writing JSON texts

The shortest text of a value: no white space, members in their order, and in strings only the
quotation mark, the backslash and the control characters below U+0020 as escapes.
-/

namespace EdgeRouting.Json

def hexDigit (value : Nat) : Char :=
  if value < 10 then Char.ofNat ('0'.toNat + value) else Char.ofNat ('a'.toNat + (value - 10))

def escape (c : Char) : List Char :=
  if c = '"' then ['\\', '"']
  else if c = '\\' then ['\\', '\\']
  else if c = '\x08' then ['\\', 'b']
  else if c = '\x0c' then ['\\', 'f']
  else if c = '\n' then ['\\', 'n']
  else if c = '\r' then ['\\', 'r']
  else if c = '\t' then ['\\', 't']
  else if c.toNat < 0x20 then
    ['\\', 'u', '0', '0', hexDigit (c.toNat / 16), hexDigit (c.toNat % 16)]
  else [c]

def renderString (value : String) : List Char :=
  '"' :: value.toList.flatMap escape ++ ['"']

/-- A decimal numeral, with a sign if it is negative. -/
def renderInteger : Int → List Char
  | .ofNat size => Nat.toDigits 10 size
  | .negSucc size => '-' :: Nat.toDigits 10 (size + 1)

mutual

def render : Json → List Char
  | null => ['n', 'u', 'l', 'l']
  | bool true => ['t', 'r', 'u', 'e']
  | bool false => ['f', 'a', 'l', 's', 'e']
  | integer value => renderInteger value
  | fractional numeral => numeral.render
  | string value => renderString value
  | array [] => ['[', ']']
  | array (first :: rest) => '[' :: render first ++ renderItems rest
  | object [] => ['\x7b', '\x7d']
  | object ((key, first) :: rest) =>
      '\x7b' :: renderString key ++ ':' :: render first ++ renderMembers rest

/-- The items of an array behind the first one, and the closing bracket. -/
def renderItems : List Json → List Char
  | [] => [']']
  | item :: rest => ',' :: render item ++ renderItems rest

/-- The members of an object behind the first one, and the closing bracket. -/
def renderMembers : List (String × Json) → List Char
  | [] => ['\x7d']
  | (key, item) :: rest =>
      ',' :: renderString key ++ ':' :: render item ++ renderMembers rest

end

/-- The text of a value, on one line. -/
def print (json : Json) : String := String.ofList json.render

end EdgeRouting.Json
