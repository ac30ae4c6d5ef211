import EdgeGateway.Lib.Text

/-!
The Python values the gateway handles: decoded JSON, its text under `str`, and
the exceptions the modelled code raises.

A float keeps the text `str` gives for it, since no modelled function computes
with one. Dictionaries are association lists in insertion order; the decoder
never repeats a key.
-/

namespace EdgeGateway

open EdgeGateway.Lib

/-- A value `json.loads` can return. -/
inductive Json where
  | null
  | bool (value : Bool)
  | int (value : Int)
  | float (text : String)
  | str (value : String)
  | list (items : List Json)
  | dict (fields : List (String × Json))
deriving Repr

/-- A decoded JSON object. -/
abbrev Dict := List (String × Json)

/-- `d.get(key, default)`. -/
def Dict.get (d : Dict) (key : String) (default : Json) : Json :=
  match List.lookup key d with
  | some value => value
  | none => default

/-! ### `str` -/

/-- The lowercase hexadecimal digits of `n`, at least `width` of them. -/
def hexDigits (width n : Nat) : Text :=
  let digits := Nat.toDigits 16 n
  List.replicate (width - digits.length) '0' ++ digits

/-- One character of a quoted string, as MicroPython's `repr` prints it. -/
def escapeChar (quote c : Char) : Text :=
  if c = quote then ['\\', c]
  else if c = '\\' then ['\\', '\\']
  else if 32 ≤ c.toNat ∧ c.toNat ≤ 126 then [c]
  else if c = '\n' then ['\\', 'n']
  else if c = '\r' then ['\\', 'r']
  else if c = '\t' then ['\\', 't']
  else if c.toNat < 0x100 then '\\' :: 'x' :: hexDigits 2 c.toNat
  else if c.toNat < 0x10000 then '\\' :: 'u' :: hexDigits 4 c.toNat
  else '\\' :: 'U' :: hexDigits 8 c.toNat

/-- `repr` of a string: single quotes, unless it holds one and no double quote. -/
def quoted (s : Text) : Text :=
  let quote := if '\'' ∈ s ∧ '"' ∉ s then '"' else '\''
  quote :: s.flatMap (escapeChar quote) ++ [quote]

mutual

/-- `repr(value)`. -/
def Json.reprText : Json → Text
  | .null => "None".toList
  | .bool true => "True".toList
  | .bool false => "False".toList
  | .int n => (toString n).toList
  | .float text => text.toList
  | .str s => quoted s.toList
  | .list items => '[' :: Json.reprItems items ++ [']']
  | .dict fields => '{' :: Json.reprFields fields ++ ['}']

def Json.reprItems : List Json → Text
  | [] => []
  | [item] => item.reprText
  | item :: items => item.reprText ++ ", ".toList ++ Json.reprItems items

def Json.reprFields : List (String × Json) → Text
  | [] => []
  | [(key, value)] => quoted key.toList ++ ": ".toList ++ value.reprText
  | (key, value) :: fields =>
      quoted key.toList ++ ": ".toList ++ value.reprText ++ ", ".toList ++
        Json.reprFields fields

end

/-- `str(value)`: a string is its own text, everything else prints as `repr`. -/
def Json.strText : Json → Text
  | .str s => s.toList
  | value => value.reprText

/-- The name `type(value)` prints in error texts. -/
def Json.typeName : Json → String
  | .null => "NoneType"
  | .bool _ => "bool"
  | .int _ => "int"
  | .float _ => "float"
  | .str _ => "str"
  | .list _ => "list"
  | .dict _ => "dict"

/-! ### Exceptions -/

/-- The exceptions the modelled code raises or catches, with their text. -/
inductive PyError where
  | attributeError (text : String)
  | indexError (text : String)
  | osError (text : String)
  | unicodeError (text : String)
  | valueError (text : String)
deriving DecidableEq, Repr

/-- `str(exc)`. -/
def PyError.text : PyError → String
  | .attributeError text => text
  | .indexError text => text
  | .osError text => text
  | .unicodeError text => text
  | .valueError text => text

/-- `value.get(...)` on anything but a dictionary. -/
def noGet (value : Json) : PyError :=
  .attributeError ("'" ++ value.typeName ++ "' object has no attribute 'get'")

end EdgeGateway
