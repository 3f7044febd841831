import NetOpsBench.Lib.Sha256
import NetOpsBench.Lib.Sorting

/-!
# JSON values and their compact ASCII text

`Json.dumps` is the text that Python's `json.dumps` writes with the separators
`","` and `":"` and with `ensure_ascii` left on. A float is kept as the text of its
`repr`, which is what the encoder writes for it.
-/

/-- A JSON value; an object lists its members in insertion order. -/
inductive Json : Type where
  | null
  | bool (b : Bool)
  | int (n : Int)
  | float (repr : String)
  | str (s : String)
  | arr (items : List Json)
  | obj (members : List (String × Json))

namespace Json

def nat (n : Nat) : Json := .int n

/-- The value of an optional field: `null` when absent. -/
def ofOption {α : Type} (encode : α → Json) : Option α → Json
  | none => .null
  | some a => encode a

/-- Four lowercase hexadecimal digits. -/
def hex4 (n : Nat) : List Char :=
  [Sha256.hexDigit (n / 4096 % 16), Sha256.hexDigit (n / 256 % 16),
    Sha256.hexDigit (n / 16 % 16), Sha256.hexDigit (n % 16)]

def unicodeEscape (n : Nat) : List Char := '\\' :: 'u' :: hex4 n

/-- The text of one character: a short escape, the character itself when it is
printable ASCII, and otherwise its UTF-16 code units. -/
def escapeChar (c : Char) : List Char :=
  if c = '"' then ['\\', '"']
  else if c = '\\' then ['\\', '\\']
  else if c = '\n' then ['\\', 'n']
  else if c = '\r' then ['\\', 'r']
  else if c = '\t' then ['\\', 't']
  else if c.toNat = 8 then ['\\', 'b']
  else if c.toNat = 12 then ['\\', 'f']
  else if 32 ≤ c.toNat ∧ c.toNat ≤ 126 then [c]
  else if c.toNat < 65536 then unicodeEscape c.toNat
  else
    let v := c.toNat - 65536
    unicodeEscape (55296 + v / 1024) ++ unicodeEscape (56320 + v % 1024)

def quote (s : String) : String :=
  String.ofList (['"'] ++ s.toList.flatMap escapeChar ++ ['"'])

/-- The members of an object in the order of their keys. -/
def sortMembers (members : List (String × String)) : List (String × String) :=
  Sorting.sorted (fun a b => decide (a.1 ≤ b.1)) members

def memberText (member : String × String) : String := quote member.1 ++ ":" ++ member.2

mutual

/-- `json.dumps(value, sort_keys=sortKeys, separators=(",", ":"))` -/
def dumps (sortKeys : Bool) : Json → String
  | .null => "null"
  | .bool true => "true"
  | .bool false => "false"
  | .int n => toString n
  | .float repr => repr
  | .str s => quote s
  | .arr items => "[" ++ ",".intercalate (dumpsItems sortKeys items) ++ "]"
  | .obj members =>
      let texts := dumpsMembers sortKeys members
      "\x7b" ++ ",".intercalate ((if sortKeys then sortMembers texts else texts).map memberText) ++
        "\x7d"

def dumpsItems (sortKeys : Bool) : List Json → List String
  | [] => []
  | item :: items => dumps sortKeys item :: dumpsItems sortKeys items

def dumpsMembers (sortKeys : Bool) : List (String × Json) → List (String × String)
  | [] => []
  | (key, value) :: members => (key, dumps sortKeys value) :: dumpsMembers sortKeys members

end

/-- The UTF-8 bytes of the text. -/
def encode (text : String) : List UInt8 := text.toUTF8.toList

end Json
