import BatchIngestion.Python.Text
import BatchIngestion.Python.Dict
import Mathlib.Data.Char
import Mathlib.Data.List.Lex

/-!
# JSON texts of nested dictionaries

`json.dumps(d, sort_keys=True)` for dictionaries whose values are integers or
dictionaries again, with the escapes of `ensure_ascii`, and a reader for such
texts. Reading back what was written gives the dictionary with sorted keys.
-/

namespace BatchIngestion.Python

/-! ### Writing -/

/-- Four hexadecimal digits of a code unit. -/
def hexQuad (n : ℕ) : Text :=
  [(n / 4096 % 16).digitChar, (n / 256 % 16).digitChar, (n / 16 % 16).digitChar,
    (n % 16).digitChar]

/-- `\uXXXX` for a code unit. -/
def unicodeEscape (n : ℕ) : Text := '\\' :: 'u' :: hexQuad n

/-- `ESCAPE_DCT`: the characters with an escape of their own. -/
def escapeDct : Dict Char Char :=
  [('\\', '\\'), ('"', '"'), ('\x08', 'b'), ('\x0c', 'f'), ('\n', 'n'), ('\r', 'r'), ('\t', 't')]

/-- A character inside a JSON string, written in ASCII. -/
def escapeChar (c : Char) : Text :=
  match Dict.get? escapeDct c with
  | some e => ['\\', e]
  | none =>
    let n := c.toNat
    if 0x20 ≤ n ∧ n ≤ 0x7e then [c]
    else if n < 0x10000 then unicodeEscape n
    else
      let v := n - 0x10000
      unicodeEscape (0xd800 + v / 0x400) ++ unicodeEscape (0xdc00 + v % 0x400)

/-- `py_encode_basestring_ascii`: a JSON string. -/
def jsonString (s : Text) : Text := '"' :: (s.flatMap escapeChar ++ ['"'])

/-- The members of an object, up to the closing brace. -/
def jsonMembers {α : Type} (value : α → Text) : Dict Text α → Text
  | [] => ['}']
  | [(k, v)] => jsonString k ++ (':' :: ' ' :: (value v ++ ['}']))
  | (k, v) :: m => jsonString k ++ (':' :: ' ' :: (value v ++ (',' :: ' ' :: jsonMembers value m)))

/-- An object with sorted keys. -/
def jsonObject {α : Type} (value : α → Text) (d : Dict Text α) : Text :=
  '{' :: jsonMembers value (Dict.sortKeys d)

/-- `json.dumps(d, sort_keys=True)` for a dictionary of dictionaries of integers
that fit machine words. -/
def jsonDumps (d : Dict Text (Dict Text ℤ)) : Text := jsonObject (jsonObject intText) d

/-! ### Reading -/

/-- The value of a hexadecimal digit. -/
def hexDigit (c : Char) : Option ℕ :=
  let n := c.toNat
  if 48 ≤ n ∧ n ≤ 57 then some (n - 48)
  else if 97 ≤ n ∧ n ≤ 102 then some (n - 87)
  else if 65 ≤ n ∧ n ≤ 70 then some (n - 55)
  else none

/-- A code unit of four hexadecimal digits. -/
def readHexQuad : Text → Option (ℕ × Text)
  | a :: b :: c :: d :: t => do
    let a ← hexDigit a
    let b ← hexDigit b
    let c ← hexDigit c
    let d ← hexDigit d
    some (((a * 16 + b) * 16 + c) * 16 + d, t)
  | _ => none

/-- The character of an escape `\uXXXX`, or of a surrogate pair of them. -/
def readUnicodeEscape (t : Text) : Option (Char × Text) := do
  let (high, t) ← readHexQuad t
  if 0xd800 ≤ high ∧ high < 0xdc00 then
    match t with
    | '\\' :: 'u' :: t =>
      let (low, t) ← readHexQuad t
      if 0xdc00 ≤ low ∧ low < 0xe000 then
        some (Char.ofNat (0x10000 + (high - 0xd800) * 0x400 + (low - 0xdc00)), t)
      else none
    | _ => none
  else some (Char.ofNat high, t)

/-- One character of a JSON string. -/
def readChar : Text → Option (Char × Text)
  | [] => none
  | '\\' :: 'u' :: t => readUnicodeEscape t
  | '\\' :: e :: t =>
    if e = '/' then some ('/', t)
    else (escapeDct.find? fun item => item.2 = e).map fun item => (item.1, t)
  | '\\' :: [] => none
  | c :: t => some (c, t)

/-- The characters of a JSON string after its opening quote. -/
def readChars : ℕ → Text → Option (Text × Text)
  | 0, _ => none
  | fuel + 1, t =>
    match t with
    | '"' :: t => some ([], t)
    | t => do
      let (c, t) ← readChar t
      let (s, t) ← readChars fuel t
      some (c :: s, t)

/-- A JSON string. -/
def readString : Text → Option (Text × Text)
  | '"' :: t => readChars (t.length + 1) t
  | _ => none

/-- A character of an integer's text after the sign. -/
def isJsonDigit (c : Char) : Bool := 48 ≤ c.toNat && c.toNat ≤ 57

/-- The digits of a JSON integer. -/
def readJsonNat (t : Text) : Option (ℕ × Text) :=
  match t.takeWhile isJsonDigit with
  | [] => none
  | ds => some (Nat.ofDigitChars 10 ds 0, t.dropWhile isJsonDigit)

/-- A JSON integer. -/
def readJsonInt : Text → Option (ℤ × Text)
  | '-' :: t => (readJsonNat t).map fun (n, t) => (Int.negOfNat n, t)
  | t => (readJsonNat t).map fun (n, t) => (Int.ofNat n, t)

/-- The white space of JSON. -/
def isJsonSpace (c : Char) : Bool := c == ' ' || c == '\t' || c == '\n' || c == '\r'

/-- Skip white space. -/
def skipSpace (t : Text) : Text := t.dropWhile isJsonSpace

/-- The members of an object after the opening brace or a comma. -/
def readMembers {α : Type} (value : Text → Option (α × Text)) :
    ℕ → Text → Option (Dict Text α × Text)
  | 0, _ => none
  | fuel + 1, t => do
    let (k, t) ← readString (skipSpace t)
    match skipSpace t with
    | ':' :: t =>
      let (v, t) ← value (skipSpace t)
      match skipSpace t with
      | '}' :: t => some ([(k, v)], t)
      | ',' :: t =>
        let (m, t) ← readMembers value fuel t
        some ((k, v) :: m, t)
      | _ => none
    | _ => none

/-- A JSON object. -/
def readObject {α : Type} (value : Text → Option (α × Text)) :
    Text → Option (Dict Text α × Text)
  | '{' :: t =>
    match skipSpace t with
    | '}' :: t => some ([], t)
    | t => readMembers value (t.length + 1) t
  | _ => none

/-- `json.loads` for a dictionary of dictionaries of integers. -/
def jsonLoads (t : Text) : Option (Dict Text (Dict Text ℤ)) :=
  match readObject (readObject readJsonInt) (skipSpace t) with
  | some (d, rest) => if skipSpace rest = [] then some d else none
  | none => none

end BatchIngestion.Python
