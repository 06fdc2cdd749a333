import BatchIngestion.Python.Json

/-!
# Python values

The values that a payload or a parsed configuration can have, `json.dumps` in its default
format, and lookups by a key. An object without a JSON form makes `json.dumps` raise, unless
`default=str` is given.
-/

namespace BatchIngestion.Python

/-- A Python value. -/
inductive Value
  /-- `None`. -/
  | none
  /-- A boolean. -/
  | bool (value : Bool)
  /-- An integer. -/
  | int (value : ℤ)
  /-- A floating point number, by its text. -/
  | float (text : Text)
  /-- A string. -/
  | str (value : Text)
  /-- A list. -/
  | list (items : List Value)
  /-- A dictionary. -/
  | dict (items : List (Text × Value))
  /-- Another object, by the name of its class and its `str`. -/
  | object (className : Text) (text : Text)

namespace Value

mutual

/-- `json.dumps(value)`, with `default=str` or without. -/
def dumps (defaultStr : Bool) : Value → Except PyExc Text
  | .none => .ok "null"
  | .bool b => .ok (if b then "true" else "false")
  | .int n => intStr n
  | .float t => .ok t
  | .str s => .ok (jsonString s)
  | .list items => do
    let texts ← dumpsItems defaultStr items
    return '[' :: ((", " : Text).intercalate texts ++ [']'])
  | .dict items => do
    let texts ← dumpsMembers defaultStr items
    return '{' :: ((", " : Text).intercalate texts ++ ['}'])
  | .object className text =>
    if defaultStr then .ok (jsonString text)
    else .error (.typeError (("Object of type " : Text) ++ className ++
      (" is not JSON serializable" : Text)))

/-- The texts of the items of a list. -/
def dumpsItems (defaultStr : Bool) : List Value → Except PyExc (List Text)
  | [] => .ok []
  | item :: items => do
    let text ← dumps defaultStr item
    let texts ← dumpsItems defaultStr items
    return text :: texts

/-- The texts of the members of a dictionary. -/
def dumpsMembers (defaultStr : Bool) : List (Text × Value) → Except PyExc (List Text)
  | [] => .ok []
  | (key, item) :: items => do
    let text ← dumps defaultStr item
    let texts ← dumpsMembers defaultStr items
    return (jsonString key ++ (':' :: ' ' :: text)) :: texts

end

/-- `isinstance(v, (dict, list))`. -/
def isContainer : Value → Bool
  | .list _ | .dict _ => true
  | _ => false

/-- `json.dumps(v) if isinstance(v, (dict, list)) else str(v)`. -/
def dumpsOrStr : Value → Except PyExc Text
  | .none => .ok "None"
  | .bool b => .ok (if b then "True" else "False")
  | .int n => intStr n
  | .float t | .str t | .object _ t => .ok t
  | .list items => dumps false (.list items)
  | .dict items => dumps false (.dict items)

example : dumps false (.dict [("a".toList, .int 1), ("b".toList, .list [.none, .str ['x']])]) =
    .ok "\x7b\"a\": 1, \"b\": [null, \"x\"]\x7d".toList := by
  decide +kernel

/-! ### Values as mappings -/

/-- The name of the class of a value. -/
def typeName : Value → Text
  | .none => "NoneType"
  | .bool _ => "bool"
  | .int _ => "int"
  | .float _ => "float"
  | .str _ => "str"
  | .list _ => "list"
  | .dict _ => "dict"
  | .object className _ => className

/-- `value[key]`. -/
def item (value : Value) (key : Text) : Except PyExc Value :=
  match value with
  | .dict items =>
    match Dict.get? items key with
    | .some item => .ok item
    | .none => .error (.keyError key)
  | .str _ => .error (.typeError "string indices must be integers, not 'str'")
  | .list _ => .error (.typeError "list indices must be integers or slices, not str")
  | value => .error (.typeError ('\'' :: (typeName value ++
      ("' object is not subscriptable" : Text))))

/-- `value.get(key, default)`. -/
def getD (value : Value) (key : Text) (default : Value) : Except PyExc Value :=
  match value with
  | .dict items => .ok ((Dict.get? items key).getD default)
  | value => .error (.attributeError ('\'' :: (typeName value ++
      ("' object has no attribute 'get'" : Text))))

end Value

end BatchIngestion.Python
