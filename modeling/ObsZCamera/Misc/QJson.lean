import ObsZCamera.Misc.CInt

/-!
# `QJsonValue`

JSON values and the conversions of Qt that the control client uses, with their documented
defaults for values of another type. A JSON number is a double, hence a rational number.
-/

namespace ObsZCamera

inductive QJsonValue where
  | null
  | bool (b : Bool)
  | double (q : Rat)
  | string (s : String)
  | array (values : List QJsonValue)
  | object (members : List (String × QJsonValue))

/-- The members of an object. -/
abbrev QJsonObject := List (String × QJsonValue)

/-- `value(key)`; for a missing key Qt's undefined value, which converts as null does. -/
def QJsonObject.value (o : QJsonObject) (key : String) : QJsonValue :=
  match o.find? fun m => m.1 = key with
  | some m => m.2
  | none => .null

/-- `contains(key)`. -/
def QJsonObject.contains (o : QJsonObject) (key : String) : Bool :=
  o.any fun m => m.1 = key

/-- `insert(key, value)`; the order of the members does not count. -/
def QJsonObject.insert (o : QJsonObject) (key : String) (value : QJsonValue) : QJsonObject :=
  (key, value) :: o.filter fun m => m.1 ≠ key

namespace QJsonValue

/-- `toString()`. -/
def toString : QJsonValue → String
  | string s => s
  | _ => ""

/-- `toBool()`. -/
def toBool : QJsonValue → Bool
  | bool b => b
  | _ => false

/-- `toInt()`: the number, if it is whole and an `int`. -/
def toInt : QJsonValue → Int
  | double q => if q.den = 1 ∧ toCInt q.num = q.num then q.num else 0
  | _ => 0

/-- `toDouble()`. -/
def toDouble : QJsonValue → Rat
  | double q => q
  | _ => 0

/-- `toArray()`. -/
def toArray : QJsonValue → List QJsonValue
  | array values => values
  | _ => []

/-- `toObject()`. -/
def toObject : QJsonValue → QJsonObject
  | object members => members
  | _ => []

end QJsonValue

end ObsZCamera
