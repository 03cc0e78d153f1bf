import EndpointScout.Text.Basic

/-! JSON documents. Numbers keep their text and objects the order of their
members. -/
namespace EndpointScout.Json

inductive Value where
  | null
  | bool (b : Bool)
  | number (text : Text)
  | string (text : Text)
  | array (items : List Value)
  | object (members : List (Text × Value))
deriving Repr, Inhabited

namespace Value

def ofNat (n : Nat) : Value := number (Text.ofNat n)

def str (s : String) : Value := string s.toList

def member? (name : String) : Value → Option Value
  | object ms => (ms.find? fun m => m.1 == name.toList).map (·.2)
  | _ => none

def text? : Value → Option Text
  | string t => some t
  | _ => none

def bool? : Value → Option Bool
  | bool b => some b
  | _ => none

def nat? : Value → Option Nat
  | number t => Text.toNat? t
  | _ => none

def items? : Value → Option (List Value)
  | array vs => some vs
  | _ => none

end Value

end EndpointScout.Json
