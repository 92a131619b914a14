import ProtoModules.Data.Moment
import ProtoModules.Text.Quoted

/-! Why a text of a data format has no value. Most texts that are refused break the grammar of their
format; others are nested deeper than a reader follows, or hold a scalar that is not what it has to
be. -/

namespace ProtoModules.Data

inductive ScalarFault where
  | notInteger (base : Nat) (text : List Char)
  | tooManyDigits (count : Nat)
  | notReal (text : List Char)
  | notComplex
  | strayUnderscore (text : List Char)
  | noSuchMoment (fault : MomentFault)
  /-- A number of which nothing is written, or nothing but its sign. -/
  | noDigits
  | notFlag
  | notMoment
  | notText
  /-- A key that holds a list or a table inside. -/
  | unhashable
  | beyondReals
  deriving DecidableEq

inductive Refusal where
  | malformed
  | tooDeep
  | scalar (fault : ScalarFault)
  deriving DecidableEq

def mostDigits : Nat := 4300

namespace ScalarFault

def message : ScalarFault → String
  | notInteger base text =>
    "invalid literal for int() with base " ++ toString base ++ ": "
      ++ String.ofList ((Text.quoted text).take 200)
  | tooManyDigits count =>
    "Exceeds the limit (" ++ toString mostDigits ++ " digits) for integer string conversion: value has "
      ++ toString count ++ " digits; use sys.set_int_max_str_digits() to increase the limit"
  | notReal text => "could not convert string to float: " ++ String.ofList (Text.quoted text)
  | notComplex => "complex() arg is a malformed string"
  | strayUnderscore text => "could not convert string to complex: " ++ String.ofList (Text.quoted text)
  | noSuchMoment fault => fault.message
  | noDigits => "a number without digits"
  | notFlag => "neither true nor false"
  | notMoment => "no date"
  | notText => "no text"
  | unhashable => "a key that can change"
  | beyondReals => "int too large to convert to float"

end ScalarFault

namespace Refusal

def required {α : Type} : Option α → Except Refusal α
  | some x => .ok x
  | none => .error .malformed

end Refusal

end ProtoModules.Data
