import NxContainer.Text

/-! Why bytes were refused by a decoder. An error is its cause; the wording stands in one place,
`DecodeError.message`. -/
namespace NxContainer

inductive DecodeError where
  /-- `needed` bytes at `offset`, where only `actual` are left. -/
  | insufficientData (needed offset actual : Nat)
  | invalidMagic (expected actual : UInt64)
  | invalidObjectType (expected actual : UInt32)
  | invalidField (field reason : String)
  | outOfBounds (field : String) (value limit : Nat)
  | integerConversion (field : String)
  | alreadySet (field : String)
  | allocationFailed (field : String)
deriving DecidableEq

namespace DecodeError

def message : DecodeError → String
  | insufficientData needed offset actual =>
    s!"insufficient data: need {needed} bytes at offset {offset}, got {actual}"
  | invalidMagic expected actual =>
    s!"invalid magic: expected {Hex.minimal expected.toNat}, got {Hex.minimal actual.toNat}"
  | invalidObjectType expected actual =>
    s!"invalid object type: expected {Hex.padded 8 expected.toNat}, got {Hex.padded 8 actual.toNat}"
  | invalidField field reason => s!"invalid field: {field} ({reason})"
  | outOfBounds field value limit => s!"{field} out of bounds: {value} exceeds limit {limit}"
  | integerConversion field => s!"integer conversion failed: {field}"
  | alreadySet field => s!"{field} already set"
  | allocationFailed field => s!"unable to allocate {field}"

end DecodeError

end NxContainer
