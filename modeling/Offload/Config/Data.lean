import Offload.Config.Basic
import Offload.Decimal.Digits
import Offload.Json.Basic

/-!
# Configurations as data

A configuration is written as an object of seven members. It is read back from an object with
these members in any order, among others or not, and also from the array of the seven values. A
number is read only if it is an integer of the member's range, written without point or exponent.
-/

namespace Offload

namespace Json

/-- The text that a string stands for. -/
def asText? : Json → Option String
  | string literal => (unescape? literal).map String.ofList
  | _ => none

/-- An integer written without point or exponent. Minus zero is none. -/
def asInteger? : Json → Option Int
  | number ('-' :: digits) => do
    let n ← Decimal.digitsValue? digits
    if n = 0 then none else some (-(n : Int))
  | number digits => (Decimal.digitsValue? digits).map Int.ofNat
  | _ => none

/-- An integer of the range of unsigned 64-bit words. -/
def asUInt64? (value : Json) : Option UInt64 :=
  value.asInteger?.bind Decimal.word?

/-- An integer of the range of signed 32-bit words. -/
def asInt32? (value : Json) : Option Int32 :=
  value.asInteger?.bind Decimal.int32?

end Json

namespace Sample

/-- A sample as data: the word `all`, or an object with the count. -/
def toJson : Sample → Json
  | leading count => .record [("prefix", .ofNat count.toNat)]
  | all => .ofText "all"

/-- Reads a sample. The word `all` may also stand as the key of `null`. -/
def ofJson? : Json → Option Sample
  | .object [(key, value)] => do
    match ← Json.asText? (.string key) with
    | "all" => if value matches .null then some all else none
    | "prefix" => value.asUInt64?.map leading
    | _ => none
  | value => do
    if (← value.asText?) = "all" then some all else none

end Sample

namespace Config

/-- The keys of a configuration, in the order in which they are written. -/
def keys : List String :=
  ["elements", "fill_a", "fill_b", "verify", "kernel_source", "entry_point", "separator_marker"]

/-- The values of a configuration, in the order of its keys. -/
def values (config : Config) : List Json :=
  [.ofNat config.elements.toNat, .ofInt config.fillA.toInt, .ofInt config.fillB.toInt,
   config.sample.toJson, .ofText config.kernelSource, .ofText config.entryPoint,
   .ofText config.separatorMarker]

/-- A configuration as data. -/
def toJson (config : Config) : Json :=
  .record (keys.zip config.values)

/-- Reads a configuration from its seven values. -/
def ofValues? : List Json → Option Config
  | [elements, fillA, fillB, sample, kernelSource, entryPoint, separatorMarker] => do
    return {
      elements := ← elements.asUInt64?
      fillA := ← fillA.asInt32?
      fillB := ← fillB.asInt32?
      sample := ← Sample.ofJson? sample
      kernelSource := ← kernelSource.asText?
      entryPoint := ← entryPoint.asText?
      separatorMarker := ← separatorMarker.asText? }
  | _ => none

/-- The members with their keys as texts. -/
def texts? (members : List (List Char × Json)) : Option (List (String × Json)) :=
  members.mapM fun (key, value) => do
    return (← Json.asText? (.string key), value)

/-- The one value under a key. A key that is missing or stands twice has none. -/
def single? (members : List (String × Json)) (key : String) : Option Json :=
  match members.filter fun member => member.1 = key with
  | [(_, value)] => some value
  | _ => none

/-- Reads a configuration. Members under other keys are ignored. -/
def ofJson? : Json → Option Config
  | .object members => do
    let members ← texts? members
    ofValues? (← keys.mapM (single? members))
  | .array items => ofValues? items
  | _ => none

/-- Reads a configuration from its text. -/
def parse? (text : String) : Option Config := do
  ofJson? (← Json.parse? text)

end Config

end Offload
