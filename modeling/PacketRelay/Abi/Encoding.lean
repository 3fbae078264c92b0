/-
  The canonical encoding of contract data.

  A sequence of values is laid out as one place for each of them, followed by the contents of the
  dynamic ones; the place of a dynamic value holds the offset of its contents from the start of
  the sequence.  `AbiType.encodeAll` writes a sequence.
-/
import PacketRelay.Abi.Type

namespace PacketRelay

namespace Abi

/-- A value as it appears in a sequence. -/
inductive Part where
  /-- Written at its place. -/
  | inPlace (b : Bytes)
  /-- Written after all places. -/
  | moved (b : Bytes)

namespace Part

/-- A value by its encoding: a dynamic one is moved. -/
def of (dynamic : Bool) (b : Bytes) : Part := if dynamic then moved b else inPlace b

/-- The bytes its place takes. -/
def placeSize : Part → Nat
  | inPlace b => b.length
  | moved _ => 32

/-- The bytes that the places of a sequence take. -/
def placesSize : List Part → Nat
  | [] => 0
  | p :: rest => p.placeSize + placesSize rest

/-- The places, when the next contents to be moved start at offset `next`. -/
def places : Nat → List Part → Bytes
  | _, [] => []
  | next, inPlace b :: rest => b ++ places next rest
  | next, moved b :: rest => Bytes.ofNat 32 next ++ places (next + b.length) rest

/-- The contents that follow the places. -/
def contents : List Part → Bytes
  | [] => []
  | inPlace _ :: rest => contents rest
  | moved b :: rest => b ++ contents rest

/-- A sequence. -/
def layout (parts : List Part) : Bytes :=
  places (placesSize parts) parts ++ contents parts

end Part

/-- Bytes filled up with zeros to whole words. -/
def padded (b : Bytes) : Bytes := b ++ List.replicate ((32 - b.length % 32) % 32) 0

/-- The length of a byte string and the string itself. -/
def sized (b : Bytes) : Bytes := Bytes.ofNat 32 b.length ++ padded b

/-- The word of a number that may be negative. -/
def intWord (n : Int) : Bytes := Bytes.ofNat 32 (n % (1 <<< 256 : Nat)).toNat

end Abi

namespace AbiType

open Abi

mutual

/-- A value without regard to where it is put. -/
def encode : (t : AbiType) → t.Value → Bytes
  | .uint _, n => Bytes.ofNat 32 n
  | .int _, n => intWord n
  | .bool, b => Bytes.ofNat 32 (Bool.toNat b)
  | .address, a => Bytes.ofNat 32 (FixedBytes.toNat a)
  | .fixedBytes _, b => padded (FixedBytes.bytes b)
  | .function, b => padded (FixedBytes.bytes b)
  | .bytes, b => sized b
  | .string, b => sized b
  | .array element, items =>
    Bytes.ofNat 32 (List.length items) ++
      Part.layout (List.map (fun v => Part.of (isDynamic element) (encode element v)) items)
  | .fixedArray _ element, items =>
    Part.layout (List.map (fun v => Part.of (isDynamic element) (encode element v)) items.val)
  | .tuple _ components, values => Part.layout (parts components values)

/-- The parts of a tuple. -/
def parts : (ts : List AbiType) → Values ts → List Part
  | [], _ => []
  | t :: rest, (v, values) => Part.of (isDynamic t) (encode t v) :: parts rest values

end

/-- A sequence of values. -/
def encodeAll (ts : List AbiType) (values : Values ts) : Bytes := Part.layout (parts ts values)

end AbiType

end PacketRelay
