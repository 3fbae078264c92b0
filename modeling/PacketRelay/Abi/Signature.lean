/-
  Signatures and the hashes by which contracts know them.

  A signature is a name followed by the types of its arguments.  Its hash is the first topic of an
  event, and the first four bytes of the hash select a function or an error.
-/
import PacketRelay.Abi.Decoding
import PacketRelay.Digest.Keccak

namespace PacketRelay.Abi

/-- A name and the types of its arguments, as they are hashed. -/
def signatureText (name : String) (types : List String) : String :=
  name ++ "(" ++ String.intercalate "," types ++ ")"

/-- The hash of a signature. -/
def signatureHash (signature : String) : Hash := keccak256 (utf8 signature)

/-- The leading four bytes of a signature's hash. -/
def selector (signature : String) : Selector :=
  ⟨(signatureHash signature).bytes.take 4, by simp [(signatureHash signature).size]⟩

/-- The input of a function call: the selector and the arguments. -/
def callInput (name : String) (types : List AbiType) (values : AbiType.Values types) : Bytes :=
  (selector (signatureText name (AbiType.texts types))).bytes ++ AbiType.encodeAll types values

end PacketRelay.Abi
