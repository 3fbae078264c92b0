/-
  Checkpoints: by direction, the lowest block not yet fully scanned.

  A record holds the block in decimal notation; without a record the initial value counts.
  `Checkpoints.advance` never moves a checkpoint backwards.
-/
import PacketRelay.Fee
import PacketRelay.Packet
import PacketRelay.Storage.Backend
import PacketRelay.Text.Blank

namespace PacketRelay

/-- The checkpoints of a chain. -/
structure Checkpoints where
  storage : Storage
  initialSent : Nat
  initialReceived : Nat

namespace Checkpoints

/-- The checkpoint that counts as long as there is no record. -/
def initial (c : Checkpoints) : Direction → Nat
  | .sent => c.initialSent
  | .received => c.initialReceived

/-- The block that a record holds. -/
def parse (key : String) (record : Bytes) : Except StorageError Nat :=
  match Utf8.decode record with
  | .error e => .error (.corrupt key e.message)
  | .ok text =>
    let digits := Text.trimmed text
    (Decimal.read countMax digits).mapError fun e =>
      .corrupt key ("'" ++ digits ++ "': " ++ e.message)

/-- The checkpoint of a direction. -/
def load (c : Checkpoints) (d : Direction) : Except StorageError Nat :=
  match c.storage.get d.key with
  | .ok record => parse d.key record
  | .error .notFound => .ok (c.initial d)
  | .error e => .error e

/-- Sets the record of a direction. -/
def store (c : Checkpoints) (d : Direction) (height : Nat) :
    Except StorageError Nat × Checkpoints :=
  let (outcome, storage) := c.storage.set d.key (utf8 (Decimal.text height))
  (outcome.map fun _ => height, { c with storage })

/-- Moves the checkpoint of a direction forward and gives its value: a lower height changes nothing,
    and an equal one is recorded only if there is no record. -/
def advance (c : Checkpoints) (d : Direction) (height : Nat) :
    Except StorageError Nat × Checkpoints :=
  match c.load d with
  | .error e => (.error e, c)
  | .ok current =>
    if height < current then (.ok current, c)
    else if height = current then
      match c.storage.contains d.key with
      | .error e => (.error e, c)
      | .ok true => (.ok current, c)
      | .ok false => c.store d height
    else c.store d height

end Checkpoints

end PacketRelay
