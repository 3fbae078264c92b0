/-
  Fees and packets as documents.

  Each type has a `reader` and a `document` that writes what the reader reads.
-/
import PacketRelay.Document.Reader
import PacketRelay.Packet

namespace PacketRelay

/-! ## Fees -/

namespace PendingFees

/-- Reads fee fields. -/
def reader (form : Notation) : Reader PendingFees :=
  Variants.reader form
    [("GasPrice", .content fun d => (Reader.natural weiMax d).map .gasPrice),
     ("Dynamic", .content (Fields.reader form (.dynamic
       <$> .required "gas_tip_cap" (.natural weiMax)
       <*> .required "gas_fee_cap" (.natural weiMax))))]

/-- Writes fee fields. -/
def document : PendingFees → Document
  | gasPrice price => .table [("GasPrice", .natural price)]
  | dynamic tipCap feeCap => .table [("Dynamic",
      .table [("gas_tip_cap", .natural tipCap), ("gas_fee_cap", .natural feeCap)])]

end PendingFees

namespace PendingTransaction

/-- Reads a pending transaction. -/
def reader (form : Notation) : Reader PendingTransaction :=
  Fields.reader form (PendingTransaction.mk
    <$> .required "nonce" (.natural countMax)
    <*> .required "fees" (PendingFees.reader form)
    <*> .required "tx_type" (.natural 255))

/-- Writes a pending transaction. -/
def document (t : PendingTransaction) : Document :=
  .table [("nonce", .natural t.nonce), ("fees", t.fees.document), ("tx_type", .natural t.type)]

end PendingTransaction

namespace FeeBounds

/-- Reads bounds. -/
def reader (form : Notation) : Reader FeeBounds :=
  Fields.reader form (FeeBounds.mk
    <$> .required "gas_price_inc" (.natural weiMax)
    <*> .required "max_gas_price" (.natural weiMax)
    <*> .required "gas_tip_cap_inc" (.natural weiMax)
    <*> .required "max_gas_tip_cap" (.natural weiMax)
    <*> .required "gas_fee_cap_inc" (.natural weiMax)
    <*> .required "max_gas_fee_cap" (.natural weiMax))

/-- Writes bounds. -/
def document (b : FeeBounds) : Document :=
  .table [("gas_price_inc", .natural b.gasPriceIncrement),
    ("max_gas_price", .natural b.maxGasPrice), ("gas_tip_cap_inc", .natural b.tipCapIncrement),
    ("max_gas_tip_cap", .natural b.maxTipCap), ("gas_fee_cap_inc", .natural b.feeCapIncrement),
    ("max_gas_fee_cap", .natural b.maxFeeCap)]

end FeeBounds

namespace Pricing

/-- Reads a price. -/
def reader (form : Notation) : Reader Pricing :=
  Variants.reader form
    [("Legacy", .content (Fields.reader form (.legacy
       <$> .required "gas_price" (.natural weiMax)))),
     ("Dynamic", .content (Fields.reader form (.dynamic
       <$> .required "max_priority_fee_per_gas" (.natural weiMax)
       <*> .required "max_fee_per_gas" (.natural weiMax))))]

/-- Writes a price. -/
def document : Pricing → Document
  | legacy gasPrice => .table [("Legacy", .table [("gas_price", .natural gasPrice)])]
  | dynamic tipCap feeCap => .table [("Dynamic",
      .table [("max_priority_fee_per_gas", .natural tipCap), ("max_fee_per_gas", .natural feeCap)])]

end Pricing

/-! ## Packets -/

namespace Direction

/-- Reads a direction. -/
def reader (form : Notation) : Reader Direction :=
  Variants.reader form [("Sent", .unit .sent), ("Received", .unit .received)]

/-- Writes a direction. -/
def document : Direction → Document
  | sent => .text "Sent"
  | received => .text "Received"

end Direction

namespace Height

/-- Reads a height. -/
def reader (form : Notation) : Reader Height :=
  Fields.reader form (Height.mk
    <$> .required "revision_number" (.natural countMax)
    <*> .required "revision_height" (.natural countMax))

/-- Writes a height. -/
def document (h : Height) : Document :=
  .table [("revision_number", .natural h.revisionNumber),
    ("revision_height", .natural h.revisionHeight)]

end Height

namespace Packet

/-- Reads a packet. -/
def reader (form : Notation) : Reader Packet :=
  Fields.reader form (Packet.mk
    <$> .required "sequence" (.natural countMax)
    <*> .required "source_port" .text
    <*> .required "source_channel" .text
    <*> .required "destination_port" .text
    <*> .required "destination_channel" .text
    <*> .required "data" .bytes
    <*> .required "timeout_height" (Height.reader form)
    <*> .required "timeout_timestamp" (.natural countMax)
    <*> .optional "acknowledgement" .bytes
    <*> .required "event_height" (.natural countMax))

/-- Bytes in a document. -/
def bytesDocument (b : Bytes) : Document := .text (Hex.text b)

/-- Writes a packet. -/
def document (p : Packet) : Document :=
  .table [("sequence", .natural p.sequence), ("source_port", .text p.sourcePort),
    ("source_channel", .text p.sourceChannel), ("destination_port", .text p.destinationPort),
    ("destination_channel", .text p.destinationChannel), ("data", bytesDocument p.data),
    ("timeout_height", p.timeoutHeight.document),
    ("timeout_timestamp", .natural p.timeoutTimestamp),
    ("acknowledgement", .optional bytesDocument p.acknowledgement),
    ("event_height", .natural p.eventHeight)]

end Packet

end PacketRelay
