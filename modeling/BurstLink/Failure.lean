import BurstLink.Display

/-! # Why an operation does not succeed

Two kinds of bad ending are kept apart. A **`Failure`** is an answer of the link: the request was
refused or could not be carried out. A **`Overflow`** is a limit of the simulated surroundings
(script, history, word list, detection list) that an input ran into; it is a mistake of whoever
drives the simulation, not an answer. -/

namespace BurstLink

/-- Largest payload of one packet, in bytes. -/
def maxPayload : Nat := 32

/-- A value of the caller outside its range. -/
inductive BadRequest
  /-- A channel above the highest one. -/
  | channelOutOfRange (channel : UInt8)
  /-- A payload that does not fit into one packet. -/
  | payloadTooLong (length : Nat)
  /-- An automatic retry count above the highest one. -/
  | arcOutOfRange (arc : UInt8)
  /-- A percentage above 100. -/
  | percentOutOfRange (percent : UInt8)
  deriving DecidableEq

/-- The refusal in reports. -/
def BadRequest.text : BadRequest → String
  | .channelOutOfRange channel => showApplied "ChannelOutOfRange" [showByte channel]
  | .payloadTooLong length => showApplied "PayloadTooLong" [toString length]
  | .arcOutOfRange arc => showApplied "ArcOutOfRange" [showByte arc]
  | .percentOutOfRange percent => showApplied "PercentOutOfRange" [showByte percent]

/-- Why an operation of the link failed. -/
inductive Failure
  /-- The link protocol does not own the radio. -/
  | notInitialized
  /-- An argument is out of range. -/
  | badRequest (reason : BadRequest)
  /-- The radio never signalled completion and was forced off. -/
  | hardwareStuck
  /-- The operation conflicts with what the radio is used for. -/
  | notAvailable
  /-- No mode has the given name. -/
  | notFound
  /-- The receiver did not report in time. -/
  | measurementTimeout
  /-- The presence scanner fell silent before it was done. -/
  | scanStalled
  deriving DecidableEq

/-- The kind of a failure, without its arguments. -/
def Failure.kind : Failure → String
  | .notInitialized => "NotInitialized"
  | .badRequest _ => "BadRequest"
  | .hardwareStuck => "HardwareStuck"
  | .notAvailable => "NotAvailable"
  | .notFound => "NotFound"
  | .measurementTimeout => "MeasurementTimeout"
  | .scanStalled => "ScanStalled"

/-- The failure in reports. -/
def Failure.text : Failure → String
  | .badRequest reason => showApplied "BadRequest" [reason.text]
  | failure => failure.kind

/-- A limit of the simulated surroundings. -/
inductive Overflow
  /-- The transmission history is full. -/
  | transmissions
  /-- The list of scripted responses is full. -/
  | responses
  /-- The list of random words is full. -/
  | draws
  /-- The list of advertisements in the air is full. -/
  | detections
  /-- A scripted acknowledgement carries too much. -/
  | ackPayload
  deriving DecidableEq

/-- How many entries fit before the overflow. -/
def Overflow.limit : Overflow → Nat
  | .transmissions => 128
  | .responses => 32
  | .draws => 16
  | .detections => 8
  | .ackPayload => maxPayload

/-- The overflow in words. -/
def Overflow.text (o : Overflow) : String :=
  match o with
  | .transmissions => "more than " ++ toString o.limit ++ " transmissions recorded"
  | .responses => "more than " ++ toString o.limit ++ " scripted responses pending"
  | .draws => "more than " ++ toString o.limit ++ " random values"
  | .detections => "more than " ++ toString o.limit ++ " detections"
  | .ackPayload => "ack payload longer than " ++ toString o.limit ++ " bytes"

end BurstLink
