import CoreTrial.Completion.Channel
import CoreTrial.FileSystem.Basic

/-!
# Devices

A device is read by a reader of its own, which forwards the bytes of each read one by one. A read
that brings nothing is repeated, and so is one that fails for now; any other failure is forwarded
after all bytes before it, and the reader leaves: it stops in a step of its own. Whoever samples the
device takes what was forwarded, and learns from an empty line whether the reader has stopped. The
reader takes time to start, so nothing is forwarded at the instant at which the device is opened.
-/

set_option autoImplicit false

namespace CoreTrial

/-- What one read of a device brings: bytes, none of them at the end of a file, or a failure. -/
abbrev DeviceRead := Except IoError (List UInt8)

/-- The read failed for now only. -/
def IoError.isTransient : IoError → Bool
  | .timedOut | .wouldBlock | .interrupted => true
  | _ => false

/-- What a reader does next. -/
inductive ReaderState where
  /-- To open the device, which may fail. -/
  | opening (failure : Option IoError)
  /-- To see whether anybody still listens. -/
  | looking
  | reading
  /-- To forward what was read. -/
  | forwarding (bytes : List UInt8)
  /-- To let go of the line, with nothing left to forward. -/
  | leaving
  | stopped
  deriving DecidableEq, Repr

/-- A device with its reader. -/
structure Device where
  path : Path
  opened : Duration
  /-- What the next reads bring. All reads after these bring nothing. -/
  reads : List DeviceRead
  reader : ReaderState
  /-- What was forwarded and not yet sampled. -/
  forwarded : List (Except IoError UInt8)
  /-- The device may still be sampled. -/
  listening : Bool

namespace Device

/-- The reader has not let go of the line. -/
def running (d : Device) : Bool :=
  d.reader != .stopped

/-! ## The reader -/

/-- What waits to be sampled once a byte or a failure is forwarded. It is lost if nobody listens. -/
def forward (d : Device) (message : Except IoError UInt8) : List (Except IoError UInt8) :=
  if d.listening then d.forwarded ++ [message] else d.forwarded

/-- Forwards a failure. There is nothing to forward after it. -/
def fail (d : Device) (e : IoError) : Device :=
  { d with forwarded := d.forward (.error e), reader := .leaving }

/-- What follows a read. -/
def receive (d : Device) : DeviceRead → Device
  | .ok bytes => { d with reader := .forwarding bytes }
  | .error e => if e.isTransient then { d with reader := .looking } else d.fail e

/-- One step of the reader. -/
def step (d : Device) : Device :=
  match d.reader with
  | .opening (some e) => d.fail e
  | .opening none => { d with reader := .looking }
  | .looking => { d with reader := if d.listening then .reading else .leaving }
  | .reading =>
    match d.reads with
    | [] => { d with reader := .looking }
    | read :: rest => { d with reads := rest }.receive read
  | .forwarding [] => { d with reader := .looking }
  | .forwarding (b :: bytes) =>
    { d with
      forwarded := d.forward (.ok b)
      reader := if d.listening then .forwarding bytes else .leaving }
  | .leaving => { d with reader := .stopped }
  | .stopped => d

/-- Several steps of the reader. -/
def steps : Nat → Device → Device
  | 0, d => d
  | n + 1, d => steps n d.step

/-- The bytes of reads, and the failure that ends them. -/
def signals : List DeviceRead → List (Except IoError UInt8)
  | [] => []
  | .ok bytes :: rest => bytes.map .ok ++ signals rest
  | .error e :: rest => if e.isTransient then signals rest else [.error e]

/-- What the reader has yet to forward. -/
def pending (d : Device) : List (Except IoError UInt8) :=
  match d.reader with
  | .opening (some e) => [.error e]
  | .opening none | .looking | .reading => signals d.reads
  | .forwarding bytes => bytes.map .ok ++ signals d.reads
  | .leaving | .stopped => []

/-- The steps that it takes to forward what reads bring: to look, to read, one for each byte, and to
find nothing left to forward. After a failure, one step is to leave. -/
def stepsToRead : List DeviceRead → Nat
  | [] => 0
  | .ok bytes :: rest => bytes.length + 3 + stepsToRead rest
  | .error e :: rest => if e.isTransient then 2 + stepsToRead rest else 3

/-- The steps of the reader until all reads bring nothing or it has stopped. -/
def stepsLeft (d : Device) : Nat :=
  match d.reader with
  | .opening (some _) => 2
  | .opening none => stepsToRead d.reads + 1
  | .looking => stepsToRead d.reads
  | .reading => stepsToRead d.reads - 1
  | .forwarding bytes => bytes.length + 1 + stepsToRead d.reads
  | .leaving => 1
  | .stopped => 0

/-- The reader's steps until all reads bring nothing or it has stopped. -/
def readAll (d : Device) : Device :=
  steps d.stepsLeft d

/-! ## Sampling -/

/-- Nobody samples the device any more, and what was forwarded is lost. -/
def drop (d : Device) : Device :=
  { d with forwarded := [], listening := false }

/-- What is said of an empty line whose reader has ended. -/
def stoppedError (path : Path) : IoError :=
  .brokenPipe ("reader for " ++ path.text ++ " stopped")

/-- Takes the first thing that was forwarded. -/
def take (d : Device) : Device × Except IoError (Option UInt8) :=
  match d.forwarded with
  | .ok b :: rest => ({ d with forwarded := rest }, .ok (some b))
  | .error e :: rest => ({ d with forwarded := rest }, .error e)
  | [] => (d, if d.running then .ok none else .error (stoppedError d.path))

/-- Takes the first thing that was forwarded, by a reader that is never behind once it has
started. -/
def sample (now : Duration) (d : Device) : Device × Except IoError (Option UInt8) :=
  if d.opened < now then d.readAll.take else d.take

/-! ## Opening -/

/-- A device whose reader has yet to start. The reader opens it, and reads if that does not fail. -/
def ofSource (path : Path) (opened : Duration) (source : Except IoError (List DeviceRead)) :
    Device where
  path := path
  opened := opened
  reads := match source with
    | .ok reads => reads
    | .error _ => []
  reader := match source with
    | .ok _ => .opening none
    | .error e => .opening (some e)
  forwarded := []
  listening := true

/-- The greatest number of bytes that one read brings. -/
def readSize : Nat := 64

/-- The bytes of a file in reads. -/
def chunks : Nat → List UInt8 → List DeviceRead
  | 0, _ => []
  | _, [] => []
  | fuel + 1, bytes => .ok (bytes.take readSize) :: chunks fuel (bytes.drop readSize)

/-- Opens a device. A character device is opened as a serial line, which none of those here is.
A folder can be opened, but not read. -/
def «open» (fs : FileSystem) (path : Path) (now : Duration) : Except IoError Device :=
  match fs.node? path with
  | .error e => .error e
  | .ok (_, .device _) => .ok (ofSource path now (.error (.told "Not a typewriter")))
  | .ok (_, .folder _) => .ok (ofSource path now (.ok [.error .isADirectory]))
  | .ok (_, .link _) => .error .tooManyLinks
  | .ok (_, .file _ _ bytes) =>
    .ok (ofSource path now (.ok (chunks (bytes.size + 1) bytes.data.toList)))

/-- A device as a channel. -/
def channel : Channel Device where
  sample now d := d.sample now

end Device

end CoreTrial
