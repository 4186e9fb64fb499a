import ArrayWatch.CmcServer.Basic
import ArrayWatch.CorrelatorArray.Run

/-!
# CMC servers at work

What the messages on the channel of a CMC do, and the steps of a monitor: receiving from every
channel, handing requests over, and opening a lost connection again.
-/

namespace ArrayWatch.CmcServer

variable {ν : Type} [Network ν]

/-! ## Events -/

/-- Confirms the announced array, or starts to track it. -/
def listArray (s : CmcServer) (spec : Announcement) (net : ν) : CmcServer × ν :=
  match s.array? spec.name with
  | some _ => (s.confirmArray spec.name, net)
  | none =>
    let (a, net) := CorrelatorArray.openLinks spec s.address s.plan s.maxRetries net
    ({ s with arrays := insertArray a s.arrays }, net)

/-- What an inform does. -/
def inform (s : CmcServer) (m : Message) (w : World ν) : CmcServer × World ν :=
  match m.name? with
  | none => (s, w)
  | some name =>
    let w := w.count (·.informReceived name)
    if name = arrayListName then
      match Announcement.ofInform m with
      | .ok spec =>
        let (s, net) := s.listArray spec w.net
        (s, { w with net })
      | .error _ => (s, w.count (·.malformed "array_list" 1))
    else (s, w)

/-- Whether a reply ends the list of arrays. -/
def endsArrayList (reply : Message) : Bool :=
  reply.name? == some arrayListName && reply.isOkReply

/-- What a reply does. -/
def reply (s : CmcServer) (request answer : Message) (metrics : Metrics) : CmcServer × Metrics :=
  let metrics := metrics.recordReply request answer
  if endsArrayList answer then
    let (s, count) := s.pruneSuspects
    (s, if count = 0 then metrics else metrics.pruned count)
  else (s, metrics)

/-- What an event on the channel does. -/
def event (s : CmcServer) (w : World ν) : ChannelEvent → CmcServer × World ν
  | .inform m => s.inform m w
  | .reply request answer =>
    let (s, metrics) := s.reply request answer w.metrics
    (s, { w with metrics })

def events (s : CmcServer) (w : World ν) : List ChannelEvent → CmcServer × World ν
  | [] => (s, w)
  | first :: rest =>
    let (s, w) := s.event w first
    s.events w rest

/-! ## Steps -/

/-- Starts to connect to a CMC. -/
def start (address : String) (port : UInt16) (plan : Plan) (maxRetries : UInt32) (net : ν) :
    CmcServer × ν :=
  let (link, net) := Network.openLink address port net
  (.ofLink address port plan maxRetries link, net)

/-- Takes everything that came since the last time: first what came for the arrays, then what came
from the CMC itself. -/
def receive (s : CmcServer) (now : Timestamp) (w : World ν) : CmcServer × World ν :=
  let (arrays, w) := World.each (·.receive now ·) s.arrays w
  let s := { s with arrays }.dropUnopened
  let (channel, received, net) := s.channel.read w.net
  { s with channel }.events { w with net } received

/-- Hands requests over: those of the CMC first, then those of each array. -/
def flush (s : CmcServer) (w : World ν) : CmcServer × World ν :=
  let (channel, w) := s.channel.flush w
  let (arrays, w) := World.each (·.flush ·) s.arrays w
  ({ s with channel, arrays }, w)

/-- Opens a lost connection again, and says whether there was one to open. The arrays stay until the
next list. -/
def reconnect (s : CmcServer) (w : World ν) : Bool × CmcServer × World ν :=
  if s.channel.isDisconnected then
    let (link, net) := Network.openLink s.address s.port w.net
    (true,
      { s with channel := s.channel.reset link seed, reconnects := s.reconnects + 1 },
      { net, metrics := w.metrics.reconnected })
  else (false, s, w)

end ArrayWatch.CmcServer
