import HostedFiles.Log
import HostedFiles.Tag

/-!
# Relay/Roster — the connected peers

At most one peer of each name is connected; connecting another one of that name takes its place.
`fanOut` hands a message to every peer that asked for such messages, whatever becomes of the others.
-/

namespace HostedFiles.Relay

/-- What peers ask for to receive tags about files. -/
def capability : String := "draft/filehost"

/-- Why a peer did not get a message. -/
inductive PeerError where
  | disconnected
  | notSent (problem : String)
  deriving DecidableEq

/-- The reason in words. -/
def PeerError.message : PeerError → String
  | disconnected => "Peer disconnected"
  | notSent problem => "Send failed: " ++ problem

/-- A connected client. -/
structure Peer where
  id : String
  /-- What it asked for. -/
  capabilities : List String
  /-- What becomes of a message sent to it. -/
  sending : Except PeerError Unit

/-- Whether a peer asked for messages about files. -/
def Peer.isCapable (peer : Peer) : Bool :=
  peer.capabilities.contains capability

/-- The connected peers in the order in which they connected. -/
structure Roster where
  peers : List Peer

namespace Roster

/-- No peers. -/
def empty : Roster := ⟨[]⟩

/-- The roster without the peer of a name. -/
def disconnect (r : Roster) (id : String) : Roster :=
  ⟨r.peers.filter fun peer => peer.id != id⟩

/-- The roster with one more peer, in place of the one of its name. -/
def connect (r : Roster) (peer : Peer) : Roster :=
  ⟨(r.disconnect peer.id).peers ++ [peer]⟩

/-- Whether a peer of a name is connected. -/
def has (r : Roster) (id : String) : Bool :=
  r.peers.any fun peer => peer.id == id

/-- The peer of a name. -/
def get? (r : Roster) (id : String) : Option Peer :=
  r.peers.find? fun peer => peer.id == id

/-- How many peers are connected. -/
def size (r : Roster) : Nat :=
  r.peers.length

/-- The names of the connected peers, sorted. -/
def ids (r : Roster) : List String :=
  (r.peers.map Peer.id).mergeSort fun a b => decide (a ≤ b)

end Roster

/-! ## Handing out a message -/

/-- How a message fared. -/
structure Report where
  delivered : Nat
  failed : Nat
  /-- Peers that did not ask for it. -/
  skipped : Nat
  deriving DecidableEq

/-- A message handed out: how it fared, to whom it was handed, and what is worth a line. -/
structure FanOut where
  report : Report
  handed : List (Peer × TagMessage)
  events : List Log.Event

/-- What peers received, with their names. -/
def FanOut.received (out : FanOut) : List (String × TagMessage) :=
  out.handed.filterMap fun h =>
    match h.1.sending with
    | .ok () => some (h.1.id, h.2)
    | .error _ => none

/-- The line that a failed sending is worth. -/
def Peer.failure? (peer : Peer) : Option Log.Event :=
  match peer.sending with
  | .ok () => none
  | .error e => some (.deliveryFailed peer.id e.message)

/-- Hands a message to every peer that asked for such messages. -/
def fanOut (peers : List Peer) (message : TagMessage) : FanOut :=
  let capable := peers.filter Peer.isCapable
  let failures := capable.filterMap Peer.failure?
  { report :=
      { delivered := (capable.filter fun peer => peer.sending.isOk).length
        failed := failures.length
        skipped := (peers.filter fun peer => !peer.isCapable).length }
    handed := capable.map fun peer => (peer, message)
    events := failures }

end HostedFiles.Relay
