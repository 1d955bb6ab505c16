import HostedFiles.Relay.Handling

/-!
# Relay/Hub — the settings and the peers that a message meets

A message sent through the hub is handled under the settings in force.  If it is tagged, its
companion is handed out to the peers connected at that moment; neither the settings nor the peers
change by it.
-/

namespace HostedFiles.Relay

/-- The settings in force and the connected peers. -/
structure Hub where
  config : Config
  roster : Roster

/-- A message sent: how it was handled, and its companion handed out if that was done. -/
structure Sending where
  handling : Handling
  fanOut : Option FanOut
  events : List Log.Event

/-- What peers received besides the message, with their names. -/
def Sending.received (s : Sending) : List (String × TagMessage) :=
  match s.fanOut with
  | some out => out.received
  | none => []

namespace Hub

/-- Sends a message for a user. -/
def send (hub : Hub) (runtime : Bool) (session : Session) (m : Message) : Sending :=
  let handling := handle hub.config session m
  match handling.verdict with
  | .tagged companion =>
    let (fanOut, events) := broadcast runtime hub.roster companion
    { handling, fanOut, events := handling.events ++ events }
  | .pass | .denied => { handling, fanOut := none, events := handling.events }

/-- Puts valid settings in force. -/
def replace (hub : Hub) (next : Config) : Except ConfigError Hub :=
  next.validate.map fun _ => { hub with config := next }

/-- A message is handled the same way whoever is connected. -/
theorem send_handling (hub : Hub) (runtime : Bool) (session : Session) (m : Message) :
    (hub.send runtime session m).handling = handle hub.config session m := by
  simp only [send]
  split <;> rfl

/-- **Peers receive something only beside a tagged message.** -/
theorem received_eq_nil {hub : Hub} {runtime : Bool} {session : Session} {m : Message}
    (h : ∀ companion, (handle hub.config session m).verdict ≠ .tagged companion) :
    (hub.send runtime session m).received = [] := by
  simp only [send]
  split
  · exact absurd ‹_› (h _)
  · rfl
  · rfl

end Hub

end HostedFiles.Relay
