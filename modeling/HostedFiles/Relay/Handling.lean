import HostedFiles.Config.Basic
import HostedFiles.Link
import HostedFiles.Metadata
import HostedFiles.Relay.Message
import HostedFiles.Relay.Roster

/-!
# Relay/Handling — what happens to a message before it is delivered

A message with the public address in it is refused on a local connection that is not encrypted, if
the settings ask for that.  Otherwise the first link in it, if there is one, is announced: the
message gets a tag with the record of the file, and a companion message with that tag alone goes to
every peer that asked for such messages.
-/

namespace HostedFiles.Relay

/-- What is said to a user whose message is refused. -/
def refusalNotice : String :=
  "You cannot send FILEHOST URLs over a non-SSL connection. Please use an SSL connection."

/-- Whether a text must be refused.  Users of other servers are not checked here. -/
def refuses (c : Config) (session : Session) (text : String) : Bool :=
  c.requireSsl && session.isLocal && !session.isSecure &&
    Text.contains c.publicUrl.toList text.toList

/-- What the server is to do with a message. -/
inductive Verdict where
  /-- Deliver it as it is. -/
  | pass
  /-- Deliver it with the tag, and the companion to those who asked for it. -/
  | tagged (companion : TagMessage)
  /-- Do not deliver it. -/
  | denied
  deriving DecidableEq

/-- Whether a message is delivered. -/
def Verdict.isAllowed : Verdict → Bool
  | denied => false
  | _ => true

/-- A handled message. -/
structure Handling where
  verdict : Verdict
  message : Message
  notices : List String
  events : List Log.Event
  deriving DecidableEq

/-- The record of the first link of a text. -/
def announced? (c : Config) (text : String) : Option Metadata :=
  (Link.first? text c.publicUrl).map fun link => Metadata.ofLink link.url (some link.filename)

/-- Handles a message before it is delivered. -/
def handle (c : Config) (session : Session) (m : Message) : Handling :=
  if refuses c session m.text then
    { verdict := .denied, message := m, notices := [refusalNotice], events := [] }
  else match announced? c m.text with
    | none => { verdict := .pass, message := m, notices := [], events := [] }
    | some record =>
      match record.tag with
      | .error e =>
        { verdict := .pass, message := m, notices := [], events := [.linkNotTagged e.message] }
      | .ok tag =>
        let companion := { source := m.source, target := m.target, tags := [tag] }
        { verdict := .tagged companion, message := m.setTag tag, notices := [], events := [] }

/-- Hands a companion message out, if there is a runtime to do it. -/
def broadcast (runtime : Bool) (r : Roster) (companion : TagMessage) :
    Option FanOut × List Log.Event :=
  if runtime then
    let out := fanOut r.peers companion
    (some out, out.events)
  else (none, [.fanOutSkipped])

/-! ## What is published -/

/-- The key under which the public address is published. -/
def discoveryKey : String := "FILEHOST"

/-- What is published about the service. -/
def discovery (c : Config) : List (String × String) :=
  [(discoveryKey, c.publicUrl)]

end HostedFiles.Relay
