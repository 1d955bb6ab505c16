import HostedFiles.Tag

/-!
# Relay/Message — chat messages on their way out

A message has at most one tag of a key once it was set there: setting a tag drops those of its key
and puts it last.
-/

namespace HostedFiles.Relay

/-- The user for whom a message or a command is handled. -/
structure Session where
  /-- The account the user is logged in to. -/
  account : Option String
  source : String
  /-- Whether the user is connected to this server. -/
  isLocal : Bool
  /-- Whether the user's connection is encrypted. -/
  isSecure : Bool
  deriving DecidableEq

/-- A chat message before it is delivered. -/
structure Message where
  source : String
  target : String
  text : String
  tags : List Tag
  deriving DecidableEq

namespace Message

/-- The first tag of a key. -/
def tag? (m : Message) (key : String) : Option Tag :=
  m.tags.find? fun tag => tag.key == key

/-- The message with a tag in place of all tags of its key. -/
def setTag (m : Message) (tag : Tag) : Message :=
  { m with tags := (m.tags.filter fun other => other.key != tag.key) ++ [tag] }

/-- **A tag that was set is the one found under its key.** -/
theorem tag?_setTag (m : Message) (tag : Tag) : (m.setTag tag).tag? tag.key = some tag := by
  have hnone : (m.tags.filter fun other => other.key != tag.key).find?
      (fun other => other.key == tag.key) = none := by
    rw [List.find?_eq_none]
    intro other h
    simpa using (List.mem_filter.1 h).2
  simp [tag?, setTag, List.find?_append, hnone]

end Message

end HostedFiles.Relay
