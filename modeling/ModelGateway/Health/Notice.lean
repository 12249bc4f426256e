import ModelGateway.Text.Search

/-!
# Notices to the operator

What the operator is told when a channel goes out of use or comes back, and when all channels have
been tested.  Nobody waits for their delivery.
-/

namespace ModelGateway

structure Notice where
  title : String
  content : String
  deriving DecidableEq, Repr

namespace Notice

def channelLabel (id : Int) (name : String) : String :=
  "Channel " ++ name ++ " (#" ++ Text.ofInt id ++ ")"

def disabled (id : Int) (name reason : String) : Notice :=
  ⟨channelLabel id name ++ " disabled", channelLabel id name ++ " was disabled: " ++ reason⟩

def enabled (id : Int) (name : String) : Notice :=
  ⟨channelLabel id name ++ " enabled",
    channelLabel id name ++ " passed its test and was re-enabled"⟩

def allTested : Notice := ⟨"Channel test finished", "All channels have been tested"⟩

end Notice

end ModelGateway
