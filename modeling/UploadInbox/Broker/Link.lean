/-!
# The link to the broker

One connection with one channel serves every delivery. Before a delivery the link is used as it is,
gets a new channel, or is made anew, according to what is left of it.

Source: `BrokerLink`, and `LinkAction` with its `for_link`.
-/
namespace UploadInbox.Broker

structure Link where
  /-- Whether the connection is open. -/
  connected : Bool
  /-- Whether the channel is open. -/
  channelOpen : Bool
  deriving DecidableEq, Repr

/-- What a delivery does before it can use the link. -/
inductive LinkAction where
  | reuse | reopenChannel | reconnect
  deriving DecidableEq, Repr

/-- What has to be done with a link, if there is one. -/
def LinkAction.ofLink : Option Link → LinkAction
  | some ⟨true, true⟩ => reuse
  | some ⟨true, false⟩ => reopenChannel
  | some ⟨false, _⟩ | none => reconnect

inductive Loss where
  | nothing | channel | connection
  deriving DecidableEq, Repr

namespace Link

def opened : Link := ⟨true, true⟩

def after (link : Link) : Loss → Link
  | .nothing => link
  | .channel => { link with channelOpen := false }
  | .connection => ⟨false, false⟩

end Link
end UploadInbox.Broker
