/-!
Counters of what a directory has done. They wrap around at 64 bits.
-/
namespace IdentityDirectory

structure Counters where
  requestsTotal : UInt64
  requestsMalformed : UInt64
  accessDenied : UInt64
  backendErrors : UInt64
  listsTruncated : UInt64
  responsesDropped : UInt64
  bytesSent : UInt64
  bytesReceived : UInt64
  connectionsTotal : UInt64
  connectionsActive : UInt64
  transportErrors : UInt64
  deriving DecidableEq, Repr, Inhabited

namespace Counters

def request (c : Counters) : Counters := { c with requestsTotal := c.requestsTotal + 1 }

def malformed (c : Counters) : Counters := { c with requestsMalformed := c.requestsMalformed + 1 }

def denied (c : Counters) : Counters := { c with accessDenied := c.accessDenied + 1 }

def backendError (c : Counters) : Counters := { c with backendErrors := c.backendErrors + 1 }

def listTruncated (c : Counters) : Counters := { c with listsTruncated := c.listsTruncated + 1 }

def responseDropped (c : Counters) : Counters := { c with responsesDropped := c.responsesDropped + 1 }

def bytesIn (n : UInt64) (c : Counters) : Counters := { c with bytesReceived := c.bytesReceived + n }

def bytesOut (n : UInt64) (c : Counters) : Counters := { c with bytesSent := c.bytesSent + n }

def connectionOpened (c : Counters) : Counters :=
  { c with
    connectionsTotal := c.connectionsTotal + 1
    connectionsActive := c.connectionsActive + 1 }

def connectionClosed (c : Counters) : Counters :=
  { c with connectionsActive := c.connectionsActive - 1 }

def transportError (c : Counters) : Counters := { c with transportErrors := c.transportErrors + 1 }

def entries (c : Counters) : List (String × UInt64) :=
  [("requests_total", c.requestsTotal),
   ("requests_malformed", c.requestsMalformed),
   ("access_denied", c.accessDenied),
   ("backend_errors", c.backendErrors),
   ("lists_truncated", c.listsTruncated),
   ("responses_dropped", c.responsesDropped),
   ("bytes_sent", c.bytesSent),
   ("bytes_received", c.bytesReceived),
   ("connections_total", c.connectionsTotal),
   ("connections_active", c.connectionsActive),
   ("transport_errors", c.transportErrors)]

def active (c : Counters) : List (String × UInt64) := c.entries.filter fun e => e.2 ≠ 0

def since (c old : Counters) : Counters where
  requestsTotal := c.requestsTotal - old.requestsTotal
  requestsMalformed := c.requestsMalformed - old.requestsMalformed
  accessDenied := c.accessDenied - old.accessDenied
  backendErrors := c.backendErrors - old.backendErrors
  listsTruncated := c.listsTruncated - old.listsTruncated
  responsesDropped := c.responsesDropped - old.responsesDropped
  bytesSent := c.bytesSent - old.bytesSent
  bytesReceived := c.bytesReceived - old.bytesReceived
  connectionsTotal := c.connectionsTotal - old.connectionsTotal
  connectionsActive := c.connectionsActive - old.connectionsActive
  transportErrors := c.transportErrors - old.transportErrors

end Counters
end IdentityDirectory
