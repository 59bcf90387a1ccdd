namespace Passage

inductive IoKind where
  | unexpectedEof
  | connectionReset
  | connectionAborted
  | brokenPipe
  | connectionRefused
  | networkUnreachable
  | timedOut
  | notConnected
  | notFound
  | writeZero
  | invalidData
  | unsupported
  | other
  deriving DecidableEq

/-- A failed stream operation; a `detail` is worded by whoever reports it. -/
structure IoFault where
  kind : IoKind
  detail : Option String := none
  deriving DecidableEq

def IoKind.text : IoKind → String
  | .unexpectedEof => "unexpected end of file"
  | .connectionReset => "connection reset"
  | .connectionAborted => "connection aborted"
  | .brokenPipe => "broken pipe"
  | .connectionRefused => "connection refused"
  | .networkUnreachable => "network unreachable"
  | .timedOut => "timed out"
  | .notConnected => "not connected"
  | .notFound => "entity not found"
  | .writeZero => "write zero"
  | .invalidData => "invalid data"
  | .unsupported => "unsupported"
  | .other => "other error"

namespace IoFault

def text (fault : IoFault) : String :=
  fault.detail.getD fault.kind.text

/-- Whether the peer closed the stream or the stream was cut. -/
def isClosed (fault : IoFault) : Bool :=
  match fault.kind with
  | .unexpectedEof | .connectionReset | .connectionAborted | .brokenPipe => true
  | _ => false

def refused : IoFault :=
  ⟨.connectionRefused, some "Connection refused (os error 111)"⟩

def unreachable : IoFault :=
  ⟨.networkUnreachable, some "Network is unreachable (os error 101)"⟩

def missingFile : IoFault :=
  ⟨.notFound, some "No such file or directory (os error 2)"⟩

end IoFault
end Passage
