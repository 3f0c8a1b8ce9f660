/-!
# Errors

What calls on connections, sessions and transports fail with. An I/O error has a kind and either a
text of its own or the description of its kind; two errors are equal when nobody could tell them
apart by variant, text and kind.
-/

namespace BrokerClient

inductive IoKind where
  | notFound | permissionDenied | connectionRefused | connectionReset | hostUnreachable
  | networkUnreachable | connectionAborted | notConnected | addrInUse | addrNotAvailable
  | networkDown | brokenPipe | alreadyExists | wouldBlock | notADirectory | isADirectory
  | directoryNotEmpty | readOnlyFilesystem | filesystemLoop | staleNetworkFileHandle | invalidInput
  | invalidData | timedOut | writeZero | storageFull | notSeekable | quotaExceeded | fileTooLarge
  | resourceBusy | executableFileBusy | deadlock | crossesDevices | tooManyLinks | invalidFilename
  | argumentListTooLong | interrupted | unsupported | unexpectedEof | outOfMemory | inProgress
  | other | uncategorized
  deriving DecidableEq, Repr

def IoKind.description : IoKind → String
  | notFound => "entity not found"
  | permissionDenied => "permission denied"
  | connectionRefused => "connection refused"
  | connectionReset => "connection reset"
  | hostUnreachable => "host unreachable"
  | networkUnreachable => "network unreachable"
  | connectionAborted => "connection aborted"
  | notConnected => "not connected"
  | addrInUse => "address in use"
  | addrNotAvailable => "address not available"
  | networkDown => "network down"
  | brokenPipe => "broken pipe"
  | alreadyExists => "entity already exists"
  | wouldBlock => "operation would block"
  | notADirectory => "not a directory"
  | isADirectory => "is a directory"
  | directoryNotEmpty => "directory not empty"
  | readOnlyFilesystem => "read-only filesystem or storage medium"
  | filesystemLoop => "filesystem loop or indirection limit (e.g. symlink loop)"
  | staleNetworkFileHandle => "stale network file handle"
  | invalidInput => "invalid input parameter"
  | invalidData => "invalid data"
  | timedOut => "timed out"
  | writeZero => "write zero"
  | storageFull => "no storage space"
  | notSeekable => "seek on unseekable file"
  | quotaExceeded => "quota exceeded"
  | fileTooLarge => "file too large"
  | resourceBusy => "resource busy"
  | executableFileBusy => "executable file busy"
  | deadlock => "deadlock"
  | crossesDevices => "cross-device link or rename"
  | tooManyLinks => "too many links"
  | invalidFilename => "invalid filename"
  | argumentListTooLong => "argument list too long"
  | interrupted => "operation interrupted"
  | unsupported => "unsupported"
  | unexpectedEof => "unexpected end of file"
  | outOfMemory => "out of memory"
  | inProgress => "in progress"
  | other => "other error"
  | uncategorized => "uncategorized error"

/-- An I/O error, bare or with a text of its own. -/
structure IoError where
  kind : IoKind
  detail : Option String
  deriving DecidableEq, Repr

def IoError.message (e : IoError) : String :=
  e.detail.getD e.kind.description

inductive TransportError where
  | alreadyClosed
  | shutdownSignal (reason : String)
  | io (error : IoError)
  deriving DecidableEq, Repr

namespace TransportError

def message : TransportError → String
  | alreadyClosed => "Transport already closed"
  | shutdownSignal reason => "Shutdown signal received: " ++ reason
  | io e => "Transport I/O error: " ++ e.message

/-- Errors that a close takes for success, because the transport is down as it should be. -/
def isBenignOnClose : TransportError → Bool
  | alreadyClosed => true
  | shutdownSignal _ => true
  | io _ => false

end TransportError

/-- What the calls of this library fail with. -/
inductive MessagingError where
  | illegalState (text : String)
  | invalidClientId (text : String)
  | unsupported (text : String)
  | transport (error : IoError)
  | invalidDestination (text : String)
  | untrustedPayload (typeName : String)
  | serialization (text : String)
  | config (text : String)
  deriving DecidableEq, Repr

namespace MessagingError

def message : MessagingError → String
  | illegalState s => "Illegal state: " ++ s
  | invalidClientId s => "Invalid client ID: " ++ s
  | unsupported s => "Unsupported operation: " ++ s
  | transport e => "Transport failure: " ++ e.message
  | invalidDestination s => "Invalid destination: " ++ s
  | untrustedPayload s => "Untrusted payload type '" ++ s ++ "'"
  | serialization s => "Serialization error: " ++ s
  | config s => "Configuration error: " ++ s

/-- Two errors are the same to an observer: the same variant with the same text and, for transport
errors, the same kind. How an I/O error came by its text does not count. -/
def same : MessagingError → MessagingError → Bool
  | illegalState a, illegalState b => a == b
  | invalidClientId a, invalidClientId b => a == b
  | unsupported a, unsupported b => a == b
  | transport a, transport b => a.kind == b.kind && a.message == b.message
  | invalidDestination a, invalidDestination b => a == b
  | untrustedPayload a, untrustedPayload b => a == b
  | serialization a, serialization b => a == b
  | config a, config b => a == b
  | _, _ => false

/-- A copy of an error. The copy of a transport error shares its I/O error. -/
def clone : MessagingError → MessagingError
  | illegalState s => illegalState s
  | invalidClientId s => invalidClientId s
  | unsupported s => unsupported s
  | transport e => transport e
  | invalidDestination s => invalidDestination s
  | untrustedPayload s => untrustedPayload s
  | serialization s => serialization s
  | config s => config s

def ofIo (e : IoError) : MessagingError := transport e

/-- A transport error as an error of this library. All but I/O errors become an I/O error of their
own text. -/
def ofTransport : TransportError → MessagingError
  | .io e => transport e
  | e => transport ⟨.notConnected, some e.message⟩

def connectionClosed : MessagingError := illegalState "Connection is closed"
def sessionClosed : MessagingError := illegalState "Session is closed"

end MessagingError

end BrokerClient
