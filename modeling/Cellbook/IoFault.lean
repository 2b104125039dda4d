/-!
# Faults of the outside world

What a store or a channel reports when it cannot do what was asked: a kind, by which callers tell
a missing file from other trouble, and a message.
-/

namespace Cellbook

/-- The kinds of trouble a store or a channel can meet. -/
inductive IoKind where
  | notFound | permissionDenied | connectionRefused | connectionReset | hostUnreachable
  | networkUnreachable | connectionAborted | notConnected | addrInUse | addrNotAvailable
  | networkDown | brokenPipe | alreadyExists | wouldBlock | notADirectory | isADirectory
  | directoryNotEmpty | readOnlyFilesystem | staleNetworkFileHandle | invalidInput | invalidData
  | timedOut | writeZero | storageFull | notSeekable | quotaExceeded | fileTooLarge
  | resourceBusy | executableFileBusy | deadlock | crossesDevices | tooManyLinks
  | invalidFilename | argumentListTooLong | interrupted | unsupported | unexpectedEof
  | outOfMemory | other
  deriving Repr, DecidableEq

/-- Trouble of some kind, with the message that tells it. -/
structure IoFault where
  kind : IoKind
  message : String
  deriving Repr, DecidableEq

end Cellbook
