import VolumeNode.Errno

/-!
# Failed file operations

A file operation fails with an error number of the kernel, with a kind alone, or with a kind and a
message. Main statement: `isNotFound_os_iff`: of all error numbers only 2 is the kind "not found".
-/

namespace VolumeNode

/-- The kinds of failed file operations. -/
inductive FaultKind where
  | addrInUse
  | addrNotAvailable
  | alreadyExists
  | argumentListTooLong
  | brokenPipe
  | connectionAborted
  | connectionRefused
  | connectionReset
  | crossesDevices
  | deadlock
  | directoryNotEmpty
  | executableFileBusy
  | fileTooLarge
  | filesystemLoop
  | hostUnreachable
  | inProgress
  | interrupted
  | invalidData
  | invalidFilename
  | invalidInput
  | isADirectory
  | networkDown
  | networkUnreachable
  | notADirectory
  | notConnected
  | notFound
  | notSeekable
  | other
  | outOfMemory
  | permissionDenied
  | quotaExceeded
  | readOnlyFilesystem
  | resourceBusy
  | staleNetworkFileHandle
  | storageFull
  | timedOut
  | tooManyLinks
  | uncategorized
  | unexpectedEof
  | unsupported
  | wouldBlock
  | writeZero
  deriving DecidableEq, Repr

namespace FaultKind

/-- All kinds. -/
def all : List FaultKind :=
  [addrInUse, addrNotAvailable, alreadyExists, argumentListTooLong, brokenPipe,
   connectionAborted, connectionRefused, connectionReset, crossesDevices, deadlock,
   directoryNotEmpty, executableFileBusy, fileTooLarge, filesystemLoop, hostUnreachable,
   inProgress, interrupted, invalidData, invalidFilename, invalidInput, isADirectory,
   networkDown, networkUnreachable, notADirectory, notConnected, notFound, notSeekable,
   other, outOfMemory, permissionDenied, quotaExceeded, readOnlyFilesystem, resourceBusy,
   staleNetworkFileHandle, storageFull, timedOut, tooManyLinks, uncategorized, unexpectedEof,
   unsupported, wouldBlock, writeZero]

/-- The name of a kind. -/
def name : FaultKind → String
  | addrInUse => "AddrInUse"
  | addrNotAvailable => "AddrNotAvailable"
  | alreadyExists => "AlreadyExists"
  | argumentListTooLong => "ArgumentListTooLong"
  | brokenPipe => "BrokenPipe"
  | connectionAborted => "ConnectionAborted"
  | connectionRefused => "ConnectionRefused"
  | connectionReset => "ConnectionReset"
  | crossesDevices => "CrossesDevices"
  | deadlock => "Deadlock"
  | directoryNotEmpty => "DirectoryNotEmpty"
  | executableFileBusy => "ExecutableFileBusy"
  | fileTooLarge => "FileTooLarge"
  | filesystemLoop => "FilesystemLoop"
  | hostUnreachable => "HostUnreachable"
  | inProgress => "InProgress"
  | interrupted => "Interrupted"
  | invalidData => "InvalidData"
  | invalidFilename => "InvalidFilename"
  | invalidInput => "InvalidInput"
  | isADirectory => "IsADirectory"
  | networkDown => "NetworkDown"
  | networkUnreachable => "NetworkUnreachable"
  | notADirectory => "NotADirectory"
  | notConnected => "NotConnected"
  | notFound => "NotFound"
  | notSeekable => "NotSeekable"
  | other => "Other"
  | outOfMemory => "OutOfMemory"
  | permissionDenied => "PermissionDenied"
  | quotaExceeded => "QuotaExceeded"
  | readOnlyFilesystem => "ReadOnlyFilesystem"
  | resourceBusy => "ResourceBusy"
  | staleNetworkFileHandle => "StaleNetworkFileHandle"
  | storageFull => "StorageFull"
  | timedOut => "TimedOut"
  | tooManyLinks => "TooManyLinks"
  | uncategorized => "Uncategorized"
  | unexpectedEof => "UnexpectedEof"
  | unsupported => "Unsupported"
  | wouldBlock => "WouldBlock"
  | writeZero => "WriteZero"

/-- The wording of a kind alone. -/
def message : FaultKind → String
  | addrInUse => "address in use"
  | addrNotAvailable => "address not available"
  | alreadyExists => "entity already exists"
  | argumentListTooLong => "argument list too long"
  | brokenPipe => "broken pipe"
  | connectionAborted => "connection aborted"
  | connectionRefused => "connection refused"
  | connectionReset => "connection reset"
  | crossesDevices => "cross-device link or rename"
  | deadlock => "deadlock"
  | directoryNotEmpty => "directory not empty"
  | executableFileBusy => "executable file busy"
  | fileTooLarge => "file too large"
  | filesystemLoop => "filesystem loop or indirection limit (e.g. symlink loop)"
  | hostUnreachable => "host unreachable"
  | inProgress => "in progress"
  | interrupted => "operation interrupted"
  | invalidData => "invalid data"
  | invalidFilename => "invalid filename"
  | invalidInput => "invalid input parameter"
  | isADirectory => "is a directory"
  | networkDown => "network down"
  | networkUnreachable => "network unreachable"
  | notADirectory => "not a directory"
  | notConnected => "not connected"
  | notFound => "entity not found"
  | notSeekable => "seek on unseekable file"
  | other => "other error"
  | outOfMemory => "out of memory"
  | permissionDenied => "permission denied"
  | quotaExceeded => "quota exceeded"
  | readOnlyFilesystem => "read-only filesystem or storage medium"
  | resourceBusy => "resource busy"
  | staleNetworkFileHandle => "stale network file handle"
  | storageFull => "no storage space"
  | timedOut => "timed out"
  | tooManyLinks => "too many links"
  | uncategorized => "uncategorized error"
  | unexpectedEof => "unexpected end of file"
  | unsupported => "unsupported"
  | wouldBlock => "operation would block"
  | writeZero => "write zero"

/-- The kind of the given name. -/
def ofName? (s : String) : Option FaultKind :=
  all.find? (·.name == s)

/-- The kind of an error number. -/
def ofErrno (e : Errno) : FaultKind :=
  match e.code with
  | 1 => permissionDenied
  | 2 => notFound
  | 4 => interrupted
  | 7 => argumentListTooLong
  | 11 => wouldBlock
  | 12 => outOfMemory
  | 13 => permissionDenied
  | 16 => resourceBusy
  | 17 => alreadyExists
  | 18 => crossesDevices
  | 20 => notADirectory
  | 21 => isADirectory
  | 22 => invalidInput
  | 26 => executableFileBusy
  | 27 => fileTooLarge
  | 28 => storageFull
  | 29 => notSeekable
  | 30 => readOnlyFilesystem
  | 31 => tooManyLinks
  | 32 => brokenPipe
  | 35 => deadlock
  | 36 => invalidFilename
  | 38 => unsupported
  | 39 => directoryNotEmpty
  | 40 => filesystemLoop
  | 95 => unsupported
  | 98 => addrInUse
  | 99 => addrNotAvailable
  | 100 => networkDown
  | 101 => networkUnreachable
  | 103 => connectionAborted
  | 104 => connectionReset
  | 107 => notConnected
  | 110 => timedOut
  | 111 => connectionRefused
  | 113 => hostUnreachable
  | 115 => inProgress
  | 116 => staleNetworkFileHandle
  | 122 => quotaExceeded
  | _ => uncategorized

end FaultKind

/-- A failed file operation. -/
inductive FileError where
  | os (e : Errno)
  | kind (k : FaultKind)
  | custom (k : FaultKind) (message : String)
  deriving DecidableEq, Repr

namespace FileError

/-- The kind of a failure. -/
def faultKind : FileError → FaultKind
  | .os e => FaultKind.ofErrno e
  | .kind k => k
  | .custom k _ => k

/-- The wording of a failure. -/
def message : FileError → String
  | .os e => e.systemText
  | .kind k => k.message
  | .custom _ m => m

/-- A name that holds the character NUL is no name of a file. -/
def nulInName : FileError :=
  .custom .invalidInput "file name contained an unexpected NUL byte"

/-- Whether nothing was found at the place. -/
def isNotFound (e : FileError) : Bool :=
  e.faultKind == .notFound

/-- Of all error numbers only 2 is the kind "not found". -/
theorem isNotFound_os_iff {e : Errno} : (os e).isNotFound = true ↔ e = Errno.noEntry := by
  obtain ⟨c⟩ := e
  simp only [isNotFound, faultKind, FaultKind.ofErrno, beq_iff_eq, Errno.noEntry, Errno.mk.injEq]
  split <;> simp_all

end FileError

end VolumeNode
