/-
# System errors

Errors of the operating system and of input and output in general. The system
numbers its errors and has a phrase for each number; input and output sort errors
into kinds, whatever system they come from.
-/

namespace RpcBoundary

/-- The kinds of errors of input and output. -/
inductive IoKind
  | notFound
  | permissionDenied
  | connectionRefused
  | connectionReset
  | connectionAborted
  | notConnected
  | brokenPipe
  | timedOut
  | unexpectedEof
  | invalidData
  | interrupted
  | other
  deriving DecidableEq

namespace IoKind

/-- All kinds. -/
def all : List IoKind :=
  [notFound, permissionDenied, connectionRefused, connectionReset, connectionAborted,
    notConnected, brokenPipe, timedOut, unexpectedEof, invalidData, interrupted, other]

/-- The bare name of the kind. -/
def name : IoKind → String
  | notFound => "NotFound"
  | permissionDenied => "PermissionDenied"
  | connectionRefused => "ConnectionRefused"
  | connectionReset => "ConnectionReset"
  | connectionAborted => "ConnectionAborted"
  | notConnected => "NotConnected"
  | brokenPipe => "BrokenPipe"
  | timedOut => "TimedOut"
  | unexpectedEof => "UnexpectedEof"
  | invalidData => "InvalidData"
  | interrupted => "Interrupted"
  | other => "Other"

/-- What an error says of which nothing but the kind is known. -/
def text : IoKind → String
  | notFound => "entity not found"
  | permissionDenied => "permission denied"
  | connectionRefused => "connection refused"
  | connectionReset => "connection reset"
  | connectionAborted => "connection aborted"
  | notConnected => "not connected"
  | brokenPipe => "broken pipe"
  | timedOut => "timed out"
  | unexpectedEof => "unexpected end of file"
  | invalidData => "invalid data"
  | interrupted => "operation interrupted"
  | other => "other error"

/-- The kind that goes by a name. -/
def ofName? (name : String) : Option IoKind :=
  all.find? fun kind => kind.name == name

end IoKind

namespace SystemError

/-- The phrases of the system in the order of their numbers. -/
def phrases : List (Option String) :=
  [some "Success", some "Operation not permitted", some "No such file or directory",
    some "No such process", some "Interrupted system call", some "Input/output error",
    some "No such device or address", some "Argument list too long", some "Exec format error",
    some "Bad file descriptor", some "No child processes",
    some "Resource temporarily unavailable", some "Cannot allocate memory",
    some "Permission denied", some "Bad address", some "Block device required",
    some "Device or resource busy", some "File exists", some "Invalid cross-device link",
    some "No such device", some "Not a directory", some "Is a directory", some "Invalid argument",
    some "Too many open files in system", some "Too many open files",
    some "Inappropriate ioctl for device", some "Text file busy", some "File too large",
    some "No space left on device", some "Illegal seek", some "Read-only file system",
    some "Too many links", some "Broken pipe", some "Numerical argument out of domain",
    some "Numerical result out of range", some "Resource deadlock avoided",
    some "File name too long", some "No locks available", some "Function not implemented",
    some "Directory not empty", some "Too many levels of symbolic links", none,
    some "No message of desired type", some "Identifier removed",
    some "Channel number out of range", some "Level 2 not synchronized", some "Level 3 halted",
    some "Level 3 reset", some "Link number out of range", some "Protocol driver not attached",
    some "No CSI structure available", some "Level 2 halted", some "Invalid exchange",
    some "Invalid request descriptor", some "Exchange full", some "No anode",
    some "Invalid request code", some "Invalid slot", none, some "Bad font file format",
    some "Device not a stream", some "No data available", some "Timer expired",
    some "Out of streams resources", some "Machine is not on the network",
    some "Package not installed", some "Object is remote", some "Link has been severed",
    some "Advertise error", some "Srmount error", some "Communication error on send",
    some "Protocol error", some "Multihop attempted", some "RFS specific error",
    some "Bad message", some "Value too large for defined data type",
    some "Name not unique on network", some "File descriptor in bad state",
    some "Remote address changed", some "Can not access a needed shared library",
    some "Accessing a corrupted shared library", some ".lib section in a.out corrupted",
    some "Attempting to link in too many shared libraries",
    some "Cannot exec a shared library directly",
    some "Invalid or incomplete multibyte or wide character",
    some "Interrupted system call should be restarted", some "Streams pipe error",
    some "Too many users", some "Socket operation on non-socket",
    some "Destination address required", some "Message too long",
    some "Protocol wrong type for socket", some "Protocol not available",
    some "Protocol not supported", some "Socket type not supported",
    some "Operation not supported", some "Protocol family not supported",
    some "Address family not supported by protocol", some "Address already in use",
    some "Cannot assign requested address", some "Network is down", some "Network is unreachable",
    some "Network dropped connection on reset", some "Software caused connection abort",
    some "Connection reset by peer", some "No buffer space available",
    some "Transport endpoint is already connected", some "Transport endpoint is not connected",
    some "Cannot send after transport endpoint shutdown",
    some "Too many references: cannot splice", some "Connection timed out",
    some "Connection refused", some "Host is down", some "No route to host",
    some "Operation already in progress", some "Operation now in progress",
    some "Stale file handle", some "Structure needs cleaning", some "Not a XENIX named type file",
    some "No XENIX semaphores available", some "Is a named type file", some "Remote I/O error",
    some "Disk quota exceeded", some "No medium found", some "Wrong medium type",
    some "Operation canceled", some "Required key not available", some "Key has expired",
    some "Key has been revoked", some "Key was rejected by service", some "Owner died",
    some "State not recoverable", some "Operation not possible due to RF-kill",
    some "Memory page has hardware error"]

/-- The phrase for a number. -/
def phrase (number : Int) : String :=
  match number with
  | .ofNat n =>
    match phrases[n]? with
    | some (some phrase) => phrase
    | _ => "Unknown error " ++ toString n
  | .negSucc _ => "Unknown error " ++ toString number

/-- What an error with this number says. -/
def text (number : Int) : String :=
  phrase number ++ " (os error " ++ toString number ++ ")"

/-- The numbers of errors that belong to a kind, with the bare name of the kind. -/
def kindNames : List (Int × String) := [
  (1, "PermissionDenied"), (2, "NotFound"), (4, "Interrupted"), (5, "InputOutputError"),
  (7, "ArgumentListTooLong"), (11, "WouldBlock"), (12, "OutOfMemory"), (13, "PermissionDenied"),
  (16, "ResourceBusy"), (17, "AlreadyExists"), (18, "CrossesDevices"), (20, "NotADirectory"),
  (21, "IsADirectory"), (22, "InvalidInput"), (24, "TooManyOpenFiles"),
  (26, "ExecutableFileBusy"), (27, "FileTooLarge"), (28, "StorageFull"), (29, "NotSeekable"),
  (30, "ReadOnlyFilesystem"), (31, "TooManyLinks"), (32, "BrokenPipe"), (35, "Deadlock"),
  (36, "InvalidFilename"), (38, "Unsupported"), (39, "DirectoryNotEmpty"),
  (40, "FilesystemLoop"), (95, "Unsupported"), (98, "AddrInUse"), (99, "AddrNotAvailable"),
  (100, "NetworkDown"), (101, "NetworkUnreachable"), (103, "ConnectionAborted"),
  (104, "ConnectionReset"), (107, "NotConnected"), (110, "TimedOut"), (111, "ConnectionRefused"),
  (113, "HostUnreachable"), (115, "InProgress"), (116, "StaleNetworkFileHandle"),
  (122, "QuotaExceeded")]

/-- The name of the kind of the error with this number. -/
def kindName (number : Int) : String :=
  (kindNames.lookup number).getD "Uncategorized"

end SystemError

end RpcBoundary
