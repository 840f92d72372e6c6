/-!
Errors of the operating system: a number from the system, or a kind with a text of its own.

The table gives each number its text and the kind it falls under.
-/

namespace TreeHaul.Os

/-- What went wrong, whatever the system's number for it. -/
inductive IoKind where
  | notFound | permissionDenied | connectionRefused | connectionReset | hostUnreachable
  | networkUnreachable | connectionAborted | notConnected | addrInUse | addrNotAvailable
  | networkDown | brokenPipe | alreadyExists | wouldBlock | notADirectory | isADirectory
  | directoryNotEmpty | readOnlyFilesystem | filesystemLoop | staleNetworkFileHandle
  | invalidInput | invalidData | timedOut | writeZero | storageFull | notSeekable | quotaExceeded
  | fileTooLarge | resourceBusy | executableFileBusy | deadlock | crossesDevices | tooManyLinks
  | invalidFilename | argumentListTooLong | interrupted | unsupported | unexpectedEof
  | outOfMemory | inProgress | inputOutputError | tooManyOpenFiles | other | uncategorized
  deriving DecidableEq, Repr

namespace IoKind

def name : IoKind → String
  | notFound => "NotFound"
  | permissionDenied => "PermissionDenied"
  | connectionRefused => "ConnectionRefused"
  | connectionReset => "ConnectionReset"
  | hostUnreachable => "HostUnreachable"
  | networkUnreachable => "NetworkUnreachable"
  | connectionAborted => "ConnectionAborted"
  | notConnected => "NotConnected"
  | addrInUse => "AddrInUse"
  | addrNotAvailable => "AddrNotAvailable"
  | networkDown => "NetworkDown"
  | brokenPipe => "BrokenPipe"
  | alreadyExists => "AlreadyExists"
  | wouldBlock => "WouldBlock"
  | notADirectory => "NotADirectory"
  | isADirectory => "IsADirectory"
  | directoryNotEmpty => "DirectoryNotEmpty"
  | readOnlyFilesystem => "ReadOnlyFilesystem"
  | filesystemLoop => "FilesystemLoop"
  | staleNetworkFileHandle => "StaleNetworkFileHandle"
  | invalidInput => "InvalidInput"
  | invalidData => "InvalidData"
  | timedOut => "TimedOut"
  | writeZero => "WriteZero"
  | storageFull => "StorageFull"
  | notSeekable => "NotSeekable"
  | quotaExceeded => "QuotaExceeded"
  | fileTooLarge => "FileTooLarge"
  | resourceBusy => "ResourceBusy"
  | executableFileBusy => "ExecutableFileBusy"
  | deadlock => "Deadlock"
  | crossesDevices => "CrossesDevices"
  | tooManyLinks => "TooManyLinks"
  | invalidFilename => "InvalidFilename"
  | argumentListTooLong => "ArgumentListTooLong"
  | interrupted => "Interrupted"
  | unsupported => "Unsupported"
  | unexpectedEof => "UnexpectedEof"
  | outOfMemory => "OutOfMemory"
  | inProgress => "InProgress"
  | inputOutputError => "InputOutputError"
  | tooManyOpenFiles => "TooManyOpenFiles"
  | other => "Other"
  | uncategorized => "Uncategorized"

def all : List IoKind := [
  notFound, permissionDenied, connectionRefused, connectionReset, hostUnreachable,
  networkUnreachable, connectionAborted, notConnected, addrInUse, addrNotAvailable, networkDown,
  brokenPipe, alreadyExists, wouldBlock, notADirectory, isADirectory, directoryNotEmpty,
  readOnlyFilesystem, filesystemLoop, staleNetworkFileHandle, invalidInput, invalidData, timedOut,
  writeZero, storageFull, notSeekable, quotaExceeded, fileTooLarge, resourceBusy,
  executableFileBusy, deadlock, crossesDevices, tooManyLinks, invalidFilename,
  argumentListTooLong, interrupted, unsupported, unexpectedEof, outOfMemory, inProgress,
  inputOutputError, tooManyOpenFiles, other, uncategorized]

def ofName? (s : String) : Option IoKind := all.find? (·.name == s)

end IoKind

namespace Errno

def perm : Int := 1
def noent : Int := 2
def io : Int := 5
def badf : Int := 9
def access : Int := 13
def busy : Int := 16
def exist : Int := 17
def notdir : Int := 20
def isdir : Int := 21
def inval : Int := 22
def fbig : Int := 27
def nametoolong : Int := 36
def notempty : Int := 39
def loop : Int := 40
def notsup : Int := 95

/-- Number, kind and text of every error that the system has a text for. -/
def table : List (Int × IoKind × String) := [
  (0, .uncategorized, "Success"),
  (1, .permissionDenied, "Operation not permitted"),
  (2, .notFound, "No such file or directory"),
  (3, .uncategorized, "No such process"),
  (4, .interrupted, "Interrupted system call"),
  (5, .inputOutputError, "Input/output error"),
  (6, .uncategorized, "No such device or address"),
  (7, .argumentListTooLong, "Argument list too long"),
  (8, .uncategorized, "Exec format error"),
  (9, .uncategorized, "Bad file descriptor"),
  (10, .uncategorized, "No child processes"),
  (11, .wouldBlock, "Resource temporarily unavailable"),
  (12, .outOfMemory, "Cannot allocate memory"),
  (13, .permissionDenied, "Permission denied"),
  (14, .uncategorized, "Bad address"),
  (15, .uncategorized, "Block device required"),
  (16, .resourceBusy, "Device or resource busy"),
  (17, .alreadyExists, "File exists"),
  (18, .crossesDevices, "Invalid cross-device link"),
  (19, .uncategorized, "No such device"),
  (20, .notADirectory, "Not a directory"),
  (21, .isADirectory, "Is a directory"),
  (22, .invalidInput, "Invalid argument"),
  (23, .tooManyOpenFiles, "Too many open files in system"),
  (24, .tooManyOpenFiles, "Too many open files"),
  (25, .uncategorized, "Inappropriate ioctl for device"),
  (26, .executableFileBusy, "Text file busy"),
  (27, .fileTooLarge, "File too large"),
  (28, .storageFull, "No space left on device"),
  (29, .notSeekable, "Illegal seek"),
  (30, .readOnlyFilesystem, "Read-only file system"),
  (31, .tooManyLinks, "Too many links"),
  (32, .brokenPipe, "Broken pipe"),
  (33, .uncategorized, "Numerical argument out of domain"),
  (34, .uncategorized, "Numerical result out of range"),
  (35, .deadlock, "Resource deadlock avoided"),
  (36, .invalidFilename, "File name too long"),
  (37, .uncategorized, "No locks available"),
  (38, .unsupported, "Function not implemented"),
  (39, .directoryNotEmpty, "Directory not empty"),
  (40, .filesystemLoop, "Too many levels of symbolic links"),
  (42, .uncategorized, "No message of desired type"),
  (43, .uncategorized, "Identifier removed"),
  (44, .uncategorized, "Channel number out of range"),
  (45, .uncategorized, "Level 2 not synchronized"),
  (46, .uncategorized, "Level 3 halted"),
  (47, .uncategorized, "Level 3 reset"),
  (48, .uncategorized, "Link number out of range"),
  (49, .uncategorized, "Protocol driver not attached"),
  (50, .uncategorized, "No CSI structure available"),
  (51, .uncategorized, "Level 2 halted"),
  (52, .uncategorized, "Invalid exchange"),
  (53, .uncategorized, "Invalid request descriptor"),
  (54, .uncategorized, "Exchange full"),
  (55, .uncategorized, "No anode"),
  (56, .uncategorized, "Invalid request code"),
  (57, .uncategorized, "Invalid slot"),
  (59, .uncategorized, "Bad font file format"),
  (60, .uncategorized, "Device not a stream"),
  (61, .uncategorized, "No data available"),
  (62, .uncategorized, "Timer expired"),
  (63, .uncategorized, "Out of streams resources"),
  (64, .uncategorized, "Machine is not on the network"),
  (65, .uncategorized, "Package not installed"),
  (66, .uncategorized, "Object is remote"),
  (67, .uncategorized, "Link has been severed"),
  (68, .uncategorized, "Advertise error"),
  (69, .uncategorized, "Srmount error"),
  (70, .uncategorized, "Communication error on send"),
  (71, .uncategorized, "Protocol error"),
  (72, .uncategorized, "Multihop attempted"),
  (73, .uncategorized, "RFS specific error"),
  (74, .uncategorized, "Bad message"),
  (75, .uncategorized, "Value too large for defined data type"),
  (76, .uncategorized, "Name not unique on network"),
  (77, .uncategorized, "File descriptor in bad state"),
  (78, .uncategorized, "Remote address changed"),
  (79, .uncategorized, "Can not access a needed shared library"),
  (80, .uncategorized, "Accessing a corrupted shared library"),
  (81, .uncategorized, ".lib section in a.out corrupted"),
  (82, .uncategorized, "Attempting to link in too many shared libraries"),
  (83, .uncategorized, "Cannot exec a shared library directly"),
  (84, .uncategorized, "Invalid or incomplete multibyte or wide character"),
  (85, .uncategorized, "Interrupted system call should be restarted"),
  (86, .uncategorized, "Streams pipe error"),
  (87, .uncategorized, "Too many users"),
  (88, .uncategorized, "Socket operation on non-socket"),
  (89, .uncategorized, "Destination address required"),
  (90, .uncategorized, "Message too long"),
  (91, .uncategorized, "Protocol wrong type for socket"),
  (92, .uncategorized, "Protocol not available"),
  (93, .uncategorized, "Protocol not supported"),
  (94, .uncategorized, "Socket type not supported"),
  (95, .unsupported, "Operation not supported"),
  (96, .uncategorized, "Protocol family not supported"),
  (97, .uncategorized, "Address family not supported by protocol"),
  (98, .addrInUse, "Address already in use"),
  (99, .addrNotAvailable, "Cannot assign requested address"),
  (100, .networkDown, "Network is down"),
  (101, .networkUnreachable, "Network is unreachable"),
  (102, .uncategorized, "Network dropped connection on reset"),
  (103, .connectionAborted, "Software caused connection abort"),
  (104, .connectionReset, "Connection reset by peer"),
  (105, .uncategorized, "No buffer space available"),
  (106, .uncategorized, "Transport endpoint is already connected"),
  (107, .notConnected, "Transport endpoint is not connected"),
  (108, .uncategorized, "Cannot send after transport endpoint shutdown"),
  (109, .uncategorized, "Too many references: cannot splice"),
  (110, .timedOut, "Connection timed out"),
  (111, .connectionRefused, "Connection refused"),
  (112, .uncategorized, "Host is down"),
  (113, .hostUnreachable, "No route to host"),
  (114, .uncategorized, "Operation already in progress"),
  (115, .inProgress, "Operation now in progress"),
  (116, .staleNetworkFileHandle, "Stale file handle"),
  (117, .uncategorized, "Structure needs cleaning"),
  (118, .uncategorized, "Not a XENIX named type file"),
  (119, .uncategorized, "No XENIX semaphores available"),
  (120, .uncategorized, "Is a named type file"),
  (121, .uncategorized, "Remote I/O error"),
  (122, .quotaExceeded, "Disk quota exceeded"),
  (123, .uncategorized, "No medium found"),
  (124, .uncategorized, "Wrong medium type"),
  (125, .uncategorized, "Operation canceled"),
  (126, .uncategorized, "Required key not available"),
  (127, .uncategorized, "Key has expired"),
  (128, .uncategorized, "Key has been revoked"),
  (129, .uncategorized, "Key was rejected by service"),
  (130, .uncategorized, "Owner died"),
  (131, .uncategorized, "State not recoverable"),
  (132, .uncategorized, "Operation not possible due to RF-kill"),
  (133, .uncategorized, "Memory page has hardware error")]

def row? (n : Int) : Option (IoKind × String) := table.lookup n

def kind (n : Int) : IoKind :=
  match row? n with
  | some (k, _) => k
  | none => .uncategorized

/-- The text of an error number, with the number after it. -/
def text (n : Int) : String :=
  (match row? n with
    | some (_, t) => t
    | none => "Unknown error " ++ toString n) ++ " (os error " ++ toString n ++ ")"

end Errno

/-- An error that a call to the system ends with. -/
inductive IoError where
  /-- The system's own number. -/
  | raw (errno : Int)
  /-- An error found before or after the call, which has no number. -/
  | plain (kind : IoKind) (text : String)
  deriving DecidableEq, Repr

namespace IoError

def kind : IoError → IoKind
  | raw n => Errno.kind n
  | plain k _ => k

def errno? : IoError → Option Int
  | raw n => some n
  | plain _ _ => none

def message : IoError → String
  | raw n => Errno.text n
  | plain _ t => t

/-- A path with a NUL in it cannot be handed to the system. -/
def nulInPath : IoError := plain .invalidInput "file name contained an unexpected NUL byte"

def notUtf8 : IoError := plain .invalidData "stream did not contain valid UTF-8"

def noAccessMode : IoError :=
  plain .invalidInput "must specify at least one of read, write, or append access"

def createWithoutWrite : IoError :=
  plain .invalidInput "creating or truncating a file requires write or append access"

end IoError

end TreeHaul.Os
