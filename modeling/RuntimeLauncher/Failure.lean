import RuntimeLauncher.Text.Character

/-!
# Failures of the operating system

Reading a file, listing a directory, writing to a stream and replacing the process can all fail.
A failure is either a numbered error of the system or a refusal made before the system is asked.

## Main Definitions

* `Failure` — the causes
* `Failure.message` — the wording
* `Failure.code?` — the number of the system's error, where there is one
* `Failure.detail` — the form used when a failure is logged for the maintainer

## Design Notes

The texts of the numbered errors are those of a Linux system. A number without a text of its own is
still a possible cause, since the caller may hand over any number.
-/

namespace RuntimeLauncher

/-- Why an operation on the system failed. -/
inductive Failure where
  /-- An error that the system reports by number. -/
  | system (code : Int)
  /-- A file was to be read as text and is not UTF-8. -/
  | invalidUtf8
  /-- A path holds a null character. -/
  | nullInPath
  /-- A program name or an argument holds a null character. -/
  | nullInArgument
  /-- A failure that is known by its text only. -/
  | other (text : String)
deriving DecidableEq

namespace Failure

/-- No such file or directory. -/
def notFound : Failure := .system 2

/-- Argument list too long. -/
def argumentsTooLong : Failure := .system 7

/-- The file is no program. -/
def notExecutable : Failure := .system 8

/-- Permission denied. -/
def denied : Failure := .system 13

/-- Something other than a directory stands where a directory is needed. -/
def notDirectory : Failure := .system 20

/-- A directory stands where a file is needed. -/
def isDirectory : Failure := .system 21

/-- The device has no room left. -/
def noSpace : Failure := .system 28

/-- A path, or one name in it, is too long. -/
def nameTooLong : Failure := .system 36

/-- Too many symbolic links stand on the way. -/
def tooManyLinks : Failure := .system 40

/-- The texts of the system's errors, by number from 0. A gap is an empty text. -/
def systemTexts : Array String := #[
  "Success",
  "Operation not permitted",
  "No such file or directory",
  "No such process",
  "Interrupted system call",
  "Input/output error",
  "No such device or address",
  "Argument list too long",
  "Exec format error",
  "Bad file descriptor",
  "No child processes",
  "Resource temporarily unavailable",
  "Cannot allocate memory",
  "Permission denied",
  "Bad address",
  "Block device required",
  "Device or resource busy",
  "File exists",
  "Invalid cross-device link",
  "No such device",
  "Not a directory",
  "Is a directory",
  "Invalid argument",
  "Too many open files in system",
  "Too many open files",
  "Inappropriate ioctl for device",
  "Text file busy",
  "File too large",
  "No space left on device",
  "Illegal seek",
  "Read-only file system",
  "Too many links",
  "Broken pipe",
  "Numerical argument out of domain",
  "Numerical result out of range",
  "Resource deadlock avoided",
  "File name too long",
  "No locks available",
  "Function not implemented",
  "Directory not empty",
  "Too many levels of symbolic links",
  "",
  "No message of desired type",
  "Identifier removed",
  "Channel number out of range",
  "Level 2 not synchronized",
  "Level 3 halted",
  "Level 3 reset",
  "Link number out of range",
  "Protocol driver not attached",
  "No CSI structure available",
  "Level 2 halted",
  "Invalid exchange",
  "Invalid request descriptor",
  "Exchange full",
  "No anode",
  "Invalid request code",
  "Invalid slot",
  "",
  "Bad font file format",
  "Device not a stream",
  "No data available",
  "Timer expired",
  "Out of streams resources",
  "Machine is not on the network",
  "Package not installed",
  "Object is remote",
  "Link has been severed",
  "Advertise error",
  "Srmount error",
  "Communication error on send",
  "Protocol error",
  "Multihop attempted",
  "RFS specific error",
  "Bad message",
  "Value too large for defined data type",
  "Name not unique on network",
  "File descriptor in bad state",
  "Remote address changed",
  "Can not access a needed shared library",
  "Accessing a corrupted shared library",
  ".lib section in a.out corrupted",
  "Attempting to link in too many shared libraries",
  "Cannot exec a shared library directly",
  "Invalid or incomplete multibyte or wide character",
  "Interrupted system call should be restarted",
  "Streams pipe error",
  "Too many users",
  "Socket operation on non-socket",
  "Destination address required",
  "Message too long",
  "Protocol wrong type for socket",
  "Protocol not available",
  "Protocol not supported",
  "Socket type not supported",
  "Operation not supported",
  "Protocol family not supported",
  "Address family not supported by protocol",
  "Address already in use",
  "Cannot assign requested address",
  "Network is down",
  "Network is unreachable",
  "Network dropped connection on reset",
  "Software caused connection abort",
  "Connection reset by peer",
  "No buffer space available",
  "Transport endpoint is already connected",
  "Transport endpoint is not connected",
  "Cannot send after transport endpoint shutdown",
  "Too many references: cannot splice",
  "Connection timed out",
  "Connection refused",
  "Host is down",
  "No route to host",
  "Operation already in progress",
  "Operation now in progress",
  "Stale file handle",
  "Structure needs cleaning",
  "Not a XENIX named type file",
  "No XENIX semaphores available",
  "Is a named type file",
  "Remote I/O error",
  "Disk quota exceeded",
  "No medium found",
  "Wrong medium type",
  "Operation canceled",
  "Required key not available",
  "Key has expired",
  "Key has been revoked",
  "Key was rejected by service",
  "Owner died",
  "State not recoverable",
  "Operation not possible due to RF-kill",
  "Memory page has hardware error"]

/-- The system's text for an error number. -/
def systemText (code : Int) : String :=
  let unknown := "Unknown error " ++ toString code
  if code < 0 then unknown
  else
    match systemTexts[code.toNat]? with
    | some text => if text.isEmpty then unknown else text
    | none => unknown

/-- The wording of a failure. -/
def message : Failure → String
  | .system code => systemText code ++ " (os error " ++ toString code ++ ")"
  | .invalidUtf8 => "stream did not contain valid UTF-8"
  | .nullInPath => "file name contained an unexpected NUL byte"
  | .nullInArgument => "nul byte found in provided data"
  | .other text => text

/-- The number of the system's error. -/
def code? : Failure → Option Int
  | .system code => some code
  | _ => none

/-- The class of a numbered error, as the log names it. -/
def systemClass (code : Int) : String :=
  match code with
  | 1 => "PermissionDenied"
  | 2 => "NotFound"
  | 4 => "Interrupted"
  | 7 => "ArgumentListTooLong"
  | 11 => "WouldBlock"
  | 12 => "OutOfMemory"
  | 13 => "PermissionDenied"
  | 16 => "ResourceBusy"
  | 17 => "AlreadyExists"
  | 18 => "CrossesDevices"
  | 20 => "NotADirectory"
  | 21 => "IsADirectory"
  | 22 => "InvalidInput"
  | 26 => "ExecutableFileBusy"
  | 27 => "FileTooLarge"
  | 28 => "StorageFull"
  | 29 => "NotSeekable"
  | 30 => "ReadOnlyFilesystem"
  | 31 => "TooManyLinks"
  | 32 => "BrokenPipe"
  | 35 => "Deadlock"
  | 36 => "InvalidFilename"
  | 38 => "Unsupported"
  | 39 => "DirectoryNotEmpty"
  | 40 => "FilesystemLoop"
  | _ => "Uncategorized"

/-- The form of a failure in a log entry meant for the maintainer. -/
def detail : Failure → String
  | .system code =>
    "Os \x7b code: " ++ toString code ++ ", kind: " ++ systemClass code ++ ", message: " ++
      Text.quoted (systemText code) ++ " \x7d"
  | .invalidUtf8 =>
    "Error \x7b kind: InvalidData, message: " ++ Text.quoted (message .invalidUtf8) ++ " \x7d"
  | .nullInPath =>
    "Error \x7b kind: InvalidInput, message: " ++ Text.quoted (message .nullInPath) ++ " \x7d"
  | .nullInArgument =>
    "Error \x7b kind: InvalidInput, message: " ++ Text.quoted (message .nullInArgument) ++ " \x7d"
  | .other text => "Custom \x7b kind: Other, error: " ++ Text.quoted text ++ " \x7d"

end Failure

end RuntimeLauncher
