import TreeHaul.Os.IoError
import TreeHaul.Path.Backend

/-!
Why a capability failed, and the short record of the last call that an entry keeps.

An error carries its cause; its wording, its number and its status are views of it.
-/

namespace TreeHaul.Path

open TreeHaul.Os

/-- The outcome of the last call, by class. -/
inductive StatusKind where
  | ok | unsupported | backendFailure | notFound | invalidState | invalidPath
  deriving DecidableEq, Repr

namespace StatusKind

def name : StatusKind → String
  | ok => "Ok"
  | unsupported => "Unsupported"
  | backendFailure => "BackendFailure"
  | notFound => "NotFound"
  | invalidState => "InvalidState"
  | invalidPath => "InvalidPath"

def all : List StatusKind := [ok, unsupported, backendFailure, notFound, invalidState, invalidPath]

def ofName? (s : String) : Option StatusKind := all.find? (·.name == s)

end StatusKind

/-- What the last call on an entry was and how it ended. -/
structure Status where
  kind : StatusKind
  /-- The capability that was called, empty before the first call. -/
  op : String
  rc : Int
  errno : Int
  deriving DecidableEq, Repr

namespace Status

/-- The status of an entry on which nothing was called. -/
def initial : Status := ⟨.ok, "", 0, 0⟩

def ok (op : String) : Status := ⟨.ok, op, 0, 0⟩

def isOk (s : Status) : Bool := s.kind == .ok

/-- One line for a log. What a backend cannot do reads differently from what failed. -/
def describe (s : Status) : String :=
  match s.kind with
  | .ok => "success"
  | .unsupported => s.op ++ ": not supported by this backend"
  | _ => s.op ++ ": " ++ Errno.text s.errno

end Status

/-- Why a capability failed. -/
inductive PathError where
  /-- The backend has no such capability. -/
  | unsupported (op : String) (backend : Backend)
  /-- The system refused the call. -/
  | backend (op : String) (path : String) (source : IoError)
  /-- Nothing is at the path. -/
  | notFound (path : String)
  /-- The entry was in the wrong state for the call. -/
  | invalidState (op : String) (path : String) (reason : String)
  /-- The backend cannot use the path. -/
  | invalidPath (path : String)
  deriving DecidableEq, Repr

namespace PathError

/-- Wraps an error of the system. That nothing is there is an error of its own. -/
def ofIo (op path : String) (source : IoError) : PathError :=
  if source.kind = .notFound then notFound path else backend op path source

def message : PathError → String
  | unsupported op b => b.name ++ " backend does not support " ++ op
  | backend op path source => op ++ " failed on " ++ path ++ ": " ++ source.message
  | notFound path => "not found: " ++ path
  | invalidState op path reason => op ++ " on " ++ path ++ ": " ++ reason
  | invalidPath path => "invalid path: " ++ path

def isUnsupported : PathError → Bool
  | unsupported .. => true
  | _ => false

/-- The system's number for this error. -/
def errno : PathError → Int
  | unsupported .. => Errno.notsup
  | backend _ _ source => source.errno?.getD Errno.io
  | notFound _ => Errno.noent
  | invalidState .. => Errno.badf
  | invalidPath _ => Errno.inval

def statusKind : PathError → StatusKind
  | unsupported .. => .unsupported
  | backend .. => .backendFailure
  | notFound _ => .notFound
  | invalidState .. => .invalidState
  | invalidPath _ => .invalidPath

/-- What an entry notes when `op` fails with this error. -/
def status (e : PathError) (op : String) : Status := ⟨e.statusKind, op, -1, e.errno⟩

/-- The error as one of the system, for callers that know only those. -/
def toIo (e : PathError) : IoError :=
  match e with
  | unsupported .. => .plain .unsupported e.message
  | backend _ _ source => source
  | notFound _ => .plain .notFound e.message
  | invalidState .. => .plain .other e.message
  | invalidPath _ => .plain .invalidInput e.message

end PathError

end TreeHaul.Path
