import TreeHaul.Path.Stat

/-!
The arguments of the capabilities: how a file is opened, what a probe asks, which times are set.
-/

namespace TreeHaul.Path

/-- How a file is opened. -/
structure OpenFlags where
  read : Bool
  write : Bool
  append : Bool
  create : Bool
  truncate : Bool
  exclusive : Bool
  deriving DecidableEq, Repr

namespace OpenFlags

def none : OpenFlags := ⟨false, false, false, false, false, false⟩

def readOnly : OpenFlags := { none with read := true }

def readWrite : OpenFlags := { readOnly with write := true }

/-- What a copy opens its destination with. -/
def createTruncate : OpenFlags := { readWrite with create := true, truncate := true }

/-- Fails if the file exists. -/
def createExclusive : OpenFlags := { readWrite with create := true, exclusive := true }

/-- Opening may change what is known of the file. -/
def mutates (f : OpenFlags) : Bool := f.create || f.truncate || f.exclusive

end OpenFlags

/-- Permissions that a probe asks for, as bits. None at all asks whether the file exists; bits
without a meaning are kept. -/
structure AccessMode where
  bits : UInt8
  deriving DecidableEq, Repr

namespace AccessMode

def read : AccessMode := ⟨1⟩
def write : AccessMode := ⟨2⟩
def execute : AccessMode := ⟨4⟩

def known : AccessMode := ⟨7⟩

/-- Every bit of `b` is one of `a`. -/
def contains (a b : AccessMode) : Bool := a.bits &&& b.bits == b.bits

def intersects (a b : AccessMode) : Bool := a.bits &&& b.bits != 0

def union (a b : AccessMode) : AccessMode := ⟨a.bits ||| b.bits⟩

end AccessMode

/-- How a probe by path goes about it, as bits. -/
structure AccessFlags where
  bits : UInt8
  deriving DecidableEq, Repr

namespace AccessFlags

def effectiveIds : AccessFlags := ⟨1⟩
def noFollow : AccessFlags := ⟨2⟩

def contains (a b : AccessFlags) : Bool := a.bits &&& b.bits == b.bits

end AccessFlags

/-- Times to be set, on the file itself or on what it links to. -/
structure SetTimes where
  accessed : Instant
  modified : Instant
  followLinks : Bool
  deriving DecidableEq, Repr

namespace SetTimes

def ofInstants (accessed modified : Instant) : SetTimes := ⟨accessed, modified, false⟩

def ofStat (s : Stat) : SetTimes := ofInstants s.atime s.mtime

def following (t : SetTimes) : SetTimes := { t with followLinks := true }

end SetTimes

end TreeHaul.Path
