import TreeHaul.Os.Syscall
import TreeHaul.Toml.Document

/-!
What can be set: how many idle entries are kept, whether entries look through links, and whether
the null tree exists. The settings can be read from a TOML document, whose other keys do not
matter.
-/

universe u

namespace TreeHaul

open TreeHaul.Os TreeHaul.Text

structure Config where
  /-- Released entries kept for each backend. -/
  maxIdle : Nat
  /-- Entries that are handed out look through links. -/
  followLinks : Bool
  /-- Paths below the null device get the null backend; else they are plain paths. -/
  nullDevice : Bool
  deriving DecidableEq, Repr

/-- Why settings could not be had. -/
inductive ConfigError where
  /-- The file could not be read. -/
  | io (path : String) (source : IoError)
  /-- The text is no TOML document, or a setting has a value of the wrong kind. -/
  | parse
  deriving DecidableEq, Repr

namespace ConfigError

def message : ConfigError → String
  | io path source => "failed to read config " ++ path ++ ": " ++ source.message
  | parse => "failed to parse config"

end ConfigError

namespace Config

/-- The settings where nothing is said. -/
def standard : Config := ⟨1024, false, true⟩

/-- A count that a document gives, or the one where it says nothing. -/
def count? (items : Toml.Items) (key : String) (missing : Nat) : Option Nat :=
  match items.lookup key with
  | none => some missing
  | some (.integer n) => n.toNat?
  | some _ => none

def switch? (items : Toml.Items) (key : String) (missing : Bool) : Option Bool :=
  match items.lookup key with
  | none => some missing
  | some (.boolean b) => some b
  | some _ => none

def ofItems? (items : Toml.Items) : Option Config := do
  return {
    maxIdle := ← count? items "max_idle_per_backend" standard.maxIdle
    followLinks := ← switch? items "follow_links" standard.followLinks
    nullDevice := ← switch? items "null_device" standard.nullDevice }

def ofToml (text : String) : Except ConfigError Config :=
  match (Toml.document? text).bind ofItems? with
  | some c => .ok c
  | none => .error .parse

variable {σ : Type u} [System σ]

/-- All of a file, as text. -/
def readText (path : String) (w : σ) : Except IoError String × σ :=
  match System.call (.open_ path .readOnly 0o666) w with
  | (.error e, w) => (.error e, w)
  | (.ok h, w) =>
    let (r, w) := System.call (.readRest h 0) w
    let w := (System.call (.close h) w).2
    (r.bind fun rest =>
      match rest.failure?, ofBytes? rest.bytes with
      | some e, _ => .error e
      | none, some text => .ok text
      | none, none => .error .notUtf8, w)

/-- Reads the settings from a file. -/
def load (path : String) (w : σ) : Except ConfigError Config × σ :=
  match readText path w with
  | (.error e, w) => (.error (.io path e), w)
  | (.ok text, w) => (ofToml text, w)

end Config

end TreeHaul
