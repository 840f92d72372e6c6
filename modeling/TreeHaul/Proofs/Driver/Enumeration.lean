import TreeHaul.Files.System
import TreeHaul.Proofs.Driver.Manifest

/-!
Enumerating a manifest. The names are read one by one, with as much of the file as they need, and
come out as if the whole file had been taken apart at once.
-/

universe u

namespace TreeHaul

open TreeHaul.Os TreeHaul.Path TreeHaul.Text

variable {σ : Type u} [System σ]

/-! ### Files that are read -/

/-- The world after some readings of a file. -/
def afterReads (h : Handle) (offsets : List Nat) (w : σ) : σ :=
  offsets.foldl (fun w offset => (System.call (.readRest h offset) w).2) w

/-- Whatever was read of a file before, it can be read to its end and has these bytes. -/
structure ReadsAs (h : Handle) (content : Bytes) (w : σ) : Prop where
  readRest (earlier : List Nat) (offset : Nat) :
    (System.call (.readRest h offset) (afterReads h earlier w)).1 = .ok ⟨content.drop offset, none⟩

namespace ReadsAs

variable {h : Handle} {content : Bytes} {w : σ}

lemma now (hr : ReadsAs h content w) (offset : Nat) :
    System.call (.readRest h offset) w =
      (.ok ⟨content.drop offset, none⟩, (System.call (.readRest h offset) w).2) :=
  Prod.ext (hr.readRest [] offset) rfl

lemma later (hr : ReadsAs h content w) (offset : Nat) :
    ReadsAs h content (System.call (.readRest h offset) w).2 :=
  ⟨fun earlier => hr.readRest (offset :: earlier)⟩

end ReadsAs

/-- A path leads to a file that is no directory, and that has these bytes once it is open. -/
inductive HasManifest (path : String) (content : Bytes) (w : σ) : Prop where
  | mk {m : Metadata} {h : Handle} {w₁ w₂ : σ}
    (stat : System.call (.stat path true) w = (.ok m, w₁))
    (kind : FileKind.ofMode m.mode ≠ .directory)
    (opened : System.call (.open_ path .readOnly 0o666) w₁ = (.ok h, w₂))
    (reads : ReadsAs h content w₂)

namespace Files

variable {fs : Files} {i : Number} {node : Inode} {content : Bytes}

lemma afterReads_eq (h : Handle) (offsets : List Nat) (fs : Files) :
    afterReads h offsets fs = fs := by
  induction offsets with
  | nil => rfl
  | cons offset offsets ih => exact ih

lemma isDir_of_file {data : Extents} (hnode : fs.inode? i = some node)
    (hfile : node.content = .file data) : fs.isDir i = false := by
  obtain ⟨c, perm, uid, gid, atime, mtime, ctime, links⟩ := node
  obtain rfl : c = .file data := hfile
  simp [isDir, dir?, hnode]

lemma readRest_openHandle (hnode : fs.inode? i = some node)
    (hfile : node.content = .file (.ofBytes content)) (offset : Nat) :
    (fs.openHandle i .readOnly none).2.readRest fs.nextHandle offset =
      .ok (content.drop offset) := by
  obtain ⟨c, perm, uid, gid, atime, mtime, ctime, links⟩ := node
  obtain rfl : c = .file (.ofBytes content) := hfile
  have hopened : (fs.openHandle i .readOnly none).2.opened? fs.nextHandle =
      .ok ⟨i, true, false, false, none⟩ := by
    simp [opened?, openHandle, OpenFlags.readOnly, OpenFlags.none]
  have hsame : (fs.openHandle i .readOnly none).2.inode? i = fs.inode? i := rfl
  simp only [readRest, hopened, bind, Except.bind, hsame, hnode]
  rfl

/-- A file that was written at once, in the file system in memory, can be enumerated. -/
lemma hasManifest {path : String} {found : Found} (hnul : hasNul path = false)
    (hfind : fs.find (bytesOf path) true = .ok found) (hnode : fs.inode? found.inode = some node)
    (hfile : node.content = .file (.ofBytes content))
    (hkind : FileKind.ofMode (fs.metadata found.inode node).mode ≠ .directory) :
    HasManifest path content fs := by
  have hcheck : checkPath (bytesOf path) = .ok () := by
    cases h : checkPath (bytesOf path) with
    | error e => simp [find, h, bind, Except.bind] at hfind
    | ok u => rfl
  have hstat : call (.stat path true) fs = (.ok (fs.metadata found.inode node), fs) := by
    simp only [call, withPath, hnul, statPath, hfind, asks]
    simp [hnode, bind, Except.bind, pure, Except.pure, Except.mapError]
  have hopen : call (.open_ path .readOnly 0o666) fs =
      (.ok fs.nextHandle, (fs.openHandle found.inode .readOnly none).2) := by
    simp only [call, withPath, hnul, openFile, hcheck, hfind]
    simp [isDir_of_file hnode hfile, yields, bind, Except.bind, pure, Except.pure,
      OpenFlags.readOnly, OpenFlags.none, checkFlags, openHandle]
  refine .mk hstat hkind hopen ⟨fun earlier offset => ?_⟩
  have hread := readRest_openHandle hnode hfile offset
  rw [afterReads_eq]
  exact congrArg (fun r => (r.map (Rest.mk · none)).mapError IoError.raw) hread

end Files

/-! ### One name after the other -/

namespace Driver

variable {δ : Type} [Driver σ δ]

/-- What some readings of a name answer, one after the other. -/
def readNames : Nat → δ → σ → List (Except PathError (Option String))
  | 0, _, _ => []
  | n + 1, d, w =>
    let (r, d, w) := perform .readDirEntry d w
    r :: readNames n d w

/-- However many names are read, the readings give these answers and after them nothing more. -/
structure Enumerates (as : List (Except PathError (Option String))) (d : δ) (w : σ) : Prop where
  readNames (n : Nat) : readNames n d w = as.takeD n (.ok none)

omit [System σ] in
/-- If each reading gives the first of the answers ahead and leaves the others there, they are what
is enumerated. -/
lemma enumerates_of_step (Ahead : List (Except PathError (Option String)) → δ → σ → Prop)
    (hstep : ∀ as d (w : σ), Ahead as d w →
      (perform .readDirEntry d w).1 = as.headD (.ok none) ∧
        Ahead as.tail (perform .readDirEntry d w).2.1 (perform .readDirEntry d w).2.2)
    {as : List (Except PathError (Option String))} {d : δ} {w : σ} (h : Ahead as d w) :
    Enumerates as d w := by
  refine ⟨fun n => ?_⟩
  induction n generalizing as d w with
  | zero => rfl
  | succ n ih =>
    obtain ⟨hfirst, hrest⟩ := hstep as d w h
    rw [List.takeD_succ, ← ih hrest, ← List.headD_eq_head?_getD, ← hfirst]
    rfl

end Driver

namespace Listing

open Manifest

/-- Whether a name was pending or had to be read, it is the one that comes next in the file. -/
lemma nextName_manifest {h : Handle} {content : Bytes} {w : σ} (path : String) (c : Cursor)
    (hr : ReadsAs h content w) :
    ∃ w', ReadsAs h content w' ∧
      nextName path (.manifest h c) w =
        ((c.next (content.drop c.offset)).1.mapError (.ofIo "read_dir_entry" path),
          .manifest h (c.next (content.drop c.offset)).2, w') := by
  unfold nextName
  dsimp only
  cases hready : c.ready? with
  | some x =>
    rw [← Cursor.next_of_ready? hready (content.drop c.offset)]
    exact ⟨w, hr, rfl⟩
  | none =>
    refine ⟨_, hr.later c.offset, ?_⟩
    rw [hr.now]
    rfl

/-- Reading one name gives the first of the answers ahead and leaves the others there. -/
lemma readDirEntry_manifest {h : Handle} {c : Cursor} {content : Bytes} {d : Listing} {w : σ}
    (hc : d.cursor? = some (.manifest h c)) (hr : ReadsAs h content w) :
    (d.readDirEntry w).1 = (answers d.entry.path (c.ahead 0 content)).headD (.ok none) ∧
      ∃ c', (d.readDirEntry w).2.1.cursor? = some (.manifest h c') ∧
        (d.readDirEntry w).2.1.entry.path = d.entry.path ∧
        ReadsAs h content (d.readDirEntry w).2.2 ∧
        answers d.entry.path (c'.ahead 0 content) =
          (answers d.entry.path (c.ahead 0 content)).tail := by
  obtain ⟨hhead, htail⟩ := Cursor.answers_next d.entry.path (Nat.zero_le c.offset) content
  rw [Nat.sub_zero] at hhead htail
  obtain ⟨w', hr', hname⟩ := nextName_manifest d.entry.path c hr
  rw [readDirEntry_of_open hc, hname]
  exact ⟨hhead, _, rfl, rfl, hr', htail⟩

lemma enumerates_manifest {h : Handle} {c : Cursor} {content : Bytes} {d : Listing} {w : σ}
    (hc : d.cursor? = some (.manifest h c)) (hr : ReadsAs h content w) :
    Driver.Enumerates (answers d.entry.path (c.ahead 0 content)) d w := by
  refine Driver.enumerates_of_step (fun as e v => ∃ c, e.cursor? = some (.manifest h c) ∧
    e.entry.path = d.entry.path ∧ ReadsAs h content v ∧
    answers d.entry.path (c.ahead 0 content) = as) ?_ ⟨c, hc, rfl, hr, rfl⟩
  rintro _ e v ⟨c, hc, hpath, hr, rfl⟩
  obtain ⟨hfirst, c', hc', hpath', hr', htail⟩ := readDirEntry_manifest hc hr
  rw [hpath] at hfirst hpath' htail
  exact ⟨hfirst, c', hc', hpath', hr', htail⟩

/-- A file is opened as a manifest, at its beginning. -/
lemma openDir_manifest {content : Bytes} {d : Listing} {w : σ} (hclosed : d.cursor? = none)
    (hfile : HasManifest d.realPath content w) :
    (d.openDir w).1 = .ok () ∧
      (d.openDir w).2.1.entry.path = d.entry.path ∧
      ∃ h, (d.openDir w).2.1.cursor? = some (.manifest h .start) ∧
        ReadsAs h content (d.openDir w).2.2 := by
  obtain @⟨m, h, w₁, w₂, hstat, hkind, hopened, hr⟩ := hfile
  have hcursor : openCursor d.realPath w = (.ok (.manifest h .start), w₂) := by
    rw [openCursor, hstat]
    dsimp only
    rw [if_neg hkind, hopened]
    rfl
  rw [openDir_of_cursor hclosed hcursor]
  exact ⟨rfl, rfl, h, rfl, hr⟩

/-- **A manifest is enumerated exactly**: line by line, one answer for each line that is not
skipped, and then nothing more. So names that were written on a line each come back as they are. -/
theorem enumerate_manifest {content : Bytes} {d : Listing} {w : σ} (hclosed : d.cursor? = none)
    (hfile : HasManifest d.realPath content w) :
    let o := Driver.perform .openDir d w
    o.1 = .ok () ∧
    Driver.Enumerates (answers d.entry.path content) o.2.1 o.2.2 ∧
    ∀ names : List String, (∀ name ∈ names, IsName name) →
      content = bytesOf ("\n".intercalate names) ∨
        content = bytesOf ("\n".intercalate names ++ "\n") →
      Driver.Enumerates (names.map fun name => .ok (some name)) o.2.1 o.2.2 := by
  intro o
  obtain ⟨hok, hpath, h, hc, hr⟩ := openDir_manifest hclosed hfile
  have hall : Driver.Enumerates (answers d.entry.path content) o.2.1 o.2.2 := by
    rw [← hpath]
    exact enumerates_manifest hc hr
  refine ⟨hok, hall, fun names hnames hcontent => ?_⟩
  have hanswers : answers d.entry.path content = names.map fun name => .ok (some name) := by
    rcases hcontent with rfl | rfl
    · exact answers_intercalate d.entry.path hnames
    · rw [bytesOf_append, bytesOf_newline, answers_append_final_newline]
      exact answers_intercalate d.entry.path hnames
  rwa [← hanswers]

/-- A manifest with a comment and a line that is not UTF-8, and one written from names. -/
theorem enumerate_manifest_twice :
    let d := Listing.ofPath "list:///m"
    let w (content : Bytes) : Files :=
      ((Files.fresh ⟨5, 0⟩ []).addInode Files.root (bytesOf "m") (.file (.ofBytes content)) 0o644).2
    let enumerate (content : Bytes) :=
      let o := Driver.perform .openDir d (w content)
      Driver.readNames 4 o.2.1 o.2.2
    enumerate (bytesOf " /a\r\n# b\n" ++ 255 :: bytesOf "\n/c") =
      [.ok (some "/a"), .error (.backend "read_dir_entry" "list:///m" .notUtf8), .ok (some "/c"),
        .ok none] ∧
    enumerate (bytesOf "/a\n/c\n") =
      [.ok (some "/a"), .ok (some "/c"), .ok none, .ok none] := by
  intro d w enumerate
  have hfile (content : Bytes) : HasManifest d.realPath content (w content) := by
    have hreal : d.realPath = "/m" := by decide +kernel
    have hfind : (w content).find (bytesOf "/m") true =
        .ok ⟨3, some (Files.root, bytesOf "m"), Files.linkMax⟩ := rfl
    have hkind : FileKind.ofMode (Mode.regular ||| 0o644) ≠ .directory := by decide
    rw [hreal]
    exact Files.hasManifest rfl hfind rfl rfl hkind
  constructor
  · obtain ⟨-, hall, -⟩ := enumerate_manifest rfl
      (hfile (bytesOf " /a\r\n# b\n" ++ 255 :: bytesOf "\n/c"))
    refine (hall.readNames 4).trans ?_
    decide +kernel
  · obtain ⟨-, -, hall⟩ := enumerate_manifest rfl (hfile (bytesOf "/a\n/c\n"))
    have hnames : ∀ name ∈ ["/a", "/c"], IsName name := by decide +kernel
    exact (hall ["/a", "/c"] hnames (.inr rfl)).readNames 4

end Listing

end TreeHaul
