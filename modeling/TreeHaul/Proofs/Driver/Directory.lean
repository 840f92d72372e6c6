import TreeHaul.Proofs.Driver.Enumeration
import TreeHaul.Proofs.Driver.Mirror

/-!
Enumerating a directory. What its stream gives comes out item for item, each as a name or as the
error that stands for it, but for the two names of dots. Where the stream fails, that is the last
item: from then on there is only the end, again and again. The plain path of the directory and a
list of it answer alike.
-/

universe u

namespace TreeHaul

open TreeHaul.Os TreeHaul.Path TreeHaul.Text PathError

variable {σ : Type u} [System σ]

/-! ### Streams of names -/

/-- The world after some names of an open directory were asked for. -/
def afterNames (h : Handle) : Nat → σ → σ
  | 0, w => w
  | n + 1, w => afterNames h n (System.call (.nextName h) w).2

/-- An open directory gives these items one after the other, names or failures to read one, and then
its end each time that it is asked. -/
structure StreamsAs (h : Handle) (items : List (Except IoError Bytes)) (w : σ) : Prop where
  nextName (n : Nat) :
    (System.call (.nextName h) (afterNames h n w)).1 = items[n]?.elim (.ok none) (·.map some)

namespace Directory

/-- The item is not the directory itself or its parent. -/
def isEntry (item : Except IoError Bytes) : Bool :=
  !(item.toOption == some (bytesOf ".") || item.toOption == some (bytesOf ".."))

/-- The items up to a failure, which is the last one. -/
def upToFailure : List (Except IoError Bytes) → List (Except IoError Bytes)
  | [] => []
  | .ok bytes :: items => .ok bytes :: upToFailure items
  | .error e :: _ => [.error e]

end Directory

/-- A path can be opened as a directory with this stream, of which its dots are passed over. -/
inductive OpensAs (path : String) (stream : List (Except IoError Bytes)) (w : σ) : Prop where
  | mk {h : Handle} {w₁ : σ} (opened : System.call (.openDir path) w = (.ok h, w₁))
    (streams : StreamsAs h (stream.filter Directory.isEntry) w₁)

/-- A path leads to a directory with this stream, also after it was asked what is there. -/
inductive HasDirectory (path : String) (stream : List (Except IoError Bytes)) (w : σ) : Prop where
  | mk {m : Metadata} {w₁ : σ} (stat : System.call (.stat path true) w = (.ok m, w₁))
    (kind : FileKind.ofMode m.mode = .directory) (now : OpensAs path stream w)
    (later : OpensAs path stream w₁)

namespace StreamsAs

variable {h : Handle} {items : List (Except IoError Bytes)} {w : σ}

lemma now (hs : StreamsAs h items w) :
    (System.call (.nextName h) w).1 = items.head?.elim (.ok none) (·.map some) := by
  rw [List.head?_eq_getElem?]
  exact hs.nextName 0

lemma later (hs : StreamsAs h items w) :
    StreamsAs h items.tail (System.call (.nextName h) w).2 where
  nextName n := by
    rw [List.getElem?_tail]
    exact hs.nextName (n + 1)

end StreamsAs

/-! ### One name after the other -/

namespace DirReader

open Directory

variable {r : DirReader} {items : List (Except IoError Bytes)} {w : σ}

/-- What a reader has still to give: nothing once it is at its end, else what the directory gives,
up to a failure. -/
def Ahead (items : List (Except IoError Bytes)) (r : DirReader) (w : σ) : Prop :=
  r.ended = true ∧ items = [] ∨
    r.ended = false ∧ ∃ given, StreamsAs r.handle given w ∧ upToFailure given = items

/-- The first item is given and the others stay ahead. -/
lemma next_of_ahead (h : r.Ahead items w) :
    (r.next w).1 = items.head?.elim (.ok none) (·.map some) ∧
      (r.next w).2.1.Ahead items.tail (r.next w).2.2 := by
  obtain ⟨handle, ended⟩ := r
  rcases h with ⟨hended, rfl⟩ | ⟨hended, given, hs, rfl⟩
  · cases hended
    exact ⟨rfl, .inl ⟨rfl, rfl⟩⟩
  · cases hended
    have hnext : DirReader.next ⟨handle, false⟩ w = _ := next_start handle w
    have hnow : (System.call (.nextName handle) w).1 = _ := hs.now
    rw [hnext, hnow]
    match given, hs with
    | [], _ => exact ⟨rfl, .inl ⟨rfl, rfl⟩⟩
    | .error e :: rest, _ => exact ⟨rfl, .inl ⟨rfl, rfl⟩⟩
    | .ok bytes :: rest, hs => exact ⟨rfl, .inr ⟨rfl, rest, hs.later, rfl⟩⟩

lemma ahead_start {h : Handle} (hs : StreamsAs h items w) :
    (DirReader.start h).Ahead (upToFailure items) w := .inr ⟨rfl, items, hs, rfl⟩

end DirReader

namespace Directory

/-- What is answered for an item of the stream. -/
def answer (path : String) : Except IoError Bytes → Except PathError (Option String)
  | .ok bytes =>
    match ofBytes? bytes with
    | some name => .ok (some name)
    | none => .error (.invalidPath (lossy bytes))
  | .error e => .error (.ofIo "read_dir_entry" path e)

lemma nameAnswer_item (path : String) (item : Except IoError Bytes) :
    Posix.nameAnswer path (item.map some) = answer path item := by
  cases item with
  | error e => rfl
  | ok bytes =>
    change (Posix.nameOf bytes).map some = answer path (.ok bytes)
    unfold Posix.nameOf answer
    dsimp only
    cases ofBytes? bytes <;> rfl

lemma nameAnswer_head? (path : String) (items : List (Except IoError Bytes)) :
    Posix.nameAnswer path (items.head?.elim (.ok none) (·.map some)) =
      (items.map (answer path)).headD (.ok none) := by
  cases items with
  | nil => rfl
  | cons item items => exact nameAnswer_item path item

variable {δ : Type} [Driver σ δ] {path : String} {r : DirReader}
  {items : List (Except IoError Bytes)} {d : δ} {w : σ}

/-- As long as a driver asks its reader for each name, its answers are those for what the reader has
ahead. -/
lemma enumerates (Holds : DirReader → δ → Prop)
    (hreads : ∀ r d (w : σ), Holds r d →
      (Driver.perform .readDirEntry d w).1 = Posix.nameAnswer path (r.next w).1 ∧
      Holds (r.next w).2.1 (Driver.perform .readDirEntry d w).2.1 ∧
      (Driver.perform .readDirEntry d w).2.2 = (r.next w).2.2)
    (hd : Holds r d) (ha : r.Ahead items w) :
    Driver.Enumerates (items.map (answer path)) d w := by
  refine Driver.enumerates_of_step (fun as d w => ∃ r items,
    Holds r d ∧ r.Ahead items w ∧ items.map (answer path) = as) ?_ ⟨r, items, hd, ha, rfl⟩
  rintro _ d w ⟨r, items, hd, ha, rfl⟩
  obtain ⟨hfirst, hd', hw⟩ := hreads r d w hd
  obtain ⟨hnext, ha'⟩ := DirReader.next_of_ahead ha
  rw [hnext, nameAnswer_head?] at hfirst
  exact ⟨hfirst, _, items.tail, hd', hw ▸ ha', List.map_tail⟩

/-- Both answers are the same, but for the path that the system's refusal is reported of. -/
def AlikeBut (path path' : String) :
    Except PathError (Option String) → Except PathError (Option String) → Prop :=
  Alike Eq fun e e' => e' = e ∨ Renamed path path' e e'

lemma alike_answer (path path' : String) (item : Except IoError Bytes) :
    AlikeBut path path' (answer path item) (answer path' item) := by
  cases item with
  | error e =>
    exact .error (statusKind_ofIo ..) (errno_ofIo ..) (.inr (.refused "read_dir_entry" e))
  | ok bytes =>
    unfold answer
    dsimp only
    split
    · exact .ok rfl
    · exact .error rfl rfl (.inl rfl)

lemma alike_answers (path path' : String) (items : List (Except IoError Bytes)) (n : Nat) :
    List.Forall₂ (AlikeBut path path') ((items.map (answer path)).takeD n (.ok none))
      ((items.map (answer path')).takeD n (.ok none)) := by
  induction n generalizing items with
  | zero => exact .nil
  | succ n ih =>
    cases items with
    | nil => exact .cons (.ok rfl) (ih [])
    | cons item items => exact .cons (alike_answer path path' item) (ih items)

end Directory

open Directory

/-! ### The two drivers -/

variable {stream : List (Except IoError Bytes)} {w : σ}

namespace Posix

variable {d : Posix}

lemma openDir_directory (hclosed : d.dir? = none) (hdir : OpensAs d.entry.path stream w) :
    (d.openDir w).1 = .ok () ∧
      Driver.Enumerates ((upToFailure (stream.filter isEntry)).map (answer d.entry.path))
        (d.openDir w).2.1 (d.openDir w).2.2 := by
  obtain @⟨h, w₁, hopened, hs⟩ := hdir
  have hall : d.openDir w = Driver.observed "open_dir" (.ok ())
      { d with dir? := some (.start h), entry := d.entry.setDirOpen true } w₁ := by
    rw [openDir, hclosed]
    dsimp only
    rw [issue, hopened]
    rfl
  rw [hall]
  refine ⟨rfl, enumerates (fun r e => e.dir? = some r ∧ e.entry.path = d.entry.path)
    (fun r e v he => ?_) ⟨rfl, rfl⟩ (DirReader.ahead_start hs)⟩
  have hread : Driver.perform .readDirEntry e v = _ := readDirEntry_of_open he.1 v
  rw [hread, he.2]
  exact ⟨rfl, ⟨rfl, he.2⟩, rfl⟩

end Posix

namespace Listing

variable {d : Listing}

/-- A directory is opened as such, not as a manifest. -/
lemma openDir_directory (hclosed : d.cursor? = none) (hdir : HasDirectory d.realPath stream w) :
    (d.openDir w).1 = .ok () ∧
      Driver.Enumerates ((upToFailure (stream.filter isEntry)).map (answer d.entry.path))
        (d.openDir w).2.1 (d.openDir w).2.2 := by
  obtain @⟨m, w₁, hstat, hkind, -, ⟨hopened, hs⟩⟩ := hdir
  rename_i h w₂
  have hcursor : openCursor d.realPath w = (.ok (.dir (.start h)), w₂) := by
    rw [openCursor, hstat]
    dsimp only
    rw [if_pos hkind, hopened]
    rfl
  rw [openDir_of_cursor hclosed hcursor]
  refine ⟨rfl, enumerates (fun r e => e.cursor? = some (.dir r) ∧ e.entry.path = d.entry.path)
    (fun r e v he => ?_) ⟨rfl, rfl⟩ (DirReader.ahead_start hs)⟩
  have hread : Driver.perform .readDirEntry e v = _ := readDirEntry_of_open he.1 v
  rw [hread, he.2]
  exact ⟨rfl, ⟨rfl, he.2⟩, rfl⟩

end Listing

/-- **Directories are enumerated without loss, up to a failure.** A directory can be opened as a
plain path and as a list, and however many names are then read, the readings answer item for item
what its stream gives, but for its dots, up to the first item that the system failed to read, and
after that nothing more. A name is answered if it is UTF-8, and is an error by itself if it is not;
then the names after it still come. The two paths answer the same, but for how they name the
directory when the system failed. -/
theorem enumerate_directory {p : Posix} {l : Listing} {v : σ}
    (hpath : l.entry.path = Backend.listTag ++ p.entry.path) (hp : p.dir? = none)
    (hl : l.cursor? = none) (hw : HasDirectory p.entry.path stream w)
    (hv : HasDirectory p.entry.path stream v) :
    let o := Driver.perform .openDir p w
    let o' := Driver.perform .openDir l v
    let items := upToFailure (stream.filter isEntry)
    (o.1 = .ok () ∧ Driver.Enumerates (items.map (answer p.entry.path)) o.2.1 o.2.2) ∧
    (o'.1 = .ok () ∧ Driver.Enumerates (items.map (answer l.entry.path)) o'.2.1 o'.2.2) ∧
    ∀ n, List.Forall₂ (AlikeBut p.entry.path l.entry.path) (Driver.readNames n o.2.1 o.2.2)
      (Driver.readNames n o'.2.1 o'.2.2) := by
  intro o o' items
  have hnow : OpensAs p.entry.path stream w := by
    obtain @⟨m, w₁, -, -, hnow, -⟩ := hw
    exact hnow
  rw [← Listing.realPath_eq hpath] at hv
  obtain ⟨hok, hall⟩ := Posix.openDir_directory hp hnow
  obtain ⟨hok', hall'⟩ := Listing.openDir_directory hl hv
  refine ⟨⟨hok, hall⟩, ⟨hok', hall'⟩, fun n => ?_⟩
  have hn : Driver.readNames n o.2.1 o.2.2 = _ := hall.readNames n
  have hn' : Driver.readNames n o'.2.1 o'.2.2 = _ := hall'.readNames n
  rw [hn, hn']
  exact alike_answers _ _ items n

/-! ### Any stream -/

/-- A system with a single directory, by what its stream has ahead. -/
structure Streaming where
  ahead : List (Except IoError Bytes)

namespace Streaming

/-- What the system answers of its directory. -/
def metadata : Metadata :=
  ⟨Mode.directory ||| 0o755, 0, ⟨0, 0⟩, ⟨0, 0⟩, ⟨0, 0⟩, 1, 1, 2, 0, 0, 0⟩

/-- The next item that is not dots. -/
def nextEntry : List (Except IoError Bytes) → Except IoError (Option Bytes) × Streaming
  | [] => (.ok none, ⟨[]⟩)
  | item :: ahead => if isEntry item then (item.map some, ⟨ahead⟩) else nextEntry ahead

def call {α : Type} (c : Syscall α) (s : Streaming) : Except IoError α × Streaming :=
  match c, s with
  | .stat .., s => (.ok metadata, s)
  | .openDir _, s => (.ok 3, s)
  | .nextName _, s => nextEntry s.ahead
  | _, s => (.error (.raw Errno.notsup), s)

instance : System Streaming := ⟨call⟩

lemma nextEntry_eq (stream : List (Except IoError Bytes)) :
    (nextEntry stream).1 = (stream.filter isEntry).head?.elim (.ok none) (·.map some) ∧
      (nextEntry stream).2.ahead.filter isEntry = (stream.filter isEntry).tail := by
  induction stream with
  | nil => exact ⟨rfl, rfl⟩
  | cons item ahead ih =>
    rw [nextEntry]
    by_cases hi : isEntry item
    · rw [if_pos hi, List.filter_cons_of_pos hi]
      exact ⟨rfl, rfl⟩
    · rw [if_neg hi, List.filter_cons_of_neg hi]
      exact ih

lemma streamsAs (h : Handle) (s : Streaming) : StreamsAs h (s.ahead.filter isEntry) s := by
  refine ⟨fun n => ?_⟩
  induction n generalizing s with
  | zero =>
    rw [← List.head?_eq_getElem?]
    exact (nextEntry_eq s.ahead).1
  | succ n ih =>
    rw [← List.getElem?_tail, ← (nextEntry_eq s.ahead).2]
    exact ih (nextEntry s.ahead).2

/-- Whatever items there are, some directory has them in its stream. -/
lemma hasDirectory (path : String) (stream : List (Except IoError Bytes)) :
    HasDirectory path stream (⟨stream⟩ : Streaming) :=
  have hopens : OpensAs path stream (⟨stream⟩ : Streaming) := .mk rfl (streamsAs 3 ⟨stream⟩)
  .mk rfl (by decide) hopens hopens

end Streaming

/-- A name that is not UTF-8 stands between two names, and a failure to read on before another. -/
theorem enumerate_directory_mixed :
    let stream : List (Except IoError Bytes) := [.ok (bytesOf "."), .ok (bytesOf ".."),
      .ok (bytesOf "a"), .ok [97, 255], .ok (bytesOf "b"), .error (.raw Errno.io), .ok (bytesOf "c")]
    let w : Streaming := ⟨stream⟩
    let o := Driver.perform .openDir (Posix.ofPath "/d") w
    let o' := Driver.perform .openDir (Listing.ofPath "list:///d") w
    let answers (path : String) : List (Except PathError (Option String)) :=
      [.ok (some "a"), .error (.invalidPath "a\uFFFD"), .ok (some "b"),
        .error (.backend "read_dir_entry" path (.raw Errno.io)), .ok none, .ok none]
    Driver.readNames 6 o.2.1 o.2.2 = answers "/d" ∧
    Driver.readNames 6 o'.2.1 o'.2.2 = answers "list:///d" := by
  intro stream w o o' answers
  have hdir := Streaming.hasDirectory "/d" stream
  have hpath : (Listing.ofPath "list:///d").entry.path = Backend.listTag ++ "/d" := by decide
  obtain ⟨⟨-, hall⟩, ⟨-, hall'⟩, -⟩ :=
    enumerate_directory (p := Posix.ofPath "/d") hpath rfl rfl hdir hdir
  constructor
  · refine (hall.readNames 6).trans ?_
    decide +kernel
  · refine (hall'.readNames 6).trans ?_
    decide +kernel

/-- **Not every item comes out**: dots do not, nor what the stream would give after a failure. -/
theorem not_enumerate_stream :
    let dots : List (Except IoError Bytes) :=
      [.ok (bytesOf "."), .ok (bytesOf ".."), .ok (bytesOf "a")]
    let broken : List (Except IoError Bytes) :=
      [.ok (bytesOf "a"), .error (.raw Errno.io), .ok (bytesOf "b")]
    let loses (stream : List (Except IoError Bytes)) : Prop :=
      let w : Streaming := ⟨stream⟩
      let o := Driver.perform .openDir (Posix.ofPath "/d") w
      let o' := Driver.perform .openDir (Listing.ofPath "list:///d") w
      HasDirectory "/d" stream w ∧
        ¬ Driver.Enumerates (stream.map (answer "/d")) o.2.1 o.2.2 ∧
        ¬ Driver.Enumerates (stream.map (answer "list:///d")) o'.2.1 o'.2.2
    loses dots ∧ loses broken := by
  intro dots broken loses
  refine ⟨⟨Streaming.hasDirectory "/d" dots, fun h => ?_, fun h => ?_⟩,
    ⟨Streaming.hasDirectory "/d" broken, fun h => ?_, fun h => ?_⟩⟩
  all_goals exact absurd (h.readNames 3) (by decide +kernel)

end TreeHaul
