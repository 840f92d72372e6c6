import TreeHaul.Text.Blank
import TreeHaul.Text.Bytes
import TreeHaul.Os.Syscall

/-!
Names from a manifest: a file with one name on each line.

Lines end at a newline. A line is trimmed, and skipped if nothing is left of it or if it starts
with a number sign. The file is read in blocks, and only as many as the next name needs, so a
change of the file shows in what has not been read yet.
-/

namespace TreeHaul.Manifest

open TreeHaul.Os TreeHaul.Text

def newline : UInt8 := 10

/-- Bytes that one read of the file takes at most. -/
def blockSize : Nat := 8192

/-- The first line with the newline that ends it, and what comes after; the last line of a byte
string may have no newline. -/
def cutLine : Bytes → Bytes × Bytes
  | [] => ([], [])
  | b :: bs =>
    if b = newline then ([b], bs)
    else
      let (line, rest) := cutLine bs
      (b :: line, rest)

@[simp] theorem cutLine_nil : cutLine [] = ([], []) := rfl

/-- Cutting loses nothing. -/
theorem cutLine_append (bs : Bytes) : (cutLine bs).1 ++ (cutLine bs).2 = bs := by
  induction bs with
  | nil => rfl
  | cons b bs ih => by_cases h : b = newline <;> simp [cutLine, h, ih]

theorem length_cutLine_snd_le (bs : Bytes) : (cutLine bs).2.length ≤ bs.length := by
  induction bs with
  | nil => simp
  | cons b bs ih => by_cases h : b = newline <;> simp [cutLine, h]; omega

theorem length_cutLine_snd_lt (b : UInt8) (bs : Bytes) :
    (cutLine (b :: bs)).2.length < (b :: bs).length := by
  have := length_cutLine_snd_le bs
  by_cases h : b = newline <;> simp [cutLine, h]; omega

/-- What follows a line does not change it once it is ended. -/
theorem cutLine_append_of_ended {bs : Bytes} (h : (cutLine bs).1.getLast? = some newline)
    (rest : Bytes) : cutLine (bs ++ rest) = ((cutLine bs).1, (cutLine bs).2 ++ rest) := by
  induction bs with
  | nil => simp at h
  | cons b bs ih =>
    by_cases hb : b = newline
    · simp [cutLine, hb]
    · rcases hl : (cutLine bs).1 with _ | ⟨c, line⟩
      · simp [cutLine, hb, hl] at h
      · have h' : (cutLine bs).1.getLast? = some newline := by
          simpa [cutLine, hb, hl] using h
        simp [cutLine, hb, ih h']

/-- The first line stands at the front. -/
theorem take_length_cutLine (bs : Bytes) :
    bs.take (cutLine bs).1.length = (cutLine bs).1 := by
  have h := @List.take_left _ (cutLine bs).1 (cutLine bs).2
  rwa [cutLine_append] at h

/-- A line that something follows is ended. -/
theorem getLast?_cutLine_of_ne_nil {bs : Bytes} (h : (cutLine bs).2 ≠ []) :
    (cutLine bs).1.getLast? = some newline := by
  induction bs with
  | nil => simp at h
  | cons b bs ih =>
    by_cases hb : b = newline
    · simp [cutLine, hb]
    · have h' := ih (by simpa [cutLine, hb] using h)
      rcases hl : (cutLine bs).1 with _ | ⟨c, line⟩
      · simp [hl] at h'
      · simp [cutLine, hb, hl] at h' ⊢
        exact h'

theorem cutLine_fst_ne_nil (b : UInt8) (bs : Bytes) : (cutLine (b :: bs)).1 ≠ [] := by
  by_cases h : b = newline <;> simp [cutLine, h]

/-- What one line says: a name, nothing, or that it cannot be read. -/
inductive Line where
  | name (s : String)
  | skipped
  | unreadable
  deriving DecidableEq, Repr

/-- Reads one line; the newline goes with the other blanks at its end. -/
def Line.ofBytes (line : Bytes) : Line :=
  match ofBytes? line with
  | none => .unreadable
  | some s =>
    match trim s.toList with
    | [] => .skipped
    | '#' :: _ => .skipped
    | cs => .name (String.ofList cs)

/-- The first line that is not skipped, and how many bytes end with it. -/
def firstOf : Bytes → Except IoError (Option String) × Nat
  | [] => (.ok none, 0)
  | b :: bs =>
    let line := (cutLine (b :: bs)).1
    match Line.ofBytes line with
    | .name s => (.ok (some s), line.length)
    | .unreadable => (.error .notUtf8, line.length)
    | .skipped =>
      let (r, n) := firstOf (cutLine (b :: bs)).2
      (r, line.length + n)
termination_by bs => bs.length
decreasing_by exact length_cutLine_snd_lt b bs

theorem firstOf_snd_le (bs : Bytes) : (firstOf bs).2 ≤ bs.length := by
  induction h : bs.length using Nat.strongRecOn generalizing bs with
  | _ k ih =>
    subst h
    cases bs with
    | nil => simp [firstOf]
    | cons b bs =>
      have hcut := congrArg List.length (cutLine_append (b :: bs))
      rw [List.length_append] at hcut
      rw [firstOf]
      split
      · simp only; omega
      · simp only; omega
      · have := ih _ (length_cutLine_snd_lt b bs) _ rfl
        simp only; omega

/-- A name, or a line that cannot be read, takes up some bytes. -/
theorem take_firstOf_ne_nil {bs : Bytes} (h : (firstOf bs).1 ≠ .ok none) :
    bs.take (firstOf bs).2 ≠ [] := by
  cases bs with
  | nil => simp [firstOf] at h
  | cons b bs =>
    have hl := List.length_pos_iff.2 (cutLine_fst_ne_nil b bs)
    have : 0 < (firstOf (b :: bs)).2 := by
      rw [firstOf]
      split <;> simp <;> omega
    simp [List.take_eq_nil_iff]
    omega

/-- The bytes that the next name takes up are complete: its last line is ended. -/
def ended (bytes : Bytes) (used : Nat) : Bool := (bytes.take used).getLast? == some newline

theorem ended_append (line : Bytes) {rest : Bytes} {n : Nat} (h : rest.take n ≠ []) :
    ended (line ++ rest) (line.length + n) = ended rest n := by
  simp only [ended, List.take_length_add_append, List.getLast?_append]
  rcases hr : (rest.take n).getLast? with _ | b
  · exact absurd (List.getLast?_eq_none_iff.1 hr) h
  · simp

/-- What follows the first name does not change it once its line is ended. -/
theorem firstOf_append {bs : Bytes} (hr : (firstOf bs).1 ≠ .ok none)
    (he : ended bs (firstOf bs).2) (rest : Bytes) : firstOf (bs ++ rest) = firstOf bs := by
  induction h : bs.length using Nat.strongRecOn generalizing bs with
  | _ k ih =>
    cases bs with
    | nil => simp [firstOf] at hr
    | cons b bs =>
      have hcut := cutLine_append (b :: bs)
      have hlen := length_cutLine_snd_lt b bs
      have whole (he : ended (b :: bs) (cutLine (b :: bs)).1.length) :
          cutLine (b :: (bs ++ rest)) = ((cutLine (b :: bs)).1, (cutLine (b :: bs)).2 ++ rest) :=
        cutLine_append_of_ended (by simpa [ended, take_length_cutLine] using he) rest
      rw [List.cons_append, firstOf, firstOf]
      rw [firstOf] at hr he
      cases hl : Line.ofBytes (cutLine (b :: bs)).1 with
      | name s =>
        simp only [hl] at he
        simp [whole he, hl]
      | unreadable =>
        simp only [hl] at he
        simp [whole he, hl]
      | skipped =>
        simp only [hl] at hr he
        have ht := take_firstOf_ne_nil hr
        have hne : (cutLine (b :: bs)).2 ≠ [] := by
          rintro h0
          simp [h0] at ht
        have he' : ended (cutLine (b :: bs)).2 (firstOf (cutLine (b :: bs)).2).2 := by
          rwa [← ended_append (cutLine (b :: bs)).1 ht, hcut]
        have hc : cutLine (b :: (bs ++ rest)) =
            ((cutLine (b :: bs)).1, (cutLine (b :: bs)).2 ++ rest) :=
          cutLine_append_of_ended (getLast?_cutLine_of_ne_nil hne) rest
        simp [hc, hl, ih _ (h ▸ hlen) hr he' rfl]

/-- Where the reading of a manifest stands: what was read but not used, and the offset after it. -/
structure Cursor where
  pending : Bytes
  offset : Nat
  deriving DecidableEq, Repr

namespace Cursor

def start : Cursor := ⟨[], 0⟩

/-- The bytes of the whole blocks that hold the next `wanted` ones. -/
def blocks (wanted : Nat) : Nat := (wanted + blockSize - 1) / blockSize * blockSize

@[simp] theorem blocks_zero : blocks 0 = 0 := rfl

/-- The next name if what is pending holds it up to the end of its line: then nothing is read. -/
def ready? (c : Cursor) : Option (Except IoError (Option String) × Cursor) :=
  match firstOf c.pending with
  | (.ok none, _) => none
  | (r, used) =>
    if ended c.pending used then some (r, { c with pending := c.pending.drop used }) else none

/-- The next name, where `rest` is what the file has from the offset on. A line without a newline
is only known to be the last one at the end of the file. -/
def next (c : Cursor) (rest : Bytes) : Except IoError (Option String) × Cursor :=
  let all := c.pending ++ rest
  let (r, used) := firstOf all
  let taken :=
    if ended all used then rest.take (blocks (used - c.pending.length)) else rest
  (r, ⟨(c.pending ++ taken).drop used, c.offset + taken.length⟩)

/-- The next name, where reading fails after these bytes. What has been read of a line is lost if
the line does not end in them, with the lines that were skipped before it. -/
def nextUntil (c : Cursor) (bytes : Bytes) (e : IoError) :
    Except IoError (Option String) × Cursor :=
  if ({ c with pending := c.pending ++ bytes } : Cursor).ready?.isSome then c.next bytes
  else (.error e, ⟨[], c.offset + bytes.length⟩)

/-- The next name, with what could be read of the file from the offset on. -/
def resume (c : Cursor) (rest : Rest) : Except IoError (Option String) × Cursor :=
  match rest.failure? with
  | none => c.next rest.bytes
  | some e => c.nextUntil rest.bytes e

/-- A name that is ready is the one that comes next, whatever the file holds from here on. -/
theorem next_of_ready? {c : Cursor} {x : Except IoError (Option String) × Cursor}
    (h : c.ready? = some x) (rest : Bytes) : c.next rest = x := by
  unfold ready? at h
  split at h
  · simp at h
  · rename_i r used hnone hfirst
    split at h
    · rename_i he
      have hr : (firstOf c.pending).1 ≠ .ok none := by
        intro h0
        rw [hfirst] at h0
        exact hnone h0
      have hle : used ≤ c.pending.length := by
        simpa [hfirst] using firstOf_snd_le c.pending
      have hall : firstOf (c.pending ++ rest) = (r, used) := by
        rw [firstOf_append hr (by simpa [hfirst] using he), hfirst]
      have hend : ended (c.pending ++ rest) used = true := by
        simpa [ended, List.take_append_of_le_length hle] using he
      simp only [Option.some.injEq] at h
      simp [next, hall, hend, Nat.sub_eq_zero_of_le hle, ← h]
    · simp at h

end Cursor

end TreeHaul.Manifest
