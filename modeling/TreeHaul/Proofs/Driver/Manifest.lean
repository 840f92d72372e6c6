import Mathlib.Data.List.Basic
import Mathlib.Tactic.MkIffOfInductiveProp
import TreeHaul.Driver.Listing
import TreeHaul.Proofs.Text.Encoding

/-!
What a manifest says, line by line, and that reading it in blocks gives just that. Wherever the
reading stands, the names still to come are those of the bytes ahead of it. Where the file cannot be
read on, no name is lost but the one whose line had begun.
-/

namespace TreeHaul.Manifest

open TreeHaul.Os TreeHaul.Path TreeHaul.Text

/-- The pieces of a manifest between its newlines. After the last newline there is a line only if
there is something. -/
def lines (content : Bytes) : List Bytes :=
  let pieces := content.splitOn newline
  if pieces.getLast? = some [] then pieces.dropLast else pieces

/-- What an enumeration answers for one line, if it does not skip it. Its errors name `path`. -/
def answer? (path : String) (line : Bytes) : Option (Except PathError (Option String)) :=
  match ofBytes? line with
  | none => some (.error (.backend "read_dir_entry" path .notUtf8))
  | some text =>
    let name := trim text.toList
    if name = [] ∨ name.head? = some '#' then none else some (.ok (some (String.ofList name)))

/-- What an enumeration of a manifest answers before it is at the end. -/
def answers (path : String) (content : Bytes) : List (Except PathError (Option String)) :=
  (lines content).filterMap (answer? path)

/-- A text that a manifest can give as a name. -/
@[mk_iff]
structure IsName (name : String) : Prop where
  nonempty : name.toList ≠ []
  oneLine : '\n' ∉ name.toList
  head : name.toList.head?.all fun c => !isBlank c
  last : name.toList.getLast?.all fun c => !isBlank c
  noComment : name.toList.head? ≠ some '#'

instance (name : String) : Decidable (IsName name) :=
  decidable_of_iff _ (isName_iff name).symm

/-! ### Lines -/

/-- An empty line is skipped wherever it is, so the one after the last newline may be kept. -/
lemma answers_eq_splitOn (path : String) (content : Bytes) :
    answers path content = (content.splitOn newline).filterMap (answer? path) := by
  have hempty : answer? path [] = none := rfl
  unfold answers lines
  dsimp only
  split
  · rename_i h
    conv_rhs => rw [← List.dropLast_append_getLast? [] h, List.filterMap_append]
    simp [hempty]
  · rfl

lemma answers_append_newline (path : String) (content rest : Bytes) :
    answers path (content ++ newline :: rest) = answers path content ++ answers path rest := by
  rw [answers_eq_splitOn, List.splitOn_append_cons_self, List.filterMap_append,
    ← answers_eq_splitOn, ← answers_eq_splitOn]

lemma answers_of_notMem (path : String) {line : Bytes} (h : newline ∉ line) :
    answers path line = (answer? path line).toList := by
  rw [answers_eq_splitOn, List.splitOn_eq_singleton h, List.filterMap_cons]
  cases answer? path line <;> rfl

lemma cutLine_of_notMem {line : Bytes} (h : newline ∉ line) : cutLine line = (line, []) := by
  induction line with
  | nil => rfl
  | cons b line ih =>
    rw [List.mem_cons, not_or] at h
    simp [cutLine, Ne.symm h.1, ih h.2]

lemma cutLine_append_newline {line : Bytes} (h : newline ∉ line) (rest : Bytes) :
    cutLine (line ++ newline :: rest) = (line ++ [newline], rest) := by
  induction line with
  | nil => rfl
  | cons b line ih =>
    rw [List.mem_cons, not_or] at h
    simp [cutLine, Ne.symm h.1, ih h.2]

/-! ### What a line says -/

lemma trim_append_blank {c : Char} (h : isBlank c = true) (cs : List Char) :
    trim (cs ++ [c]) = trim cs := by
  simp only [trim, List.dropWhile_append]
  split
  · rename_i hcs
    simp [List.isEmpty_iff.mp hcs, h]
  · simp [h]

lemma ofBytes_append_newline (line : Bytes) :
    Line.ofBytes (line ++ [newline]) = Line.ofBytes line := by
  have hblank (text : String) : trim (text ++ "\n").toList = trim text.toList := by
    rw [String.toList_append]
    exact trim_append_blank (by decide) _
  rw [Line.ofBytes, newline, ofBytes?_append_newline]
  cases h : ofBytes? line with
  | none => simp only [Line.ofBytes, h, Option.map_none]
  | some text => simp only [Line.ofBytes, h, Option.map_some, hblank]

/-- What an enumeration answers for a line that was read. -/
def Line.answer? (path : String) : Line → Option (Except PathError (Option String))
  | name s => some (.ok (some s))
  | skipped => none
  | unreadable => some (.error (.backend "read_dir_entry" path .notUtf8))

lemma answer?_ofBytes (path : String) (line : Bytes) :
    (Line.ofBytes line).answer? path = answer? path line := by
  unfold Line.ofBytes answer?
  cases ofBytes? line with
  | none => rfl
  | some text =>
    rcases ht : trim text.toList with _ | ⟨c, cs⟩
    · simp [ht, Line.answer?]
    · by_cases hc : c = '#'
      · subst hc
        simp [ht, Line.answer?]
      · simp [ht, hc, Line.answer?]

/-- The answers come from the first line, unless it is skipped, and from what follows it. -/
lemma answers_cutLine (path : String) (content : Bytes) :
    answers path content =
      ((Line.ofBytes (cutLine content).1).answer? path).toList ++
        answers path (cutLine content).2 := by
  by_cases hn : newline ∈ content
  · obtain ⟨line, rest, rfl, hline⟩ := List.eq_append_cons_of_mem hn
    rw [cutLine_append_newline hline, ofBytes_append_newline, answer?_ofBytes,
      answers_append_newline, answers_of_notMem path hline]
  · rw [cutLine_of_notMem hn, answer?_ofBytes, answers_of_notMem path hn]
    exact (List.append_nil _).symm

/-! ### Names -/

lemma bytesOf_newline : bytesOf "\n" = [newline] := rfl

lemma trim_eq_self {cs : List Char} (hhead : cs.head?.all fun c => !isBlank c)
    (hlast : cs.getLast?.all fun c => !isBlank c) : trim cs = cs := by
  have hkeep (l : List Char) (h : l.head?.all fun c => !isBlank c) : l.dropWhile isBlank = l := by
    cases l with
    | nil => rfl
    | cons c l =>
      have hc : isBlank c = false := by simpa using h
      exact List.dropWhile_cons_of_neg (by simp [hc])
  rw [trim, hkeep cs hhead, hkeep cs.reverse (by rwa [List.head?_reverse]), List.reverse_reverse]

lemma IsName.answer? {name : String} (h : IsName name) (path : String) :
    Manifest.answer? path (bytesOf name) = some (.ok (some name)) := by
  have htrim : trim name.toList = name.toList := trim_eq_self h.head h.last
  simp [Manifest.answer?, ofBytes?_bytesOf, htrim, h.nonempty, h.noComment]

/-- Names on a line each are the answers. -/
lemma answers_intercalate (path : String) {names : List String} (h : ∀ name ∈ names, IsName name) :
    answers path (bytesOf ("\n".intercalate names)) = names.map fun name => .ok (some name) := by
  induction names with
  | nil => rfl
  | cons name names ih =>
    obtain ⟨hname, hnames⟩ := List.forall_mem_cons.mp h
    have hfirst : answers path (bytesOf name) = [.ok (some name)] := by
      rw [answers_of_notMem path (newline_mem_bytesOf.not.mpr hname.oneLine), hname.answer? path]
      rfl
    cases names with
    | nil => rw [String.intercalate_singleton, hfirst]; rfl
    | cons next names =>
      rw [String.intercalate_cons_cons, String.append_assoc, bytesOf_append, bytesOf_append,
        bytesOf_newline, List.singleton_append, answers_append_newline, hfirst, ih hnames]
      rfl

/-- A newline at the end adds no name. -/
lemma answers_append_final_newline (path : String) (content : Bytes) :
    answers path (content ++ [newline]) = answers path content := by
  rw [answers_append_newline]
  exact List.append_nil _

/-! ### What is read next -/

lemma drop_cutLine (content : Bytes) (n : Nat) :
    content.drop ((cutLine content).1.length + n) = (cutLine content).2.drop n := by
  have h : ((cutLine content).1 ++ (cutLine content).2).drop ((cutLine content).1.length + n) =
      (cutLine content).2.drop n := List.drop_length_add_append n
  rwa [cutLine_append] at h

/-- The first name is the first answer, and the others follow the line it is on. -/
lemma answers_firstOf (path : String) (content : Bytes) :
    (firstOf content).1.mapError (.ofIo "read_dir_entry" path) =
        (answers path content).headD (.ok none) ∧
      answers path (content.drop (firstOf content).2) = (answers path content).tail := by
  fun_induction firstOf content with
  | case1 => exact ⟨rfl, rfl⟩
  | case2 b bs line s hl =>
    rw [answers_cutLine path (b :: bs), hl]
    exact ⟨rfl, congrArg (answers path) (drop_cutLine (b :: bs) 0)⟩
  | case3 b bs line hl =>
    rw [answers_cutLine path (b :: bs), hl]
    exact ⟨rfl, congrArg (answers path) (drop_cutLine (b :: bs) 0)⟩
  | case4 b bs line hl r n hrest ih =>
    -- a skipped line gives no answer, so the first one is among those of the rest
    rw [hrest] at ih
    rw [answers_cutLine path (b :: bs), hl, drop_cutLine]
    exact ih

namespace Cursor

/-- The bytes ahead of a cursor in a file that has `rest` from an offset on. -/
def ahead (c : Cursor) (start : Nat) (rest : Bytes) : Bytes :=
  c.pending ++ rest.drop (c.offset - start)

lemma le_blocks (n : Nat) : n ≤ blocks n := by
  unfold blocks blockSize
  omega

/-- What is read for the next name is at the front of the rest, and holds all that the name uses. -/
lemma next_snd (c : Cursor) (rest : Bytes) :
    ∃ taken left, taken ++ left = rest ∧
      (firstOf (c.pending ++ rest)).2 ≤ (c.pending ++ taken).length ∧
      (c.next rest).2 =
        ⟨(c.pending ++ taken).drop (firstOf (c.pending ++ rest)).2, c.offset + taken.length⟩ := by
  have hused := firstOf_snd_le (c.pending ++ rest)
  by_cases he : ended (c.pending ++ rest) (firstOf (c.pending ++ rest)).2
  · refine ⟨_, _, List.take_append_drop
      (blocks ((firstOf (c.pending ++ rest)).2 - c.pending.length)) rest, ?_, ?_⟩
    · have := le_blocks ((firstOf (c.pending ++ rest)).2 - c.pending.length)
      simp only [List.length_append, List.length_take] at hused ⊢
      omega
    · simp only [next, he, if_true]
  · refine ⟨rest, [], List.append_nil rest, hused, ?_⟩
    simp only [next, he, if_false, Bool.false_eq_true]

lemma ahead_next {c : Cursor} {start : Nat} (h : start ≤ c.offset) (rest : Bytes) :
    (c.next (rest.drop (c.offset - start))).2.ahead start rest =
      (c.ahead start rest).drop (firstOf (c.ahead start rest)).2 := by
  -- what was read beyond the name is pending, so nothing is lost between it and what is left
  obtain ⟨taken, left, hrest, hused, hnext⟩ := c.next_snd (rest.drop (c.offset - start))
  have hleft : rest.drop (c.offset + taken.length - start) = left := by
    rw [show c.offset + taken.length - start = c.offset - start + taken.length by omega,
      ← List.drop_drop, ← hrest, List.drop_left]
  rw [hnext, ahead, ahead, hleft, ← List.drop_append_of_le_length hused, List.append_assoc, hrest]

/-- The first answer is given and the others stay ahead. -/
lemma answers_next (path : String) {c : Cursor} {start : Nat} (h : start ≤ c.offset)
    (rest : Bytes) :
    (c.next (rest.drop (c.offset - start))).1.mapError (.ofIo "read_dir_entry" path) =
        (answers path (c.ahead start rest)).headD (.ok none) ∧
      answers path ((c.next (rest.drop (c.offset - start))).2.ahead start rest) =
        (answers path (c.ahead start rest)).tail := by
  rw [ahead_next h]
  exact answers_firstOf path (c.ahead start rest)

end Cursor

end TreeHaul.Manifest
