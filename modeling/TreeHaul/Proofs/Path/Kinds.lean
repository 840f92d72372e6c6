import Mathlib.Tactic.Lemma
import TreeHaul.Path.Backend
import TreeHaul.Path.Stat

/-!
Kinds and modes. Whatever mode a file has, what is shown of it as a directory has the format bits of
one and the other bits of the file, so its kind is still the one that its mode tells.
-/

namespace TreeHaul.Path

namespace Mode

lemma or_and_distrib (a b m : UInt32) : (a ||| b) &&& m = a &&& m ||| b &&& m :=
  UInt32.toBitVec_inj.mp BitVec.and_or_distrib_right

/-- Bits that are cleared and set anew are as they were set. -/
lemma reset_and {m d : UInt32} (h : d &&& m = d) (a : UInt32) : (a &&& ~~~m ||| d) &&& m = d := by
  rw [or_and_distrib, UInt32.and_assoc, UInt32.not_and_self, UInt32.and_zero, UInt32.zero_or, h]

/-- The other bits stay. -/
lemma reset_and_not {m d : UInt32} (h : d &&& ~~~m = 0) (a : UInt32) :
    (a &&& ~~~m ||| d) &&& ~~~m = a &&& ~~~m := by
  rw [or_and_distrib, UInt32.and_assoc, UInt32.and_self, h, UInt32.or_zero]

end Mode

namespace Stat

lemma format_asDirectory (s : Stat) : s.asDirectory.mode &&& Mode.format = Mode.directory :=
  Mode.reset_and rfl s.mode

lemma perm_asDirectory (s : Stat) : s.asDirectory.perm = s.perm :=
  Mode.reset_and_not rfl s.mode

lemma ofMode_asDirectory (s : Stat) : FileKind.ofMode s.asDirectory.mode = .directory := by
  rw [FileKind.ofMode, format_asDirectory]
  rfl

/-- What a record of a backend says of itself: its kind is the one that its mode tells, and a list
is always a directory. -/
structure Suits (s : Stat) (b : Backend) : Prop where
  kind : s.kind = .ofMode s.mode
  list : b = .list → s.kind = .directory

lemma suits_ofMetadata (m : Metadata) {b : Backend} (hb : b ≠ .list) : (ofMetadata m).Suits b :=
  ⟨rfl, fun h => absurd h hb⟩

lemma suits_asDirectory (s : Stat) (b : Backend) : s.asDirectory.Suits b :=
  ⟨s.ofMode_asDirectory.symm, fun _ => rfl⟩

/-- One record is that of a directory, and says nothing else of it than the other says. -/
structure ShownAs (s t : Stat) : Prop where
  kind : t.kind = .directory
  format : t.mode &&& Mode.format = Mode.directory
  perm : t.perm = s.perm
  rest : { t with kind := s.kind, mode := s.mode } = s

lemma shownAs_asDirectory (s : Stat) : s.ShownAs s.asDirectory :=
  ⟨rfl, s.format_asDirectory, s.perm_asDirectory, rfl⟩

end Stat

end TreeHaul.Path
