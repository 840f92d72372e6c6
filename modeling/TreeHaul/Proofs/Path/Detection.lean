import Mathlib.Data.List.Basic
import TreeHaul.Path.Backend
import TreeHaul.Text.Bytes

/-!
Which paths get which backend, in terms of their characters. A path that the system gave, and so
begins with a slash, is never one of a list.
-/

namespace TreeHaul

open TreeHaul.Text

namespace Path.Backend

/-- The null device itself, or what has a slash right after it. -/
def InNullTree (path : String) : Prop :=
  path.toList = nullDevice.toList ∨ ∃ rest, path.toList = nullDevice.toList ++ '/' :: rest

lemma rest?_eq_some_iff {beginning path : String} {rest : List Char} :
    rest? beginning path = some rest ↔ path.toList = beginning.toList ++ rest := by
  rw [rest?, List.isPrefixOf?_eq_some_iff_append_eq, eq_comm]

lemma InNullTree.exists_rest {path : String} (h : InNullTree path) :
    ∃ rest, path.toList = '/' :: rest := by
  rcases h with h | ⟨rest, h⟩
  · exact ⟨_, h⟩
  · exact ⟨_, h⟩

lemma detect_eq_list_iff {path : String} :
    detect path = .list ↔ ∃ rest, path.toList = listTag.toList ++ rest := by
  unfold detect
  split
  · rename_i rest h
    exact iff_of_true rfl ⟨rest, rest?_eq_some_iff.mp h⟩
  · rename_i h
    refine iff_of_false (by split <;> nofun) ?_
    rintro ⟨rest, hrest⟩
    rw [rest?_eq_some_iff.mpr hrest] at h
    cases h

lemma detect_eq_null_iff {path : String} : detect path = .null ↔ InNullTree path := by
  unfold detect
  split
  · rename_i rest h
    refine iff_of_false nofun fun hn => ?_
    -- the tag begins with a letter, the device with a slash
    obtain ⟨rest', h'⟩ := hn.exists_rest
    rw [rest?_eq_some_iff.mp h] at h'
    cases List.head_eq_of_cons_eq h'
  · split
    · rename_i h
      refine iff_of_true rfl (.inl ?_)
      rw [rest?_eq_some_iff.mp h, List.append_nil]
    · rename_i rest h
      exact iff_of_true rfl (.inr ⟨rest, rest?_eq_some_iff.mp h⟩)
    · rename_i hnil hslash
      refine iff_of_false nofun ?_
      rintro (h | ⟨rest, h⟩)
      · exact hnil (rest?_eq_some_iff.mpr (by rw [h, List.append_nil]))
      · exact hslash rest (rest?_eq_some_iff.mpr h)

end Path.Backend

namespace Text

lemma bytesOf_of_ofBytes? {bytes : Bytes} {s : String} (h : ofBytes? bytes = some s) :
    bytesOf s = bytes := by
  unfold ofBytes? String.fromUTF8? at h
  split at h
  · cases h
    rfl
  · cases h

/-- The form of a text begins with the form of its first character. -/
lemma head?_bytesOf {s : String} {c : Char} {rest : List Char} (h : s.toList = c :: rest) :
    (bytesOf s).head? = (String.utf8EncodeChar c).head? := by
  have hs : s.toByteArray = (String.utf8EncodeChar c).toByteArray ++ rest.utf8Encode := by
    rw [← String.utf8Encode_toList, h, List.utf8Encode_cons, List.utf8Encode_singleton]
  unfold bytesOf
  rw [String.toUTF8_eq_toByteArray, hs, ByteArray.data_append, Array.toList_append,
    List.data_toByteArray, List.head?_append_of_ne_nil _ String.utf8EncodeChar_ne_nil]

end Text

namespace Path.Backend

/-- A path that the system gave does not begin with the tag of lists. -/
lemma detect_ne_list {path : String} {bytes : Bytes} (h : ofBytes? bytes = some path)
    (hb : bytes.head? = some 47) : detect path ≠ .list := by
  intro hl
  obtain ⟨rest, hr⟩ := detect_eq_list_iff.mp hl
  have hhead : (bytesOf path).head? = some 108 := head?_bytesOf hr
  rw [bytesOf_of_ofBytes? h, hb] at hhead
  exact absurd hhead (by decide)

end Path.Backend

end TreeHaul
