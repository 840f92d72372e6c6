import Mathlib.Tactic.Lemma
import TreeHaul.Proofs.Path.Detection
import TreeHaul.Text.Blank

/-!
Texts and their UTF-8 forms. The form of a text is the forms of its characters one after another,
and a newline shows in it as one byte that no other character has in its form.
-/

namespace TreeHaul.Text

lemma bytesOf_eq_flatMap (s : String) : bytesOf s = s.toList.flatMap String.utf8EncodeChar := by
  rw [bytesOf, String.toUTF8_eq_toByteArray, ← String.utf8Encode_toList, List.utf8Encode,
    List.data_toByteArray]

@[simp] lemma bytesOf_append (s t : String) : bytesOf (s ++ t) = bytesOf s ++ bytesOf t := by
  simp [bytesOf_eq_flatMap]

lemma ofBytes?_bytesOf (s : String) : ofBytes? (bytesOf s) = some s := by
  have hs : (⟨(bytesOf s).toArray⟩ : ByteArray) = s.toByteArray := rfl
  rw [ofBytes?, String.fromUTF8?, hs, dif_pos s.isValidUTF8]
  rfl

lemma ofBytes?_eq_some_iff {bytes : Bytes} {s : String} :
    ofBytes? bytes = some s ↔ bytesOf s = bytes := by
  refine ⟨bytesOf_of_ofBytes?, ?_⟩
  rintro rfl
  exact ofBytes?_bytesOf s

/-! ### Newlines -/

/-- No byte of a longer form is an ASCII one, so a newline among the bytes is one of the text. -/
lemma newline_mem_utf8EncodeChar {c : Char} : 10 ∈ String.utf8EncodeChar c ↔ c = '\n' := by
  refine ⟨fun h => ?_, by rintro rfl; decide⟩
  have hval : c.val.toNat = 10 := by
    unfold String.utf8EncodeChar at h
    dsimp only at h
    split_ifs at h <;>
      simp only [List.mem_cons, List.not_mem_nil, or_false, ← UInt8.toNat_inj, UInt8.toNat_ofNat',
        UInt8.reduceToNat] at h <;> omega
  exact Char.ext (UInt32.toNat_inj.mp hval)

lemma newline_mem_bytesOf {s : String} : 10 ∈ bytesOf s ↔ '\n' ∈ s.toList := by
  simp [bytesOf_eq_flatMap, newline_mem_utf8EncodeChar]

/-- A form that ends with the byte of a newline is of a text that ends with one. -/
lemma bytesOf_eq_append_newline_iff {t : String} {bytes : Bytes} :
    bytesOf t = bytes ++ [10] ↔ ∃ s, bytesOf s = bytes ∧ s ++ "\n" = t := by
  refine ⟨fun h => ?_, ?_⟩
  · rw [bytesOf_eq_flatMap] at h
    rcases List.eq_nil_or_concat t.toList with ht | ⟨cs, c, ht⟩
    · simp [ht] at h
    · rw [ht, List.concat_eq_append, List.flatMap_append, List.flatMap_singleton] at h
      have hlast : (String.utf8EncodeChar c).getLast? = some 10 := by
        simpa [List.getLast?_append, String.utf8EncodeChar_ne_nil] using congrArg List.getLast? h
      obtain rfl := newline_mem_utf8EncodeChar.mp (List.mem_of_getLast? hlast)
      refine ⟨String.ofList cs, ?_, ?_⟩
      · rw [bytesOf_eq_flatMap, String.toList_ofList]
        exact List.append_cancel_right h
      · rw [← String.ofList_toList (s := t), ht, List.concat_eq_append, String.ofList_append]
  · rintro ⟨s, rfl, rfl⟩
    exact bytesOf_append s "\n"

/-- A newline after some bytes is one after their text, and does not change whether they are one. -/
lemma ofBytes?_append_newline (bytes : Bytes) :
    ofBytes? (bytes ++ [10]) = (ofBytes? bytes).map (· ++ "\n") := by
  ext t
  simp only [Option.map_eq_some_iff, ofBytes?_eq_some_iff]
  exact bytesOf_eq_append_newline_iff

end TreeHaul.Text
