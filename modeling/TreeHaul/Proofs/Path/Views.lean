import Mathlib
import TreeHaul.Path.Error

/-!
The views of an error: its variant, its number, the status that is noted of it, and the error of the
system that it is for others. That nothing is there is told by the kind of the system's error, and
only one number is of that kind. A status is told in one line; the last word of it is enough to see
whether a backend cannot do what was asked, and, where a call failed, with which number.
-/

namespace TreeHaul

open TreeHaul.Os

/-! ### Numbers of the system -/

namespace Os.Errno

lemma row_eq_noent : ∀ row ∈ table, row.2.1 = .notFound → row.1 = noent := by
  decide +kernel

/-- One number says that nothing is there. -/
lemma kind_eq_notFound_iff {n : Int} : kind n = .notFound ↔ n = noent := by
  refine ⟨fun h => ?_, ?_⟩
  · rw [kind] at h
    split at h
    · rename_i k t hrow
      obtain ⟨rows, rest, htable, -⟩ := List.lookup_eq_some_iff.mp hrow
      have hmem : (n, k, t) ∈ table := htable ▸ List.mem_append_right rows List.mem_cons_self
      exact row_eq_noent _ hmem h
    · cases h
  · rintro rfl
    rfl

lemma exists_text_eq (n : Int) : ∃ s, text n = s ++ (" (os error " ++ (toString n ++ ")")) := by
  rw [text, String.append_assoc, String.append_assoc]
  exact ⟨_, rfl⟩

lemma blank_notMem_toString (n : Int) : ' ' ∉ (toString n).toList := by
  have hdigits (m : Nat) : ' ' ∉ m.repr.toList := by
    intro h
    rw [Nat.toList_repr] at h
    exact absurd (Nat.isDigit_of_mem_toDigits (by decide) (by decide) h) (by decide)
  rw [Int.toString_eq_repr, Int.repr_eq_if]
  split
  · exact hdigits _
  · rw [String.toList_append, List.mem_append]
    exact not_or.mpr ⟨by decide, hdigits _⟩

end Os.Errno

namespace Path

/-! ### Statuses as texts -/

namespace Status

/-- What follows the last blank. -/
def lastWord (s : String) : List Char := s.toList.rtakeWhile (· ≠ ' ')

lemma lastWord_append {w : String} (hw : ' ' ∉ w.toList) (s : String) :
    lastWord (s ++ (" " ++ w)) = w.toList := by
  have hall : ∀ c ∈ w.toList.reverse, decide (c ≠ ' ') = true := fun c hc =>
    decide_eq_true (ne_of_mem_of_not_mem (List.mem_reverse.mp hc) hw)
  have htext : (s ++ (" " ++ w)).toList.reverse = w.toList.reverse ++ ' ' :: s.toList.reverse := by
    simp
  rw [lastWord, List.rtakeWhile, htext, List.takeWhile_append_of_pos hall]
  simp

/-- The word that the line of a status ends with. -/
def closing (s : Status) : String :=
  match s.kind with
  | .ok => "success"
  | .unsupported => "backend"
  | _ => toString s.errno ++ ")"

lemma lastWord_text (op : String) (n : Int) :
    lastWord (op ++ ": " ++ Errno.text n) = (toString n ++ ")").toList := by
  obtain ⟨t, ht⟩ := Errno.exists_text_eq n
  have hblank : ' ' ∉ (toString n ++ ")").toList := by
    rw [String.toList_append, List.mem_append]
    exact not_or.mpr ⟨Errno.blank_notMem_toString n, by decide⟩
  have hword : op ++ ": " ++ Errno.text n =
      op ++ ": " ++ t ++ " (os error" ++ (" " ++ (toString n ++ ")")) := by
    rw [ht, String.append_assoc, String.append_assoc, String.append_assoc, String.append_assoc]
    rfl
  rw [hword, lastWord_append hblank]

lemma lastWord_describe (s : Status) : lastWord s.describe = s.closing.toList := by
  obtain ⟨kind, op, rc, errno⟩ := s
  cases kind with
  | ok =>
    have hall : ∀ c ∈ "success".toList, decide (c ≠ ' ') = true := by simp
    exact List.rtakeWhile_eq_self_iff.mpr hall
  | unsupported =>
    have hline : op ++ ": not supported by this backend" =
        op ++ ": not supported by this" ++ (" " ++ "backend") := by
      rw [String.append_assoc]
      rfl
    rw [describe, hline, lastWord_append (by decide)]
    rfl
  | backendFailure | notFound | invalidState | invalidPath => exact lastWord_text op errno

lemma closing_eq_of_describe_eq {s t : Status} (h : s.describe = t.describe) :
    s.closing = t.closing := by
  rw [← String.toList_inj, ← lastWord_describe, ← lastWord_describe, h]

lemma closing_eq_backend_iff {s : Status} : s.closing = "backend" ↔ s.kind = .unsupported := by
  have hnumber (n : Int) : toString n ++ ")" ≠ "backend" := by
    intro h
    simpa using congrArg (·.toList.getLast?) h
  obtain ⟨kind, op, rc, errno⟩ := s
  cases kind with
  | ok =>
    have hword : "success" ≠ "backend" := by decide
    exact iff_of_false hword nofun
  | unsupported => exact iff_of_true rfl rfl
  | backendFailure | notFound | invalidState | invalidPath =>
    exact iff_of_false (hnumber errno) nofun

lemma closing_of_failed {s : Status} (hok : s.kind ≠ .ok) (hu : s.kind ≠ .unsupported) :
    s.closing = toString s.errno ++ ")" := by
  rw [closing]
  split
  · contradiction
  · contradiction
  · rfl

/-- What a backend cannot do reads as nothing else does. -/
lemma describe_ne {s t : Status} (hs : s.kind = .unsupported) (ht : t.kind ≠ .unsupported) :
    s.describe ≠ t.describe := by
  intro h
  have hclosing := closing_eq_of_describe_eq h
  rw [closing_eq_backend_iff.mpr hs] at hclosing
  exact ht (closing_eq_backend_iff.mp hclosing.symm)

/-- What failed reads differently for different numbers. -/
lemma errno_eq_of_describe_eq {s t : Status} (hs : s.kind ∉ [.ok, .unsupported])
    (ht : t.kind ∉ [.ok, .unsupported]) (h : s.describe = t.describe) : s.errno = t.errno := by
  have hclosing := closing_eq_of_describe_eq h
  simp only [List.mem_cons, List.not_mem_nil, or_false, not_or] at hs ht
  rw [closing_of_failed hs.1 hs.2, closing_of_failed ht.1 ht.2, String.append_left_inj,
    Int.toString_eq_repr, Int.toString_eq_repr] at hclosing
  exact Int.repr_inj.mp hclosing

end Status

/-! ### Errors of the system -/

namespace PathError

section OfIo

variable (op path : String) {e : IoError}

lemma ofIo_of_notFound (h : e.kind = .notFound) : ofIo op path e = notFound path := if_pos h

lemma ofIo_of_ne (h : e.kind ≠ .notFound) : ofIo op path e = backend op path e := if_neg h

lemma ofIo_eq_notFound_iff {p : String} :
    ofIo op path e = notFound p ↔ e.kind = .notFound ∧ p = path := by
  by_cases h : e.kind = .notFound
  · rw [ofIo_of_notFound op path h, notFound.injEq, eq_comm]
    exact (and_iff_right h).symm
  · rw [ofIo_of_ne op path h]
    exact iff_of_false nofun fun hp => h hp.1

/-- The system's number is kept: where the error is only that nothing is there, it was the one number
that says so. -/
lemma errno_ofIo_eq : (ofIo op path e).errno =
    e.errno?.getD (if e.kind = .notFound then Errno.noent else Errno.io) := by
  by_cases h : e.kind = .notFound
  · rw [ofIo_of_notFound op path h, if_pos h]
    cases e with
    | raw n => exact (Errno.kind_eq_notFound_iff.mp h).symm
    | plain kind text => rfl
  · rw [ofIo_of_ne op path h, if_neg h]
    rfl

lemma kind_toIo_ofIo : (ofIo op path e).toIo.kind = e.kind := by
  by_cases h : e.kind = .notFound
  · rw [ofIo_of_notFound op path h, h]
    rfl
  · rw [ofIo_of_ne op path h]
    rfl

end OfIo

lemma kind_status_ne_ok (e : PathError) (op : String) : (e.status op).kind ≠ .ok := by
  cases e <;> exact nofun

lemma kind_status_eq_unsupported_iff (e : PathError) (op : String) :
    (e.status op).kind = .unsupported ↔ e.isUnsupported := by
  cases e <;> simp [status, statusKind, isUnsupported]

/-- **The views of an error agree.** Let a backend fail in `op` with an error of the system. What
comes of it says that nothing is at the path exactly if the system's kind says so; its number is that
of the system, or one for the kind where the system gave none; and the error of the system that it is
for others has the kind of the first one. A status that is noted of any error is never one of success,
has its number, and is of a call that the backend does not have exactly if the error is. The line of
such a status differs from that of each other one, whatever calls they are of; and two failures with
one line have one number. -/
theorem views_agree :
    (∀ (op path : String) (source : IoError), let e := ofIo op path source
      (∀ p, e = notFound p ↔ source.kind = .notFound ∧ p = path) ∧
      e.errno = source.errno?.getD (if source.kind = .notFound then 2 else 5) ∧
      e.toIo.kind = source.kind) ∧
    (∀ (e : PathError) (op : String), let s := e.status op
      s.isOk = false ∧ s.errno = e.errno ∧ (s.kind = .unsupported ↔ e.isUnsupported)) ∧
    (∀ s t : Status, s.kind = .unsupported → t.kind ≠ .unsupported → s.describe ≠ t.describe) ∧
    ∀ s t : Status, s.kind ∉ [.ok, .unsupported] → t.kind ∉ [.ok, .unsupported] →
      s.describe = t.describe → s.errno = t.errno := by
  refine ⟨fun op path source => ?_, fun e op => ?_, fun s t => Status.describe_ne,
    fun s t => Status.errno_eq_of_describe_eq⟩
  · exact ⟨fun p => ofIo_eq_notFound_iff op path, errno_ofIo_eq op path, kind_toIo_ofIo op path⟩
  · have hok : (e.status op).isOk = false := beq_false_of_ne (kind_status_ne_ok e op)
    exact ⟨hok, rfl, kind_status_eq_unsupported_iff e op⟩

/-- The line of one status may begin with that of another. -/
theorem views_agree_spoofed :
    let s : Status := ⟨.unsupported, "open: Success (os error 0)
read", -1, 95⟩
    let t : Status := ⟨.backendFailure, "read: not supported by this backend", 7, -2147483648⟩
    let u : Status := ⟨.invalidState, t.op, -1, t.errno⟩
    s.describe ≠ t.describe ∧ t.describe = u.describe ∧ t.errno = u.errno ∧
      (ofIo "open" "/a" (.plain .notFound "gone")).errno = 2 ∧
      (ofIo "open" "/a" (.raw 2)).errno = 2 ∧ (ofIo "open" "/a" (.plain .other "odd")).errno = 5 := by
  intro s t u
  obtain ⟨hio, -, hne, heq⟩ := views_agree
  exact ⟨hne s t rfl (by decide), rfl, heq t u (by decide) (by decide) rfl,
    (hio "open" "/a" (.plain .notFound "gone")).2.1, (hio "open" "/a" (.raw 2)).2.1,
    (hio "open" "/a" (.plain .other "odd")).2.1⟩

end PathError

end Path

end TreeHaul
