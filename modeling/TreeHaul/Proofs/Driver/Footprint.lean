import TreeHaul.Proofs.Driver.Failure
import TreeHaul.Proofs.Driver.Records
import TreeHaul.Proofs.Factory.Release

/-!
What lists and null paths ask of the system. Each request has its few calls, none of which may
change what is stored; so none does in any history, whatever the system answers. What the two
backends do not have never comes to the system.
-/

universe u

namespace TreeHaul

open TreeHaul.Os TreeHaul.Path TreeHaul.Text HasEntry

/-! ### What may be asked -/

/-- The call that opened an enumeration of what is at a path. -/
def ListCursor.opener (real : String) : ListCursor → Syscall Handle
  | dir _ => .openDir real
  | manifest .. => .open_ real .readOnly 0o666

/-- What a list asks: about its real path, and for more of its enumeration. -/
def Listing.Asks (d : Listing) : Sigma Syscall → Prop
  | ⟨_, .stat p _⟩ | ⟨_, .access p _⟩ | ⟨_, .accessAt p _ _⟩ | ⟨_, .openDir p⟩
  | ⟨_, .canonicalize p⟩ => p = d.realPath
  | ⟨_, .open_ p flags _⟩ => p = d.realPath ∧ flags = .readOnly
  | ⟨_, .nextName h⟩ => d.cursor? = some (.dir (.start h))
  | ⟨_, .readRest h _⟩ => ∃ at_, d.cursor? = some (.manifest h at_)
  | ⟨_, .close h⟩ => d.cursor?.map ListCursor.handle = some h
  | _ => False

/-- What a null path asks: only what its stand-in is. -/
def Null.Asks (d : Null) : Sigma Syscall → Prop
  | ⟨_, .stat p follow⟩ => p = d.standIn ∧ follow = true
  | _ => False

namespace AnyDriver

/-- What an entry asks. A plain path may ask anything. -/
def Asks : AnyDriver → Sigma Syscall → Prop
  | posix _, _ => True
  | list d, x => d.Asks x
  | null d, x => d.Asks x

lemma asks_question (d : AnyDriver) (follow : Bool) : d.Asks ⟨_, d.question follow⟩ := by
  cases d with
  | posix d => trivial
  | list d => exact rfl
  | null d => exact ⟨rfl, rfl⟩

lemma Asks.mutates {d : AnyDriver} {x : Sigma Syscall} (h : d.Asks x) (hd : backend d ≠ .posix) :
    x.2.mutates = false := by
  obtain ⟨α, c⟩ := x
  cases d with
  | posix d => exact absurd rfl hd
  | null d => cases c <;> first | rfl | exact h.elim
  | list d =>
    cases c with
    | open_ p flags mode =>
      obtain ⟨-, rfl⟩ := h
      rfl
    | _ => first | rfl | exact h.elim

/-- The two stand-ins of null paths are all that is asked about. -/
lemma Asks.standIn {d : AnyDriver} {x : Sigma Syscall} (h : d.Asks x) (hd : backend d = .null) :
    x = ⟨_, .stat "/dev" true⟩ ∨ x = ⟨_, .stat Backend.nullDevice true⟩ := by
  obtain ⟨α, c⟩ := x
  cases d with
  | posix d => cases hd
  | list d => cases hd
  | null d =>
    cases c with
    | stat p follow =>
      obtain ⟨rfl, rfl⟩ := h
      rw [Null.standIn]
      cases d.asDir with
      | true => exact .inl rfl
      | false => exact .inr rfl
    | _ => exact h.elim

/-- What a list enumerates was opened at its real path. -/
def Opened (d : AnyDriver) (calls : List (Sigma Syscall)) : Prop :=
  ∀ l c, d = list l → l.cursor? = some c → ⟨_, c.opener l.realPath⟩ ∈ calls

end AnyDriver

/-! ### What never comes to the system -/

/-- The backend does not have the capability. -/
def Path.Backend.lacks {α : Type} : Backend → Request α → Bool
  | .list, .open_ .. | .list, .close | .list, .read .. | .list, .write .. | .list, .mkdir _
  | .list, .remove | .list, .unlink | .list, .symlink _ | .list, .readLink _ | .list, .chown ..
  | .list, .chmod _ | .list, .setTimes _ => true
  | .null, .symlink _ | .null, .readLink _ => true
  | _, _ => false

/-- What a backend does not have fails at once, and only the status tells. -/
lemma AnyDriver.perform_of_lacks {σ : Type u} [System σ] {α : Type} {d : AnyDriver} {r : Request α}
    (h : (backend d).lacks r = true) (w : σ) :
    Driver.perform r d w = (.error (.unsupported r.name (backend d)),
      Driver.noting ⟨.unsupported, r.name, -1, Errno.notsup⟩ d, w) := by
  cases d with
  | posix d => cases h
  | list d => cases r <;> first | rfl | cases h
  | null d => cases r <;> first | rfl | cases h

/-! ### Steps -/

section Treads

variable {σ : Type u} {α : Type} {P : Sigma Syscall → Prop} {d d' d'' : AnyDriver}
variable {t t' t'' : Traced σ}

/-- From one state to another no calls were issued but of this kind, and what is enumerated was
opened. -/
structure Treads (P : Sigma Syscall → Prop) (d : AnyDriver) (t : Traced σ) (d' : AnyDriver)
    (t' : Traced σ) : Prop where
  issued : ∃ xs, t'.calls = xs ++ t.calls ∧ ∀ x ∈ xs, P x
  opened : d.Opened t.calls → d'.Opened t'.calls

lemma treads_refl (d : AnyDriver) (t : Traced σ) : Treads P d t d t := ⟨⟨[], rfl, nofun⟩, id⟩

lemma Treads.trans (h : Treads P d t d' t') (h' : Treads P d' t' d'' t'') :
    Treads P d t d'' t'' := by
  obtain ⟨xs, hxs, hP⟩ := h.issued
  obtain ⟨ys, hys, hP'⟩ := h'.issued
  refine ⟨⟨ys ++ xs, ?_, fun x hx => ?_⟩, h'.opened ∘ h.opened⟩
  · rw [hys, hxs, List.append_assoc]
  · rcases List.mem_append.mp hx with hx | hx
    · exact hP' x hx
    · exact hP x hx

lemma Treads.mono {Q : Sigma Syscall → Prop} (h : Treads P d t d' t') (hPQ : ∀ x, P x → Q x) :
    Treads Q d t d' t' := by
  obtain ⟨xs, hxs, hP⟩ := h.issued
  exact ⟨⟨xs, hxs, fun x hx => hPQ x (hP x hx)⟩, h.opened⟩

lemma Treads.mapEntry (h : Treads P d t d' t') (f : Entry → Entry)
    (hf : ∀ e, (f e).path = e.path) : Treads P d t (Driver.mapEntry f d') t' := by
  refine ⟨h.issued, fun ho l c hl hc => ?_⟩
  have hd := h.opened ho
  cases d' with
  | posix d' => cases hl
  | null d' => cases hl
  | list d' =>
    cases hl
    have hreal : Listing.realPath { d' with entry := f d'.entry } = d'.realPath :=
      congrArg Listing.untagged (hf d'.entry)
    have hmem := hd d' c rfl hc
    rwa [← hreal] at hmem

lemma Treads.observed (h : Treads P d t d' t') (op : String) (x : Except PathError α) :
    Treads P d t (Driver.observed op x d' t').2.1 t' :=
  h.mapEntry (·.record op x) fun _ => rfl

lemma Treads.changed (h : Treads P d t d' t') (op : String) (x : Except PathError α) :
    Treads P d t (Driver.changed op x d' t').2.1 t' :=
  h.mapEntry (·.recordMutation op x) fun _ => by cases x <;> rfl

variable [System σ]

lemma treads_call {c : Syscall α} (hc : P ⟨_, c⟩) (d : AnyDriver) (t : Traced σ) :
    Treads P d t d (System.call c t).2 := by
  refine ⟨⟨[⟨_, c⟩], rfl, fun x hx => ?_⟩, fun ho l e hl he => ?_⟩
  · rw [List.mem_singleton.mp hx]
    exact hc
  · exact List.mem_cons_of_mem _ (ho l e hl he)

lemma treads_of_call {c : Syscall α} (hc : P ⟨_, c⟩) (d : AnyDriver) {x : Except IoError α}
    (h : System.call c t = (x, t')) : Treads P d t d t' := by
  have ht := treads_call hc d t
  rwa [h] at ht

end Treads

variable {σ : Type u} [System σ] {α : Type}

/-! ### Lists -/

namespace Listing

variable {d : Listing} {c : ListCursor} {t t' : Traced σ}

lemma treads_observing (op : String) {c : Syscall α} (hc : d.Asks ⟨_, c⟩) (t : Traced σ) :
    Treads d.Asks (.list d) t (.list (d.observing op c t).2.1) (d.observing op c t).2.2 :=
  (treads_call hc (.list d) t).observed op (d.issue op c t).1

lemma treads_openCursor (d : Listing) (t : Traced σ) :
    Treads d.Asks (.list d) t (.list d) (openCursor d.realPath t).2 := by
  have hstat : d.Asks ⟨_, .stat d.realPath true⟩ := rfl
  unfold openCursor
  split
  · rename_i h
    exact treads_of_call hstat (.list d) h
  · rename_i m v h
    have hv := treads_of_call hstat (.list d) h
    have hdir : d.Asks ⟨_, .openDir d.realPath⟩ := rfl
    have hfile : d.Asks ⟨_, .open_ d.realPath .readOnly 0o666⟩ := ⟨rfl, rfl⟩
    split
    · exact hv.trans (treads_call hdir (.list d) v)
    · exact hv.trans (treads_call hfile (.list d) v)

lemma opener_mem_openCursor {real : String} (h : openCursor real t = (.ok c, t')) :
    ⟨_, c.opener real⟩ ∈ t'.calls := by
  unfold openCursor at h
  split at h
  · cases h
  · rename_i m v _
    split at h
    · dsimp only at h
      cases hx : (System.call (.openDir real) v).1 with
      | error e =>
        rw [hx] at h
        cases h
      | ok k =>
        rw [hx] at h
        cases h
        exact List.mem_cons_self
    · dsimp only at h
      cases hx : (System.call (.open_ real .readOnly 0o666) v).1 with
      | error e =>
        rw [hx] at h
        cases h
      | ok k =>
        rw [hx] at h
        cases h
        exact List.mem_cons_self

lemma treads_openDir (d : Listing) (t : Traced σ) :
    Treads d.Asks (.list d) t (.list (d.openDir t).2.1) (d.openDir t).2.2 := by
  have hopen := treads_openCursor d t
  unfold openDir
  split
  · exact (treads_refl (.list d) t).observed (α := Unit) ..
  · split
    · rename_i e t' ho
      rw [ho] at hopen
      exact hopen.observed (α := Unit) ..
    · rename_i c t' ho
      rw [ho] at hopen
      -- the enumeration is new, so the one before does not matter
      have hnew : Treads d.Asks (.list d) t (.list ⟨d.entry.setDirOpen true, some c⟩) t' := by
        refine ⟨hopen.issued, fun _ l e hl he => ?_⟩
        cases hl
        cases he
        exact opener_mem_openCursor ho
      exact hnew.observed (α := Unit) ..

/-- Whatever the flags say then, there is no enumeration. -/
lemma treads_drop (hc : d.cursor? = some c) (e : Entry) (t : Traced σ) :
    Treads d.Asks (.list d) t (.list ⟨e, none⟩) (Posix.drop c.handle t) := by
  have hclose : d.Asks ⟨_, .close c.handle⟩ := congrArg (Option.map ListCursor.handle) hc
  refine ⟨(treads_call hclose (.list d) t).issued, fun _ l e hl he => ?_⟩
  cases hl
  cases he

omit [System σ] in
lemma treads_turned (h : Treads d.Asks (.list d) t (.list d) t') (hc : d.cursor? = some c)
    {c' : ListCursor} (hopener : ∀ real, c'.opener real = c.opener real) :
    Treads d.Asks (.list d) t (.list { d with cursor? := some c' }) t' := by
  refine ⟨h.issued, fun ho l e hl he => ?_⟩
  cases hl
  cases he
  rw [hopener]
  exact h.opened ho d c rfl hc

/-- Reading on keeps to the enumeration. -/
lemma treads_nextName (hc : d.cursor? = some c) (path : String) (t : Traced σ) :
    Treads d.Asks (.list d) t (.list { d with cursor? := some (nextName path c t).2.1 })
      (nextName path c t).2.2 := by
  unfold nextName
  cases c with
  | dir r =>
    obtain ⟨h, ended⟩ := r
    cases ended with
    | true => exact treads_turned (treads_refl (.list d) t) hc fun _ => rfl
    | false =>
      have hasks : d.Asks ⟨_, .nextName h⟩ := hc
      exact treads_turned (treads_call hasks (.list d) t) hc fun _ => rfl
  | manifest h at_ =>
    have hasks : d.Asks ⟨_, .readRest h at_.offset⟩ := ⟨at_, hc⟩
    dsimp only
    split
    · exact treads_turned (treads_refl (.list d) t) hc fun _ => rfl
    · exact treads_turned (treads_call hasks (.list d) t) hc fun _ => rfl

/-- **One request** to a list. -/
lemma treads_perform (r : Request α) (d : Listing) (t : Traced σ) :
    Treads d.Asks (.list d) t (.list (Listing.perform r d t).2.1) (Listing.perform r d t).2.2 := by
  have hrefl : Treads d.Asks (.list d) t (.list d) t := treads_refl (.list d) t
  cases r with
  | statUncached follow => exact treads_call (P := d.Asks) (c := .stat d.realPath follow) rfl _ t
  | access mode => exact treads_observing _ (c := .access d.realPath mode) rfl t
  | accessAt mode flags =>
    rw [perform, accessAt]
    split
    · exact treads_observing _ (c := .accessAt d.realPath mode flags) rfl t
    · exact hrefl.observed (α := Unit) ..
  | openDir => exact treads_openDir d t
  | closeDir =>
    rw [perform, closeDir]
    split
    · exact hrefl.observed (α := Unit) ..
    · rename_i c hc
      exact (treads_drop hc _ t).changed (α := Unit) ..
  | readDirEntry =>
    rw [perform, readDirEntry]
    split
    · exact hrefl.observed (α := Option String) ..
    · rename_i c hc
      exact (treads_nextName hc _ t).observed (α := Option String) ..
  | canonicalPath =>
    have hasks : d.Asks ⟨_, .canonicalize d.realPath⟩ := rfl
    exact (treads_call hasks (.list d) t).observed (α := String) ..
  | open_ _ _ | close | mkdir _ | remove | unlink | symlink _ | chown _ _ | chmod _ =>
    exact hrefl.observed (α := Unit) ..
  | setTimes _ => exact hrefl.observed (α := Completion) ..
  | read _ _ | readLink _ => exact hrefl.observed (α := Bytes) ..
  | write _ _ => exact hrefl.observed (α := ℕ) ..

lemma treads_finalize (d : Listing) (t : Traced σ) :
    Treads d.Asks (.list d) t (.list (d.finalize t).1) (d.finalize t).2 := by
  obtain ⟨e, cursor?⟩ := d
  cases cursor? with
  | none =>
    exact (treads_refl (.list ⟨e, none⟩) t).mapEntry
      (fun e => (e.setFileOpen false).setDirOpen false) fun _ => rfl
  | some c => exact treads_drop rfl _ t

end Listing

/-! ### Null paths -/

namespace Null

omit [System σ] in
/-- Nothing is enumerated. -/
lemma treads_of_calls {P : Sigma Syscall → Prop} {n n' : Null} {t t' : Traced σ}
    (h : t'.calls = t.calls) : Treads P (.null n) t (.null n') t' :=
  ⟨⟨[], h, nofun⟩, fun _ _ _ hl => nomatch hl⟩

/-- **One request** to a null path. -/
lemma treads_perform (r : Request α) (n : Null) (t : Traced σ) :
    Treads n.Asks (.null n) t (.null (Null.perform r n t).2.1) (Null.perform r n t).2.2 := by
  cases r with
  | statUncached follow =>
    have hasks : n.Asks ⟨_, .stat n.standIn true⟩ := ⟨rfl, rfl⟩
    exact treads_call hasks (.null n) t
  | open_ _ _ => rw [perform, openFile]; split <;> exact treads_of_calls rfl
  | close => rw [perform, closeFile]; split <;> exact treads_of_calls rfl
  | openDir => rw [perform, openDir]; split <;> exact treads_of_calls rfl
  | closeDir => rw [perform, closeDir]; split <;> exact treads_of_calls rfl
  | readDirEntry => rw [perform, readDirEntry]; split <;> exact treads_of_calls rfl
  | read _ _ => rw [perform, whileOpen]; split <;> exact treads_of_calls rfl
  | write _ _ => rw [perform, whileOpen]; split <;> exact treads_of_calls rfl
  | access _ | accessAt _ _ | mkdir _ | remove | unlink | symlink _ | readLink _ | chown _ _
  | chmod _ | setTimes _ | canonicalPath => exact treads_of_calls rfl

lemma treads_finalize (n : Null) (t : Traced σ) :
    Treads n.Asks (.null n) t (.null (n.finalize t).1) (n.finalize t).2 := by
  have hw : (n.finalize t).2 = t := AnyDriver.world_finalize (.null n) t
  rw [hw]
  exact treads_of_calls rfl

end Null

/-! ### Calls -/

namespace AnyDriver

variable {d : AnyDriver}

lemma treads_perform (hd : backend d ≠ .posix) (r : Request α) (t : Traced σ) :
    Treads d.Asks d t (Driver.perform r d t).2.1 (Driver.perform r d t).2.2 := by
  cases d with
  | posix d => exact absurd rfl hd
  | list d => exact Listing.treads_perform r d t
  | null d => exact Null.treads_perform r d t

lemma treads_stat (follow : Bool) (d : AnyDriver) (t : Traced σ) :
    Treads d.Asks d t (Driver.stat follow d t).2.1 (Driver.stat follow d t).2.2 := by
  rcases stat_cases follow d t with ⟨s, -, -, h⟩ | h
  · rw [h]
    exact (treads_refl d t).observed (α := Stat) ..
  · rw [h, refresh_eq]
    refine ((treads_call (d.asks_question follow) d t).mapEntry _ fun e => ?_).observed (α := Stat) ..
    cases d.answer follow t <;> rfl

lemma treads_finalize (hd : backend d ≠ .posix) (t : Traced σ) :
    Treads d.Asks d t (Driver.finalize d t).1 (Driver.finalize d t).2 := by
  cases d with
  | posix d => exact absurd rfl hd
  | list d => exact Listing.treads_finalize d t
  | null d => exact Null.treads_finalize d t

/-- What is released is not enumerated any more, so the new path opened nothing. -/
lemma treads_reset (hd : backend d ≠ .posix) (path : String) (t : Traced σ) :
    Treads d.Asks d t (Driver.reset path d t).1 (Driver.reset path d t).2 := by
  refine ⟨?_, fun _ l c hl hc => ?_⟩
  · have h := (treads_finalize hd t).issued
    cases d <;> exact h
  · rw [reset_fst] at hl
    cases hb : backend d with
    | list =>
      rw [hb] at hl
      cases hl
      cases hc
    | posix | null =>
      rw [hb] at hl
      cases hl

/-- **One call** on a list or a null path. -/
lemma treads_serve (hd : backend d ≠ .posix) (c : Call α) (t : Traced σ) :
    Treads d.Asks d t (Driver.call c d t).2.1 (Driver.call c d t).2.2 := by
  have hrefl : Treads d.Asks d t d t := treads_refl d t
  cases c with
  | request r => exact treads_perform hd r t
  | stat follow => exact treads_stat follow d t
  | isLink => exact treads_stat false d t
  | statDefault | exists? | isDir | size | mtime => exact treads_stat _ d t
  | finalize => exact treads_finalize hd t
  | reset path => exact treads_reset hd path t
  | record op r => exact hrefl.observed op r
  | recordMutation op r => exact hrefl.changed op r
  | decline op b => exact hrefl.observed (α := Unit) ..
  | reject op reason => exact hrefl.observed (α := Unit) ..
  | follow => exact hrefl.mapEntry (fun e => e.setFollow.invalidateStat) fun _ => rfl
  | invalidateStat => exact hrefl.mapEntry Entry.invalidateStat fun _ => rfl

/-! ### Comparisons -/

variable {P : Sigma Syscall → Prop} {a b : AnyDriver}

lemma treads_asked (ha : ∀ follow, P ⟨_, a.question follow⟩) (d : AnyDriver) (t : Traced σ) :
    Treads P d t d (a.asked t) :=
  treads_call (ha _) d t

lemma treads_renewed (ha : ∀ follow, P ⟨_, a.question follow⟩) (t : Traced σ) :
    Treads P a t (a.renewed t) (a.asked t) := by
  unfold renewed
  refine (treads_asked ha a t).mapEntry _ fun e => ?_
  dsimp only
  cases a.fresh t <;> rfl

/-- Each of two entries that are compared is asked for a stat, if they have one backend. -/
lemma treads_identical (h : backend a = backend b →
      ∀ follow, P ⟨_, a.question follow⟩ ∧ P ⟨_, b.question follow⟩) (t : Traced σ) :
    Treads P a t (Driver.identical a b t).2.1 (Driver.identical a b t).2.2.2 ∧
      Treads P b t (Driver.identical a b t).2.2.1 (Driver.identical a b t).2.2.2 := by
  rw [identical_eq]
  split
  · exact ⟨treads_refl a t, treads_refl b t⟩
  · rename_i hsame
    have ha (follow : Bool) := (h (not_not.mp hsame) follow).1
    have hb (follow : Bool) := (h (not_not.mp hsame) follow).2
    split
    · exact ⟨treads_renewed ha t, (treads_asked ha b t).mapEntry Entry.invalidateStat fun _ => rfl⟩
    · exact ⟨(treads_renewed ha t).trans (treads_asked hb _ _),
        (treads_asked ha b t).trans (treads_renewed hb _)⟩

end AnyDriver

/-! ### Histories -/

namespace Event

/-- The same event where calls are noted. What happens elsewhere is not noted. -/
def lift : Event σ → Event (Traced σ)
  | act (.call c) => act (.call c)
  | act (.identical other) => act (.identical other)
  | act (.elsewhere change) => act (.elsewhere fun t => { t with world := change t.world })
  | compared other => compared other

/-- The entry that an entry is compared with. -/
def other? : Event σ → Option AnyDriver
  | act (.identical other) | compared other => some other
  | _ => none

/-- What is asked in an event: what the entry asks, and a stat for another one of its backend that
it is compared with. -/
def Asks (e : Event σ) (d : AnyDriver) (x : Sigma Syscall) : Prop :=
  d.Asks x ∨ ∃ other follow, e.other? = some other ∧ backend other = backend d ∧
    x = ⟨_, other.question follow⟩

omit [System σ] in
lemma Asks.exists_asks {e : Event σ} {d : AnyDriver} {x : Sigma Syscall} (h : e.Asks d x) :
    ∃ o : AnyDriver, backend o = backend d ∧ o.Asks x := by
  rcases h with h | ⟨other, follow, -, hb, rfl⟩
  · exact ⟨d, rfl, h⟩
  · exact ⟨other, hb, other.asks_question follow⟩

lemma treads_apply {d : AnyDriver} (hd : backend d ≠ .posix) (e : Event σ) (t : Traced σ) :
    Treads (e.Asks d) d t (e.lift.apply d t).1 (e.lift.apply d t).2 := by
  have hown (e : Event σ) (follow : Bool) : e.Asks d ⟨_, d.question follow⟩ :=
    .inl (d.asks_question follow)
  have hother (e : Event σ) (other : AnyDriver) (he : e.other? = some other)
      (h : backend other = backend d) (follow : Bool) : e.Asks d ⟨_, other.question follow⟩ :=
    .inr ⟨other, follow, he, h, rfl⟩
  cases e with
  | compared other =>
    refine (AnyDriver.treads_identical (fun h follow => ?_) t).2
    exact ⟨hother _ other rfl h follow, hown _ follow⟩
  | act a =>
    cases a with
    | call c => exact (AnyDriver.treads_serve hd c.2 t).mono fun _ => .inl
    | identical other =>
      refine (AnyDriver.treads_identical (fun h follow => ?_) t).1
      exact ⟨hown _ follow, hother _ other rfl h.symm follow⟩
    | elsewhere change => exact ⟨⟨[], rfl, nofun⟩, id⟩

/-- The calls of a run are those of its events, each in the state that the entry was in. -/
lemma treads_run (d : AnyDriver) (hd : backend d ≠ .posix) (t : Traced σ)
    (events : List (Event σ)) :
    let P (x : Sigma Syscall) : Prop := ∃ before e, before ++ [e] <+: events ∧
      e.Asks (run (before.map lift) d t).1 x
    Treads P d t (run (events.map lift) d t).1 (run (events.map lift) d t).2 := by
  -- from the end, as a call belongs to the state that all events before it have led to
  induction events using List.reverseRecOn with
  | nil => exact treads_refl d t
  | append_singleton events e ih =>
    intro P
    have hb : backend (run (events.map lift) d t).1 ≠ .posix := by
      rw [(inherits_foldl (events.map lift) d t).same]
      exact hd
    have hrun : run ((events ++ [e]).map lift) d t =
        e.lift.apply (run (events.map lift) d t).1 (run (events.map lift) d t).2 := by
      rw [List.map_append]
      exact List.foldl_concat ..
    rw [hrun]
    refine (ih.mono ?_).trans ((treads_apply hb e _).mono ?_)
    · rintro x ⟨before, e', hpre, hx⟩
      exact ⟨before, e', hpre.trans (List.prefix_append events [e]), hx⟩
    · intro x hx
      exact ⟨events, e, List.prefix_rfl, hx⟩

/-- **Lists and null paths never touch storage.** In every history of such an entry, whatever the
system answers and whatever the path is, each call that was issued is one that the entry of that
moment asks for, or a stat for another one of its backend that it was compared with; none may change
what is stored, and the calls of a null path are stats of the two stand-ins. What a list enumerates
was opened at its real path, a manifest to be read only. And what the backend does not have is not
supported in any state: it issues no call, and only the status tells that it was asked for. -/
theorem storage_untouched (b : Backend) (hb : b ≠ .posix) (path : String) (w : σ)
    (events : List (Event σ)) :
    let at_ (past : List (Event σ)) := run (past.map lift) (.ofPath b path) (⟨w, []⟩ : Traced σ)
    let d := (at_ events).1
    let calls := (at_ events).2.calls
    (∀ x ∈ calls, x.2.mutates = false ∧
      ∃ before e, before ++ [e] <+: events ∧ e.Asks (at_ before).1 x) ∧
    (b = .null → ∀ x ∈ calls,
      x = ⟨_, .stat "/dev" true⟩ ∨ x = ⟨_, .stat Backend.nullDevice true⟩) ∧
    d.Opened calls ∧
    ∀ {α : Type} (r : Request α), b.lacks r = true → ∀ v : Traced σ,
      Driver.perform r d v = (.error (.unsupported r.name b),
        Driver.noting ⟨.unsupported, r.name, -1, Errno.notsup⟩ d, v) := by
  intro at_ d calls
  have hstart : backend (AnyDriver.ofPath b path) = b := by cases b <;> rfl
  have hat (past : List (Event σ)) : backend (at_ past).1 = b :=
    (inherits_foldl (past.map lift) _ _).same.trans hstart
  have hrun := treads_run (.ofPath b path) (fun h => hb (hstart.symm.trans h)) ⟨w, []⟩ events
  obtain ⟨xs, hxs, hasks⟩ := hrun.issued
  obtain rfl : calls = xs := hxs.trans (List.append_nil xs)
  have hentry (x : Sigma Syscall) (hx : x ∈ calls) :
      ∃ o : AnyDriver, backend o = b ∧ o.Asks x := by
    obtain ⟨before, e, -, he⟩ := hasks x hx
    obtain ⟨o, ho, hox⟩ := he.exists_asks
    exact ⟨o, ho.trans (hat before), hox⟩
  refine ⟨fun x hx => ⟨?_, hasks x hx⟩, fun hnull x hx => ?_, hrun.opened ?_, fun r hr v => ?_⟩
  · obtain ⟨o, ho, hox⟩ := hentry x hx
    exact hox.mutates (ho.symm ▸ hb)
  · obtain ⟨o, ho, hox⟩ := hentry x hx
    exact hox.standIn (ho.trans hnull)
  · intro l c hl hc
    cases b <;> cases hl
    cases hc
  · have hd : (backend d).lacks r = true := by rwa [hat events]
    rw [AnyDriver.perform_of_lacks hd v, hat events]

/-- A list is enumerated, written to, compared with another one and enumerated as a manifest. -/
theorem storage_untouched_list :
    let w := Files.fresh ⟨5, 0⟩ []
    let events : List (Event Files) := [.act (.call ⟨_, .request .openDir⟩),
      .act (.call ⟨_, .request .readDirEntry⟩), .act (.call ⟨_, .request (.write [1] 0)⟩),
      .compared (.ofPath .list "list:///"), .act (.call ⟨_, .reset "list:///dev/null"⟩),
      .act (.call ⟨_, .request .openDir⟩), .act (.call ⟨_, .request .readDirEntry⟩)]
    let s := run (events.map lift) (.ofPath .list "list:///dev") (⟨w, []⟩ : Traced Files)
    s.2.calls.length = 9 ∧ (∀ x ∈ s.2.calls, x.2.mutates = false) ∧
      ⟨_, .open_ "/dev/null" .readOnly 0o666⟩ ∈ s.2.calls ∧
      (Driver.perform (.write [1] 0) s.1 s.2).1 = .error (.unsupported "write" .list) := by
  intro w events s
  have hlength : s.2.calls.length = 9 := by decide +kernel
  have hmanifest : s.1 = .list ⟨{ Entry.ofPath "list:///dev/null" with
      flags := { EntryFlags.none with dirOpen := true }, status := .ok "read_dir_entry" },
      some (.manifest 4 ⟨[], 0⟩)⟩ := by decide +kernel
  have hreal : Listing.untagged "list:///dev/null" = "/dev/null" := by decide +kernel
  obtain ⟨hcalls, -, hopened, hlacks⟩ :=
    storage_untouched .list (by decide) "list:///dev" w events
  -- the state is not to be computed again
  have hs : run (events.map lift) (.ofPath .list "list:///dev") ⟨w, []⟩ = s := rfl
  dsimp only at hcalls hopened hlacks
  rw [hs] at hcalls hopened hlacks
  clear_value s
  have hmem : ⟨_, .open_ (Listing.untagged "list:///dev/null") .readOnly 0o666⟩ ∈ s.2.calls :=
    hopened _ _ hmanifest rfl
  rw [hreal] at hmem
  exact ⟨hlength, fun x hx => (hcalls x hx).1, hmem,
    congrArg Prod.fst (hlacks (.write [1] 0) rfl s.2)⟩

end Event

end TreeHaul
