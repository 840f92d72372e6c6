import Mathlib.Data.List.Perm.Basic
import TreeHaul.Proofs.Driver.Agreement
import TreeHaul.Proofs.Factory.Recycling

/-!
What is done with handles. A ledger notes when the system gives a handle out, when one is used and
when one is closed. Each call on an entry keeps the ledger in order: the entry holds what it got and
has not closed, it uses nothing else, and it got it for the path that it still has.
-/

universe u

namespace TreeHaul

open TreeHaul.Os TreeHaul.Path TreeHaul.Text HasEntry
open scoped List

/-! ### The ledger -/

/-- What was done with a handle. -/
inductive Deed where
  | opened (path : String) (h : Handle)
  | used (h : Handle)
  | closed (h : Handle)
  deriving DecidableEq, Repr

namespace Deed

/-- The handles that are open after some deeds, the latest deed first, each with the path that was
opened. -/
def outstanding : List Deed → List (String × Handle)
  | [] => []
  | opened path h :: ds => (path, h) :: outstanding ds
  | used _ :: ds => outstanding ds
  | closed h :: ds => (outstanding ds).eraseP fun x => x.2 = h

/-- The system gave no handle out that was open. -/
def Fresh : List Deed → Prop
  | [] => True
  | opened _ h :: ds => h ∉ (outstanding ds).map Prod.snd ∧ Fresh ds
  | used _ :: ds | closed _ :: ds => Fresh ds

/-- Only open handles were used and closed. -/
def Proper : List Deed → Prop
  | [] => True
  | opened _ _ :: ds => Proper ds
  | used h :: ds | closed h :: ds => h ∈ (outstanding ds).map Prod.snd ∧ Proper ds

def opens? : Deed → Option Handle
  | opened _ h => some h
  | used _ | closed _ => none

def closes? : Deed → Option Handle
  | closed h => some h
  | used _ | opened _ _ => none

lemma map_snd_eraseP (H : List (String × Handle)) (h : Handle) :
    (H.eraseP fun x => x.2 = h).map Prod.snd = (H.map Prod.snd).erase h := by
  induction H with
  | nil => rfl
  | cons x xs ih =>
    by_cases hx : x.2 = h
    · simp [hx]
    · simp [hx, ih]

/-- A handle was given out as often as it was closed and is open. -/
lemma Proper.count_opens {ds : List Deed} (hp : Proper ds) (h : Handle) :
    (ds.filterMap opens?).count h =
      (ds.filterMap closes?).count h + ((outstanding ds).map Prod.snd).count h := by
  induction ds with
  | nil => rfl
  | cons d ds ih =>
    cases d with
    | opened path k =>
      have ih := ih hp
      simp only [List.filterMap_cons, opens?, closes?, outstanding, List.map_cons, List.count_cons]
      omega
    | used k => exact ih hp.2
    | closed k =>
      have ih := ih hp.2
      -- what is closed was open
      have hopen := List.count_pos_iff.mpr hp.1
      simp only [List.filterMap_cons, opens?, closes?, outstanding, map_snd_eraseP, List.count_cons,
        List.count_erase]
      by_cases hk : k = h
      · subst hk
        simp only [BEq.rfl, if_true]
        omega
      · have hbeq : (k == h) = false := beq_false_of_ne hk
        simp only [hbeq, Bool.false_eq_true, if_false]
        omega

/-- What holdings become through the deeds of their holder, the latest deed first: it uses and
closes nothing but what it holds. -/
inductive Leads (H : List (String × Handle)) : List Deed → List (String × Handle) → Prop
  | none : Leads H [] H
  | perm {ds : List Deed} {H' H'' : List (String × Handle)} :
    Leads H ds H' → H' ~ H'' → Leads H ds H''
  | opened {ds : List Deed} {H' : List (String × Handle)} (path : String) (h : Handle) :
    Leads H ds H' → Leads H (opened path h :: ds) ((path, h) :: H')
  | used {ds : List Deed} {H' : List (String × Handle)} {h : Handle} :
    Leads H ds H' → h ∈ H'.map Prod.snd → Leads H (used h :: ds) H'
  | closed {ds : List Deed} {H' : List (String × Handle)} {path : String} {h : Handle} :
    Leads H ds ((path, h) :: H') → Leads H (closed h :: ds) H'

lemma Leads.trans {H H' H'' : List (String × Handle)} {ds es : List Deed} (h : Leads H ds H')
    (h' : Leads H' es H'') : Leads H (es ++ ds) H'' := by
  induction h' with
  | none => exact h
  | perm _ hp ih => exact ih.perm hp
  | opened path k _ ih => exact ih.opened path k
  | used _ hk ih => exact ih.used hk
  | closed _ ih => exact ih.closed

end Deed

/-- What a call does with a handle, told from how it ended. -/
def Os.Syscall.deed? {α : Type} : Syscall α → Except IoError α → Option Deed
  | .open_ path _ _, .ok h | .openDir path, .ok h => some (.opened path h)
  | .readAt h _ _, _ | .readRest h _, _ | .writeAt h _ _, _ | .nextName h, _ => some (.used h)
  | .close h, _ => some (.closed h)
  | _, _ => none

/-- A world with what was done in it with handles, the latest deed first. -/
structure Ledger (σ : Type u) where
  world : σ
  deeds : List Deed

instance {σ : Type u} [System σ] : System (Ledger σ) where
  call c l :=
    let (r, world) := System.call c l.world
    (r, ⟨world, (c.deed? r).toList ++ l.deeds⟩)

/-! ### Tallies -/

/-- Some holdings are what a ledger says is open. -/
structure Tally (holdings : List (String × Handle)) (ds : List Deed) : Prop where
  balanced : holdings.map Prod.snd ~ (Deed.outstanding ds).map Prod.snd
  proper : Deed.Proper ds
  /-- If no open handle is given out, each is held once, for the path that was opened. -/
  single : Deed.Fresh ds → (holdings.map Prod.snd).Nodup ∧ holdings ~ Deed.outstanding ds

namespace Tally

variable {H H' : List (String × Handle)} {ds : List Deed} {path : String} {h : Handle}

lemma nil : Tally [] [] := ⟨.refl _, trivial, fun _ => ⟨List.nodup_nil, .refl _⟩⟩

lemma perm (ht : Tally H ds) (hp : H ~ H') : Tally H' ds where
  balanced := (hp.map _).symm.trans ht.balanced
  proper := ht.proper
  single hf := ⟨(hp.map _).nodup_iff.mp (ht.single hf).1, hp.symm.trans (ht.single hf).2⟩

lemma opened (ht : Tally H ds) (path : String) (h : Handle) :
    Tally ((path, h) :: H) (.opened path h :: ds) where
  balanced := ht.balanced.cons h
  proper := ht.proper
  single hf := by
    obtain ⟨hnodup, hperm⟩ := ht.single hf.2
    refine ⟨List.nodup_cons.mpr ⟨fun hmem => hf.1 ?_, hnodup⟩, hperm.cons _⟩
    exact ht.balanced.mem_iff.mp hmem

lemma used (ht : Tally H ds) (hmem : h ∈ H.map Prod.snd) : Tally H (.used h :: ds) where
  balanced := ht.balanced
  proper := ⟨ht.balanced.mem_iff.mp hmem, ht.proper⟩
  single := ht.single

/-- Closing a handle takes off one that is held. -/
lemma closed (ht : Tally ((path, h) :: H) ds) : Tally H (.closed h :: ds) where
  balanced := by
    have herase := ht.balanced.erase h
    rw [List.map_cons, List.erase_cons_head] at herase
    rwa [Deed.outstanding, Deed.map_snd_eraseP]
  proper := ⟨ht.balanced.mem_iff.mp List.mem_cons_self, ht.proper⟩
  single hf := by
    obtain ⟨hnodup, hperm⟩ := ht.single hf
    refine ⟨(List.nodup_cons.mp hnodup).2, ?_⟩
    have hapart : ((path, h) :: H).Pairwise fun a b =>
        decide (a.2 = h) = true → decide (b.2 = h) = true → False := by
      refine (List.pairwise_map.mp hnodup).imp fun hne ha hb => hne ?_
      rw [of_decide_eq_true ha, of_decide_eq_true hb]
    have hhead : ((path, h) :: H).eraseP (fun x => x.2 = h) = H := by simp
    have herase := List.Perm.eraseP (fun x : String × Handle => x.2 = h) hapart hperm
    rwa [hhead] at herase

/-- What one holder does keeps the ledger in order, whatever others hold. -/
lemma leads {es : List Deed} {rest : List (String × Handle)} (h : Deed.Leads H ds H')
    (ht : Tally (H ++ rest) es) : Tally (H' ++ rest) (ds ++ es) := by
  induction h with
  | none => exact ht
  | perm _ hp ih => exact ih.perm (hp.append_right rest)
  | opened path k _ ih => exact ih.opened path k
  | used _ hk ih =>
    refine ih.used ?_
    rw [List.map_append]
    exact List.mem_append_left _ hk
  | closed _ ih => exact Tally.closed ih

end Tally

/-! ### What an entry holds -/

namespace AnyDriver

/-- The path that the system is asked for. -/
def target : AnyDriver → String
  | posix d => d.entry.path
  | list d => d.realPath
  | null d => d.entry.path

/-- The handles with the path that the entry has now. -/
def holdings (d : AnyDriver) : List (String × Handle) := d.handles.map (d.target, ·)

lemma map_snd_holdings (d : AnyDriver) : d.holdings.map Prod.snd = d.handles := by
  simp [holdings, Function.comp_def]

lemma holdings_mapEntry (d : AnyDriver) {f : Entry → Entry} (hf : ∀ e, (f e).path = e.path) :
    (Driver.mapEntry f d).holdings = d.holdings := by
  have htarget : (Driver.mapEntry f d).target = d.target := by
    cases d with
    | posix d => exact hf d.entry
    | list d => exact congrArg Listing.untagged (hf d.entry)
    | null d => exact hf d.entry
  have hhandles : (Driver.mapEntry f d).handles = d.handles := by cases d <;> rfl
  rw [holdings, holdings, htarget, hhandles]

end AnyDriver

section Carries

variable {σ : Type u} {α : Type} {d d' d'' : AnyDriver} {l l' l'' : Ledger σ}

/-- What was done with handles from one state to another is accounted for by what the entry
holds. -/
def Carries (d : AnyDriver) (l : Ledger σ) (d' : AnyDriver) (l' : Ledger σ) : Prop :=
  ∃ ds, l'.deeds = ds ++ l.deeds ∧ Deed.Leads d.holdings ds d'.holdings

lemma carries_of_eq (hd : d'.holdings = d.holdings) (hl : l'.deeds = l.deeds) :
    Carries d l d' l' := by
  refine ⟨[], hl, ?_⟩
  rw [hd]
  exact .none

lemma carries_refl (d : AnyDriver) (l : Ledger σ) : Carries d l d l := carries_of_eq rfl rfl

lemma Carries.trans (h : Carries d l d' l') (h' : Carries d' l' d'' l'') :
    Carries d l d'' l'' := by
  obtain ⟨ds, hl, hd⟩ := h
  obtain ⟨es, hl', hd'⟩ := h'
  refine ⟨es ++ ds, ?_, hd.trans hd'⟩
  rw [hl', hl, List.append_assoc]

lemma Carries.mapEntry (h : Carries d l d' l') {f : Entry → Entry}
    (hf : ∀ e, (f e).path = e.path) : Carries d l (Driver.mapEntry f d') l' :=
  h.trans (carries_of_eq (d'.holdings_mapEntry hf) rfl)

lemma Carries.observed (h : Carries d l d' l') (op : String) (x : Except PathError α) :
    Carries d l (Driver.observed op x d' l').2.1 (Driver.observed op x d' l').2.2 :=
  h.mapEntry (f := (·.record op x)) fun _ => rfl

lemma Carries.changed (h : Carries d l d' l') (op : String) (x : Except PathError α) :
    Carries d l (Driver.changed op x d' l').2.1 (Driver.changed op x d' l').2.2 :=
  h.mapEntry (f := (·.recordMutation op x)) fun _ => by cases x <;> rfl

end Carries

variable {σ : Type u} [System σ] {α : Type}

/-- A call uses no handle but these, and neither opens nor closes one. -/
def Os.Syscall.Minds (c : Syscall α) (hs : List Handle) : Prop :=
  ∀ x, c.deed? x = none ∨ ∃ h ∈ hs, c.deed? x = some (.used h)

lemma Ledger.deeds_call (c : Syscall α) (l : Ledger σ) :
    (System.call c l).2.deeds = (c.deed? (System.call c l).1).toList ++ l.deeds := rfl

lemma Ledger.deeds_of_call {c : Syscall α} {x : Except IoError α} {l l' : Ledger σ}
    (h : System.call c l = (x, l')) : l'.deeds = (c.deed? x).toList ++ l.deeds := by
  have hdeeds := Ledger.deeds_call c l
  rwa [h] at hdeeds

lemma Os.Syscall.Minds.mono {c : Syscall α} {hs hs' : List Handle} (h : c.Minds hs)
    (hsub : hs ⊆ hs') : c.Minds hs' := by
  intro x
  rcases h x with hnone | ⟨k, hk, hused⟩
  · exact .inl hnone
  · exact .inr ⟨k, hsub hk, hused⟩

lemma carries_call {c : Syscall α} {d : AnyDriver} (hc : c.Minds d.handles) (l : Ledger σ) :
    Carries d l d (System.call c l).2 := by
  have hdeeds := Ledger.deeds_call c l
  rcases hc (System.call c l).1 with hnone | ⟨h, hmem, hused⟩
  · rw [hnone] at hdeeds
    exact carries_of_eq rfl hdeeds
  · rw [hused] at hdeeds
    refine ⟨[.used h], hdeeds, Deed.Leads.none.used ?_⟩
    rwa [AnyDriver.map_snd_holdings]

/-! ### Plain paths -/

namespace Posix

variable {d : Posix} {h : Handle} {l l' : Ledger σ}

lemma carries_observing (op : String) {c : Syscall α} (hc : c.Minds (AnyDriver.posix d).handles)
    (l : Ledger σ) :
    Carries (.posix d) l (.posix (d.observing op c l).2.1) (d.observing op c l).2.2 :=
  (carries_call hc l).observed op (d.issue op c l).1

lemma carries_changing (op : String) {c : Syscall α} (hc : c.Minds (AnyDriver.posix d).handles)
    (l : Ledger σ) :
    Carries (.posix d) l (.posix (d.changing op c l).2.1) (d.changing op c l).2.2 :=
  (carries_call hc l).changed op (d.issue op c l).1

lemma deeds_of_issue_ok {op : String} {c : Syscall α} {a : α} (hi : d.issue op c l = (.ok a, l')) :
    l'.deeds = (c.deed? (.ok a)).toList ++ l.deeds := by
  have hx : (System.call c l).1.mapError (PathError.ofIo op d.entry.path) = .ok a :=
    congrArg Prod.fst hi
  have hl : (System.call c l).2 = l' := congrArg Prod.snd hi
  cases hcall : (System.call c l).1 with
  | error e =>
    rw [hcall] at hx
    cases hx
  | ok b =>
    rw [hcall] at hx
    rw [← Except.ok.inj hx, ← hcall, ← hl]
    rfl

lemma deeds_of_issue_error {op : String} {c : Syscall α} {err : PathError}
    (hi : d.issue op c l = (.error err, l')) :
    ∃ e, l'.deeds = (c.deed? (.error e)).toList ++ l.deeds := by
  have hx : (System.call c l).1.mapError (PathError.ofIo op d.entry.path) = .error err :=
    congrArg Prod.fst hi
  have hl : (System.call c l).2 = l' := congrArg Prod.snd hi
  cases hcall : (System.call c l).1 with
  | ok b =>
    rw [hcall] at hx
    cases hx
  | error e =>
    refine ⟨e, ?_⟩
    rw [← hcall, ← hl]
    rfl

lemma carries_dropFile (hf : d.file? = some h) (l : Ledger σ) :
    Carries (.posix d) l (.posix { d with file? := none }) (drop h l) := by
  refine ⟨[.closed h], rfl, ?_⟩
  rw [AnyDriver.holdings, AnyDriver.handles, hf]
  exact Deed.Leads.none.closed

lemma carries_dropDir {r : DirReader} (hd : d.dir? = some r) (l : Ledger σ) :
    Carries (.posix d) l (.posix { d with dir? := none }) (drop r.handle l) := by
  refine ⟨[.closed r.handle], rfl, ?_⟩
  rw [AnyDriver.holdings, AnyDriver.handles, hd]
  cases d.file? with
  | none => exact Deed.Leads.none.closed
  | some f => exact (Deed.Leads.none.perm (.swap ..)).closed

lemma carries_openFile (flags : OpenFlags) (mode : UInt32) (d : Posix) (l : Ledger σ) :
    Carries (.posix d) l (.posix (d.openFile flags mode l).2.1) (d.openFile flags mode l).2.2 := by
  unfold openFile
  split
  · exact (carries_refl (.posix d) l).observed (α := Unit) ..
  · rename_i hf
    split
    · rename_i err l' hi
      obtain ⟨e, hl⟩ := deeds_of_issue_error hi
      have hsame : Carries (.posix d) l (.posix d) l' := carries_of_eq rfl hl
      exact hsame.observed (α := Unit) ..
    · rename_i h l' hi
      have hl := deeds_of_issue_ok hi
      have hopen : Carries (.posix d) l
          (.posix { d with file? := some h, entry := d.entry.setFileOpen true }) l' := by
        refine ⟨[.opened d.entry.path h], hl, ?_⟩
        rw [AnyDriver.holdings, AnyDriver.handles, hf]
        exact Deed.Leads.none.opened ..
      dsimp only
      split
      · exact (hopen.mapEntry (f := Entry.invalidateStat) fun _ => rfl).observed (α := Unit) ..
      · exact hopen.observed (α := Unit) ..

lemma carries_openDir (d : Posix) (l : Ledger σ) :
    Carries (.posix d) l (.posix (d.openDir l).2.1) (d.openDir l).2.2 := by
  unfold openDir
  split
  · exact (carries_refl (.posix d) l).observed (α := Unit) ..
  · rename_i hd
    split
    · rename_i err l' hi
      obtain ⟨e, hl⟩ := deeds_of_issue_error hi
      have hsame : Carries (.posix d) l (.posix d) l' := carries_of_eq rfl hl
      exact hsame.observed (α := Unit) ..
    · rename_i h l' hi
      have hl := deeds_of_issue_ok hi
      have hopen : Carries (.posix d) l
          (.posix { d with dir? := some (.start h), entry := d.entry.setDirOpen true }) l' := by
        refine ⟨[.opened d.entry.path h], hl, ?_⟩
        rw [AnyDriver.holdings, AnyDriver.holdings, AnyDriver.handles, AnyDriver.handles, hd]
        cases d.file? with
        | none => exact Deed.Leads.none.opened ..
        | some f => exact (Deed.Leads.none.opened ..).perm (.swap ..)
      exact hopen.observed (α := Unit) ..

/-- Reading on in a directory keeps the handle and uses no other. -/
lemma deeds_nextName (path : String) (r : DirReader) (l : Ledger σ) :
    (nextName path r l).2.1.handle = r.handle ∧
    ((nextName path r l).2.2.deeds = l.deeds ∨
      (nextName path r l).2.2.deeds = .used r.handle :: l.deeds) := by
  obtain ⟨handle, ended⟩ := r
  cases ended with
  | true => exact ⟨rfl, .inl rfl⟩
  | false => exact ⟨rfl, .inr (Ledger.deeds_call (.nextName handle) l)⟩

lemma carries_nextName {r : DirReader} (hd : d.dir? = some r) (path : String) (l : Ledger σ) :
    Carries (.posix d) l (.posix { d with dir? := some (nextName path r l).2.1 })
      (nextName path r l).2.2 := by
  obtain ⟨hhandle, hdeeds⟩ := deeds_nextName path r l
  have hsame : (AnyDriver.posix { d with dir? := some (nextName path r l).2.1 }).holdings =
      (AnyDriver.posix d).holdings := by
    rw [AnyDriver.holdings, AnyDriver.holdings, AnyDriver.handles, AnyDriver.handles, hd]
    exact congrArg (fun h => (d.file?.toList ++ [h]).map (d.entry.path, ·)) hhandle
  rcases hdeeds with hdeeds | hdeeds
  · exact carries_of_eq hsame hdeeds
  · refine ⟨[.used r.handle], hdeeds, ?_⟩
    rw [hsame]
    refine Deed.Leads.none.used ?_
    rw [AnyDriver.map_snd_holdings, AnyDriver.handles, hd]
    exact List.mem_append_right _ List.mem_cons_self

/-- **One request** to a plain path keeps the ledger in order. -/
lemma carries (r : Request α) (d : Posix) (l : Ledger σ) :
    Carries (.posix d) l (.posix (Posix.perform r d l).2.1) (Posix.perform r d l).2.2 := by
  have hrefl := carries_refl (.posix d) l
  cases r with
  | statUncached follow => exact carries_of_eq rfl rfl
  | access mode => exact carries_observing _ (fun _ => .inl rfl) l
  | accessAt mode flags =>
    rw [perform, accessAt]
    split
    · exact carries_observing _ (fun _ => .inl rfl) l
    · exact hrefl.observed (α := Unit) ..
  | open_ flags mode => exact carries_openFile flags mode d l
  | close =>
    rw [perform, closeFile]
    split
    · exact hrefl.observed (α := Unit) ..
    · rename_i h hf
      exact ((carries_dropFile hf l).mapEntry (f := (·.setFileOpen false)) fun _ => rfl).changed
        (α := Unit) ..
  | openDir => exact carries_openDir d l
  | closeDir =>
    rw [perform, closeDir]
    split
    · exact hrefl.observed (α := Unit) ..
    · rename_i h hd
      exact ((carries_dropDir hd l).mapEntry (f := (·.setDirOpen false)) fun _ => rfl).changed
        (α := Unit) ..
  | readDirEntry =>
    rw [perform, readDirEntry]
    split
    · exact hrefl.observed (α := Option String) ..
    · rename_i r hd
      exact (carries_nextName hd d.entry.path l).observed (α := Option String) ..
  | read len offset =>
    rw [perform, read]
    split
    · exact hrefl.observed (α := Bytes) ..
    · rename_i h hf
      have hmem : h ∈ (AnyDriver.posix d).handles := by simp [AnyDriver.handles, hf]
      exact carries_observing _ (fun _ => .inr ⟨h, hmem, rfl⟩) l
  | write data offset =>
    rw [perform, write]
    split
    · exact hrefl.observed (α := ℕ) ..
    · rename_i h hf
      have hmem : h ∈ (AnyDriver.posix d).handles := by simp [AnyDriver.handles, hf]
      exact carries_changing _ (fun _ => .inr ⟨h, hmem, rfl⟩) l
  | readLink len =>
    exact (carries_call (c := .readLink d.entry.path) (fun _ => .inl rfl) l).observed
      (α := Bytes) ..
  | canonicalPath =>
    exact (carries_call (c := .canonicalize d.entry.path) (fun _ => .inl rfl) l).observed
      (α := String) ..
  | setTimes times =>
    rw [perform, setTimes]
    split
    · rename_i a m _ _
      exact (carries_call (c := .setTimes d.entry.path a m times.followLinks)
        (fun _ => .inl rfl) l).changed (α := Completion) ..
    · exact hrefl
  | mkdir _ | remove | unlink | symlink _ | chown _ _ | chmod _ =>
    exact carries_changing _ (fun _ => .inl rfl) l

lemma carries_finalize (d : Posix) (l : Ledger σ) :
    Carries (.posix d) l (.posix (d.finalize l).1) (d.finalize l).2 := by
  obtain ⟨e, file?, dir?⟩ := d
  have hclear {l' : Ledger σ}
      (h : Carries (.posix ⟨e, file?, dir?⟩) l (.posix ⟨e, none, none⟩) l') :
      Carries (.posix ⟨e, file?, dir?⟩) l (.posix (finalize ⟨e, file?, dir?⟩ l).1) l' :=
    h.trans (carries_of_eq rfl rfl)
  cases file? with
  | none =>
    cases dir? with
    | none => exact hclear (carries_refl _ l)
    | some h => exact hclear (carries_dropDir rfl l)
  | some h =>
    cases dir? with
    | none => exact hclear (carries_dropFile rfl l)
    | some h' => exact hclear ((carries_dropFile rfl l).trans (carries_dropDir rfl (drop h l)))

end Posix

/-! ### List paths -/

namespace Listing

variable {d : Listing} {c : ListCursor} {l l' : Ledger σ}

lemma carries_observing (op : String) {c : Syscall α} (hc : c.Minds []) (d : Listing)
    (l : Ledger σ) :
    Carries (.list d) l (.list (d.observing op c l).2.1) (d.observing op c l).2.2 :=
  (carries_call (hc.mono (List.nil_subset _)) l).observed op (d.issue op c l).1

/-- What opening a list notes, told from how it ended. -/
def opening (real : String) : Except IoError ListCursor → List Deed
  | .ok c => [.opened real c.handle]
  | .error _ => []

lemma deeds_openCursor (real : String) (l : Ledger σ) :
    (openCursor real l).2.deeds = opening real (openCursor real l).1 ++ l.deeds := by
  unfold openCursor
  split
  · rename_i hstat
    exact Ledger.deeds_of_call hstat
  · rename_i m v hstat
    have hv : v.deeds = l.deeds := Ledger.deeds_of_call hstat
    rw [← hv]
    split
    · have hcall := Ledger.deeds_call (.openDir real) v
      dsimp only
      cases hx : (System.call (.openDir real) v).1 <;> rw [hx] at hcall <;> exact hcall
    · have hcall := Ledger.deeds_call (.open_ real .readOnly 0o666) v
      dsimp only
      cases hx : (System.call (.open_ real .readOnly 0o666) v).1 <;> rw [hx] at hcall <;> exact hcall

lemma carries_openDir (d : Listing) (l : Ledger σ) :
    Carries (.list d) l (.list (d.openDir l).2.1) (d.openDir l).2.2 := by
  have hdeeds := deeds_openCursor d.realPath l
  unfold openDir
  split
  · exact (carries_refl (.list d) l).observed (α := Unit) ..
  · rename_i hc
    split
    · rename_i e l' ho
      rw [ho] at hdeeds
      have hsame : Carries (.list d) l (.list d) l' := carries_of_eq rfl hdeeds
      exact hsame.observed (α := Unit) ..
    · rename_i c l' ho
      rw [ho] at hdeeds
      have hopen : Carries (.list d) l (.list ⟨d.entry.setDirOpen true, some c⟩) l' := by
        refine ⟨[.opened d.realPath c.handle], hdeeds, ?_⟩
        rw [AnyDriver.holdings, AnyDriver.handles, hc]
        exact Deed.Leads.none.opened ..
      exact hopen.observed (α := Unit) ..

lemma carries_drop (hc : d.cursor? = some c) (l : Ledger σ) :
    Carries (.list d) l (.list { d with cursor? := none }) (Posix.drop c.handle l) := by
  refine ⟨[.closed c.handle], rfl, ?_⟩
  rw [AnyDriver.holdings, AnyDriver.handles, hc]
  exact Deed.Leads.none.closed

/-- Reading on keeps the handle and uses no other. -/
lemma deeds_nextName (path : String) (c : ListCursor) (l : Ledger σ) :
    (nextName path c l).2.1.handle = c.handle ∧
    ((nextName path c l).2.2.deeds = l.deeds ∨
      (nextName path c l).2.2.deeds = .used c.handle :: l.deeds) := by
  unfold nextName
  cases c with
  | dir r => exact Posix.deeds_nextName path r l
  | manifest h at_ =>
    dsimp only
    split
    · exact ⟨rfl, .inl rfl⟩
    · exact ⟨rfl, .inr (Ledger.deeds_call (.readRest h at_.offset) l)⟩

lemma carries_nextName (hc : d.cursor? = some c) (path : String) (l : Ledger σ) :
    Carries (.list d) l (.list { d with cursor? := some (nextName path c l).2.1 })
      (nextName path c l).2.2 := by
  obtain ⟨hhandle, hdeeds⟩ := deeds_nextName path c l
  have hsame : (AnyDriver.list { d with cursor? := some (nextName path c l).2.1 }).holdings =
      (AnyDriver.list d).holdings := by
    rw [AnyDriver.holdings, AnyDriver.holdings, AnyDriver.handles, AnyDriver.handles, hc]
    exact congrArg (fun h => [(d.realPath, h)]) hhandle
  rcases hdeeds with hdeeds | hdeeds
  · exact carries_of_eq hsame hdeeds
  · refine ⟨[.used c.handle], hdeeds, ?_⟩
    rw [hsame]
    refine Deed.Leads.none.used ?_
    rw [AnyDriver.map_snd_holdings, AnyDriver.handles, hc]
    exact List.mem_cons_self

/-- **One request** to a list keeps the ledger in order. -/
lemma carries (r : Request α) (d : Listing) (l : Ledger σ) :
    Carries (.list d) l (.list (Listing.perform r d l).2.1) (Listing.perform r d l).2.2 := by
  have hrefl := carries_refl (.list d) l
  cases r with
  | statUncached follow => exact carries_of_eq rfl rfl
  | access mode => exact carries_observing _ (fun _ => .inl rfl) d l
  | accessAt mode flags =>
    rw [perform, accessAt]
    split
    · exact carries_observing _ (fun _ => .inl rfl) d l
    · exact hrefl.observed (α := Unit) ..
  | openDir => exact carries_openDir d l
  | closeDir =>
    rw [perform, closeDir]
    split
    · exact hrefl.observed (α := Unit) ..
    · rename_i c hc
      exact ((carries_drop hc l).mapEntry (f := (·.setDirOpen false)) fun _ => rfl).changed
        (α := Unit) ..
  | readDirEntry =>
    rw [perform, readDirEntry]
    split
    · exact hrefl.observed (α := Option String) ..
    · rename_i c hc
      exact (carries_nextName hc _ l).observed (α := Option String) ..
  | canonicalPath =>
    exact (carries_call (c := .canonicalize d.realPath) (fun _ => .inl rfl) l).observed
      (α := String) ..
  | open_ _ _ | close | mkdir _ | remove | unlink | symlink _ | chown _ _ | chmod _ =>
    exact hrefl.observed (α := Unit) ..
  | setTimes _ => exact hrefl.observed (α := Completion) ..
  | read _ _ | readLink _ => exact hrefl.observed (α := Bytes) ..
  | write _ _ => exact hrefl.observed (α := ℕ) ..

lemma carries_finalize (d : Listing) (l : Ledger σ) :
    Carries (.list d) l (.list (d.finalize l).1) (d.finalize l).2 := by
  obtain ⟨e, cursor?⟩ := d
  cases cursor? with
  | none => exact carries_of_eq rfl rfl
  | some c => exact (carries_drop rfl l).trans (carries_of_eq rfl rfl)

end Listing

/-! ### The null tree -/

namespace Null

/-- A null path has nothing to do with handles. -/
lemma deeds_perform (r : Request α) (d : Null) (l : Ledger σ) :
    (Null.perform r d l).2.2.deeds = l.deeds := by
  cases r with
  | open_ flags mode => rw [perform, openFile]; split <;> rfl
  | close => rw [perform, closeFile]; split <;> rfl
  | openDir => rw [perform, openDir]; split <;> rfl
  | closeDir => rw [perform, closeDir]; split <;> rfl
  | readDirEntry => rw [perform, readDirEntry]; split <;> rfl
  | read len offset => rw [perform, whileOpen]; split <;> rfl
  | write data offset => rw [perform, whileOpen]; split <;> rfl
  | _ => rfl

lemma deeds_finalize (d : Null) (l : Ledger σ) : (d.finalize l).2.deeds = l.deeds := by
  unfold finalize Release.byFlags
  dsimp only
  split
  · rw [deeds_perform]
    split
    · exact deeds_perform ..
    · rfl
  · split
    · exact deeds_perform ..
    · rfl

end Null

/-! ### Any driver -/

namespace AnyDriver

lemma carries_perform (r : Request α) (d : AnyDriver) (l : Ledger σ) :
    Carries d l (Driver.perform r d l).2.1 (Driver.perform r d l).2.2 := by
  cases d with
  | posix d => exact Posix.carries r d l
  | list d => exact Listing.carries r d l
  | null d => exact carries_of_eq rfl (Null.deeds_perform r d l)

/-- A stat has nothing to do with handles. -/
lemma apart_stat (follow : Bool) (d : AnyDriver) (l : Ledger σ) :
    (Driver.stat follow d l).2.1.holdings = d.holdings ∧
    (Driver.stat follow d l).2.2.deeds = l.deeds := by
  rcases stat_cases follow d l with ⟨s, -, -, h⟩ | h
  · rw [h]
    exact ⟨holdings_mapEntry d (f := (·.record ..)) fun _ => rfl, rfl⟩
  · rw [h, refresh_eq]
    constructor
    · refine (holdings_mapEntry _ (f := (·.record ..)) fun _ => rfl).trans ?_
      refine holdings_mapEntry d fun e => ?_
      cases d.answer follow l <;> rfl
    · cases d <;> rfl

lemma carries_stat (follow : Bool) (d : AnyDriver) (l : Ledger σ) :
    Carries d l (Driver.stat follow d l).2.1 (Driver.stat follow d l).2.2 :=
  carries_of_eq (apart_stat follow d l).1 (apart_stat follow d l).2

lemma carries_finalize (d : AnyDriver) (l : Ledger σ) :
    Carries d l (Driver.finalize d l).1 (Driver.finalize d l).2 := by
  cases d with
  | posix d => exact Posix.carries_finalize d l
  | list d => exact Listing.carries_finalize d l
  | null d => exact carries_of_eq rfl (Null.deeds_finalize d l)

lemma carries_reset (path : String) (d : AnyDriver) (l : Ledger σ) :
    Carries d l (Driver.reset path d l).1 (Driver.reset path d l).2 := by
  cases d with
  | posix d => exact (Posix.carries_finalize d l).trans (carries_of_eq rfl rfl)
  | list d => exact (Listing.carries_finalize d l).trans (carries_of_eq rfl rfl)
  | null d => exact carries_of_eq rfl (Null.deeds_finalize d l)

/-- **One call** on an entry keeps the ledger in order. -/
lemma carries_serve (c : Call α) (d : AnyDriver) (l : Ledger σ) :
    Carries d l (Driver.call c d l).2.1 (Driver.call c d l).2.2 := by
  have hrefl := carries_refl d l
  cases c with
  | request r => exact carries_perform r d l
  | stat follow => exact carries_stat follow d l
  | isLink => exact carries_stat false d l
  | statDefault | exists? | isDir | size | mtime => exact carries_stat _ d l
  | follow => exact hrefl.mapEntry (f := fun e => e.setFollow.invalidateStat) fun _ => rfl
  | finalize => exact carries_finalize d l
  | reset path => exact carries_reset path d l
  | invalidateStat => exact hrefl.mapEntry (f := Entry.invalidateStat) fun _ => rfl
  | record op r => exact hrefl.observed op r
  | recordMutation op r => exact hrefl.changed op r
  | decline op b => exact hrefl.observed (α := Unit) op _
  | reject op reason => exact hrefl.observed (α := Unit) op _

/-- To compare two entries has nothing to do with handles. -/
lemma apart_identical (a b : AnyDriver) (l : Ledger σ) :
    let o := Driver.identical a b l
    o.2.1.holdings = a.holdings ∧ o.2.2.1.holdings = b.holdings ∧ o.2.2.2.deeds = l.deeds := by
  intro o
  have hgive (d : AnyDriver) : (Driver.mapEntry Entry.invalidateStat d).holdings = d.holdings :=
    holdings_mapEntry d fun _ => rfl
  obtain ⟨ha, hb⟩ := identical_induction (R := fun d d' => d'.holdings = d.holdings)
    (fun _ => rfl) hgive (fun d (l : Ledger σ) => by
      rw [renewed_eq]
      exact (apart_stat _ _ l).1.trans (hgive d)) a b l
  have hasked (d : AnyDriver) (l : Ledger σ) : (d.asked l).deeds = l.deeds := by
    cases d <;> rfl
  refine ⟨ha, hb, ?_⟩
  unfold o
  rw [identical_eq]
  split
  · rfl
  · split
    · exact hasked a l
    · exact (hasked b _).trans (hasked a l)

end AnyDriver

end TreeHaul
