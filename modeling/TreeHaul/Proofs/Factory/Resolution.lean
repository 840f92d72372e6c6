import TreeHaul.Proofs.Driver.Mirror
import TreeHaul.Proofs.Factory.CanonicalPath
import TreeHaul.Proofs.Factory.Suffixes

/-!
A canonical path is its own canonical path, though the entry that is handed out for it need not
have the backend of the first one. All that is assumed of the system is what it says of the path
that it is asked for.
-/

universe u

namespace TreeHaul

open TreeHaul.Os TreeHaul.Path TreeHaul.Text HasEntry

variable {σ : Type u} [System σ]

/-! ### What the system makes of a path -/

/-- The system resolves a path to what is written like this. -/
def ResolvesTo (path : String) (w : σ) (c : String) : Prop :=
  ∃ bytes, (System.call (.canonicalize path) w).1 = .ok bytes ∧ ofBytes? bytes = some c

/-- What the system resolves a path to in one world is absolute, and in the other world it is
resolved to itself. -/
def Settles (path : String) (v v' : σ) : Prop :=
  ∀ bytes, (System.call (.canonicalize path) v).1 = .ok bytes →
    bytes.head? = some 47 ∧
    ∀ c, ofBytes? bytes = some c → (System.call (.canonicalize c) v').1 = .ok bytes

section

variable {path c : String} {v v' : σ}

lemma settles_of_eq (c : String) (bytes : Bytes)
    (h : (System.call (.canonicalize path) v).1 = .ok bytes) (habs : bytes.head? = some 47)
    (hc : ofBytes? bytes = some c) (h' : (System.call (.canonicalize c) v').1 = .ok bytes) :
    Settles path v v' := by
  intro b hb
  have hbytes : bytes = b := Except.ok.inj (h.symm.trans hb)
  subst hbytes
  refine ⟨habs, fun d hd => ?_⟩
  have hcd : c = d := Option.some.inj (hc.symm.trans hd)
  rw [← hcd]
  exact h'

lemma Settles.resolvesTo (hs : Settles path v v') (h : ResolvesTo path v c) :
    ResolvesTo c v' c := by
  obtain ⟨bytes, hcall, hc⟩ := h
  exact ⟨bytes, (hs bytes hcall).2 c hc, hc⟩

lemma Settles.detect_ne_list (hs : Settles path v v') (h : ResolvesTo path v c) :
    Backend.detect c ≠ .list := by
  obtain ⟨bytes, hcall, hc⟩ := h
  exact Backend.detect_ne_list hc (hs bytes hcall).1

lemma resolved_eq_ok_iff (op named : String) :
    ((System.call (.canonicalize path) v).1.mapError (.ofIo op named)).bind Posix.nameOf = .ok c ↔
      ResolvesTo path v c := by
  unfold ResolvesTo
  cases (System.call (.canonicalize path) v).1 with
  | error e =>
    constructor
    · intro h
      cases h
    · rintro ⟨_, h, _⟩
      cases h
  | ok bytes =>
    change Posix.nameOf bytes = .ok c ↔ _
    constructor
    · intro h
      exact ⟨bytes, rfl, Posix.nameOf_eq_ok h⟩
    · rintro ⟨b, hb, hc⟩
      cases hb
      rw [Posix.nameOf, hc]

end

/-! ### What the drivers make of it -/

section

variable {w : σ} {c : String}

lemma Posix.canonicalPath_eq_ok_iff {d : Posix} :
    (Posix.perform .canonicalPath d w).1 = .ok c ↔ ResolvesTo d.entry.path w c :=
  resolved_eq_ok_iff "canonical_path" d.entry.path

lemma tagged_eq_ok_iff {x : Except PathError String} :
    x.map (Backend.listTag ++ ·) = .ok c ↔ ∃ real, x = .ok real ∧ Backend.listTag ++ real = c := by
  cases x <;> simp [Except.map]

lemma Listing.canonicalPath_eq_ok_iff {d : Listing} :
    (Listing.perform .canonicalPath d w).1 = .ok c ↔
      ∃ real, ResolvesTo d.realPath w real ∧ Backend.listTag ++ real = c := by
  simp only [← resolved_eq_ok_iff "canonical_path" d.entry.path]
  exact tagged_eq_ok_iff

end

/-! ### Entries that a factory made -/

namespace AnyDriver

variable {config : Config} {path c : String} {w : σ}

/-- The link policy does not matter. -/
lemma fst_canonicalPath_issued (b : Backend) :
    (Driver.perform .canonicalPath (issued config b path) w).1 =
      (Driver.perform .canonicalPath (ofPath b path) w).1 := by
  unfold issued
  cases config.followLinks <;> cases b <;> rfl

lemma canonicalPath_issued_posix :
    (Driver.perform .canonicalPath (issued config .posix path) w).1 = .ok c ↔
      ResolvesTo path w c := by
  rw [fst_canonicalPath_issued]
  exact Posix.canonicalPath_eq_ok_iff

lemma canonicalPath_issued_list :
    (Driver.perform .canonicalPath (issued config .list path) w).1 = .ok c ↔
      ∃ real, ResolvesTo (Listing.untagged path) w real ∧ Backend.listTag ++ real = c := by
  rw [fst_canonicalPath_issued]
  exact Listing.canonicalPath_eq_ok_iff

/-- Nobody is asked. -/
lemma canonicalPath_issued_null :
    (Driver.perform .canonicalPath (issued config .null path) w).1 = .ok path := by
  rw [fst_canonicalPath_issued]
  rfl

end AnyDriver

namespace Factory

variable {f : Factory AnyDriver} {path c : String} {v v' : σ}

lemma untagged_of_route_ne_list (h : f.route path ≠ .list) : Listing.untagged path = path := by
  unfold Listing.untagged
  split
  · rename_i rest hrest
    exact absurd (route_of_list (Backend.detect_eq_list_iff.mpr
      ⟨rest, Backend.rest?_eq_some_iff.mp hrest⟩)) h
  · rfl

/-- **One more time**: the answer for a path is the answer for itself. -/
lemma canonicalPath_again (hs : Settles (Listing.untagged path) v v')
    (h : (Driver.perform .canonicalPath (AnyDriver.issued f.config (f.route path) path) v).1 =
      .ok c) :
    (Driver.perform .canonicalPath (AnyDriver.issued f.config (f.route c) c) v').1 = .ok c := by
  cases hroute : f.route path with
  | posix =>
    rw [hroute, AnyDriver.canonicalPath_issued_posix] at h
    rw [untagged_of_route_ne_list (by rw [hroute]; decide)] at hs
    have hc : f.route c ≠ .list := by
      rw [Ne, route_eq_list_iff]
      exact hs.detect_ne_list h
    cases hroute' : f.route c with
    | posix => exact AnyDriver.canonicalPath_issued_posix.mpr (hs.resolvesTo h)
    | list => exact absurd hroute' hc
    | null => exact AnyDriver.canonicalPath_issued_null
  | list =>
    rw [hroute, AnyDriver.canonicalPath_issued_list] at h
    obtain ⟨real, hreal, rfl⟩ := h
    have hc : f.route (Backend.listTag ++ real) = .list :=
      route_of_list (Backend.detect_eq_list_iff.mpr ⟨real.toList, String.toList_append⟩)
    rw [hc, AnyDriver.canonicalPath_issued_list]
    refine ⟨real, ?_, rfl⟩
    rw [Listing.untagged_append]
    exact hs.resolvesTo hreal
  | null =>
    rw [hroute, AnyDriver.canonicalPath_issued_null] at h
    rw [← Except.ok.inj h, hroute]
    exact AnyDriver.canonicalPath_issued_null

/-- **A canonical path is its own canonical path.** Whatever a factory did before it hands out an
entry for a path, and whatever one with the same settings did before it hands out an entry for the
canonical path of the first: this one answers with the path that it was made for. The two entries
can be of different backends. -/
theorem canonicalPath_idem (config : Config) (w w' : σ) (steps steps' : List (Workshop.Step σ))
    (path : String) (u v u' v' : σ) (hs : Settles (Listing.untagged path) v v') :
    let f := ((Workshop.ofConfig config w).run steps).factory
    let g := ((Workshop.ofConfig config w').run steps').factory
    ∀ c, (Driver.perform .canonicalPath (f.acquire path u).1 v).1 = .ok c →
      (Driver.perform .canonicalPath (g.acquire c u').1 v').1 = .ok c := by
  intro f g c hc
  obtain ⟨hf, hsorted⟩ := Workshop.kept_run config w steps
  obtain ⟨hg, hsorted'⟩ := Workshop.kept_run config w' steps'
  have hfirst : (f.acquire path u).1 = .issued f.config (f.route path) path :=
    hsorted.acquire_fst path u
  have hconfig : g.config = f.config := hg.trans hf.symm
  have hsecond : (g.acquire c u').1 = .issued f.config (f.route c) c := by
    rw [hsorted'.acquire_fst c u', route_congr hconfig c, hconfig]
  rw [hfirst] at hc
  rw [hsecond]
  exact canonicalPath_again hs hc

/-- The directory of devices as a list, and the null device, each under another spelling. The second
time the null device gets the null backend, which does not ask the system. -/
theorem canonicalPath_idem_devices :
    let w := Files.fresh ⟨5, 0⟩ []
    let f := ((Workshop.ofConfig .standard w).run [.acquire "list:///", .release 0]).factory
    let g := ((Workshop.ofConfig .standard w).run [.acquire "/dev/null", .release 0]).factory
    let resolved (path : String) := (Driver.perform .canonicalPath (f.acquire path w).1 w).1
    let again (path : String) := (Driver.perform .canonicalPath (g.acquire path w).1 w).1
    resolved "list:///dev/./" = .ok "list:///dev" ∧ again "list:///dev" = .ok "list:///dev" ∧
      resolved "/dev/./null" = .ok "/dev/null" ∧ again "/dev/null" = .ok "/dev/null" := by
  intro w f g resolved again
  have hlist : resolved "list:///dev/./" = .ok "list:///dev" := by decide +kernel
  have hnull : resolved "/dev/./null" = .ok "/dev/null" := by decide +kernel
  have hdev : Settles (Listing.untagged "list:///dev/./") w w :=
    settles_of_eq "/dev" (bytesOf "/dev") (by decide +kernel) (by decide +kernel)
      (by decide +kernel) (by decide +kernel)
  have hdevice : Settles (Listing.untagged "/dev/./null") w w :=
    settles_of_eq "/dev/null" (bytesOf "/dev/null") (by decide +kernel) (by decide +kernel)
      (by decide +kernel) (by decide +kernel)
  exact ⟨hlist, canonicalPath_idem .standard w w _ _ _ w w w w hdev _ hlist, hnull,
    canonicalPath_idem .standard w w _ _ _ w w w w hdevice _ hnull⟩

end Factory

end TreeHaul
