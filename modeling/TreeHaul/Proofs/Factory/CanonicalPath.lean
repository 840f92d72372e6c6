import TreeHaul.Files.System
import TreeHaul.Proofs.Factory.Recycling
import TreeHaul.Proofs.Path.Detection

/-!
Where canonical paths lead. The canonical path of an entry gets the backend of the entry, but for a
plain path that the system resolves into the null tree: it has no tag that would keep it out.
-/

universe u

namespace TreeHaul

open TreeHaul.Os TreeHaul.Path TreeHaul.Text HasEntry

/-- The system resolves paths to absolute ones. -/
def ResolvesToAbsolute (σ : Type u) [System σ] : Prop :=
  ∀ (path : String) (w : σ) (bytes : Bytes),
    (System.call (.canonicalize path) w).1 = .ok bytes → bytes.head? = some 47

/-! ### The file system in memory -/

namespace Files

lemma head?_joinNames (names : List Name) : (joinNames names).head? = some 47 := by
  cases names <;> rfl

lemma head?_absolutePath (fs : Files) (f : Found) : (fs.absolutePath f).head? = some 47 := by
  unfold absolutePath
  split
  · exact head?_joinNames _
  · split
    · exact head?_joinNames _
    · rfl

lemma head?_canonicalize {fs : Files} {path bytes : Bytes} (h : fs.canonicalize path = .ok bytes) :
    bytes.head? = some 47 := by
  unfold canonicalize at h
  split at h
  · cases h
  · dsimp only at h
    generalize Steps.ofBytes path = s at h
    cases hw : fs.walk true linkMax (startOf fs.cwd s) s.full with
    | error e =>
      rw [hw] at h
      cases h
    | ok found =>
      rw [hw] at h
      rw [← Except.ok.inj h]
      exact head?_absolutePath fs found

lemma resolvesToAbsolute : ResolvesToAbsolute Files := by
  intro path fs bytes h
  have hcall : (withPath path .nulInPath (fun p => asks (fs.canonicalize p) fs) fs).1 =
      .ok bytes := h
  unfold withPath asks at hcall
  split at hcall
  · cases hcall
  · dsimp only at hcall
    cases hc : fs.canonicalize (bytesOf path) with
    | error e =>
      rw [hc] at hcall
      cases hcall
    | ok b =>
      rw [hc] at hcall
      rw [← Except.ok.inj hcall]
      exact head?_canonicalize hc

end Files

/-! ### The three drivers -/

variable {σ : Type u} [System σ]

lemma Posix.nameOf_eq_ok {bytes : Bytes} {name : String} (h : nameOf bytes = .ok name) :
    ofBytes? bytes = some name := by
  unfold nameOf at h
  split at h
  · rename_i s hs
    rw [hs]
    exact congrArg some (Except.ok.inj h)
  · cases h

lemma Posix.detect_canonicalPath (habs : ResolvesToAbsolute σ) {d : Posix} {w : σ} {c : String}
    (h : (Posix.perform .canonicalPath d w).1 = .ok c) : Backend.detect c ≠ .list := by
  have hc : ((System.call (.canonicalize d.entry.path) w).1.mapError
      (.ofIo "canonical_path" d.entry.path)).bind nameOf = .ok c := h
  cases hcall : (System.call (.canonicalize d.entry.path) w).1 with
  | error e =>
    rw [hcall] at hc
    cases hc
  | ok bytes =>
    rw [hcall] at hc
    exact Backend.detect_ne_list (nameOf_eq_ok hc) (habs _ w bytes hcall)

lemma Listing.detect_canonicalPath {d : Listing} {w : σ} {c : String}
    (h : (Listing.perform .canonicalPath d w).1 = .ok c) : Backend.detect c = .list := by
  have hc : (((System.call (.canonicalize d.realPath) w).1.mapError
      (.ofIo "canonical_path" d.entry.path)).bind Posix.nameOf).map (Backend.listTag ++ ·) =
        .ok c := h
  rw [Backend.detect_eq_list_iff]
  cases hr : ((System.call (.canonicalize d.realPath) w).1.mapError
      (.ofIo "canonical_path" d.entry.path)).bind Posix.nameOf with
  | error e =>
    rw [hr] at hc
    cases hc
  | ok name =>
    rw [hr] at hc
    refine ⟨name.toList, ?_⟩
    rw [← Except.ok.inj hc, String.toList_append]

/-! ### Routes -/

namespace Factory

variable {f : Factory AnyDriver} {c : String}

lemma route_of_list (h : Backend.detect c = .list) : f.route c = .list := by
  rw [route, h]

lemma route_of_posix (h : Backend.detect c = .posix) : f.route c = .posix := by
  rw [route, h]

lemma route_of_null (h : Backend.detect c = .null) :
    f.route c = if f.config.nullDevice then .null else .posix := by
  rw [route, h]

/-- The canonical path leads out of the backend of its entry. -/
def Leaves (config : Config) (d : AnyDriver) (c : String) : Prop :=
  backend d = .posix ∧ config.nullDevice = true ∧ Backend.InNullTree c

lemma route_canonical (habs : ResolvesToAbsolute σ) {d : AnyDriver} {w : σ}
    (hd : backend d = f.route (Driver.path d))
    (hc : (Driver.perform .canonicalPath d w).1 = .ok c) :
    (¬Leaves f.config d c → f.route c = backend d) ∧ (Leaves f.config d c → f.route c = .null) := by
  cases d with
  | posix d =>
    have hl : Backend.detect c ≠ .list := Posix.detect_canonicalPath habs hc
    unfold Leaves
    rw [← Backend.detect_eq_null_iff]
    cases hdet : Backend.detect c with
    | list => exact absurd hdet hl
    | posix => exact ⟨fun _ => route_of_posix hdet, fun h => nomatch h.2.2⟩
    | null =>
      have hroute := route_of_null (f := f) hdet
      cases hn : f.config.nullDevice with
      | false =>
        rw [hn] at hroute
        exact ⟨fun _ => hroute, fun h => nomatch h.2.1⟩
      | true =>
        rw [hn] at hroute
        exact ⟨fun h => absurd ⟨rfl, rfl, rfl⟩ h, fun _ => hroute⟩
  | list d =>
    have hl : Backend.detect c = .list := Listing.detect_canonicalPath hc
    exact ⟨fun _ => route_of_list hl, fun h => nomatch h.1⟩
  | null d =>
    have hpath : d.entry.path = c := Except.ok.inj hc
    refine ⟨fun _ => ?_, fun h => nomatch h.1⟩
    rw [hd, ← hpath]
    rfl

/-- **Canonical paths keep the backend, but for one case**: a plain path that the system resolves to
the null device or below it, while paths there get the null backend. -/
theorem route_canonicalPath (habs : ResolvesToAbsolute σ) (config : Config) (w : σ)
    (steps : List (Workshop.Step σ)) (path : String) (v v' : σ) :
    let f := ((Workshop.ofConfig config w).run steps).factory
    let d := (f.acquire path v).1
    ∀ c, (Driver.perform .canonicalPath d v').1 = .ok c →
      (¬Leaves config d c → f.route c = backend d) ∧ (Leaves config d c → f.route c = .null) := by
  intro f d c hc
  obtain ⟨hconfig, hsorted⟩ := Workshop.kept_run config w steps
  have hd : d = .issued f.config (f.route path) path := hsorted.acquire_fst path v
  have hroute : backend d = f.route (Driver.path d) := by
    rw [hd, AnyDriver.backend_issued, Driver.path, AnyDriver.entry_issued]
  rw [← hconfig]
  exact route_canonical habs hroute hc

/-- A list of the directory of devices, under another spelling of its path. -/
theorem route_canonicalPath_list :
    let w := Files.fresh ⟨5, 0⟩ []
    let f := ((Workshop.ofConfig .standard w).run [.acquire "list:///", .release 0]).factory
    let d := (f.acquire "list:///dev/./" w).1
    (Driver.perform .canonicalPath d w).1 = .ok "list:///dev" ∧
      f.route "list:///dev" = backend d := by
  intro w f d
  have hc : (Driver.perform .canonicalPath d w).1 = .ok "list:///dev" := by decide +kernel
  have hb : backend d ≠ .posix := by decide +kernel
  have hroute := route_canonicalPath Files.resolvesToAbsolute .standard w
    [.acquire "list:///", .release 0] "list:///dev/./" w w "list:///dev" hc
  exact ⟨hc, hroute.1 fun h => hb h.1⟩

/-- **The case happens**: the null device under another spelling is a plain path, and its canonical
path is not. -/
theorem canonicalPath_leaves_posix :
    let w := Files.fresh ⟨5, 0⟩ []
    let d := ((ofConfig .standard : Factory AnyDriver).acquire "/dev/./null" w).1
    (Driver.perform .canonicalPath d w).1 = .ok "/dev/null" ∧ backend d = .posix ∧
      (ofConfig .standard : Factory AnyDriver).route "/dev/null" = .null := by
  decide +kernel

end Factory

end TreeHaul
