import Provenance.Compiler.Pool
import Provenance.Proofs.Compiler.Selection
import Provenance.Proofs.Compiler.Storing

/-!
What is in the files of compilers. A file is checked when it is fetched and never
again, and it is found by its name, which is made of a platform and a long version.
So the file at the path of a compiler is that of some build with this platform and
this long version that was chosen earlier. Over all calls the invariant is that every
file in the directory goes back to a build that the loaded catalogs offer. It has the
hash of the build that was chosen now if the catalog offers no two builds of one long
version that differ in it.
-/

namespace Provenance

open Files

/-- The file names of builds tell apart platforms and long versions. -/
theorem Platform.artifactName_inj {platform other : Platform} {longVersion longVersion' : String}
    (h : platform.artifactName longVersion = other.artifactName longVersion') :
    platform = other ∧ longVersion = longVersion' := by
  have hlist := congrArg String.toList h
  simp only [artifactName, String.toList_append] at hlist
  have hplatform : platform = other := by
    cases platform <;> cases other <;> first | rfl | simp [directory] at hlist
  subst hplatform
  refine ⟨rfl, String.toList_inj.1 ?_⟩
  simpa using hlist

def Build.isArchive (build : Build) : Bool := ".zip".toList.isSuffixOf build.url.path.toList

def Catalog.Offers (catalog : Catalog) (build : Build) : Prop :=
  (∃ longVersion, catalog.longVersion? longVersion = some build) ∨
    ∃ version, catalog.version? version = some build

theorem Catalog.mem_of_offers {builds : List Build} {build : Build}
    (h : (ofBuilds builds).Offers build) : build ∈ builds := by
  rcases h with ⟨longVersion, hlong⟩ | ⟨version, hversion⟩
  · exact (mem_of_longVersion? hlong).1
  · exact (mem_of_version? hversion).1

def Releases.Offers (r : Releases) (platform : Platform) (build : Build) : Prop :=
  ∃ catalog, r.loaded.lookup platform = some catalog ∧ catalog.Offers build

theorem Releases.Extends.offers {r r' : Releases} (h : r.Extends r') {platform : Platform}
    {build : Build} (hoffers : r.Offers platform build) : r'.Offers platform build := by
  obtain ⟨catalog, hloaded, hcatalog⟩ := hoffers
  exact ⟨catalog, h.keeps hloaded, hcatalog⟩

theorem Releases.offers_of_resolve {r : Releases} {network : Net.Network} {portable : Platform}
    {native : Option Platform} {name : CompilerName} {selection : Selection}
    (h : (r.resolve network name portable native).2.2 = .ok selection) :
    (r.resolve network name portable native).1.Offers selection.platform selection.build := by
  obtain ⟨-, -, catalog, hloaded, hkey⟩ := listed_of_resolve h
  exact ⟨catalog, hloaded, hkey.imp (fun hlong => ⟨_, hlong⟩) fun hversion => ⟨_, hversion⟩⟩

namespace Artifacts

variable {a a' : Artifacts} {t t' : Tree} {r r' : Releases} {order : ArtifactOrder}
  {data file : Bytes} {name : String}

theorem Holds.hash (h : a.Holds t order data file) {sha256 : String}
    (hsha256 : order.sha256 = some sha256) : Hex.decode sha256 = .ok (Sha256.digest data) := by
  have hcheck := h.checked
  rw [check, hsha256] at hcheck
  simp only [checkHash] at hcheck
  cases hdecode : Hex.decode sha256 with
  | error cause => simp [hdecode] at hcheck
  | ok expected =>
    simp only [hdecode] at hcheck
    split_ifs at hcheck with heq
    rw [heq]

/-- Outside archives the file is the data. -/
theorem Holds.file_eq (h : a.Holds t order data file) (hplain : isArchive order = false) :
    file = data := by
  have hcontent := h.content
  unfold Artifacts.content at hcontent
  rw [hplain] at hcontent
  exact (Except.ok.inj hcontent).symm

theorem published?_publish {other path : String}
    (h : (a.publish name).published? other = some path) :
    other = name ∧ path = a.path name ∨ a.published? other = some path := by
  rw [published?, publish, List.lookup_cons] at h
  by_cases hother : other = name
  · subst hother
    rw [beq_self_eq_true] at h
    exact .inl ⟨rfl, (Option.some.inj h).symm⟩
  · rw [beq_eq_false_iff_ne.2 hother] at h
    exact .inr h

structure IsEmpty (a : Artifacts) (t : Tree) : Prop where
  straight : a.IsStraight t
  missing : ∀ name, FileName.isValid name = true → a.isPresent t name ≠ .ok true

theorem IsHome.isEmpty {home : Place} (h : a.IsHome t home)
    (hmissing : ∀ name, t.node? (home ++ [name]) = none) : a.IsEmpty t := by
  refine ⟨h.isStraight, fun name hname hpresent => ?_⟩
  obtain ⟨place, hlocate, hsome⟩ := Tree.exists?_eq_true_iff.1 (isPresent_eq_ok_iff.1 hpresent)
  rw [h.eq_of_locate hname hlocate, hmissing] at hsome
  cases hsome

/-- Every file in the directory is that of a build which the loaded catalogs offer,
and what is published is there. -/
structure Stocked (r : Releases) (a : Artifacts) (t : Tree) : Prop where
  straight : a.IsStraight t
  published : ∀ {name path}, a.published? name = some path →
    path = a.path name ∧ a.isPresent t name = .ok true
  origin : ∀ {name}, FileName.isValid name = true → name ≠ stagingName →
    a.isPresent t name = .ok true → ∃ (s : Selection) (data file : Bytes),
      s.order.fileName = name ∧ r.Offers s.platform s.build ∧ a.Holds t s.order data file

theorem IsEmpty.stocked (h : a.IsEmpty t) (hpublished : a.published = []) : Stocked r a t where
  straight := h.straight
  published hpath := by simp [published?, hpublished] at hpath
  origin hname _ hpresent := absurd hpresent (h.missing _ hname)

namespace Stocked

theorem mono (h : Stocked r a t) (hextends : r.Extends r') : Stocked r' a t where
  straight := h.straight
  published := h.published
  origin hname hstaging hpresent := by
    obtain ⟨s, data, file, hs, hoffers, hholds⟩ := h.origin hname hstaging hpresent
    exact ⟨s, data, file, hs, hextends.offers hoffers, hholds⟩

/-- The files do not depend on what is published. -/
theorem of_directory (h : Stocked r a t) (hdirectory : a'.directory = a.directory)
    (hpublished : ∀ {name path}, a'.published? name = some path →
      path = a'.path name ∧ a'.isPresent t name = .ok true) : Stocked r a' t := by
  obtain ⟨directory, published, lookups, hits⟩ := a
  obtain ⟨directory', published', lookups', hits'⟩ := a'
  obtain rfl : directory' = directory := hdirectory
  refine ⟨h.straight, hpublished, fun hname hstaging hpresent => ?_⟩
  obtain ⟨s, data, file, hs, hoffers, hholds⟩ := h.origin hname hstaging hpresent
  exact ⟨s, data, file, hs, hoffers, hholds.checked, hholds.content, hholds.read⟩

theorem countLookup (h : Stocked r a t) : Stocked r a.countLookup t :=
  h.of_directory rfl h.published

theorem countHit (h : Stocked r a t) : Stocked r a.countHit t :=
  h.of_directory rfl h.published

theorem publish (h : Stocked r a t) (hpresent : a.isPresent t name = .ok true) :
    Stocked r (a.publish name) t := by
  refine h.of_directory rfl fun {other path} hpath => ?_
  rcases published?_publish hpath with ⟨rfl, rfl⟩ | hbefore
  · exact ⟨rfl, hpresent⟩
  · exact h.published hbefore

/-- A file that is stored for a build is that of the build, and the others stay. -/
theorem store (h : Stocked r a t) {s : Selection} (hoffers : r.Offers s.platform s.build)
    (horder : FileName.isValid s.order.fileName = true) (data : Bytes) :
    Stocked r a (a.store t s.order data).1 := by
  have hstores := a.stores_of_store t s.order data
  refine ⟨hstores.isStraight h.straight, fun hpath => ?_, fun {name} hname hstaging hpresent => ?_⟩
  · obtain ⟨rfl, hpresent⟩ := h.published hpath
    exact ⟨rfl, hstores.isPresent_keeps hpresent⟩
  · by_cases hself : name = s.order.fileName ∧ (a.store t s.order data).2 = .ok ()
    · obtain ⟨rfl, hstored⟩ := hself
      obtain ⟨file, hholds⟩ := holds_of_store hstored
      exact ⟨s, data, file, rfl, hoffers, hholds⟩
    · have hother : name = s.order.fileName → (a.store t s.order data).2 ≠ .ok () :=
        fun heq hstored => hself ⟨heq, hstored⟩
      have hbefore := hstores.isPresent_before h.straight horder hname hstaging hother hpresent
      obtain ⟨s', data', file', rfl, hoffers', hholds⟩ := h.origin hname hstaging hbefore
      exact ⟨s', data', file', rfl, hoffers', hholds.checked, hholds.content,
        hstores.read_other h.straight horder hname hother hholds.read⟩

end Stocked

structure Delivers (r : Releases) (a : Artifacts) (t : Tree) (name : String) (a' : Artifacts)
    (t' : Tree) (result : Except FetchFault String) : Prop where
  directory : a'.directory = a.directory
  keeps : t.Keeps t'
  stocked : Stocked r a' t'
  delivered : ∀ {path}, result = .ok path →
    FileName.isValid name = true ∧ path = a'.path name ∧ a'.isPresent t' name = .ok true

theorem Stocked.transfer {w : Surroundings} (h : Stocked r a w.files) {s : Selection}
    (hoffers : r.Offers s.platform s.build)
    (horder : FileName.isValid s.order.fileName = true) :
    Stocked r a (a.transfer w s.order).1.files ∧ w.files.Keeps (a.transfer w s.order).1.files ∧
      ((a.transfer w s.order).2 = .ok () →
        a.isPresent (a.transfer w s.order).1.files s.order.fileName = .ok true) := by
  unfold Artifacts.transfer
  rcases fetch w.network s.order.url with ⟨network, _ | data⟩
  · exact ⟨h, .refl _, nofun⟩
  · have hstores := a.stores_of_store w.files s.order data
    exact ⟨h.store hoffers horder data, hstores.keeps, isPresent_of_store⟩

theorem Stocked.obtain {w : Surroundings} (h : Stocked r a w.files) {s : Selection}
    (hoffers : r.Offers s.platform s.build)
    (horder : FileName.isValid s.order.fileName = true) :
    Delivers r a w.files s.order.fileName (a.obtain w s.order).1 (a.obtain w s.order).2.1.files
      (a.obtain w s.order).2.2 := by
  unfold Artifacts.obtain
  cases hpresent : a.isPresent w.files s.order.fileName with
  | error fault => exact ⟨rfl, .refl _, h, nofun⟩
  | ok found =>
    cases found with
    | true =>
      refine ⟨rfl, .refl _, h.publish hpresent, fun hpath => ⟨horder, ?_, hpresent⟩⟩
      exact (Except.ok.inj hpath).symm
    | false =>
      have htransfer := h.transfer hoffers horder
      generalize a.transfer w s.order = transferred at htransfer ⊢
      obtain ⟨w', outcome⟩ := transferred
      obtain ⟨hstocked, hkeeps, hthere⟩ := htransfer
      cases outcome with
      | error fault => exact ⟨rfl, hkeeps, hstocked, nofun⟩
      | ok =>
        have hpresent := hthere rfl
        refine ⟨rfl, hkeeps, hstocked.publish hpresent, fun hpath => ⟨horder, ?_, hpresent⟩⟩
        exact (Except.ok.inj hpath).symm

theorem Stocked.download {w : Surroundings} (h : Stocked r a w.files) {s : Selection}
    (hoffers : r.Offers s.platform s.build) :
    Delivers r a w.files s.order.fileName (a.download w s.order).1
      (a.download w s.order).2.1.files (a.download w s.order).2.2 := by
  unfold Artifacts.download
  split_ifs with hinvalid
  · exact ⟨rfl, .refl _, h, nofun⟩
  · have horder : FileName.isValid s.order.fileName = true := by simpa using hinvalid
    dsimp only
    cases hpublished : a.countLookup.published? s.order.fileName with
    | none =>
      have hobtain := h.countLookup.obtain hoffers horder
      dsimp only
      exact ⟨hobtain.directory, hobtain.keeps, hobtain.stocked, hobtain.delivered⟩
    | some path =>
      obtain ⟨rfl, hpresent⟩ := h.countLookup.published hpublished
      refine ⟨rfl, .refl _, h.countLookup.countHit, fun hpath => ⟨horder, ?_, hpresent⟩⟩
      exact (Except.ok.inj hpath).symm

end Artifacts

namespace InstalledCompiler

variable {t t' : Tree} {s : Selection} {path : String} {c : InstalledCompiler}

theorem at?_eq_ok_iff : at? t s path = .ok c ↔
    c.selection = s ∧ if s.platform.isWasm then t.resolve path = .ok c.path else c.path = path := by
  obtain ⟨selection, found⟩ := c
  unfold at?
  split_ifs
  · cases t.resolve path <;> simp [eq_comm]
  · simp [eq_comm]

theorem at?_keeps (h : t.Keeps t') (hc : at? t s path = .ok c) : at? t' s path = .ok c := by
  rw [at?_eq_ok_iff] at hc ⊢
  refine ⟨hc.1, ?_⟩
  have hpath := hc.2
  split_ifs at hpath ⊢
  · exact Tree.resolve_keeps h hpath
  · exact hpath

/-- The path of a compiler leads to its file. -/
theorem read_of_at? (hc : at? t s path = .ok c) (hlength : c.path.utf8ByteSize ≤ Tree.maxPath) :
    t.read c.path = t.read path := by
  have hpath := (at?_eq_ok_iff.1 hc).2
  split_ifs at hpath
  · exact Tree.read_of_resolve hpath hlength
  · rw [hpath]

end InstalledCompiler

namespace CompilerPool

variable {p p' p'' : CompilerPool} {t t' t'' : Tree}

structure Extends (p : CompilerPool) (t : Tree) (p' : CompilerPool) (t' : Tree) : Prop where
  directory : p'.artifacts.directory = p.artifacts.directory
  releases : p.releases.Extends p'.releases
  files : t.Keeps t'

theorem Extends.refl (p : CompilerPool) (t : Tree) : p.Extends t p t :=
  ⟨rfl, .refl _, .refl _⟩

theorem Extends.trans (h : p.Extends t p' t') (h' : p'.Extends t' p'' t'') : p.Extends t p'' t'' :=
  ⟨h'.directory.trans h.directory, h.releases.trans h'.releases, h.files.trans h'.files⟩

def Stocked (p : CompilerPool) (t : Tree) : Prop := Artifacts.Stocked p.releases p.artifacts t

structure Has (p : CompilerPool) (t : Tree) (c : InstalledCompiler) : Prop where
  offers : p.releases.Offers c.selection.platform c.selection.build
  valid : FileName.isValid c.selection.order.fileName = true
  present : p.artifacts.isPresent t c.selection.order.fileName = .ok true
  located : InstalledCompiler.at? t c.selection (p.artifacts.path c.selection.order.fileName) =
    .ok c

theorem path_eq (h : p'.artifacts.directory = p.artifacts.directory) (name : String) :
    p'.artifacts.path name = p.artifacts.path name := by
  rw [Artifacts.path, Artifacts.path, h]

theorem Has.mono {c : InstalledCompiler} (hc : p.Has t c) (h : p.Extends t p' t') :
    p'.Has t' c where
  offers := h.releases.offers hc.offers
  valid := hc.valid
  present := by
    rw [Artifacts.isPresent_eq_ok_iff, path_eq h.directory]
    exact Tree.exists?_keeps h.files (Artifacts.isPresent_eq_ok_iff.1 hc.present)
  located := by
    rw [path_eq h.directory]
    exact InstalledCompiler.at?_keeps h.files hc.located

structure Provides (p : CompilerPool) (t : Tree) (p' : CompilerPool) (t' : Tree)
    (result : Except CompilationFault InstalledCompiler) : Prop where
  keeps : p.Extends t p' t'
  stocked : p'.Stocked t'
  has : ∀ {c}, result = .ok c → p'.Has t' c

theorem Stocked.install {w : Surroundings} (h : p.Stocked w.files) (name : CompilerName)
    {s : Selection} (hoffers : p.releases.Offers s.platform s.build) :
    p.Provides w.files (p.install w name s).1 (p.install w name s).2.1.files
      (p.install w name s).2.2 := by
  have hdownload := Artifacts.Stocked.download h hoffers
  unfold CompilerPool.install
  generalize p.artifacts.download w s.order = downloaded at hdownload ⊢
  obtain ⟨artifacts, w', result⟩ := downloaded
  dsimp only at hdownload ⊢
  obtain ⟨hdirectory, hkeeps, hstocked, hdelivered⟩ := hdownload
  refine ⟨⟨hdirectory, .refl _, hkeeps⟩, hstocked, fun {c} hc => ?_⟩
  cases result with
  | error fault => cases hc
  | ok path =>
    obtain ⟨hvalid, rfl, hpresent⟩ := hdelivered rfl
    obtain rfl := (InstalledCompiler.at?_eq_ok_iff.1 hc).1
    exact ⟨hoffers, hvalid, hpresent, hc⟩

/-- A call keeps the invariant. -/
theorem Stocked.provide {w : Surroundings} (h : p.Stocked w.files) (name : CompilerName) :
    p.Provides w.files (p.provide w name).1 (p.provide w name).2.1.files
      (p.provide w name).2.2 := by
  have hextends : p.releases.Extends
      (p.releases.resolve w.network name .wasm p.policy.native).1 :=
    p.releases.extends_supplies w.network .wasm p.policy.native
  have hoffers {selection : Selection}
      (h : (p.releases.resolve w.network name .wasm p.policy.native).2.2 = .ok selection) :=
    Releases.offers_of_resolve h
  unfold CompilerPool.provide CompilerPool.select
  generalize p.releases.resolve w.network name .wasm p.policy.native = resolved
    at hextends hoffers ⊢
  obtain ⟨releases, network, fault | selection⟩ := resolved
  · exact ⟨⟨rfl, hextends, .refl _⟩, Artifacts.Stocked.mono h hextends, nofun⟩
  · have hstocked : CompilerPool.Stocked { p with releases } { w with network }.files :=
      Artifacts.Stocked.mono h hextends
    have hinstall := hstocked.install name (hoffers rfl)
    exact ⟨⟨hinstall.keeps.directory, hextends.trans hinstall.keeps.releases,
      hinstall.keeps.files⟩, hinstall.stocked, hinstall.has⟩

def provideAll (p : CompilerPool) (w : Surroundings) : List CompilerName →
    CompilerPool × Surroundings
  | [] => (p, w)
  | name :: names => provideAll (p.provide w name).1 (p.provide w name).2.1 names

/-- Calls keep the invariant. -/
theorem Stocked.provideAll {w : Surroundings} (h : p.Stocked w.files)
    (names : List CompilerName) :
    p.Extends w.files (p.provideAll w names).1 (p.provideAll w names).2.files ∧
      (p.provideAll w names).1.Stocked (p.provideAll w names).2.files := by
  induction names generalizing p w with
  | nil => exact ⟨.refl _ _, h⟩
  | cons name names ih =>
    obtain ⟨hextends, hstocked, -⟩ := h.provide name
    obtain ⟨hrest, hfinal⟩ := ih hstocked
    exact ⟨hextends.trans hrest, hfinal⟩

theorem provideAll_append (p : CompilerPool) (w : Surroundings) (before : List CompilerName)
    (name : CompilerName) (behind : List CompilerName) :
    p.provideAll w (before ++ name :: behind) =
      let called := (p.provideAll w before).1.provide (p.provideAll w before).2 name
      called.1.provideAll called.2.1 behind := by
  induction before generalizing p w with
  | nil => rfl
  | cons first before ih => exact ih _ _

/-- The file of a compiler that a pool has was taken out of checked data of a build
with the same platform and long version. -/
theorem Stocked.origin_of_has (h : p.Stocked t) {c : InstalledCompiler} (hc : p.Has t c) :
    ∃ (s : Selection) (data file : Bytes), s.order.fileName = c.selection.order.fileName ∧
      p.releases.Offers s.platform s.build ∧ p.artifacts.Holds t s.order data file := by
  refine h.origin hc.valid (fun heq => ?_) hc.present
  have hlist := congrArg String.toList heq
  simp [Selection.order, Platform.artifactName, Artifacts.stagingName] at hlist

end CompilerPool

/-- Under the long version of a build a catalog offers no other hash, and no archive. -/
def Catalog.Agrees (catalog : Catalog) (build : Build) : Prop :=
  ∀ other, catalog.Offers other → other.longVersion = build.longVersion →
    other.sha256 = build.sha256 ∧ other.isArchive = false

namespace CompilerPool

structure IsFresh (p : CompilerPool) (t : Tree) : Prop where
  loaded : p.releases.loaded = []
  published : p.artifacts.published = []
  empty : p.artifacts.IsEmpty t

/-- The file has the hash of the build, if the catalog agrees with it. -/
theorem Stocked.hash_of_has {p : CompilerPool} {t : Tree} (h : p.Stocked t)
    {c : InstalledCompiler} (hc : p.Has t c) {catalog : Catalog}
    (hloaded : p.releases.loaded.lookup c.selection.platform = some catalog)
    (hagrees : catalog.Agrees c.selection.build) {sha256 : String}
    (hsha256 : c.selection.build.sha256 = some sha256) :
    ∃ file, Hex.decode sha256 = .ok (Sha256.digest file) ∧
      t.read (p.artifacts.path c.selection.order.fileName) = .ok file := by
  obtain ⟨s, data, file, hname, ⟨catalog', hloaded', hoffers⟩, hholds⟩ := h.origin_of_has hc
  obtain ⟨hplatform, hlong⟩ := Platform.artifactName_inj hname
  rw [hplatform, hloaded] at hloaded'
  obtain rfl := Option.some.inj hloaded'
  obtain ⟨hsame, hplain⟩ := hagrees _ hoffers hlong
  obtain rfl := hholds.file_eq hplain
  exact ⟨file, hholds.hash (hsame.trans hsha256), hname ▸ hholds.read⟩

end CompilerPool

/-- A compiler that some call gives with a hash has a file with that hash, at that time
and after all later calls, if the catalog of its platform offers no other hash and no
archive under the build's long version. The name of the file stands for nothing more
than the platform and the long version, and what is there is not checked again. -/
theorem installed_file_has_hash {p : CompilerPool} {w : Surroundings}
    (hfresh : p.IsFresh w.files) (before : List CompilerName) (name : CompilerName)
    (behind : List CompilerName) {c : InstalledCompiler} {sha256 : String}
    (hc : ((p.provideAll w before).1.provide (p.provideAll w before).2 name).2.2 = .ok c)
    (hsha256 : c.selection.build.sha256 = some sha256) :
    let last := p.provideAll w (before ++ name :: behind)
    let path := p.artifacts.path c.selection.order.fileName
    ∃ builds, last.1.releases.loaded.lookup c.selection.platform = some (.ofBuilds builds) ∧
      c.selection.build ∈ builds ∧
      ((Catalog.ofBuilds builds).Agrees c.selection.build →
        ∃ file, Hex.decode sha256 = .ok (Sha256.digest file) ∧
          last.2.files.read path = .ok file ∧
          InstalledCompiler.at? last.2.files c.selection path = .ok c ∧
          (c.path.utf8ByteSize ≤ Tree.maxPath → last.2.files.read c.path = .ok file)) := by
  intro last path
  have hstart : p.Stocked w.files := hfresh.empty.stocked hfresh.published
  have hcall := (hstart.provideAll before).2.provide name
  obtain ⟨hlater, hstocked⟩ := hcall.stocked.provideAll behind
  rw [← p.provideAll_append w before name behind] at hlater hstocked
  have hhas := (hcall.has hc).mono hlater
  have hextends := (hstart.provideAll (before ++ name :: behind)).1
  have hpath : last.1.artifacts.path c.selection.order.fileName = path :=
    CompilerPool.path_eq hextends.directory _
  obtain ⟨catalog, hloaded, hoffers⟩ := hhas.offers
  have hlisted := hextends.releases.listed (Releases.listed_of_nil hfresh.loaded)
  obtain ⟨builds, rfl⟩ := hlisted _ _ hloaded
  refine ⟨builds, hloaded, Catalog.mem_of_offers hoffers, fun hagrees => ?_⟩
  obtain ⟨file, hhash, hread⟩ := hstocked.hash_of_has hhas hloaded hagrees hsha256
  have hlocated := hhas.located
  rw [hpath] at hread hlocated
  refine ⟨file, hhash, hread, hlocated, fun hlength => ?_⟩
  rw [InstalledCompiler.read_of_at? hlocated hlength, hread]

/-! A host of portable builds that all have one long version -/

namespace SmallHost

def base : Url := { scheme := "http", host := some (.domain "bin"), path := "/" }

def build (path sha256 : String) : Build where
  path
  url := { base with path := "/wasm/" ++ path }
  version := "0.8.9"
  longVersion := "0.8.9+commit.e5"
  commit := none
  prerelease := none
  keccak256 := none
  sha256 := some sha256
  urls := []

def first : Build :=
  build "a" "559aead08264d5795d3909718cdd05abd49572e84fe55590eef31a88a08fdffd"

def last : Build :=
  build "b" "df7e70e5021544f4834bbee64a9e3789febc4be81470df629cad6ddb03320a5c"

def entry (build : Build) : String :=
  "\x7b\"path\":\"" ++ build.path ++ "\",\"version\":\"" ++ build.version ++
    "\",\"longVersion\":\"" ++ build.longVersion ++ "\",\"sha256\":\"" ++
      build.sha256.getD "" ++ "\"\x7d"

def around (files : List (Build × Bytes)) : Surroundings where
  files := Tree.empty.set ["cache"] .directory
  network :=
    let entries := files.map fun file => entry file.1
    let list := "\x7b\"builds\":[" ++ ",".intercalate entries ++ "]\x7d"
    .scripted (("http://bin/wasm/list.json", [.response ⟨200, Bytes.ofText list⟩]) ::
      files.map fun (build, content) => (build.url.text, [.response ⟨200, content⟩]))

def pool : CompilerPool :=
  ⟨⟨none, .direct, .standard, ⟨none, "node"⟩⟩, .ofHost base [], .inDirectory "cache"⟩

theorem isFresh (files : List (Build × Bytes)) : pool.IsFresh (around files).files := by
  have hhome : pool.artifacts.IsHome (Tree.empty.set ["cache"] .directory) ["cache"] :=
    ⟨by decide +kernel, by decide +kernel⟩
  exact ⟨rfl, rfl, hhome.isEmpty fun name => rfl⟩

def askedTwice (files : List (Build × Bytes)) :
    CompilerPool × Surroundings × Except CompilationFault InstalledCompiler :=
  (pool.provideAll (around files) [⟨0, 8, 9, "e5"⟩]).1.provide
    (pool.provideAll (around files) [⟨0, 8, 9, "e5"⟩]).2 ⟨0, 8, 9, "ff"⟩

def installed (build : Build) : InstalledCompiler :=
  ⟨⟨.wasm, build, ⟨0, 8, 9, "ff"⟩⟩, "/cache/solc-wasm-v0.8.9+commit.e5.js"⟩

theorem eq_ok_of_toOption {result : Except CompilationFault InstalledCompiler}
    {c : InstalledCompiler} (h : result.toOption = some c) : result = .ok c := by
  cases result with
  | error fault => cases h
  | ok found => rw [Option.some.inj h]

end SmallHost

open SmallHost in
/-- A file that was fetched for one name serves another name of the build. -/
theorem installed_for_another_name :
    let calls := pool.provideAll (around [(first, [65])])
      ([⟨0, 8, 9, "e5"⟩] ++ ⟨0, 8, 9, "ff"⟩ :: [⟨0, 9, 0, "ff"⟩])
    (askedTwice [(first, [65])]).2.2 = .ok (installed first) ∧
      ∃ sha256 file, first.sha256 = some sha256 ∧ Hex.decode sha256 = .ok (Sha256.digest file) ∧
        calls.2.files.read (installed first).path = .ok file := by
  intro calls
  have hc : (askedTwice [(first, [65])]).2.2 = .ok (installed first) :=
    eq_ok_of_toOption (by decide +kernel)
  have hloaded : calls.1.releases.loaded.lookup .wasm = some (.ofBuilds [first]) := by
    decide +kernel
  have hinstalled := installed_file_has_hash (isFresh _) [⟨0, 8, 9, "e5"⟩] ⟨0, 8, 9, "ff"⟩
    [⟨0, 9, 0, "ff"⟩] hc rfl
  -- Which calls led to the last state does not matter any more.
  unfold calls at hloaded ⊢
  generalize pool.provideAll (around [(first, [65])])
    ([⟨0, 8, 9, "e5"⟩] ++ ⟨0, 8, 9, "ff"⟩ :: [⟨0, 9, 0, "ff"⟩]) = ended at hloaded hinstalled ⊢
  obtain ⟨builds, hbuilds, -, hfile⟩ := hinstalled
  have hagrees : (Catalog.ofBuilds builds).Agrees first := by
    rw [← Option.some.inj (hloaded.symm.trans hbuilds)]
    intro other hoffers _
    obtain rfl := List.mem_singleton.1 (Catalog.mem_of_offers hoffers)
    exact ⟨rfl, by decide⟩
  obtain ⟨file, hhash, -, -, hread⟩ := hfile hagrees
  exact ⟨hc, _, file, rfl, hhash, hread (by decide)⟩

open SmallHost in
/-- Of two builds with one long version, the exact name leads to the last one, and
another name with the short version to the first one, whose file is then that of the last. -/
theorem file_of_another_build :
    pool.IsFresh (around [(first, [65]), (last, [66])]).files ∧ ∃ c sha256 file,
      (askedTwice [(first, [65]), (last, [66])]).2.2 = .ok c ∧
        c.selection.build.sha256 = some sha256 ∧ c.selection.build.isArchive = false ∧
        (askedTwice [(first, [65]), (last, [66])]).2.1.files.read c.path = .ok file ∧
        Hex.decode sha256 ≠ .ok (Sha256.digest file) := by
  have hc : (askedTwice [(first, [65]), (last, [66])]).2.2 = .ok (installed first) :=
    eq_ok_of_toOption (by decide +kernel)
  have hread : (askedTwice [(first, [65]), (last, [66])]).2.1.files.read (installed first).path =
      .ok [66] := by decide +kernel
  refine ⟨isFresh _, installed first, _, [66], hc, rfl, ?_, hread, ?_⟩
  · decide
  · decide +kernel

end Provenance
