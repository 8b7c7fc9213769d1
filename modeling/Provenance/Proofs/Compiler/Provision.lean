import Provenance.Proofs.Compiler.Fetching
import Provenance.Proofs.Compiler.Installed

/-!
When the version of a compiler counts as missing. An address that has nothing means
two things: a list that is not there is a failure of the network, and a listed build
whose file is not there is a missing version. The first way to a missing version is
through the catalogs, all of which have to be at hand, and the second through the one
file of the chosen build, which has to be nowhere. Every other failure on the way to a
compiler is kept as it is.
-/

namespace Provenance

namespace Artifacts

variable {a : Artifacts} {w : Surroundings} {order : ArtifactOrder} {fault : FetchFault}
  {url : Url} {data : Bytes} {files : Files.Tree}

/-- A file that has to be fetched: its name is valid, and it is neither published nor there. -/
structure Wants (a : Artifacts) (w : Surroundings) (order : ArtifactOrder) : Prop where
  valid : FileName.isValid order.fileName = true
  unpublished : a.published? order.fileName = none
  absent : a.isPresent w.files order.fileName = .ok false

/-- A file that is nowhere: it has to be fetched, and its address has nothing. -/
structure IsMissing (a : Artifacts) (w : Surroundings) (order : ArtifactOrder) : Prop
    extends a.Wants w order where
  reply : ∃ body, (w.network.send ⟨.get, order.url, []⟩).2 = .ok ⟨404, body⟩

/-- Why a file cannot be had, from its name to its place in the directory. -/
inductive Fails (a : Artifacts) (w : Surroundings) (order : ArtifactOrder) : FetchFault → Prop
  | misnamed (hvalid : FileName.isValid order.fileName = false) :
      Fails a w order (.fileName order.fileName)
  | hidden {fault : FetchFault} (hvalid : FileName.isValid order.fileName = true)
      (hpublished : a.published? order.fileName = none)
      (hpresent : a.isPresent w.files order.fileName = .error fault) : Fails a w order fault
  | unfetched {fault : FetchFault} (hwants : a.Wants w order)
      (hfetch : Fetches w.network order.url (.error fault)) : Fails a w order fault
  | unchecked {data : Bytes} {fault : FetchFault} (hwants : a.Wants w order)
      (hfetch : Fetches w.network order.url (.ok data)) (hcheck : check order data = .error fault) :
      Fails a w order fault
  | unstored {data : Bytes} {fault : FetchFault} (hwants : a.Wants w order)
      (hfetch : Fetches w.network order.url (.ok data)) (hcheck : check order data = .ok ())
      (hstore : (a.store w.files order data).2 = .error fault) : Fails a w order fault

theorem store_of_check (h : check order data = .error fault) :
    (a.store files order data).2 = .error fault := by
  rw [store, h]

theorem transfer_eq_error_iff : (a.transfer w order).2 = .error fault ↔
    Fetches w.network order.url (.error fault) ∨
      ∃ data, Fetches w.network order.url (.ok data) ∧
        (a.store w.files order data).2 = .error fault := by
  simp only [← fetch_eq_iff, transfer]
  cases hfetch : (fetch w.network order.url).2 with
  | error cause => simp
  | ok data => simp

theorem obtain_eq_error_iff : (a.obtain w order).2.2 = .error fault ↔
    a.isPresent w.files order.fileName = .error fault ∨
      a.isPresent w.files order.fileName = .ok false ∧ (a.transfer w order).2 = .error fault := by
  unfold Artifacts.obtain
  cases hpresent : a.isPresent w.files order.fileName with
  | error cause => simp
  | ok found =>
    cases found with
    | true => simp
    | false => cases htransfer : (a.transfer w order).2 <;> simp [htransfer]

/-- A download fails for one of the reasons, with its fault. -/
theorem download_eq_error_iff :
    (a.download w order).2.2 = .error fault ↔ a.Fails w order fault := by
  constructor
  · intro h
    unfold download at h
    split_ifs at h with hinvalid
    · cases h
      exact .misnamed (by simpa using hinvalid)
    · have hvalid : FileName.isValid order.fileName = true := by simpa using hinvalid
      dsimp only at h
      cases hpublished : a.countLookup.published? order.fileName with
      | some path =>
        rw [hpublished] at h
        cases h
      | none =>
        rw [hpublished] at h
        rcases obtain_eq_error_iff.1 h with hpresent | ⟨habsent, htransfer⟩
        · exact .hidden hvalid hpublished hpresent
        · have hwants : a.Wants w order := ⟨hvalid, hpublished, habsent⟩
          rcases transfer_eq_error_iff.1 htransfer with hfetch | ⟨data, hfetch, hstore⟩
          · exact .unfetched hwants hfetch
          · cases hcheck : check order data with
            | error cause =>
              obtain rfl := Except.error.inj ((store_of_check hcheck).symm.trans hstore)
              exact .unchecked hwants hfetch hcheck
            | ok => exact .unstored hwants hfetch hcheck hstore
  · intro h
    have hobtain (hvalid : FileName.isValid order.fileName = true)
        (hpublished : a.countLookup.published? order.fileName = none) :
        (a.download w order).2.2 = (a.countLookup.obtain w order).2.2 := by
      simp [download, hvalid, hpublished]
    have htransfer (hwants : a.Wants w order) (h : (a.transfer w order).2 = .error fault) :
        (a.download w order).2.2 = .error fault := by
      rw [hobtain hwants.valid hwants.unpublished]
      exact obtain_eq_error_iff.2 (.inr ⟨hwants.absent, h⟩)
    cases h with
    | misnamed hvalid => simp [download, hvalid]
    | hidden hvalid hpublished hpresent =>
      rw [hobtain hvalid hpublished]
      exact obtain_eq_error_iff.2 (.inl hpresent)
    | unfetched hwants hfetch => exact htransfer hwants (transfer_eq_error_iff.2 (.inl hfetch))
    | @unchecked data _ hwants hfetch hcheck =>
      exact htransfer hwants (transfer_eq_error_iff.2 (.inr ⟨data, hfetch, store_of_check hcheck⟩))
    | @unstored data _ hwants hfetch _ hstore =>
      exact htransfer hwants (transfer_eq_error_iff.2 (.inr ⟨data, hfetch, hstore⟩))

/-! Only an address says that a file is not found -/

theorem isPresent_ne_notFound (a : Artifacts) (files : Files.Tree) (name : String) (url : Url) :
    a.isPresent files name ≠ .error (.notFound url) := by
  unfold isPresent
  cases files.exists? (a.path name) <;> nofun

theorem check_ne_notFound (order : ArtifactOrder) (data : Bytes) (url : Url) :
    check order data ≠ .error (.notFound url) := by
  unfold check checkHash
  cases order.sha256 with
  | none => nofun
  | some expected =>
    cases hexpected : Hex.decode expected with
    | error cause => simp [hexpected]
    | ok expected =>
      simp only [hexpected]
      split_ifs <;> nofun

theorem settle_ne_notFound (files : Files.Tree) (staged : Files.Place) (path : String)
    (url : Url) : (settle files staged path).2 ≠ .error (.notFound url) := by
  unfold settle
  split <;> nofun

theorem content_ne_notFound (order : ArtifactOrder) (data : Bytes) (url : Url) :
    content order data ≠ .error (.notFound url) := by
  unfold content
  split_ifs
  · rcases Archive.program data with (_ | _) | file <;> nofun
  · nofun

theorem store_ne_notFound (a : Artifacts) (files : Files.Tree) (order : ArtifactOrder)
    (data : Bytes) (url : Url) : (a.store files order data).2 ≠ .error (.notFound url) := by
  unfold store
  cases hcheck : check order data with
  | error fault =>
    rintro ⟨⟩
    exact check_ne_notFound order data url hcheck
  | ok =>
    rcases files.makeDirectories a.stagingPath with fault | ⟨made, staging⟩
    · nofun
    · cases hcontent : content order data with
      | error fault =>
        rintro ⟨⟩
        exact content_ne_notFound order data url hcontent
      | ok file => exact settle_ne_notFound _ _ _ url

/-- A download fails as not found exactly if its file is missing. -/
theorem fails_notFound_iff :
    a.Fails w order (.notFound url) ↔ url = order.url ∧ a.IsMissing w order := by
  constructor
  · intro h
    cases h with
    | hidden _ _ hpresent => exact absurd hpresent (isPresent_ne_notFound _ _ _ _)
    | unfetched hwants hfetch =>
      cases hfetch with
      | missing hreply => exact ⟨rfl, hwants, _, hreply⟩
    | unchecked _ _ hcheck => exact absurd hcheck (check_ne_notFound _ _ _)
    | unstored _ _ _ hstore => exact absurd hstore (store_ne_notFound _ _ _ _ _)
  · rintro ⟨rfl, h⟩
    obtain ⟨body, hreply⟩ := h.reply
    exact .unfetched h.toWants (.missing hreply)

theorem IsMissing.eq_of_fails (h : a.IsMissing w order) (hfails : a.Fails w order fault) :
    fault = .notFound order.url := by
  have hfails' := fails_notFound_iff.2 ⟨rfl, h⟩
  rw [← download_eq_error_iff] at hfails hfails'
  exact Except.error.inj (hfails.symm.trans hfails')

end Artifacts

namespace CompilerName

open Supply

variable {name : CompilerName} {supplies : List Supply} {version : String} {fault : FetchFault}

def IsUnlistedIn (name : CompilerName) (catalog : Catalog) : Prop :=
  catalog.longVersion? name.longVersion = none ∧ catalog.version? name.version = none

def IsUnlisted (name : CompilerName) (supplies : List Supply) : Prop :=
  ∀ platform catalog, (platform, .ok catalog) ∈ supplies → name.IsUnlistedIn catalog

theorem isUnlisted_iff : name.IsUnlisted supplies ↔
    Nowhere name.IsExact supplies ∧ Nowhere name.IsSameVersion supplies := by
  constructor
  · intro h
    refine ⟨fun platform catalog build hmem hexact => ?_,
      fun platform catalog build hmem hsame => ?_⟩
    · obtain ⟨hlong, hversion⟩ := h _ _ hmem
      cases hexact with
      | named hnamed => cases hlong.symm.trans hnamed
      | released _ hreleased _ => cases hversion.symm.trans hreleased
    · cases (h _ _ hmem).2.symm.trans hsame
  · rintro ⟨hexact, hsame⟩ platform catalog hmem
    exact ⟨Option.eq_none_iff_forall_ne_some.2 fun build hnamed =>
        hexact _ _ build hmem (.named hnamed),
      Option.eq_none_iff_forall_ne_some.2 fun build => hsame _ _ build hmem⟩

theorem serves_notFound_iff : name.Serves supplies (.error (.notFound version)) ↔
    version = name.longVersion ∧ AllLoaded supplies ∧ name.IsUnlisted supplies := by
  rw [isUnlisted_iff]
  constructor
  · intro h
    cases h with
    | missing hexact hsame h => exact ⟨rfl, h, hexact, hsame⟩
  · rintro ⟨rfl, h, hexact, hsame⟩
    exact .missing hexact hsame h

theorem serves_fetch_iff : name.Serves supplies (.error (.fetch fault)) ↔
    FirstFault supplies fault ∧ name.IsUnlisted supplies := by
  rw [isUnlisted_iff]
  constructor
  · intro h
    cases h with
    | unavailable hexact hsame h => exact ⟨h, hexact, hsame⟩
  · rintro ⟨h, hexact, hsame⟩
    exact .unavailable hexact hsame h

end CompilerName

namespace Releases

variable {r : Releases} {network : Net.Network} {portable platform : Platform}
  {native : Option Platform} {fault : FetchFault}

def IsDown (r : Releases) (network : Net.Network) (platform : Platform) (fault : FetchFault) :
    Prop :=
  r.loaded.lookup platform = none ∧ r.Loads network platform (.error fault)

/-- The catalogs that cannot be had. The native one is asked for behind the portable one. -/
theorem mem_supplies_error_iff :
    (platform, .error fault) ∈ (r.supplies network portable native).2.2 ↔
      platform = portable ∧ r.IsDown network portable fault ∨
        native = some platform ∧
          (r.get network portable).1.IsDown (r.get network portable).2.1 platform fault := by
  unfold IsDown
  rw [← get_eq_error_iff, ← get_eq_error_iff]
  cases native with
  | none => simp [supplies, eq_comm]
  | some native =>
    simp only [supplies, List.mem_cons, List.not_mem_nil, or_false, Prod.mk.injEq,
      Option.some.injEq]
    constructor
    · rintro (⟨rfl, h⟩ | ⟨rfl, h⟩)
      · exact .inr ⟨rfl, h.symm⟩
      · exact .inl ⟨rfl, h.symm⟩
    · rintro (⟨rfl, h⟩ | ⟨rfl, h⟩)
      · exact .inr ⟨rfl, h.symm⟩
      · exact .inl ⟨rfl, h.symm⟩

end Releases

theorem InstalledCompiler.at?_eq_error_iff {files : Files.Tree} {s : Selection} {path : String}
    {fault : CompilationFault} : at? files s path = .error fault ↔
      s.platform.isWasm = true ∧ ∃ cause, files.resolve path = .error cause ∧
        fault = .misplaced cause := by
  unfold at?
  split_ifs with hwasm
  · cases files.resolve path <;> simp [hwasm, eq_comm]
  · simp [hwasm]

namespace CompilerPool

variable {p : CompilerPool} {w : Surroundings} {name : CompilerName} {version : String}

def supplies (p : CompilerPool) (network : Net.Network) : List Supply :=
  (p.releases.supplies network .wasm p.policy.native).2.2

def supplied (p : CompilerPool) (w : Surroundings) : Surroundings :=
  { w with network := (p.releases.supplies w.network .wasm p.policy.native).2.1 }

inductive Fails (p : CompilerPool) (w : Surroundings) (name : CompilerName) :
    CompilationFault → Prop
  | unlisted (hloaded : Supply.AllLoaded (p.supplies w.network))
      (hunlisted : name.IsUnlisted (p.supplies w.network)) :
      Fails p w name (.notFound name.longVersion)
  | unsupplied {fault : FetchFault} (hfault : Supply.FirstFault (p.supplies w.network) fault)
      (hunlisted : name.IsUnlisted (p.supplies w.network)) : Fails p w name (.fetch fault)
  | missing {s : Selection} (hserves : name.Serves (p.supplies w.network) (.ok s))
      (hmissing : p.artifacts.IsMissing (p.supplied w) s.order) :
      Fails p w name (.notFound name.longVersion)
  | undelivered {s : Selection} {fault : FetchFault}
      (hserves : name.Serves (p.supplies w.network) (.ok s))
      (hmissing : ¬ p.artifacts.IsMissing (p.supplied w) s.order)
      (hfails : p.artifacts.Fails (p.supplied w) s.order fault) : Fails p w name (.fetch fault)
  | misplaced {s : Selection} {path : String} {fault : Files.Fault}
      (hserves : name.Serves (p.supplies w.network) (.ok s))
      (hpath : (p.artifacts.download (p.supplied w) s.order).2.2 = .ok path)
      (hwasm : s.platform.isWasm = true)
      (hfault : (p.artifacts.download (p.supplied w) s.order).2.1.files.resolve path =
        .error fault) : Fails p w name (.misplaced fault)

theorem provide_of_error {fault : CompilationFault}
    (h : name.Serves (p.supplies w.network) (.error fault)) :
    (p.provide w name).2.2 = .error fault := by
  have hselect : name.select (p.supplies w.network) = .error fault := CompilerName.select_eq_iff.2 h
  simp only [supplies] at hselect
  simp only [provide, select, Releases.resolve, hselect]

theorem provide_of_ok {s : Selection} (h : name.Serves (p.supplies w.network) (.ok s)) :
    (p.provide w name).2.2 =
      match (p.artifacts.download (p.supplied w) s.order).2.2 with
      | .error fault => .error (.ofDownload name fault)
      | .ok path =>
        InstalledCompiler.at? (p.artifacts.download (p.supplied w) s.order).2.1.files s path := by
  have hselect : name.select (p.supplies w.network) = .ok s := CompilerName.select_eq_iff.2 h
  simp only [supplies] at hselect
  simp only [provide, select, Releases.resolve, hselect]
  rfl

theorem ofDownload_of_not_missing {a : Artifacts} {order : ArtifactOrder} {fault : FetchFault}
    (hfails : a.Fails w order fault) (hmissing : ¬ a.IsMissing w order) :
    CompilationFault.ofDownload name fault = .fetch fault := by
  cases fault with
  | notFound url => exact absurd (Artifacts.fails_notFound_iff.1 hfails).2 hmissing
  | _ => rfl

/-- A call fails for one of the reasons, with its fault. -/
theorem provide_eq_error_iff {fault : CompilationFault} :
    (p.provide w name).2.2 = .error fault ↔ p.Fails w name fault := by
  constructor
  · intro h
    cases hserves : name.select (p.supplies w.network) with
    | error cause =>
      have hserves := CompilerName.select_eq_iff.1 hserves
      obtain rfl := Except.error.inj ((provide_of_error hserves).symm.trans h)
      cases hserves with
      | unavailable hexact hsame hfault =>
        exact .unsupplied hfault (CompilerName.isUnlisted_iff.2 ⟨hexact, hsame⟩)
      | missing hexact hsame hloaded =>
        exact .unlisted hloaded (CompilerName.isUnlisted_iff.2 ⟨hexact, hsame⟩)
    | ok s =>
      have hserves := CompilerName.select_eq_iff.1 hserves
      rw [provide_of_ok hserves] at h
      cases hdownload : (p.artifacts.download (p.supplied w) s.order).2.2 with
      | error cause =>
        rw [hdownload] at h
        obtain rfl := Except.error.inj h
        have hfails := Artifacts.download_eq_error_iff.1 hdownload
        by_cases hmissing : p.artifacts.IsMissing (p.supplied w) s.order
        · rw [hmissing.eq_of_fails hfails]
          exact .missing hserves hmissing
        · rw [ofDownload_of_not_missing hfails hmissing]
          exact .undelivered hserves hmissing hfails
      | ok path =>
        rw [hdownload] at h
        obtain ⟨hwasm, cause, hcause, rfl⟩ := InstalledCompiler.at?_eq_error_iff.1 h
        exact .misplaced hserves hdownload hwasm hcause
  · intro h
    cases h with
    | unlisted hloaded hunlisted =>
      exact provide_of_error (CompilerName.serves_notFound_iff.2 ⟨rfl, hloaded, hunlisted⟩)
    | unsupplied hfault hunlisted =>
      exact provide_of_error (CompilerName.serves_fetch_iff.2 ⟨hfault, hunlisted⟩)
    | missing hserves hmissing =>
      have hfails := Artifacts.fails_notFound_iff.2 ⟨rfl, hmissing⟩
      rw [provide_of_ok hserves, Artifacts.download_eq_error_iff.2 hfails]
      rfl
    | undelivered hserves hmissing hfails =>
      rw [provide_of_ok hserves, Artifacts.download_eq_error_iff.2 hfails]
      exact congrArg Except.error (ofDownload_of_not_missing hfails hmissing)
    | misplaced hserves hpath hwasm hfault =>
      rw [provide_of_ok hserves, hpath]
      exact InstalledCompiler.at?_eq_error_iff.2 ⟨hwasm, _, hfault, rfl⟩

/-- The version of a name counts as missing where it is not listed or its file is nowhere. -/
theorem fails_notFound_iff : p.Fails w name (.notFound version) ↔
    version = name.longVersion ∧
      (Supply.AllLoaded (p.supplies w.network) ∧ name.IsUnlisted (p.supplies w.network) ∨
        ∃ s, name.Serves (p.supplies w.network) (.ok s) ∧
          p.artifacts.IsMissing (p.supplied w) s.order) := by
  constructor
  · intro h
    cases h with
    | unlisted hloaded hunlisted => exact ⟨rfl, .inl ⟨hloaded, hunlisted⟩⟩
    | missing hserves hmissing => exact ⟨rfl, .inr ⟨_, hserves, hmissing⟩⟩
  · rintro ⟨rfl, ⟨hloaded, hunlisted⟩ | ⟨s, hserves, hmissing⟩⟩
    · exact .unlisted hloaded hunlisted
    · exact .missing hserves hmissing

/-- What fails in the network, with a file or with its check is kept as it is. -/
theorem fails_fetch_iff {fault : FetchFault} : p.Fails w name (.fetch fault) ↔
    Supply.FirstFault (p.supplies w.network) fault ∧ name.IsUnlisted (p.supplies w.network) ∨
      ∃ s, name.Serves (p.supplies w.network) (.ok s) ∧
        ¬ p.artifacts.IsMissing (p.supplied w) s.order ∧
        p.artifacts.Fails (p.supplied w) s.order fault := by
  constructor
  · intro h
    cases h with
    | unsupplied hfault hunlisted => exact .inl ⟨hfault, hunlisted⟩
    | undelivered hserves hmissing hfails => exact .inr ⟨_, hserves, hmissing, hfails⟩
  · rintro (⟨hfault, hunlisted⟩ | ⟨s, hserves, hmissing, hfails⟩)
    · exact .unsupplied hfault hunlisted
    · exact .undelivered hserves hmissing hfails

/-- A compiler that is there fails in its run, or by its answer. -/
theorem compile_ne_notFound {c : InstalledCompiler} {policy : CompilerPolicy}
    {launch : Execution.Launcher} {input : Json} (version : String) :
    c.compile policy launch input ≠ .error (.notFound version) := by
  unfold InstalledCompiler.compile
  cases c.run policy launch input with
  | error cause => nofun
  | ok answer =>
    simp only [Except.mapError, bind, Except.bind, CompilerOutput.contracts?]
    rcases CompilerOutput.decode answer with cause | (errors | ⟨contracts, sources⟩) <;> nofun

theorem compile_of_error {launch : Files.Tree → Execution.Launcher} {input : Json}
    {fault : CompilationFault} (h : (p.provide w name).2.2 = .error fault) :
    (p.compile launch w name input).2.2 = .error fault := by
  simp only [compile, h, bind, Except.bind]

/-- Compiling takes a version for missing where finding its compiler does. -/
theorem compile_eq_notFound_iff {launch : Files.Tree → Execution.Launcher} {input : Json} :
    (p.compile launch w name input).2.2 = .error (.notFound version) ↔
      (p.provide w name).2.2 = .error (.notFound version) := by
  refine ⟨fun h => ?_, compile_of_error⟩
  cases hprovide : (p.provide w name).2.2 with
  | error fault =>
    exact congrArg Except.error (Except.error.inj ((compile_of_error hprovide).symm.trans h))
  | ok c =>
    simp only [compile, hprovide, bind, Except.bind] at h
    exact absurd h (compile_ne_notFound version)

end CompilerPool

/-- A version counts as missing exactly where every catalog that is asked for is at
hand and none lists it, or where the chosen build has a file of a valid name that is
neither known nor in the directory and whose address has nothing. It is the long version
of the name. What else keeps a compiler from being found is kept as a failure to fetch: the
first catalog that cannot be had where the others list nothing, and whatever fails with
the file, from its name to its place. Only the path of a file that is there can fail
otherwise. Compiling passes on what finding its compiler comes to, and takes no version
for missing by itself. -/
theorem version_missing_iff (p : CompilerPool) (w : Surroundings) (name : CompilerName) :
    ((p.supplies w.network).map Prod.fst = p.policy.native.toList ++ [.wasm] ∧
      ∀ platform fault, (platform, .error fault) ∈ p.supplies w.network ↔
        platform = .wasm ∧ p.releases.IsDown w.network .wasm fault ∨
          p.policy.native = some platform ∧
            (p.releases.get w.network .wasm).1.IsDown (p.releases.get w.network .wasm).2.1
              platform fault) ∧
    (∀ version, (p.provide w name).2.2 = .error (.notFound version) ↔
      version = name.longVersion ∧
        (Supply.AllLoaded (p.supplies w.network) ∧ name.IsUnlisted (p.supplies w.network) ∨
          ∃ s, name.Serves (p.supplies w.network) (.ok s) ∧
            p.artifacts.IsMissing (p.supplied w) s.order)) ∧
    (∀ fault, (p.provide w name).2.2 = .error (.fetch fault) ↔
      Supply.FirstFault (p.supplies w.network) fault ∧ name.IsUnlisted (p.supplies w.network) ∨
        ∃ s, name.Serves (p.supplies w.network) (.ok s) ∧
          ¬ p.artifacts.IsMissing (p.supplied w) s.order ∧
          p.artifacts.Fails (p.supplied w) s.order fault) ∧
    (∀ fault, (p.provide w name).2.2 = .error fault ↔ p.Fails w name fault) ∧
    ∀ (launch : Files.Tree → Execution.Launcher) (input : Json),
      (∀ version, (p.compile launch w name input).2.2 = .error (.notFound version) ↔
        (p.provide w name).2.2 = .error (.notFound version)) ∧
      ∀ fault, (p.provide w name).2.2 = .error fault →
        (p.compile launch w name input).2.2 = .error fault := by
  refine ⟨⟨Releases.platforms_of_supplies .., fun _ _ => Releases.mem_supplies_error_iff⟩, ?_⟩
  refine ⟨fun version => ?_, fun fault => ?_, fun fault => CompilerPool.provide_eq_error_iff, ?_⟩
  · rw [CompilerPool.provide_eq_error_iff, CompilerPool.fails_notFound_iff]
  · rw [CompilerPool.provide_eq_error_iff, CompilerPool.fails_fetch_iff]
  · intro launch input
    exact ⟨fun _ => CompilerPool.compile_eq_notFound_iff, fun _ => CompilerPool.compile_of_error⟩

/-- The list has a build without a file; then the list itself is not there. -/
theorem missing_file_missing_list :
    let found := SmallHost.around [(SmallHost.first, [65])]
    let listed := { found with
      network := { found.network with replies := found.network.replies.take 1 } }
    let down := { found with network := .scripted [] }
    let name : CompilerName := ⟨0, 8, 9, "e5"⟩
    let list : Url := { SmallHost.base with path := "/wasm/list.json" }
    (SmallHost.pool.provide listed name).2.2 = .error (.notFound "0.8.9+commit.e5") ∧
      (SmallHost.pool.provide down name).2.2 = .error (.fetch (.notFound list)) ∧
      ∀ launch input,
        (SmallHost.pool.compile launch down name input).2.2 = .error (.fetch (.notFound list)) := by
  intro found listed down name list
  obtain ⟨-, hmissing, -⟩ := version_missing_iff SmallHost.pool listed name
  obtain ⟨-, -, hfetch, -, hcompile⟩ := version_missing_iff SmallHost.pool down name
  have hserves : name.Serves (SmallHost.pool.supplies listed.network)
      (.ok ⟨.wasm, SmallHost.first, name⟩) :=
    .exact (CompilerName.exact_eq_some_iff.1 (by decide +kernel))
  have hdown : (SmallHost.pool.provide down name).2.2 = .error (.fetch (.notFound list)) := by
    refine (hfetch _).2 (.inl ⟨?_, ?_⟩)
    · exact CompilerName.firstFault_eq_some_iff.1 (by decide +kernel)
    · exact CompilerName.isUnlisted_iff.2 ⟨CompilerName.exact_eq_none_iff.1 (by decide +kernel),
        CompilerName.sameVersion_eq_none_iff.1 (by decide +kernel)⟩
  refine ⟨(hmissing _).2 ⟨by decide, .inr ⟨_, hserves, ?_⟩⟩, hdown, ?_⟩
  · exact ⟨⟨by decide +kernel, rfl, by decide +kernel⟩, [], by decide +kernel⟩
  · exact fun launch input => (hcompile launch input).2 _ hdown

end Provenance
