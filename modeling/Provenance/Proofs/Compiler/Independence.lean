import Provenance.Proofs.Compiler.Downloads

/-!
Downloads of different files. What a download sees of the shared files is its own
file and the way to the directory, and neither is changed by the others if the
directory is there or can be made as its path stands. Then the steps of the others
can be left out of a run, and the downloads of a file come to the same. Otherwise
what the others make of the way can make the file visible or hide it.
-/

namespace Provenance.Artifacts.Downloads

open Files

theorem stores_of_directory {a b : Artifacts} {t v : Tree} {order : ArtifactOrder}
    {result : Except FetchFault Unit} (h : a.directory = b.directory)
    (hstores : Stores a t order v result) : Stores b t order v result := by
  have hpath (name : String) : a.path name = b.path name := by rw [path, path, h]
  have hstaging : a.stagingPath = b.stagingPath := hpath stagingName
  cases hstores with
  | refused fault => exact .refused fault
  | unmade fault hfront hpave => exact .unmade fault (hstaging ▸ hfront) hpave
  | dropped fault hpave hnode => exact .dropped fault (hstaging ▸ hpave) hnode
  | settled hpave hlocate htarget hnode =>
    exact .settled (hstaging ▸ hpave) (hpath _ ▸ hlocate) htarget hnode

theorem store_of_directory {a b : Artifacts} (h : a.directory = b.directory) (t : Tree)
    (order : ArtifactOrder) (data : Bytes) : a.store t order data = b.store t order data := by
  have hpath (name : String) : a.path name = b.path name := by rw [path, path, h]
  rw [store, store, show a.stagingPath = b.stagingPath from hpath stagingName, hpath]

/-- What the downloads see of the files behind a run, beside what they saw at its start. -/
structure Kept (root : String) (start : Downloads) (moves : List Move) (d : Downloads) :
    Prop where
  isWellPlaced : (inDirectory root).IsWellPlaced d.surroundings.files
  directories : (d.surroundings.files.makeDirectories (inDirectory root).stagingPath).map
      (fun _ => ()) =
    (start.surroundings.files.makeDirectories (inDirectory root).stagingPath).map fun _ => ()
  isPresent : ∀ {name : String}, FileName.isValid name = true → name ≠ stagingName →
    (inDirectory root).isPresent d.surroundings.files name =
      if (moves.any fun m => m.stores && m.concerns name) = true then .ok true
      else (inDirectory root).isPresent start.surroundings.files name
  missing : ∀ {i : Nat} {order : ArtifactOrder} {stage : Stage},
    d.calls[i]? = some (order, stage) → stage.isTransfer = true →
    order.fileName ≠ stagingName →
    (inDirectory root).isPresent d.surroundings.files order.fileName = .ok false

section Runs

variable {root name : String} {start d next : Downloads} {m : Move} {moves : List Move}

theorem Does.files (hs : Sound root d) (h : Does d m next) :
    next.surroundings.files = d.surroundings.files ∧ m.stores = false ∨
      ∃ result, m.before.holds = true ∧
        Stores (inDirectory root) d.surroundings.files m.order next.surroundings.files result ∧
        (result = .ok () ↔ m.stores = true) := by
  rcases h.effect.2.files with ⟨hsame, hbefore⟩ | ⟨data, result, hbefore, hstores, hresult⟩
  · refine .inl ⟨hsame, eq_false_of_ne_true fun hm => ?_⟩
    obtain ⟨⟨data, hstoring⟩, -⟩ := Move.stores_eq_true_iff.1 hm
    exact hbefore data hstoring
  · refine .inr ⟨result, by rw [hbefore]; rfl, stores_of_directory hs.directory hstores, ?_⟩
    rw [Move.stores_eq_true_iff, hresult]
    exact ⟨fun hafter => ⟨⟨data, hbefore⟩, hafter⟩, And.right⟩

theorem Sound.isValid (hs : Sound root d) {i : Nat} {order : ArtifactOrder} {stage : Stage}
    (hcall : d.calls[i]? = some (order, stage)) (hstage : stage.holds = true) :
    FileName.isValid order.fileName = true := by
  refine hs.valid hcall ?_
  cases stage with
  | asked | looking | reading | entering | queued | ended => cases hstage
  | _ => rfl

theorem holds_of_isTransfer {stage : Stage} (h : stage.isTransfer = true) :
    stage.holds = true := by
  cases stage with
  | transferring | storing => rfl
  | _ => cases h

theorem Kept.does (hk : Kept root start moves d) (hs : Sound root d) (h : Does d m next) :
    Kept root start (moves ++ [m]) next := by
  have hfiles := h.files hs
  constructor
  case isWellPlaced =>
    rcases hfiles with ⟨hsame, -⟩ | ⟨result, -, hstores, -⟩
    · rw [hsame]
      exact hk.isWellPlaced
    · exact hstores.isWellPlaced hk.isWellPlaced
  case directories =>
    rcases hfiles with ⟨hsame, -⟩ | ⟨result, -, hstores, -⟩
    · rw [hsame]
      exact hk.directories
    · exact hstores.makeDirectories_eq.trans hk.directories
  case isPresent =>
    intro name hname hne
    have hbefore := hk.isPresent hname hne
    rw [List.any_append, List.any_cons, List.any_nil, Bool.or_false]
    rcases hfiles with ⟨hsame, hstored⟩ | ⟨result, hholds, hstores, hresult⟩
    · rw [hsame, hstored, Bool.false_and, Bool.or_false]
      exact hbefore
    · by_cases hself : (m.stores && m.concerns name) = true
      · obtain ⟨hstored, hconcerns⟩ := Bool.and_eq_true_iff.1 hself
        obtain rfl : m.order.fileName = name := of_decide_eq_true hconcerns
        rw [hself, Bool.or_true, if_pos rfl]
        rw [hresult.2 hstored] at hstores
        exact hstores.isPresent_self
      · have hother : name = m.order.fileName → result ≠ .ok () := by
          rintro rfl hok
          exact hself (by simp [hresult.1 hok, Move.concerns])
        rw [eq_false_of_ne_true hself, Bool.or_false, ← hbefore]
        exact hstores.isPresent_eq hk.isWellPlaced (hs.isValid h.call hholds) hname hne hother
  case missing =>
    intro i order stage hcall hstage hne
    rcases h.call_cases hcall with ⟨rfl, rfl, rfl⟩ | ⟨hi, hcall⟩
    · obtain ⟨hsame, hbefore⟩ := h.effect.2.isTransfer hstage
      replace hsame : next.surroundings.files = d.surroundings.files := hsame
      rw [hsame]
      rcases hbefore with hbefore | hmissing
      · exact hk.missing h.call hbefore hne
      · exact (isPresent_of_directory hs.directory.symm _ _).trans hmissing
    · have hbefore := hk.missing hcall hstage hne
      have hholds := holds_of_isTransfer hstage
      rcases hfiles with ⟨hsame, -⟩ | ⟨result, hholds', hstores, -⟩
      · rw [hsame]
        exact hbefore
      · rw [← hbefore]
        refine hstores.isPresent_eq hk.isWellPlaced (hs.isValid h.call hholds')
          (hs.isValid hcall hholds) hne fun hname => ?_
        exact absurd (hs.exclusive hcall h.call hholds hholds' hname) hi

theorem Kept.init (hplaced : (inDirectory root).IsWellPlaced start.surroundings.files)
    (hasked : ∀ call ∈ start.calls, call.2 = .asked) : Kept root start [] start := by
  refine ⟨hplaced, rfl, fun _ _ => by simp, fun {i order stage} hcall hstage => ?_⟩
  obtain rfl : stage = .asked := hasked _ (List.mem_of_getElem? hcall)
  cases hstage

theorem History.kept (h : History start moves d) (hs : Sound root start)
    (hk : Kept root start [] start) : Kept root start moves d := by
  induction h with
  | refl => exact hk
  | snoc hd hdoes ih => exact ih.does (hd.sound hs) hdoes

structure Agree (name : String) (d e : Downloads) : Prop where
  published : d.artifacts.published? name = e.artifacts.published? name
  entries : name ∈ d.entries ↔ name ∈ e.entries
  calls : ∀ {i : Nat} {order : ArtifactOrder} {stage : Stage}, order.fileName = name →
    (d.calls[i]? = some (order, stage) ↔ e.calls[i]? = some (order, stage))

theorem Agree.isHeld {e : Downloads} (h : Agree name d e) : d.isHeld name = e.isHeld name := by
  refine Bool.eq_iff_iff.2 (isHeld_iff.trans (Iff.trans ?_ isHeld_iff.symm))
  constructor
  · rintro ⟨i, order, stage, hcall, hname, hstage⟩
    exact ⟨i, order, stage, (h.calls hname).1 hcall, hname, hstage⟩
  · rintro ⟨i, order, stage, hcall, hname, hstage⟩
    exact ⟨i, order, stage, (h.calls hname).2 hcall, hname, hstage⟩

theorem Effect.entries {s s' : Shared} {held : Bool} {order : ArtifactOrder}
    {before after : Stage} (h : Effect s held order before after s')
    (hother : order.fileName ≠ name) : name ∈ s'.entries ↔ name ∈ s.entries := by
  cases h with
  | entered => simp [List.mem_insert_iff, hother.symm]
  | _ => exact Iff.rfl

/-- A step for another file is not noticed. -/
theorem Agree.does_other {e : Downloads} (h : Agree name d e) (hdoes : Does d m next)
    (hother : m.order.fileName ≠ name) : Agree name next e := by
  obtain ⟨-, heffect⟩ := hdoes.effect
  refine ⟨?_, (heffect.entries hother).trans h.entries, fun {i order stage} hname => ?_⟩
  · rcases heffect.published? name with hsame | ⟨hself, -⟩
    · exact hsame.trans h.published
    · exact absurd hself.symm hother
  · rw [← h.calls hname]
    by_cases hi : i = m.index
    · subst hi
      constructor
      · intro hcall
        rcases hdoes.call_cases hcall with ⟨-, rfl, -⟩ | ⟨hne, -⟩
        · exact absurd hname hother
        · exact absurd rfl hne
      · intro hcall
        rw [hdoes.call] at hcall
        cases hcall
        exact absurd hname hother
    · rw [hdoes.call_of_ne hi]

/-- Where the files look the same, a stage allows the same. -/
theorem Effect.agree {s s' u : Shared} {held : Bool} {order : ArtifactOrder}
    {before after : Stage} (h : Effect s held order before after s')
    (hdirectory : s.artifacts.directory = u.artifacts.directory)
    (hpublished : s.artifacts.published? order.fileName = u.artifacts.published? order.fileName)
    (hentries : order.fileName ∈ s.entries ↔ order.fileName ∈ u.entries)
    (hpresent : before = .checking → s.artifacts.isPresent s.files order.fileName =
      u.artifacts.isPresent u.files order.fileName)
    (hstore : ∀ data, before = .storing data →
      (s.artifacts.store s.files order data).2 = (u.artifacts.store u.files order data).2) :
    ∃ u', Effect u held order before after u' ∧
      s'.artifacts.published? order.fileName = u'.artifacts.published? order.fileName ∧
      (order.fileName ∈ s'.entries ↔ order.fileName ∈ u'.entries) := by
  cases h with
  | admitted hvalid => exact ⟨_, .admitted hvalid, hpublished, hentries⟩
  | refused hvalid => exact ⟨_, .refused hvalid, hpublished, hentries⟩
  | known hentry => exact ⟨_, .known (hentries.1 hentry), hpublished, hentries⟩
  | unknown hentry => exact ⟨_, .unknown (mt hentries.2 hentry), hpublished, hentries⟩
  | hit hfree hpath => exact ⟨_, .hit hfree (hpublished ▸ hpath), hpublished, hentries⟩
  | missed hfree hpath => exact ⟨_, .missed hfree (hpublished ▸ hpath), hpublished, hentries⟩
  | entered => exact ⟨_, .entered, hpublished, by simp [List.mem_insert_iff]⟩
  | served hfree hpath => exact ⟨_, .served hfree (hpublished ▸ hpath), hpublished, hentries⟩
  | locked hfree hpath => exact ⟨_, .locked hfree (hpublished ▸ hpath), hpublished, hentries⟩
  | hidden h => exact ⟨_, .hidden ((hpresent rfl).symm.trans h), hpublished, hentries⟩
  | found h => exact ⟨_, .found ((hpresent rfl).symm.trans h), hpublished, hentries⟩
  | missing h => exact ⟨_, .missing ((hpresent rfl).symm.trans h), hpublished, hentries⟩
  | failed network hfetch => exact ⟨_, .failed network hfetch, hpublished, hentries⟩
  | fetched network hfetch => exact ⟨_, .fetched network hfetch, hpublished, hentries⟩
  | @rejected data _ h =>
    exact ⟨_, .rejected ((hstore data rfl).symm.trans h), hpublished, hentries⟩
  | @stored data h => exact ⟨_, .stored ((hstore data rfl).symm.trans h), hpublished, hentries⟩
  | published =>
    have hpath : s.artifacts.path order.fileName = u.artifacts.path order.fileName := by
      rw [Artifacts.path, Artifacts.path, hdirectory]
    rw [hpath]
    refine ⟨_, .published, ?_, hentries⟩
    rw [published?_publish, published?_publish, if_pos rfl, if_pos rfl, hpath]

/-- Of the files a download that stores sees the way to the directory alone. -/
theorem Kept.store_eq {e : Downloads} {moves' : List Move} {i : Nat} {order : ArtifactOrder}
    {data : Bytes} (hk : Kept root start moves d) (hk' : Kept root start moves' e)
    (hs : Sound root d) (hs' : Sound root e) (hne : order.fileName ≠ stagingName)
    (hcall : d.calls[i]? = some (order, .storing data))
    (hcall' : e.calls[i]? = some (order, .storing data)) :
    (d.artifacts.store d.surroundings.files order data).2 =
      (e.artifacts.store e.surroundings.files order data).2 := by
  have hvalid := hs.isValid hcall rfl
  rw [store_of_directory (b := inDirectory root) hs.directory,
    store_of_directory (b := inDirectory root) hs'.directory,
    store_of_missing hk.isWellPlaced.straight hvalid hne (hk.missing hcall rfl hne),
    store_of_missing hk'.isWellPlaced.straight hvalid hne (hk'.missing hcall' rfl hne),
    hk.directories, hk'.directories]

/-- A download of a file does the same beside other downloads of other files. -/
theorem Agree.does_self {e : Downloads} {moves' : List Move} (h : Agree m.order.fileName d e)
    (hdoes : Does d m next) (hne : m.order.fileName ≠ stagingName)
    (hs : Sound root d) (hs' : Sound root e) (hk : Kept root start moves d)
    (hk' : Kept root start moves' e)
    (hmoves : (moves.any fun m' => m'.stores && m'.concerns m.order.fileName) =
      moves'.any fun m' => m'.stores && m'.concerns m.order.fileName) :
    ∃ next', Does e m next' ∧ Agree m.order.fileName next next' := by
  obtain ⟨-, heffect⟩ := hdoes.effect
  have hcall := (h.calls rfl).1 hdoes.call
  have hpresent : m.before = .checking →
      d.artifacts.isPresent d.surroundings.files m.order.fileName =
        e.artifacts.isPresent e.surroundings.files m.order.fileName := by
    intro hbefore
    have hvalid := hs.isValid hdoes.call (by rw [hbefore]; rfl)
    rw [isPresent_of_directory (b := inDirectory root) hs.directory,
      isPresent_of_directory (b := inDirectory root) hs'.directory,
      hk.isPresent hvalid hne, hk'.isPresent hvalid hne, hmoves]
  have hstore (data : Bytes) (hbefore : m.before = .storing data) :
      (d.artifacts.store d.surroundings.files m.order data).2 =
        (e.artifacts.store e.surroundings.files m.order data).2 :=
    hk.store_eq hk' hs hs' hne (hbefore ▸ hdoes.call) (hbefore ▸ hcall)
  obtain ⟨u, heffect', hpublished, hentries⟩ := heffect.agree (u := e.shared)
    (hs.directory.trans hs'.directory.symm) h.published h.entries hpresent hstore
  rw [h.isHeld] at heffect'
  obtain ⟨next', hdoes', rfl⟩ := heffect'.exists_does hcall
  refine ⟨next', hdoes', hpublished, hentries, fun {i order stage} hname => ?_⟩
  by_cases hi : i = m.index
  · subst hi
    rw [hdoes.call_after, hdoes'.call_after]
  · rw [hdoes.call_of_ne hi, hdoes'.call_of_ne hi, h.calls hname]

/-- The steps for the other files can be left out of a run. -/
theorem History.exists_filter (h : History start moves d) (hs : Sound root start)
    (hk : Kept root start [] start) (hne : name ≠ stagingName) :
    ∃ e, History start (moves.filter fun m => m.concerns name) e ∧ Agree name d e := by
  induction h with
  | refl => exact ⟨start, .refl, rfl, Iff.rfl, fun _ => Iff.rfl⟩
  | @snoc moves d next m hd hdoes ih =>
    obtain ⟨e, he, hagree⟩ := ih
    rw [List.filter_append]
    by_cases hself : m.order.fileName = name
    · subst hself
      have hstored : (moves.any fun m' => m'.stores && m'.concerns m.order.fileName) =
          (moves.filter fun m' => m'.concerns m.order.fileName).any
            fun m' => m'.stores && m'.concerns m.order.fileName := by
        rw [List.any_filter]
        congr 1
        funext m'
        cases m'.concerns m.order.fileName <;> simp
      obtain ⟨next', hdoes', hnext⟩ := hagree.does_self hdoes hne (hd.sound hs) (he.sound hs)
        (hd.kept hs hk) (he.kept hs hk) hstored
      have hlast : [m].filter (fun m' => m'.concerns m.order.fileName) = [m] := by
        simp [Move.concerns]
      rw [hlast]
      exact ⟨next', he.snoc hdoes', hnext⟩
    · have hlast : [m].filter (fun m' => m'.concerns name) = [] := by
        simp [Move.concerns, hself]
      rw [hlast, List.append_nil]
      exact ⟨e, he, hagree.does_other hdoes hself⟩

end Runs

/-- Overlapping downloads into a directory, in every order of their steps and with
every outcome of their transfers. Of each file at most one transfer is stored,
its transfers do not overlap, and none begins once the file is there or its path
is published; a path that comes out is that of the file. If the directory is well
placed at the start, which not every one is, the downloads of a file come to the same
without the steps for other files. -/
theorem transfers_shared {root : String} {surroundings : Surroundings}
    {orders : List ArtifactOrder} :
    let start := Downloads.start (.inDirectory root) surroundings orders
    (∀ d, Relation.ReflTransGen Step start d → ∃ moves, History start moves d) ∧
    ∀ {moves : List Move} {d : Downloads}, History start moves d →
      (∀ name, (moves.filter fun m => m.stores && m.concerns name).length ≤ 1) ∧
      (∀ {i j : Nat} {order other : ArtifactOrder} {stage stage' : Stage},
        d.calls[i]? = some (order, stage) → d.calls[j]? = some (other, stage') →
        stage.isTransfer = true → stage'.isTransfer = true →
        order.fileName = other.fileName → i = j) ∧
      (∀ {name : String} {later : List Move} {next : Downloads}, d.Has name →
        History d later next → ∀ m ∈ later, m.concerns name = true → m.starts = false) ∧
      (∀ {i : Nat} {order : ArtifactOrder} {path : String},
        d.calls[i]? = some (order, .ended (.ok path)) →
        path = Files.joinPath root order.fileName) ∧
      ((inDirectory root).IsWellPlaced surroundings.files → ∀ name, name ≠ stagingName →
        ∃ e, History start (moves.filter fun m => m.concerns name) e ∧
          ∀ {i : Nat} {order : ArtifactOrder} {stage : Stage}, order.fileName = name →
            (d.calls[i]? = some (order, stage) ↔ e.calls[i]? = some (order, stage))) := by
  intro start
  have hstart := Sound.start root surroundings orders
  refine ⟨fun d => exists_history, fun {moves d} h => ?_⟩
  have hs := h.sound hstart
  refine ⟨fun name => (h.stores_le_one hstart).1, ?_, ?_, hs.result, fun hplaced name hne => ?_⟩
  · intro i j order other stage stage' hi hj hstage hstage' hname
    exact hs.exclusive hi hj (holds_of_isTransfer hstage) (holds_of_isTransfer hstage') hname
  · intro name later next hhas hlater
    exact (hlater.starts_eq_false hs hhas).2
  · have hk : Kept root start [] start := Kept.init hplaced fun call hcall => by
      obtain ⟨order, -, rfl⟩ := List.mem_map.1 hcall
      rfl
    obtain ⟨e, he, hagree⟩ := h.exists_filter hstart hk hne
    exact ⟨e, he, hagree.calls⟩

/-- The first of two transfers of a file fails, and a third is of another file. -/
theorem transfers_shared_retried :
    let order (name : String) : ArtifactOrder :=
      ⟨{ scheme := "http", path := "/" ++ name }, name, true, none⟩
    let network := Net.Network.scripted
      [("http:/solc", [.response ⟨500, []⟩, .response ⟨200, [1]⟩]),
        ("http:/other", [.response ⟨200, [2]⟩])]
    let start := Downloads.start (.inDirectory "cache")
      ⟨Files.Tree.empty.set ["cache"] .directory, network⟩
      [order "solc", order "solc", order "solc", order "other"]
    start.finish.results = [.error (.badStatus (order "solc").url 500), .ok "cache/solc",
      .ok "cache/solc", .ok "cache/other"] ∧
    ∃ moves e, History start moves start.finish ∧
      (moves.filter fun m => m.stores && m.concerns "solc").length ≤ 1 ∧
      History start (moves.filter fun m => m.concerns "solc") e ∧
      e.calls[2]? = some (order "solc", .ended (.ok "cache/solc")) := by
  intro order network start
  have hresults : start.finish.results = [.error (.badStatus (order "solc").url 500),
      .ok "cache/solc", .ok "cache/solc", .ok "cache/other"] := by decide +kernel
  have hcall : start.finish.calls[2]? = some (order "solc", .ended (.ok "cache/solc")) := by
    decide +kernel
  have hhome : (inDirectory "cache").IsHome (Files.Tree.empty.set ["cache"] .directory) ["cache"] :=
    ⟨by decide +kernel, by decide +kernel⟩
  obtain ⟨hhistory, hall⟩ := @transfers_shared "cache"
    ⟨Files.Tree.empty.set ["cache"] .directory, network⟩
    [order "solc", order "solc", order "solc", order "other"]
  obtain ⟨moves, hmoves⟩ := hhistory _ (reaches_run _ _)
  obtain ⟨hstores, -, -, -, halone⟩ := hall hmoves
  obtain ⟨e, he, hsame⟩ := halone hhome.isWellPlaced "solc" (by decide)
  exact ⟨hresults, moves, e, hmoves, hstores "solc", he, (hsame rfl).1 hcall⟩

/-- In a directory that is not well placed a file can be found only because another one
was stored before. -/
theorem found_beside_another :
    let order (name : String) : ArtifactOrder :=
      ⟨{ scheme := "http", path := "/" ++ name }, name, true, none⟩
    let network := Net.Network.scripted [("http:/a", [.response ⟨200, [1]⟩])]
    let files := (Tree.empty.set ["cache"] .directory).set ["cache", "x"] (.file [7] false)
    let start := Downloads.start (.inDirectory "nope/../cache") ⟨files, network⟩
      [order "a", order "x"]
    let after (turns : List Nat) := (turns.foldlM advance start).map results
    after (List.replicate 8 0 ++ List.replicate 6 1) =
      some [.ok "nope/../cache/a", .ok "nope/../cache/x"] ∧
    after (List.replicate 6 1) = some [.error (.notFound (order "x").url)] := by
  decide +kernel

end Provenance.Artifacts.Downloads
