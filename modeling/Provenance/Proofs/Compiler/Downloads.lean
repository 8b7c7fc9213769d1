import Provenance.Compiler.Downloads
import Provenance.Proofs.Compiler.Storing

/-!
Overlapping downloads, in every order of their steps and for every outcome of
their transfers. A download that holds the entry of its file is the only one,
and nothing is published for the file while it does. So transfers of a file do
not overlap, and one that is stored is the last.
-/

namespace Provenance.Artifacts

deriving instance DecidableEq for Stage

def Stage.isTransfer : Stage → Bool
  | .transferring | .storing _ => true
  | _ => false

def Stage.isUnderWay : Stage → Bool
  | .asked | .ended _ => false
  | _ => true

structure Move where
  index : Nat
  order : ArtifactOrder
  before : Stage
  after : Stage

namespace Move

def concerns (m : Move) (name : String) : Bool := m.order.fileName = name

def starts (m : Move) : Bool := m.after.isTransferring

def stores (m : Move) : Bool :=
  match m.before, m.after with
  | .storing _, .publishing => true
  | _, _ => false

end Move

namespace Downloads

def onNetwork (d : Downloads) (network : Net.Network) : Downloads :=
  { d with surroundings := { d.surroundings with network } }

/-- What a step comes to. Before it the network may have become any other, so that
a transfer may come to whatever a network brings. -/
inductive Does (d : Downloads) : Move → Downloads → Prop
  | intro {index : Nat} {order : ArtifactOrder} {before after : Stage} {next : Downloads}
      (network : Net.Network) (hcall : d.calls[index]? = some (order, before))
      (hstep : (d.onNetwork network).step index order before = some next)
      (hafter : next.calls[index]? = some (order, after)) :
      Does d ⟨index, order, before, after⟩ next

inductive History (start : Downloads) : List Move → Downloads → Prop
  | refl : History start [] start
  | snoc {moves : List Move} {d next : Downloads} {m : Move} (h : History start moves d)
      (hdoes : Does d m next) : History start (moves ++ [m]) next

structure Shared where
  artifacts : Artifacts
  entries : List String
  files : Files.Tree

def shared (d : Downloads) : Shared := ⟨d.artifacts, d.entries, d.surroundings.files⟩

/-- What a step does, by the stage before it. `held` says whether some download
holds the entry. -/
inductive Effect (s : Shared) (held : Bool) (order : ArtifactOrder) :
    Stage → Stage → Shared → Prop
  | admitted (hvalid : FileName.isValid order.fileName = true) :
      Effect s held order .asked .looking { s with artifacts := s.artifacts.countLookup }
  | refused (hvalid : FileName.isValid order.fileName = false) :
      Effect s held order .asked (.ended (.error (.fileName order.fileName))) s
  | known (hentry : order.fileName ∈ s.entries) : Effect s held order .looking .reading s
  | unknown (hentry : order.fileName ∉ s.entries) : Effect s held order .looking .entering s
  | hit {path : String} (hfree : held = false)
      (hpath : s.artifacts.published? order.fileName = some path) :
      Effect s held order .reading (.ended (.ok path))
        { s with artifacts := s.artifacts.countHit }
  | missed (hfree : held = false) (hpath : s.artifacts.published? order.fileName = none) :
      Effect s held order .reading .entering s
  | entered : Effect s held order .entering .queued
      { s with entries := s.entries.insert order.fileName }
  | served {path : String} (hfree : held = false)
      (hpath : s.artifacts.published? order.fileName = some path) :
      Effect s held order .queued (.ended (.ok path)) s
  | locked (hfree : held = false) (hpath : s.artifacts.published? order.fileName = none) :
      Effect s held order .queued .checking s
  | hidden {fault : FetchFault}
      (hpresent : s.artifacts.isPresent s.files order.fileName = .error fault) :
      Effect s held order .checking (.ended (.error fault)) s
  | found (hpresent : s.artifacts.isPresent s.files order.fileName = .ok true) :
      Effect s held order .checking .publishing s
  | missing (hpresent : s.artifacts.isPresent s.files order.fileName = .ok false) :
      Effect s held order .checking .transferring s
  | failed {fault : FetchFault} (network : Net.Network)
      (hfetch : (fetch network order.url).2 = .error fault) :
      Effect s held order .transferring (.ended (.error fault)) s
  | fetched {data : Bytes} (network : Net.Network)
      (hfetch : (fetch network order.url).2 = .ok data) :
      Effect s held order .transferring (.storing data) s
  | rejected {data : Bytes} {fault : FetchFault}
      (hstore : (s.artifacts.store s.files order data).2 = .error fault) :
      Effect s held order (.storing data) (.ended (.error fault))
        { s with files := (s.artifacts.store s.files order data).1 }
  | stored {data : Bytes} (hstore : (s.artifacts.store s.files order data).2 = .ok ()) :
      Effect s held order (.storing data) .publishing
        { s with files := (s.artifacts.store s.files order data).1 }
  | published : Effect s held order .publishing
      (.ended (.ok (s.artifacts.path order.fileName)))
      { s with artifacts := s.artifacts.publish order.fileName }

/-- What a step does is what its stage allows. -/
theorem effect_of_step {d next : Downloads} {index : Nat} {order : ArtifactOrder} {before : Stage}
    (h : d.step index order before = some next) :
    ∃ between after, next = setStage between index order after ∧ between.calls = d.calls ∧
      Effect d.shared (d.isHeld order.fileName) order before after between.shared := by
  cases before with
  | asked =>
    simp only [step] at h
    split_ifs at h with hvalid
    · cases h
      exact ⟨_, _, rfl, rfl, .admitted hvalid⟩
    · cases h
      exact ⟨_, _, rfl, rfl, .refused (by simpa using hvalid)⟩
  | looking =>
    cases h
    refine ⟨_, _, rfl, rfl, ?_⟩
    split_ifs with hentry
    · exact .known hentry
    · exact .unknown hentry
  | reading =>
    simp only [step] at h
    split_ifs at h with hheld
    have hfree := eq_false_of_ne_true hheld
    cases hpath : d.artifacts.published? order.fileName with
    | none =>
      rw [hpath] at h
      cases h
      exact ⟨_, _, rfl, rfl, .missed hfree hpath⟩
    | some path =>
      rw [hpath] at h
      cases h
      exact ⟨_, _, rfl, rfl, .hit hfree hpath⟩
  | entering =>
    cases h
    exact ⟨_, _, rfl, rfl, .entered⟩
  | queued =>
    simp only [step] at h
    split_ifs at h with hheld
    have hfree := eq_false_of_ne_true hheld
    cases hpath : d.artifacts.published? order.fileName with
    | none =>
      rw [hpath] at h
      cases h
      exact ⟨_, _, rfl, rfl, .locked hfree hpath⟩
    | some path =>
      rw [hpath] at h
      cases h
      exact ⟨_, _, rfl, rfl, .served hfree hpath⟩
  | checking =>
    cases h
    refine ⟨_, _, rfl, rfl, ?_⟩
    cases hpresent : d.artifacts.isPresent d.surroundings.files order.fileName with
    | error fault => exact .hidden hpresent
    | ok found =>
      cases found with
      | true => exact .found hpresent
      | false => exact .missing hpresent
  | transferring =>
    simp only [step, Option.some.injEq] at h
    subst h
    refine ⟨_, _, rfl, rfl, ?_⟩
    cases hfetch : (fetch d.surroundings.network order.url).2 with
    | error fault => exact .failed _ hfetch
    | ok data => exact .fetched _ hfetch
  | storing data =>
    simp only [step, Option.some.injEq] at h
    subst h
    refine ⟨_, _, rfl, rfl, ?_⟩
    cases hstore : (d.artifacts.store d.surroundings.files order data).2 with
    | error fault => exact .rejected hstore
    | ok => exact .stored hstore
  | publishing =>
    cases h
    exact ⟨_, _, rfl, rfl, .published⟩
  | ended => cases h

section Steps

variable {d next : Downloads} {m : Move}

theorem Does.call (h : Does d m next) : d.calls[m.index]? = some (m.order, m.before) := by
  cases h with
  | intro network hcall => exact hcall

/-- A step changes where its download stands, and what is shared as its stage says. -/
theorem Does.effect (h : Does d m next) :
    next.calls = d.calls.set m.index (m.order, m.after) ∧
      Effect d.shared (d.isHeld m.order.fileName) m.order m.before m.after next.shared := by
  cases h with
  | @intro index order before after _ network hcall hstep hafter =>
    obtain ⟨between, found, rfl, hcalls, heffect⟩ := effect_of_step hstep
    have hset : (setStage between index order found).calls = d.calls.set index (order, found) := by
      rw [setStage, hcalls]
      rfl
    have hlt := (List.getElem?_eq_some_iff.1 hcall).1
    rw [hset, List.getElem?_set_self hlt] at hafter
    cases hafter
    exact ⟨hset, heffect⟩

theorem does_of_step {index : Nat} {order : ArtifactOrder} {before after : Stage}
    (network : Net.Network) (between : Downloads)
    (hstep : (d.onNetwork network).step index order before =
      some (setStage between index order after)) (hcalls : between.calls = d.calls)
    (hcall : d.calls[index]? = some (order, before)) :
    ∃ next, Does d ⟨index, order, before, after⟩ next ∧ next.shared = between.shared := by
  have hlt := (List.getElem?_eq_some_iff.1 hcall).1
  refine ⟨_, .intro network hcall hstep ?_, rfl⟩
  rw [setStage, hcalls]
  exact List.getElem?_set_self hlt

/-- Whatever the stage of a download allows is done by some step. -/
theorem Effect.exists_does {index : Nat} {order : ArtifactOrder} {before after : Stage}
    {s : Shared} (h : Effect d.shared (d.isHeld order.fileName) order before after s)
    (hcall : d.calls[index]? = some (order, before)) :
    ∃ next, Does d ⟨index, order, before, after⟩ next ∧ next.shared = s := by
  have hown (between : Downloads) (hcalls : between.calls = d.calls)
      (hstep : d.step index order before = some (setStage between index order after)) :=
    does_of_step d.surroundings.network between hstep hcalls hcall
  cases h with
  | admitted hvalid =>
    exact hown { d with artifacts := d.artifacts.countLookup } rfl (by simp only [step, hvalid, if_true])
  | refused hvalid => exact hown d rfl (by simp only [step, hvalid, Bool.false_eq_true, if_false])
  | known hentry =>
    replace hentry : order.fileName ∈ d.entries := hentry
    exact hown d rfl (by simp only [step, hentry, if_true])
  | unknown hentry =>
    replace hentry : order.fileName ∉ d.entries := hentry
    exact hown d rfl (by simp only [step, hentry, if_false])
  | hit hfree hpath =>
    replace hpath : d.artifacts.published? order.fileName = some _ := hpath
    exact hown { d with artifacts := d.artifacts.countHit } rfl
      (by simp only [step, hfree, hpath, Bool.false_eq_true, if_false])
  | missed hfree hpath =>
    replace hpath : d.artifacts.published? order.fileName = none := hpath
    exact hown d rfl (by simp only [step, hfree, hpath, Bool.false_eq_true, if_false])
  | entered => exact hown (d.enter order.fileName) rfl rfl
  | served hfree hpath =>
    replace hpath : d.artifacts.published? order.fileName = some _ := hpath
    exact hown d rfl (by simp only [step, hfree, hpath, Bool.false_eq_true, if_false])
  | locked hfree hpath =>
    replace hpath : d.artifacts.published? order.fileName = none := hpath
    exact hown d rfl (by simp only [step, hfree, hpath, Bool.false_eq_true, if_false])
  | hidden hpresent =>
    replace hpresent : d.artifacts.isPresent d.surroundings.files order.fileName = .error _ :=
      hpresent
    exact hown d rfl (by simp only [step, hpresent])
  | found hpresent =>
    replace hpresent : d.artifacts.isPresent d.surroundings.files order.fileName = .ok true :=
      hpresent
    exact hown d rfl (by simp only [step, hpresent])
  | missing hpresent =>
    replace hpresent : d.artifacts.isPresent d.surroundings.files order.fileName = .ok false :=
      hpresent
    exact hown d rfl (by simp only [step, hpresent])
  | failed network hfetch =>
    exact does_of_step network (d.onNetwork (fetch network order.url).1)
      (by simp only [step, onNetwork, hfetch]) rfl hcall
  | fetched network hfetch =>
    exact does_of_step network (d.onNetwork (fetch network order.url).1)
      (by simp only [step, onNetwork, hfetch]) rfl hcall
  | @rejected data fault hstore =>
    replace hstore : (d.artifacts.store d.surroundings.files order data).2 = .error fault := hstore
    exact hown { d with surroundings := { d.surroundings with
        files := (d.artifacts.store d.surroundings.files order data).1 } } rfl
      (by simp only [step, hstore])
  | @stored data hstore =>
    replace hstore : (d.artifacts.store d.surroundings.files order data).2 = .ok () := hstore
    exact hown { d with surroundings := { d.surroundings with
        files := (d.artifacts.store d.surroundings.files order data).1 } } rfl
      (by simp only [step, hstore])
  | published =>
    exact hown { d with artifacts := d.artifacts.publish order.fileName } rfl rfl

theorem isHeld_iff {name : String} : d.isHeld name = true ↔
    ∃ (i : Nat) (order : ArtifactOrder) (stage : Stage), d.calls[i]? = some (order, stage) ∧
      order.fileName = name ∧ stage.holds = true := by
  simp only [isHeld, List.any_eq_true, Bool.and_eq_true, decide_eq_true_eq, Prod.exists,
    List.mem_iff_getElem?]
  constructor
  · rintro ⟨order, stage, ⟨i, hcall⟩, hheld⟩
    exact ⟨i, order, stage, hcall, hheld⟩
  · rintro ⟨i, order, stage, hcall, hheld⟩
    exact ⟨order, stage, ⟨i, hcall⟩, hheld⟩

/-- Where the downloads stand after a step. -/
theorem Does.call_cases (h : Does d m next) {i : Nat} {order : ArtifactOrder} {stage : Stage}
    (hcall : next.calls[i]? = some (order, stage)) :
    i = m.index ∧ order = m.order ∧ stage = m.after ∨
      i ≠ m.index ∧ d.calls[i]? = some (order, stage) := by
  have hlt := (List.getElem?_eq_some_iff.1 h.call).1
  rw [h.effect.1] at hcall
  by_cases hi : i = m.index
  · subst hi
    rw [List.getElem?_set_self hlt] at hcall
    cases hcall
    exact .inl ⟨rfl, rfl, rfl⟩
  · rw [List.getElem?_set_ne (Ne.symm hi)] at hcall
    exact .inr ⟨hi, hcall⟩

theorem Does.call_after (h : Does d m next) :
    next.calls[m.index]? = some (m.order, m.after) := by
  rw [h.effect.1, List.getElem?_set_self (List.getElem?_eq_some_iff.1 h.call).1]

/-- A step leaves the other downloads where they stand. -/
theorem Does.call_of_ne (h : Does d m next) {i : Nat} (hi : i ≠ m.index) :
    next.calls[i]? = d.calls[i]? := by
  rw [h.effect.1, List.getElem?_set_ne (Ne.symm hi)]

end Steps

theorem published?_publish (a : Artifacts) (fileName name : String) :
    (a.publish fileName).published? name =
      if name = fileName then some (a.path fileName) else a.published? name := by
  rw [published?, publish, List.lookup_cons]
  by_cases hname : name = fileName
  · rw [if_pos hname, beq_iff_eq.2 hname]
  · rw [if_neg hname, beq_eq_false_iff_ne.2 hname]
    rfl

namespace Effect

variable {s s' : Shared} {held : Bool} {order : ArtifactOrder} {before after : Stage}
  (h : Effect s held order before after s')

include h

theorem directory : s'.artifacts.directory = s.artifacts.directory := by
  cases h <;> rfl

/-- A path is published in one way only, by the download that holds the entry. -/
theorem published? (name : String) :
    s'.artifacts.published? name = s.artifacts.published? name ∨
      name = order.fileName ∧ before = .publishing ∧ after.holds = false ∧
        s'.artifacts.published? name = some (s.artifacts.path name) := by
  cases h with
  | published =>
    rw [published?_publish]
    split_ifs with hname
    · subst hname
      exact .inr ⟨rfl, rfl, rfl, rfl⟩
    · exact .inl rfl
  | _ => exact .inl rfl

/-- An entry is taken while nobody holds it and nothing is published for it. -/
theorem holds (hafter : after.holds = true) : before.holds = true ∨
    held = false ∧ s.artifacts.published? order.fileName = none := by
  cases h with
  | locked hfree hpath => exact .inr ⟨hfree, hpath⟩
  | found | missing | fetched | stored => exact .inl rfl
  | _ => cases hafter

theorem isUnderWay (hafter : after.isUnderWay = true) :
    before.isUnderWay = true ∨ FileName.isValid order.fileName = true := by
  cases h with
  | admitted hvalid => exact .inr hvalid
  | refused | hit | served | hidden | failed | rejected | published => cases hafter
  | _ => exact .inl rfl

theorem path {path : String} (hafter : after = .ended (.ok path)) :
    path = s.artifacts.path order.fileName ∨
      s.artifacts.published? order.fileName = some path := by
  cases h with
  | hit _ hpath | served _ hpath =>
    cases hafter
    exact .inr hpath
  | published =>
    cases hafter
    exact .inl rfl
  | _ => cases hafter

/-- A transfer begins for a file that is missing. -/
theorem isPresent (hafter : after.isTransferring = true) : before.holds = true ∧
    s.artifacts.isPresent s.files order.fileName = .ok false := by
  cases h with
  | missing hpresent => exact ⟨rfl, hpresent⟩
  | _ => cases hafter

theorem published?_of_publishing (hbefore : before = .publishing) :
    s'.artifacts.published? order.fileName = some (s.artifacts.path order.fileName) := by
  cases h with
  | published => rw [published?_publish, if_pos rfl]
  | _ => cases hbefore

/-- A transfer goes on, or begins for a file that is missing. -/
theorem isTransfer (hafter : after.isTransfer = true) : s'.files = s.files ∧
    (before.isTransfer = true ∨ s.artifacts.isPresent s.files order.fileName = .ok false) := by
  cases h with
  | missing hpresent => exact ⟨rfl, .inr hpresent⟩
  | fetched => exact ⟨rfl, .inl rfl⟩
  | _ => cases hafter

/-- The files change where something is stored. -/
theorem files : s'.files = s.files ∧ (∀ data, before ≠ .storing data) ∨
    ∃ data result, before = .storing data ∧ Stores s.artifacts s.files order s'.files result ∧
      (result = .ok () ↔ after = .publishing) := by
  cases h with
  | @rejected data fault hstore =>
    have hstores := stores_of_store s.artifacts s.files order data
    rw [hstore] at hstores
    exact .inr ⟨data, _, rfl, hstores, by simp⟩
  | @stored data hstore =>
    have hstores := stores_of_store s.artifacts s.files order data
    rw [hstore] at hstores
    exact .inr ⟨data, _, rfl, hstores, by simp⟩
  | _ => exact .inl ⟨rfl, nofun⟩

end Effect

structure Sound (root : String) (d : Downloads) : Prop where
  directory : d.artifacts.directory = root
  published : ∀ {name path : String}, d.artifacts.published? name = some path →
    path = Files.joinPath root name
  valid : ∀ {i : Nat} {order : ArtifactOrder} {stage : Stage},
    d.calls[i]? = some (order, stage) → stage.isUnderWay = true →
    FileName.isValid order.fileName = true
  exclusive : ∀ {i j : Nat} {order other : ArtifactOrder} {stage stage' : Stage},
    d.calls[i]? = some (order, stage) → d.calls[j]? = some (other, stage') →
    stage.holds = true → stage'.holds = true → order.fileName = other.fileName → i = j
  unpublished : ∀ {i : Nat} {order : ArtifactOrder} {stage : Stage},
    d.calls[i]? = some (order, stage) → stage.holds = true →
    d.artifacts.published? order.fileName = none
  result : ∀ {i : Nat} {order : ArtifactOrder} {path : String},
    d.calls[i]? = some (order, .ended (.ok path)) → path = Files.joinPath root order.fileName

namespace Sound

variable {root : String} {d next : Downloads} {m : Move}

theorem start (root : String) (surroundings : Surroundings) (orders : List ArtifactOrder) :
    Sound root (.start (.inDirectory root) surroundings orders) := by
  have hasked {i : Nat} {order : ArtifactOrder} {stage : Stage}
      (h : (Downloads.start (.inDirectory root) surroundings orders).calls[i]? =
        some (order, stage)) : stage = .asked := by
    simp only [Downloads.start, List.getElem?_map, Option.map_eq_some_iff, Prod.mk.injEq] at h
    obtain ⟨-, -, -, rfl⟩ := h
    rfl
  constructor
  case directory => rfl
  case published => exact nofun
  case valid =>
    intro i order stage hcall hstage
    cases hasked hcall
    cases hstage
  case exclusive =>
    intro i j order other stage stage' hcall _ hstage
    cases hasked hcall
    cases hstage
  case unpublished =>
    intro i order stage hcall hstage
    cases hasked hcall
    cases hstage
  case result =>
    intro i order path hcall
    cases hasked hcall

/-- An entry that a download holds behind a step was held by no other before. -/
theorem eq_of_holds (hs : Sound root d) (h : Does d m next) (hafter : m.after.holds = true)
    {i : Nat} {order : ArtifactOrder} {stage : Stage} (hcall : d.calls[i]? = some (order, stage))
    (hstage : stage.holds = true) (hname : order.fileName = m.order.fileName) : i = m.index := by
  rcases h.effect.2.holds hafter with hbefore | ⟨hfree, -⟩
  · exact hs.exclusive hcall h.call hstage hbefore hname
  · have hheld := isHeld_iff.2 ⟨i, order, stage, hcall, hname, hstage⟩
    rw [hfree] at hheld
    cases hheld

theorem does (hs : Sound root d) (h : Does d m next) : Sound root next := by
  obtain ⟨-, heffect⟩ := h.effect
  constructor
  case directory => exact heffect.directory.trans hs.directory
  case published =>
    intro name path hpath
    rcases heffect.published? name with hsame | ⟨-, -, -, hnew⟩
    · exact hs.published (hsame.symm.trans hpath)
    · cases hnew.symm.trans hpath
      exact congrArg (Files.joinPath · name) hs.directory
  case valid =>
    intro i order stage hcall hstage
    rcases h.call_cases hcall with ⟨rfl, rfl, rfl⟩ | ⟨-, hbefore⟩
    · exact (heffect.isUnderWay hstage).elim (hs.valid h.call) id
    · exact hs.valid hbefore hstage
  case exclusive =>
    intro i j order other stage stage' hi hj hstage hstage' hname
    rcases h.call_cases hi with ⟨rfl, rfl, rfl⟩ | ⟨-, hi⟩
    · rcases h.call_cases hj with ⟨rfl, -, -⟩ | ⟨-, hj⟩
      · rfl
      · exact (hs.eq_of_holds h hstage hj hstage' hname.symm).symm
    · rcases h.call_cases hj with ⟨rfl, rfl, rfl⟩ | ⟨-, hj⟩
      · exact hs.eq_of_holds h hstage' hi hstage hname
      · exact hs.exclusive hi hj hstage hstage' hname
  case unpublished =>
    intro i order stage hcall hstage
    have hbefore : d.artifacts.published? order.fileName = none := by
      rcases h.call_cases hcall with ⟨rfl, rfl, rfl⟩ | ⟨-, hcall⟩
      · exact (heffect.holds hstage).elim (hs.unpublished h.call) And.right
      · exact hs.unpublished hcall hstage
    rcases heffect.published? order.fileName with hsame | ⟨hname, hpublishing, hafter, -⟩
    · exact hsame.trans hbefore
    · -- The entry would be held by the download that publishes, too.
      rcases h.call_cases hcall with ⟨-, -, rfl⟩ | ⟨hne, hcall⟩
      · rw [hafter] at hstage
        cases hstage
      · exact absurd (hs.exclusive hcall h.call hstage (by rw [hpublishing]; rfl) hname) hne
  case result =>
    intro i order path hcall
    rcases h.call_cases hcall with ⟨rfl, rfl, hafter⟩ | ⟨-, hbefore⟩
    · rcases heffect.path hafter.symm with rfl | hpath
      · exact congrArg (Files.joinPath · m.order.fileName) hs.directory
      · exact hs.published hpath
    · exact hs.result hbefore

end Sound

section Runs

variable {root name : String} {start d next : Downloads} {m : Move} {moves : List Move}

theorem History.sound (h : History start moves d) (hs : Sound root start) : Sound root d := by
  induction h with
  | refl => exact hs
  | snoc _ hdoes ih => exact ih.does hdoes

/-- A step on the network as it is. -/
theorem exists_does_of_step (h : Step d next) : ∃ m, Does d m next := by
  obtain ⟨index, hadvance⟩ := h
  unfold advance at hadvance
  cases hcall : d.calls[index]? with
  | none =>
    rw [hcall] at hadvance
    cases hadvance
  | some call =>
    obtain ⟨order, before⟩ := call
    rw [hcall] at hadvance
    obtain ⟨between, after, rfl, hcalls, -⟩ := effect_of_step hadvance
    refine ⟨⟨index, order, before, after⟩, .intro d.surroundings.network hcall hadvance ?_⟩
    rw [setStage, hcalls]
    exact List.getElem?_set_self (List.getElem?_eq_some_iff.1 hcall).1

theorem exists_history (h : Relation.ReflTransGen Step start d) :
    ∃ moves, History start moves d := by
  induction h with
  | refl => exact ⟨[], .refl⟩
  | tail _ hstep ih =>
    obtain ⟨moves, hmoves⟩ := ih
    obtain ⟨m, hdoes⟩ := exists_does_of_step hstep
    exact ⟨moves ++ [m], hmoves.snoc hdoes⟩

/-- The order in which downloads are run to their ends is one of the orders. -/
theorem reaches_run (fuel : Nat) (d : Downloads) : Relation.ReflTransGen Step d (run fuel d) := by
  induction fuel generalizing d with
  | zero => exact .refl
  | succ fuel ih =>
    rw [run]
    cases hturn : d.turns.findSome? d.advance with
    | none => exact .refl
    | some next =>
      obtain ⟨index, -, hadvance⟩ := List.exists_of_findSome?_eq_some hturn
      exact .head ⟨index, hadvance⟩ (ih next)

def Has (d : Downloads) (name : String) : Prop :=
  d.artifacts.isPresent d.surroundings.files name = .ok true ∨
    (d.artifacts.published? name).isSome = true

theorem isPresent_of_directory {a b : Artifacts} (h : a.directory = b.directory)
    (files : Files.Tree) (name : String) : a.isPresent files name = b.isPresent files name := by
  rw [isPresent, isPresent, path, path, h]

/-- What is there stays there. -/
theorem Does.has (h : Does d m next) (hhas : d.Has name) : next.Has name := by
  obtain ⟨-, heffect⟩ := h.effect
  rcases hhas with hpresent | hpublished
  · have hdirectory : next.artifacts.directory = d.artifacts.directory := heffect.directory
    refine .inl ?_
    rw [isPresent_of_directory hdirectory]
    rcases heffect.files with ⟨hsame, -⟩ | ⟨data, result, -, hstores, -⟩
    · exact (congrArg (d.artifacts.isPresent · name) hsame).trans hpresent
    · exact hstores.isPresent_keeps hpresent
  · refine .inr ?_
    rcases heffect.published? name with hsame | ⟨-, -, -, hnew⟩
    · exact (congrArg Option.isSome hsame).trans hpublished
    · exact congrArg Option.isSome hnew

/-- No transfer begins for what is there. -/
theorem Does.starts_eq_false (h : Does d m next) (hs : Sound root d)
    (hhas : d.Has m.order.fileName) : m.starts = false := by
  refine eq_false_of_ne_true fun hstarts => ?_
  obtain ⟨hholds, hmissing⟩ := h.effect.2.isPresent hstarts
  rcases hhas with hpresent | hpublished
  · cases hpresent.symm.trans hmissing
  · rw [hs.unpublished h.call hholds] at hpublished
    cases hpublished

theorem History.starts_eq_false (h : History start moves d) (hs : Sound root start)
    (hhas : start.Has name) : d.Has name ∧
      ∀ m ∈ moves, m.concerns name = true → m.starts = false := by
  induction h with
  | refl => exact ⟨hhas, by simp⟩
  | @snoc moves d next m hd hdoes ih =>
    obtain ⟨hthere, hmoves⟩ := ih
    refine ⟨hdoes.has hthere, fun other hother hname => ?_⟩
    rcases List.mem_append.1 hother with hbefore | hlast
    · exact hmoves other hbefore hname
    · obtain rfl := List.mem_singleton.1 hlast
      refine hdoes.starts_eq_false (hd.sound hs) ?_
      rwa [of_decide_eq_true hname]

def Settled (d : Downloads) (name : String) : Prop :=
  (d.artifacts.published? name).isSome = true ∨
    ∃ (i : Nat) (order : ArtifactOrder), d.calls[i]? = some (order, .publishing) ∧
      order.fileName = name

theorem Does.settled (h : Does d m next) (hsettled : d.Settled name) : next.Settled name := by
  obtain ⟨-, heffect⟩ := h.effect
  rcases hsettled with hpublished | ⟨i, order, hcall, rfl⟩
  · refine .inl ?_
    rcases heffect.published? name with hsame | ⟨-, -, -, hnew⟩
    · exact (congrArg Option.isSome hsame).trans hpublished
    · exact congrArg Option.isSome hnew
  · by_cases hi : i = m.index
    · subst hi
      obtain ⟨horder, hbefore⟩ := Prod.mk.inj (Option.some.inj (h.call.symm.trans hcall))
      refine .inl ?_
      rw [← horder]
      exact congrArg Option.isSome (heffect.published?_of_publishing hbefore)
    · exact .inr ⟨i, order, by rw [h.call_of_ne hi, hcall], rfl⟩

theorem Move.stores_eq_true_iff : m.stores = true ↔
    (∃ data, m.before = .storing data) ∧ m.after = .publishing := by
  obtain ⟨index, order, before, after⟩ := m
  unfold Move.stores
  cases before <;> cases after <;> simp

/-- Nothing is stored for a file that is settled: its entry is held by the download
that publishes, or it is not taken any more. -/
theorem Does.stores_eq_false (h : Does d m next) (hs : Sound root d)
    (hsettled : d.Settled m.order.fileName) : m.stores = false := by
  refine eq_false_of_ne_true fun hstores => ?_
  obtain ⟨⟨data, hbefore⟩, -⟩ := Move.stores_eq_true_iff.1 hstores
  have hholds : m.before.holds = true := by
    rw [hbefore]
    rfl
  rcases hsettled with hpublished | ⟨i, order, hcall, hname⟩
  · rw [hs.unpublished h.call hholds] at hpublished
    cases hpublished
  · obtain rfl := hs.exclusive hcall h.call rfl hholds hname
    rw [h.call] at hcall
    cases hbefore.symm.trans (Prod.mk.inj (Option.some.inj hcall)).2

theorem Does.settled_of_stores (h : Does d m next) (hstores : m.stores = true) :
    next.Settled m.order.fileName := by
  refine .inr ⟨m.index, m.order, ?_, rfl⟩
  rw [h.call_after, (Move.stores_eq_true_iff.1 hstores).2]

/-- What was stored is settled, so it is stored once. -/
theorem History.stores_le_one (h : History start moves d) (hs : Sound root start) :
    (moves.filter fun m => m.stores && m.concerns name).length ≤ 1 ∧
      ((moves.any fun m => m.stores && m.concerns name) = true → d.Settled name) := by
  induction h with
  | refl => exact ⟨Nat.zero_le _, by simp⟩
  | @snoc moves d next m hd hdoes ih =>
    obtain ⟨hcount, hsettled⟩ := ih
    rw [List.filter_append, List.length_append, List.any_append, Bool.or_eq_true]
    by_cases hlast : (m.stores && m.concerns name) = true
    · obtain ⟨hstores, hname⟩ := Bool.and_eq_true_iff.1 hlast
      obtain rfl : m.order.fileName = name := of_decide_eq_true hname
      have hnone : (moves.any fun m' => m'.stores && m'.concerns m.order.fileName) = false := by
        refine eq_false_of_ne_true fun hbefore => ?_
        rw [hdoes.stores_eq_false (hd.sound hs) (hsettled hbefore)] at hstores
        cases hstores
      refine ⟨?_, fun _ => hdoes.settled_of_stores hstores⟩
      have hempty : (moves.filter fun m' => m'.stores && m'.concerns m.order.fileName) = [] :=
        List.filter_eq_nil_iff.2 (by simpa using hnone)
      rw [hempty, List.length_nil, Nat.zero_add]
      exact List.length_filter_le _ [m]
    · have hnone : [m].filter (fun m => m.stores && m.concerns name) = [] := by simpa using hlast
      rw [hnone]
      refine ⟨hcount, fun hany => hdoes.settled (hsettled (hany.resolve_right ?_))⟩
      simpa using hlast

end Runs

end Downloads

end Provenance.Artifacts
