import Provenance.Proofs.Pipeline.Resumption
import Provenance.Proofs.Runner.Saving

/-!
A run after one in which saving failed. A verified contract that cannot be saved is counted
as failed. The next run leaves it alone if the save had opened the file, which is there
since then, and otherwise does with it as if the first run had not been.
-/

namespace Provenance

open Files

namespace Pipeline

variable {σ μ κ : Type} {o : Outlook σ μ κ} {c : Collaborators σ}
  {settings : PipelineSettings} {ids : List ContractIdentity} {world : σ}
  {result : Except Fault Summary} {course : Course σ} {report : Report}

/-- What a run leaves of a contract that it reports: it came to what it comes to in the
world before the run, was settled there and counted so. -/
theorem Runs.settled_of_report (h : Runs c settings ids world result course) (hc : o.Local c)
    (hdistinct : ids.Nodup) (hreport : report ∈ course.reports) :
    report.outcome = outcomeIn c settings world report.id ∧
      o.saved report.id course.world =
        o.saved report.id ((settle c settings report.id report.outcome).run world).2 ∧
      ∃ taken : List ContractIdentity, report.id ∈ taken ∧
        course.summary = tally (taken.map (settledIn c settings world)) := by
  obtain ⟨n, hagree⟩ := (hc.foretells settings world).agrees_front hc hdistinct h
  have hfront : (ids.take n).Nodup := hdistinct.sublist (List.take_sublist n ids)
  have haccounts := hc.accounts_of_agree hfront hagree
  rw [hagree.reports] at hreport
  obtain ⟨htaken, houtcome⟩ := (hc.oneByOne_reports settings hfront 0 { world }
    (fun _ _ => rfl) hreport).resolve_left nofun
  refine ⟨houtcome, ?_, _, htaken, haccounts.summary⟩
  rw [haccounts.saved, if_pos htaken, houtcome]

/-- The counts of a run in which a contract fails. -/
theorem failed_pos_of_mem {outcomes : List ItemOutcome} {fault : ItemFault}
    (h : .failed fault ∈ outcomes) : 0 < (tally outcomes).failed := by
  induction outcomes using List.reverseRec with
  | nil => cases h
  | append_singleton outcomes outcome ih =>
    rw [← record_tally]
    rcases List.mem_append.1 h with hbefore | hlast
    · have hpos := ih hbefore
      cases outcome with
      | failed cause => exact Nat.succ_pos _
      | skipped => exact hpos
      | jumped => exact hpos
      | verified verdict attestation => exact hpos
      | unverified verdict => exact hpos
    · rw [← List.mem_singleton.1 hlast]
      exact Nat.succ_pos _

end Pipeline

namespace ContractStore

open Pipeline

variable {s : ContractStore} {t u : Tree} {id : ContractIdentity} {attestation : Attestation}

/-- What the compilers and the nodes answer in a run, and where saving breaks off in it. -/
structure Conditions where
  compiled : ContractIdentity → String → Json → Except CompilationFault Contracts
  latency : ContractIdentity → Nat
  code : ContractIdentity → Except String Bytes
  trouble : ContractIdentity → Option Trouble

/-- A question about a contract. Only one that a listing can give is looked for. -/
def ask {α : Type} (id : ContractIdentity) (question : Tree → Except StoreFault α) :
    StateM Tree (Except String α) := fun t =>
  (if id.IsListable then (question t).mapError StoreFault.message else .error id.text, t)

def saveUnder (s : ContractStore) (d : Conditions) (id : ContractIdentity)
    (attestation : Attestation) : StateM Tree (Except String Unit) := fun t =>
  if id.IsListable then
    ((s.saveUntil t id attestation (d.trouble id)).2.mapError StoreFault.message,
      (s.saveUntil t id attestation (d.trouble id)).1)
  else (.error id.text, t)

def collaborators (s : ContractStore) (d : Conditions) : Collaborators Tree where
  list := fun t => ((s.list t).mapError StoreFault.message, t)
  config id := ask id (s.config · id)
  hasMetadata id := ask id (s.hasMetadata · id)
  input id := ask id (s.input · id)
  compile id compiler input := pure ⟨d.latency id, pure (d.compiled id compiler input)⟩
  code id := pure (d.code id)
  save := s.saveUnder d

def outlook (s : ContractStore) :
    Outlook Tree (String → Option (Except Files.Fault (Option Node))) Unit where
  saved id t file :=
    if id.IsListable ∧ Tree.IsName file then some (t.glance (s.filePath id file)) else none
  journal _ := ()
  enter _ _ _ := ()

theorem saved_eq_iff : s.outlook.saved id u = s.outlook.saved id t ↔ ∀ file, id.IsListable →
    Tree.IsName file → u.glance (s.filePath id file) = t.glance (s.filePath id file) := by
  constructor
  · intro h file hid hfile
    have hshown := congrFun h file
    simp only [outlook, hid, hfile, and_self, if_true] at hshown
    exact Option.some.inj hshown
  · intro h
    funext file
    simp only [outlook]
    split_ifs with hfile
    · rw [h file hfile.1 hfile.2]
    · rfl

/-- A question that goes by one file of a contract. -/
theorem reads_ask {α : Type} {question : Tree → Except StoreFault α} {file : String}
    (hfile : Tree.IsName file)
    (hquestion : ∀ u t, u.glance (s.filePath id file) = t.glance (s.filePath id file) →
      question u = question t) : s.outlook.Reads id (ask id question) := by
  refine ⟨fun u t h => ?_, fun t => .refl _ t⟩
  change (if id.IsListable then _ else _) = if id.IsListable then _ else _
  split_ifs with hid
  · rw [hquestion u t (saved_eq_iff.1 h file hid hfile)]
  · rfl

theorem readJson_congr {α : Type} {path : String} (h : u.glance path = t.glance path)
    (interest : Json.Interest) (decode : Shape.Decoder α) :
    readJson u path interest decode = readJson t path interest decode := by
  rw [readJson, readJson, Tree.read_congr h]

theorem saveUnder_of_listable (hid : id.IsListable) (d : Conditions) (t : Tree) :
    (s.saveUnder d id attestation).run t =
      ((s.saveUntil t id attestation (d.trouble id)).2.mapError StoreFault.message,
        (s.saveUntil t id attestation (d.trouble id)).1) := if_pos hid

theorem saveUnder_of_unlistable (hid : ¬ id.IsListable) (d : Conditions) (t : Tree) :
    (s.saveUnder d id attestation).run t = (.error id.text, t) := if_neg hid

/-- What a save leaves of its contract goes by what was there of it. -/
theorem saved_saveUntil (hid : id.IsListable) (h : s.outlook.saved id u = s.outlook.saved id t)
    (trouble : Option Trouble) :
    s.outlook.saved id (s.saveUntil u id attestation trouble).1 =
      s.outlook.saved id (s.saveUntil t id attestation trouble).1 := by
  refine saved_eq_iff.2 fun file _ hfile => ?_
  by_cases hmetadata : file = metadataFile
  · subst hmetadata
    exact (saveUntil_congr (saved_eq_iff.1 h _ hid isName_metadataFile)).2
  · rw [glance_saveUntil_of_ne hid hid hfile (.inr hmetadata),
      glance_saveUntil_of_ne hid hid hfile (.inr hmetadata)]
    exact saved_eq_iff.1 h file hid hfile

theorem saveUnder_congr (d : Conditions) (h : s.outlook.saved id u = s.outlook.saved id t) :
    ((s.saveUnder d id attestation).run u).1 = ((s.saveUnder d id attestation).run t).1 ∧
      s.outlook.saved id ((s.saveUnder d id attestation).run u).2 =
        s.outlook.saved id ((s.saveUnder d id attestation).run t).2 := by
  by_cases hid : id.IsListable
  · have hshown := saved_eq_iff.1 h _ hid isName_metadataFile
    rw [saveUnder_of_listable hid, saveUnder_of_listable hid]
    exact ⟨congrArg (Except.mapError _) (saveUntil_congr hshown).1, saved_saveUntil hid h _⟩
  · rw [saveUnder_of_unlistable hid, saveUnder_of_unlistable hid]
    exact ⟨rfl, h⟩

theorem saveUnder_other (d : Conditions) (t : Tree) {other : ContractIdentity} (hne : other ≠ id) :
    s.outlook.saved other ((s.saveUnder d id attestation).run t).2 = s.outlook.saved other t := by
  by_cases hid : id.IsListable
  · rw [saveUnder_of_listable hid]
    exact saved_eq_iff.2 fun file hother hfile => glance_saveUntil_of_ne hid hother hfile (.inl hne)
  · rw [saveUnder_of_unlistable hid]

/-- The store answers about a contract by the contract's files. -/
theorem local_collaborators (s : ContractStore) (d : Conditions) :
    s.outlook.Local (s.collaborators d) where
  config _ := reads_ask isName_configFile fun _ _ h => readJson_congr h _ _
  hasMetadata _ := reads_ask isName_metadataFile fun _ _ h => hasMetadata_congr h
  input _ := reads_ask isName_inputFile fun _ _ h => readJson_congr h _ _
  compile _ _ _ t := .refl _ t
  compiled _ _ _ _ _ _ _ _ _ := rfl
  finish _ _ _ _ t := .refl _ t
  code id := reads_pure (d.code id)
  save _ _ _ _ h := saveUnder_congr d h
  save_other _ _ t _ hother := saveUnder_other d t hother
  save_journal _ _ _ := rfl

theorem hasMetadata_of_listable (hid : id.IsListable) (d : Conditions) (t : Tree) :
    (((s.collaborators d).hasMetadata id).run t).1 =
      (s.hasMetadata t id).mapError StoreFault.message := if_pos hid

/-- What a contract comes to in a tree, if it is not excluded. -/
theorem outcomeIn_of_config {d : Conditions} {settings : PipelineSettings} {config : ContractConfig}
    (hid : id.IsListable) (hforce : settings.force = false)
    (hconfig : (((s.collaborators d).config id).run t).1 = .ok config)
    (hskip : config.skip = false) : outcomeIn (s.collaborators d) settings t id =
      match s.hasMetadata t id with
      | .ok true => .jumped
      | .ok false => outcomeIn (s.collaborators d) { settings with force := true } t id
      | .error fault => .failed (.store fault.message) := by
  rw [outcomeIn_unforced (s.local_collaborators d) hforce hconfig hskip, hasMetadata_of_listable hid]
  cases s.hasMetadata t id with
  | error fault => rfl
  | ok kept => cases kept <;> rfl

theorem jumped_iff_hasMetadata {d : Conditions} {settings : PipelineSettings}
    {config : ContractConfig} (hid : id.IsListable) (hforce : settings.force = false)
    (hconfig : (((s.collaborators d).config id).run t).1 = .ok config)
    (hskip : config.skip = false) :
    outcomeIn (s.collaborators d) settings t id = .jumped ↔ s.hasMetadata t id = .ok true := by
  rw [outcomeIn_of_config hid hforce hconfig hskip]
  cases s.hasMetadata t id with
  | error fault => exact iff_of_false nofun nofun
  | ok kept =>
    cases kept with
    | true => exact iff_of_true rfl rfl
    | false => exact iff_of_false (outcomeIn_ne_jumped rfl id) (by decide)

/-- Saving leaves a contract's configuration as it was. -/
theorem config_saveUntil (hid : id.IsListable) (d d' : Conditions) (t : Tree)
    (attestation : Attestation) (trouble : Option Trouble) :
    (((s.collaborators d').config id).run (s.saveUntil t id attestation trouble).1).1 =
      (((s.collaborators d).config id).run t).1 := by
  have hconfig : s.config (s.saveUntil t id attestation trouble).1 id = s.config t id :=
    readJson_congr (glance_saveUntil_of_ne hid hid isName_configFile (.inr (by decide))) _ _
  change (ask id (s.config · id) _).1 = (ask id (s.config · id) t).1
  simp only [ask, hconfig]

/-- What a save leaves of a store, and what was written before it broke off. -/
structure Leaves (s : ContractStore) (t : Tree) (id : ContractIdentity) (attestation : Attestation)
    (written? : Option Bytes) (u : Tree) : Prop where
  unopened : written? = none → u = t
  opened : ∀ front, written? = some front → front <+: Bytes.ofText attestation.fileText ∧
    u.read (s.metadataPath id) = .ok front ∧ s.hasMetadata u id = .ok true
  others : ∀ other file, other.IsListable → Tree.IsName file →
    other ≠ id ∨ file ≠ metadataFile →
      u.glance (s.filePath other file) = t.glance (s.filePath other file)
  unseen : s.hasMetadata u id = s.hasMetadata t id ∧
      u.read (s.metadataPath id) = t.read (s.metadataPath id) ↔
    ∀ front, written? = some front → t.read (s.metadataPath id) = .ok front

theorem leaves_saveUntil (s : ContractStore) (hid : id.IsListable) (t : Tree)
    (attestation : Attestation) (trouble : Option Trouble) :
    s.Leaves t id attestation (s.written? t id attestation trouble)
      (s.saveUntil t id attestation trouble).1 where
  unopened hnone := by
    rcases s.saveUntil_cases t id attestation trouble with ⟨-, hleft⟩ | ⟨front, -, hfront, -⟩
    · exact hleft
    · cases hnone.symm.trans hfront
  opened front hfront := by
    rw [read_saveUntil, hasMetadata_saveUntil, hfront]
    rcases s.saveUntil_cases t id attestation trouble with
      ⟨hnone, -⟩ | ⟨written, -, hwritten, hpoured, -⟩
    · cases hnone.symm.trans hfront
    · obtain rfl := Option.some.inj (hwritten.symm.trans hfront)
      exact ⟨hpoured, rfl, rfl⟩
  others _ _ hother hfile hne := glance_saveUntil_of_ne hid hother hfile hne
  unseen := s.unseen_iff t id attestation trouble

theorem settle_of_failed {d : Conditions} {settings : PipelineSettings} {fault : StoreFault}
    (hid : id.IsListable) (hsave : settings.saveMetadata = true)
    (hfailed : (s.saveUntil t id attestation (d.trouble id)).2 = .error fault) (verdict : Verdict) :
    (settle (s.collaborators d) settings id (.verified verdict attestation)).run t =
      (.failed (.store fault.message), (s.saveUntil t id attestation (d.trouble id)).1) := by
  have hattested : attestation? settings (.verified verdict attestation) = some attestation :=
    if_pos hsave
  have hsaving : ((s.collaborators d).save id attestation).run t = _ :=
    saveUnder_of_listable hid d t
  rw [run_settle, hattested]
  dsimp only
  rw [hsaving, hfailed]
  rfl

/-- Without force a contract is verified only if it has no metadata. -/
theorem hasMetadata_of_verified {d : Conditions} {settings : PipelineSettings} {verdict : Verdict}
    (hid : id.IsListable) (hforce : settings.force = false)
    (h : outcomeIn (s.collaborators d) settings t id = .verified verdict attestation) :
    s.hasMetadata t id = .ok false := by
  obtain ⟨config, hconfig, hskip⟩ := exists_config_of_outcomeIn (h.trans_ne nofun)
    fun _ => h.trans_ne nofun
  rw [outcomeIn_of_config hid hforce hconfig hskip] at h
  cases hkept : s.hasMetadata t id with
  | error fault =>
    rw [hkept] at h
    cases h
  | ok kept =>
    cases kept with
    | true =>
      rw [hkept] at h
      cases h
    | false => rfl

def Passes (s : ContractStore) (d : Conditions) (settings : PipelineSettings) (t : Tree)
    (course : Course Tree) : Prop :=
  ∃ ids result, ids.Nodup ∧ Runs (s.collaborators d) settings ids t result course

/-- A run comes with a contract to what it comes to in any tree that shows the same of it. -/
theorem Passes.outcome_eq {d : Conditions} {settings : PipelineSettings} {course : Course Tree}
    (h : s.Passes d settings t course)
    (hshown : s.outlook.saved id t = s.outlook.saved id u) {report : Report}
    (hreport : report ∈ course.reports) (hid : report.id = id) :
    report.outcome = outcomeIn (s.collaborators d) settings u id := by
  obtain ⟨ids, result, hdistinct, hrun⟩ := h
  have hlocal := s.local_collaborators d
  rw [(hrun.settled_of_report hlocal hdistinct hreport).1, hid]
  exact (hlocal.verifyContract settings.force id).answer t u hshown

/-- In a run a verified contract that cannot be saved fails and is counted so, and what is
there of it afterwards is what the save has left. -/
theorem Passes.fails {d : Conditions} {settings : PipelineSettings} {course : Course Tree}
    {fault : StoreFault} (h : s.Passes d settings t course) {report : Report} {verdict : Verdict}
    (hid : report.id.IsListable) (hsave : settings.saveMetadata = true)
    (hfailed : (s.saveUntil t report.id attestation (d.trouble report.id)).2 = .error fault)
    (hreport : report ∈ course.reports) (hverified : report.outcome = .verified verdict attestation) :
    settledIn (s.collaborators d) settings t report.id = .failed (.store fault.message) ∧
      0 < course.summary.failed ∧ s.outlook.saved report.id course.world =
        s.outlook.saved report.id
          (s.saveUntil t report.id attestation (d.trouble report.id)).1 := by
  obtain ⟨ids, result, hdistinct, hrun⟩ := h
  obtain ⟨houtcome, hsaved, taken, htaken, hsummary⟩ :=
    hrun.settled_of_report (s.local_collaborators d) hdistinct hreport
  have hsettle := settle_of_failed hid hsave hfailed verdict
  have hsettled : settledIn (s.collaborators d) settings t report.id =
      .failed (.store fault.message) := by
    rw [settledIn, ← houtcome, hverified, hsettle]
  refine ⟨hsettled, ?_, ?_⟩
  · rw [hsummary]
    exact failed_pos_of_mem (List.mem_map.2 ⟨report.id, htaken, hsettled⟩)
  · rw [hsaved, hverified, hsettle]

/-- How two runs over a store deal with a contract that is verified in the first one and
cannot be saved then. -/
structure Retries (s : ContractStore) (d d' : Conditions) (settings settings' : PipelineSettings)
    (t : Tree) (id : ContractIdentity) (opened : Bool) (fault : StoreFault)
    (course later : Course Tree) : Prop where
  settled : settledIn (s.collaborators d) settings t id = .failed (.store fault.message)
  counted : 0 < course.summary.failed
  unsaved : settings.force = false → s.hasMetadata t id = .ok false
  /-- Where the file was not opened, the second run does as if the first had not been. -/
  again : ∀ report ∈ later.reports, report.id = id → report.outcome =
    if opened then .jumped else outcomeIn (s.collaborators d') settings' t id
  jumped_iff : ∀ report ∈ later.reports, report.id = id →
    (report.outcome = .jumped ↔ opened = true ∨ s.hasMetadata t id = .ok true)

/-- A failed save goes unseen where it did not open the file, and otherwise only if the file
held what was written of it. Where it was opened, what was saved before is lost, a front of
the content is in its place, and the next run leaves the contract alone, though it was
counted as failed. Otherwise nothing has changed, and the next run verifies the contract
again if it had no metadata before. -/
theorem failed_save_jumped_iff_opened (s : ContractStore) (t : Tree) (hid : id.IsListable)
    (attestation : Attestation) (trouble : Option Trouble) {fault : StoreFault}
    (hfailed : (s.saveUntil t id attestation trouble).2 = .error fault) :
    s.Leaves t id attestation (s.written? t id attestation trouble)
        (s.saveUntil t id attestation trouble).1 ∧
      ∀ (d d' : Conditions) (settings settings' : PipelineSettings) (course later : Course Tree),
        s.Passes d settings t course → s.Passes d' settings' course.world later →
        settings.saveMetadata = true → settings'.force = false → d.trouble id = trouble →
        ∀ report ∈ course.reports, report.id = id →
          (∃ verdict, report.outcome = .verified verdict attestation) →
          s.Retries d d' settings settings' t id (s.written? t id attestation trouble).isSome fault
            course later := by
  refine ⟨s.leaves_saveUntil hid t attestation trouble, ?_⟩
  rintro d d' settings settings' course later hfirst hsecond hsave hforce rfl report hreport rfl
    ⟨verdict, hverified⟩
  have hleaves := s.leaves_saveUntil hid t attestation (d.trouble report.id)
  have houtcome := (hfirst.outcome_eq rfl hreport rfl).symm.trans hverified
  obtain ⟨hsettled, hcounted, hshown⟩ := hfirst.fails hid hsave hfailed hreport hverified
  obtain ⟨config, hconfig, hskip⟩ := exists_config_of_outcomeIn (houtcome.trans_ne nofun)
    fun _ => houtcome.trans_ne nofun
  -- The second run finds of the contract what the save has left.
  have hconfig' := (config_saveUntil hid d d' t attestation (d.trouble report.id)).trans hconfig
  have hjumped := jumped_iff_hasMetadata hid hforce hconfig' hskip
  rw [hasMetadata_saveUntil] at hjumped
  refine ⟨hsettled, hcounted, fun hunforced => hasMetadata_of_verified hid hunforced houtcome,
    fun next hnext hsame => ?_, fun next hnext hsame => ?_⟩
  · rw [hsecond.outcome_eq hshown hnext hsame]
    split_ifs with hopened
    · rw [hopened] at hjumped
      exact hjumped.2 rfl
    · rw [hleaves.unopened (Option.not_isSome_iff_eq_none.1 hopened)]
  · rw [hsecond.outcome_eq hshown hnext hsame, hjumped]
    split_ifs with hopened
    · simp [hopened]
    · simp [hopened]

def vaulted : Tree :=
  (((Tree.empty.set ["1"] .directory).set ["1", "0xa"] .directory).set ["1", "0xa", configFile]
    (.file (Bytes.ofText "\x7b\"contractName\":\"Vault\",\"compiler\":\"v0.8.9\"\x7d") false)).set
      ["1", "0xa", inputFile] (.file (Bytes.ofText "null") false)

def fullDisk : Trouble := ⟨.behind 0, "No space left on device (os error 28)"⟩

def spaceless : Conditions where
  compiled _ _ _ := (CompilerOutput.contracts? (.object [("contracts", .object [("vault.sol",
    .object [("Vault", .object [("evm", .object [("deployedBytecode", .object
      [("object", .string "00")])])])])])])).map Prod.fst
  latency _ := 0
  code _ := .ok [0]
  trouble _ := some fullDisk

def vaultRun (t : Tree) : Finished Tree :=
  runFor ((⟨"/"⟩ : ContractStore).collaborators spaceless) ⟨1, 16, false, true, false⟩
    [⟨1, "0xa"⟩] t

def vaultFault : StoreFault :=
  ⟨.writing, "/1/0xa/metadata.json", "No space left on device (os error 28)"⟩

theorem saveUntil_fullDisk (attestation : Attestation) :
    (⟨"/"⟩ : ContractStore).saveUntil vaulted ⟨1, "0xa"⟩ attestation (some fullDisk) =
      (vaulted.set ["1", "0xa", metadataFile] (.file [] false), .error vaultFault) := by
  have htarget : vaulted.target ((⟨"/"⟩ : ContractStore).metadataPath ⟨1, "0xa"⟩) =
      .ok ["1", "0xa", metadataFile] := by decide +kernel
  rw [saveUntil_eq, htarget]
  rfl

/-- The contract fails as its metadata cannot be saved, has its metadata from then on and
is left alone. -/
theorem unsaved_contract_jumped :
    (∀ attestation, ∃ left,
      (⟨"/"⟩ : ContractStore).saveUntil vaulted ⟨1, "0xa"⟩ attestation (some fullDisk) =
        (left, .error vaultFault) ∧
      (⟨"/"⟩ : ContractStore).hasMetadata vaulted ⟨1, "0xa"⟩ = .ok false ∧
      (⟨"/"⟩ : ContractStore).hasMetadata left ⟨1, "0xa"⟩ = .ok true) ∧
    (vaultRun vaulted).result = .ok { failed := 1 } ∧
    (vaultRun (vaultRun vaulted).course.world).result = .ok { jumped := 1 } := by
  refine ⟨fun attestation => ⟨_, saveUntil_fullDisk attestation, ?_, ?_⟩, ?_, ?_⟩
  · decide +kernel
  · decide +kernel
  · decide +kernel
  · decide +kernel

theorem unsaved_vault_jumped :
    ∃ attestation, ∃ report ∈ (vaultRun vaulted).course.reports,
      (∃ verdict, report.outcome = .verified verdict attestation) ∧
      (⟨"/"⟩ : ContractStore).Retries spaceless spaceless ⟨1, 16, false, true, false⟩
        ⟨1, 16, false, true, false⟩ vaulted ⟨1, "0xa"⟩ true vaultFault
        (vaultRun vaulted).course (vaultRun (vaultRun vaulted).course.world).course := by
  have hreported : (vaultRun vaulted).course.reports.any (fun report =>
      report.id = ⟨1, "0xa"⟩ && report.outcome.label = "verified") = true := by decide +kernel
  obtain ⟨report, hreport, hverified⟩ := List.any_eq_true.1 hreported
  obtain ⟨hid, hlabel⟩ := by simpa using hverified
  obtain ⟨verdict, attestation, houtcome⟩ :
      ∃ verdict attestation, report.outcome = .verified verdict attestation := by
    cases houtcome : report.outcome with
    | verified verdict attestation => exact ⟨verdict, attestation, rfl⟩
    | skipped | jumped | unverified | failed => simp [houtcome, ItemOutcome.label] at hlabel
  have hfailed := congrArg Prod.snd (saveUntil_fullDisk attestation)
  have hpasses (t : Tree) : (⟨"/"⟩ : ContractStore).Passes spaceless ⟨1, 16, false, true, false⟩ t
      (vaultRun t).course := ⟨[⟨1, "0xa"⟩], (vaultRun t).result, by decide, .clocked⟩
  refine ⟨attestation, report, hreport, ⟨verdict, houtcome⟩, ?_⟩
  exact (failed_save_jumped_iff_opened ⟨"/"⟩ vaulted (by decide) attestation (some fullDisk)
    hfailed).2 spaceless spaceless _ _ _ _ (hpasses _) (hpasses _) rfl rfl rfl report hreport hid
    ⟨verdict, houtcome⟩

end ContractStore

end Provenance
