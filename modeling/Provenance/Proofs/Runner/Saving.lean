import Provenance.Proofs.Files.Writing
import Provenance.Proofs.Runner.Listing

/-!
Saving where writing the file may break off. The file is emptied when it is opened and then
filled from the front, so a save that breaks off behind this leaves a front of the content
in the place of what was there. Whether a contract has its metadata is asked of the file's
name alone, so it has it then, as after a save that went well. Only a save that does not
open the file leaves the store as it was.
-/

namespace Provenance

open Files

/-- Where writing a file breaks off: before it is opened, or behind so many bytes. -/
inductive Break where
  | opening
  | behind (written : Nat)
  deriving DecidableEq, Repr

structure Trouble where
  stop : Break
  reason : String
  deriving DecidableEq, Repr

namespace ContractStore

variable {s : ContractStore} {t u : Tree} {place : Place} {id other : ContractIdentity}
  {attestation : Attestation} {trouble : Option Trouble} {file : String}

def metadataPath (s : ContractStore) (id : ContractIdentity) : String := s.filePath id metadataFile

def poured? (attestation : Attestation) (trouble : Option Trouble) : Option Bytes :=
  let content := Bytes.ofText attestation.fileText
  match trouble with
  | none => some content
  | some ⟨.opening, _⟩ => none
  | some ⟨.behind written, _⟩ => some (content.take written)

def ending (s : ContractStore) (id : ContractIdentity) : Option Trouble → Except StoreFault Unit
  | none => .ok ()
  | some trouble => .error ⟨.writing, s.metadataPath id, trouble.reason⟩

def saveUntil (s : ContractStore) (t : Tree) (id : ContractIdentity) (attestation : Attestation)
    (trouble : Option Trouble) : Tree × Except StoreFault Unit :=
  match poured? attestation trouble with
  | none => (t, s.ending id trouble)
  | some front =>
    match report .writing (s.metadataPath id) (t.write (s.metadataPath id) front) with
    | .ok u => (u, s.ending id trouble)
    | .error fault => (t, .error fault)

/-- Without trouble it is the store's own way to save. -/
theorem saveUntil_none (s : ContractStore) (t : Tree) (id : ContractIdentity)
    (attestation : Attestation) : s.saveUntil t id attestation none =
      match s.saveMetadata t id attestation with
      | .ok u => (u, .ok ())
      | .error fault => (t, .error fault) := by
  have hsave : s.saveMetadata t id attestation = report .writing (s.metadataPath id)
      (t.write (s.metadataPath id) (Bytes.ofText attestation.fileText)) := by
    rw [saveMetadata, metadataPath]
  simp only [saveUntil, poured?, ending, hsave]

theorem saveUntil_eq (s : ContractStore) (t : Tree) (id : ContractIdentity)
    (attestation : Attestation) (trouble : Option Trouble) :
    s.saveUntil t id attestation trouble =
      match poured? attestation trouble, t.target (s.metadataPath id) with
      | none, _ => (t, s.ending id trouble)
      | some _, .error cause => (t, .error ⟨.writing, s.metadataPath id, cause.message⟩)
      | some front, .ok place =>
        (t.set place (.file front (t.modeAt place)), s.ending id trouble) := by
  unfold saveUntil
  cases poured? attestation trouble with
  | none => rfl
  | some front =>
    simp only [Tree.write_eq]
    cases t.target (s.metadataPath id) <;> rfl

/-- What is in the file when writing broke off, if it was opened. -/
def written? (s : ContractStore) (t : Tree) (id : ContractIdentity) (attestation : Attestation)
    (trouble : Option Trouble) : Option Bytes :=
  match t.target (s.metadataPath id) with
  | .ok _ => poured? attestation trouble
  | .error _ => none

theorem isPrefix_of_poured? {front : Bytes} (h : poured? attestation trouble = some front) :
    front <+: Bytes.ofText attestation.fileText := by
  unfold poured? at h
  rcases trouble with _ | ⟨_ | written, reason⟩
  · rw [← Option.some.inj h]
  · cases h
  · rw [← Option.some.inj h]
    exact List.take_prefix _ _

/-- What a save comes to: nothing was opened and nothing changed, or the file is there with
what was written. -/
theorem saveUntil_cases (s : ContractStore) (t : Tree) (id : ContractIdentity)
    (attestation : Attestation) (trouble : Option Trouble) :
    (s.written? t id attestation trouble = none ∧
        (s.saveUntil t id attestation trouble).1 = t) ∨
      ∃ front place, s.written? t id attestation trouble = some front ∧
        front <+: Bytes.ofText attestation.fileText ∧
        t.target (s.metadataPath id) = .ok place ∧
        (s.saveUntil t id attestation trouble).1 =
          t.set place (.file front (t.modeAt place)) := by
  have hsave := s.saveUntil_eq t id attestation trouble
  unfold written?
  cases hpoured : poured? attestation trouble with
  | none =>
    rw [hpoured] at hsave
    refine .inl ⟨?_, congrArg Prod.fst hsave⟩
    cases t.target (s.metadataPath id) with
    | error cause => rfl
    | ok place => rfl
  | some front =>
    rw [hpoured] at hsave
    cases htarget : t.target (s.metadataPath id) with
    | error cause =>
      rw [htarget] at hsave
      exact .inl ⟨rfl, congrArg Prod.fst hsave⟩
    | ok place =>
      rw [htarget] at hsave
      exact .inr ⟨front, place, rfl, isPrefix_of_poured? hpoured, rfl, congrArg Prod.fst hsave⟩

/-- What the metadata's path shows of the tree that a save leaves. -/
theorem glance_saveUntil (s : ContractStore) (t : Tree) (id : ContractIdentity)
    (attestation : Attestation) (trouble : Option Trouble) :
    (s.written? t id attestation trouble = none ∧
        (s.saveUntil t id attestation trouble).1 = t) ∨
      ∃ front executable, s.written? t id attestation trouble = some front ∧
        (s.saveUntil t id attestation trouble).1.glance (s.metadataPath id) =
          .ok (some (.file front executable)) := by
  rcases s.saveUntil_cases t id attestation trouble with
    hnone | ⟨front, place, hfront, -, htarget, hleft⟩
  · exact .inl hnone
  · exact .inr ⟨front, _, hfront, by rw [hleft, Tree.glance_set_file htarget]⟩

theorem hasMetadata_of_file {front : Bytes} {executable : Bool}
    (h : t.glance (s.metadataPath id) = .ok (some (.file front executable))) :
    s.hasMetadata t id = .ok true := by
  have hexists : t.exists? (s.filePath id metadataFile) = .ok true := Tree.exists?_of_file h
  simp only [hasMetadata, hexists, report, Except.mapError]

theorem hasMetadata_congr (h : u.glance (s.metadataPath id) = t.glance (s.metadataPath id)) :
    s.hasMetadata u id = s.hasMetadata t id := by
  have hexists : u.exists? (s.filePath id metadataFile) = t.exists? (s.filePath id metadataFile) :=
    Tree.exists?_of_glance h
  simp only [hasMetadata, hexists]

/-- Behind a save there is metadata if the file was opened, or if there was some. -/
theorem hasMetadata_saveUntil (s : ContractStore) (t : Tree) (id : ContractIdentity)
    (attestation : Attestation) (trouble : Option Trouble) :
    s.hasMetadata (s.saveUntil t id attestation trouble).1 id =
      if (s.written? t id attestation trouble).isSome then .ok true else s.hasMetadata t id := by
  rcases s.glance_saveUntil t id attestation trouble with
    ⟨hnone, hleft⟩ | ⟨front, executable, hfront, hglance⟩
  · rw [hnone, hleft]
    rfl
  · rw [hfront, hasMetadata_of_file hglance]
    rfl

theorem read_saveUntil (s : ContractStore) (t : Tree) (id : ContractIdentity)
    (attestation : Attestation) (trouble : Option Trouble) :
    (s.saveUntil t id attestation trouble).1.read (s.metadataPath id) =
      match s.written? t id attestation trouble with
      | some front => .ok front
      | none => t.read (s.metadataPath id) := by
  rcases s.glance_saveUntil t id attestation trouble with
    ⟨hnone, hleft⟩ | ⟨front, executable, hfront, hglance⟩
  · rw [hnone, hleft]
  · rw [hfront, Tree.read_of_file hglance]

theorem exists?_of_read {path : String} {content : Bytes} (h : t.read path = .ok content) :
    t.exists? path = .ok true := by
  obtain ⟨place, executable, hlocate, hnode⟩ := Tree.read_eq_ok_iff.1 h
  exact Tree.exists?_eq_true_iff.2 ⟨place, hlocate, by rw [hnode, Option.isSome_some]⟩

theorem hasMetadata_of_read {content : Bytes} (h : t.read (s.metadataPath id) = .ok content) :
    s.hasMetadata t id = .ok true := by
  have hexists : t.exists? (s.filePath id metadataFile) = .ok true := exists?_of_read h
  simp only [hasMetadata, hexists, report, Except.mapError]

/-- A save goes unseen exactly if the file was not opened, or already was what the save
made of it. -/
theorem unseen_iff (s : ContractStore) (t : Tree) (id : ContractIdentity)
    (attestation : Attestation) (trouble : Option Trouble) :
    (s.hasMetadata (s.saveUntil t id attestation trouble).1 id = s.hasMetadata t id ∧
      (s.saveUntil t id attestation trouble).1.read (s.metadataPath id) =
        t.read (s.metadataPath id)) ↔
      ∀ front, s.written? t id attestation trouble = some front →
        t.read (s.metadataPath id) = .ok front := by
  rw [hasMetadata_saveUntil, read_saveUntil]
  cases hfront : s.written? t id attestation trouble with
  | none => simp
  | some front =>
    simp only [Option.isSome_some, if_true, Option.some.injEq, forall_eq']
    constructor
    · exact fun hsame => hsame.2.symm
    · exact fun hread => ⟨(hasMetadata_of_read hread).symm, hread.symm⟩

/-! Other files -/

theorem isName_configFile : Tree.IsName configFile := by decide

theorem isName_inputFile : Tree.IsName inputFile := by decide

theorem isName_metadataFile : Tree.IsName metadataFile := by decide

/-- Writing metadata changes no other file of a contract, and none of another. -/
theorem glance_filePath_of_save (hid : id.IsListable) (hother : other.IsListable)
    (hfile : Tree.IsName file) (hne : other ≠ id ∨ file ≠ metadataFile)
    (htarget : t.target (s.metadataPath id) = .ok place) {content : Bytes} {executable : Bool} :
    (t.set place (.file content executable)).glance (s.filePath other file) =
      t.glance (s.filePath other file) := by
  obtain ⟨hlocate, hplace⟩ := Tree.target_eq_ok_iff.1 htarget
  obtain ⟨home, hhome, rfl⟩ := exists_home_of_locate_filePath hid isName_metadataFile hlocate
  have hhome' : (t.set _ (.file content executable)).walk [] s.above = .ok home :=
    Tree.walk_of_directories (fun hthere => (Tree.directory_set_file hplace).2 hthere) hhome
  refine Tree.glance_congr ?_
  rw [namesOf_filePath hother hfile, Tree.reach_append hhome', Tree.reach_append hhome]
  refine Tree.reach_congr ?_ fun front hfront => ?_
  · exact List.forall_mem_cons.2 ⟨(isName_toString hother.chain).unmarked,
      List.forall_mem_cons.2 ⟨hother.address.unmarked, List.forall_mem_singleton.2 hfile.unmarked⟩⟩
  · rw [Tree.node?_set, if_neg]
    intro heq
    -- The place of the metadata is as deep as the files are, so all of their names agree.
    obtain rfl := List.append_cancel_left heq
    obtain ⟨hchain, haddress, hname⟩ : toString id.chain = toString other.chain ∧
        id.address = other.address ∧ metadataFile = file := by
      simpa using hfront.eq_of_length rfl
    rcases hne with hne | hne
    · cases id
      cases other
      exact hne (ContractIdentity.mk.injEq .. ▸ ⟨(Nat.repr_inj.1 hchain).symm, haddress.symm⟩)
    · exact hne hname.symm

/-- Saving changes no other file of a contract, and none of another. -/
theorem glance_saveUntil_of_ne (hid : id.IsListable) (hother : other.IsListable)
    (hfile : Tree.IsName file) (hne : other ≠ id ∨ file ≠ metadataFile) :
    (s.saveUntil t id attestation trouble).1.glance (s.filePath other file) =
      t.glance (s.filePath other file) := by
  rcases s.saveUntil_cases t id attestation trouble with
    ⟨-, hleft⟩ | ⟨front, place, -, -, htarget, hleft⟩
  · rw [hleft]
  · rw [hleft, glance_filePath_of_save hid hother hfile hne htarget]

/-- What saving comes to depends on what the metadata's path shows alone. -/
theorem saveUntil_congr (h : u.glance (s.metadataPath id) = t.glance (s.metadataPath id)) :
    (s.saveUntil u id attestation trouble).2 = (s.saveUntil t id attestation trouble).2 ∧
      (s.saveUntil u id attestation trouble).1.glance (s.metadataPath id) =
        (s.saveUntil t id attestation trouble).1.glance (s.metadataPath id) := by
  have hu := s.saveUntil_eq u id attestation trouble
  have ht := s.saveUntil_eq t id attestation trouble
  cases hpoured : poured? attestation trouble with
  | none =>
    rw [hpoured] at hu ht
    rw [hu, ht]
    exact ⟨rfl, h⟩
  | some front =>
    rw [hpoured] at hu ht
    rcases Tree.target_cases_of_glance h with
      ⟨cause, hcause, hcause'⟩ | ⟨place, place', hplace, hplace', hmode⟩
    · rw [hcause] at hu
      rw [hcause'] at ht
      rw [hu, ht]
      exact ⟨rfl, h⟩
    · rw [hplace] at hu
      rw [hplace'] at ht
      rw [hu, ht]
      refine ⟨rfl, ?_⟩
      change Tree.glance (u.set place _) _ = Tree.glance (t.set place' _) _
      rw [Tree.glance_set_file hplace, Tree.glance_set_file hplace', hmode]

end ContractStore

end Provenance
