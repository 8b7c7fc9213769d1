import Provenance.Proofs.Files.Soundness
import Provenance.Proofs.Success
import Provenance.Proofs.Text.Decimal
import Provenance.Runner.Store

/-!
Which contracts a store lists. A directory is that of a chain if its name reads as a
number, and zeros and a plus sign in front of a number do not change what is read. So a
contract is listed once for every such directory in which it has one, while its own path
is made of the number as it is written. The two fit together exactly if every chain's
directory has the number's own numeral for its name.
-/

namespace Provenance

open Files

/-- Digits are one byte each. -/
theorem utf8Len_of_digits {cs : List Char} (h : ∀ c ∈ cs, Ascii.isDigit c = true) :
    String.utf8Len cs = cs.length := by
  induction cs with
  | nil => rfl
  | cons c cs ih =>
    obtain ⟨hc, hcs⟩ := List.forall_mem_cons.1 h
    have hone : c.utf8Size = 1 := by
      rw [Char.utf8Size_eq_one_iff, UInt32.le_iff_toNat_le]
      exact Nat.le_trans (Unsigned.toNat_of_isDigit hc).2 (by decide)
    rw [String.utf8Len_cons, ih hcs, hone, List.length_cons]

namespace ContractIdentity

variable {a b c : ContractIdentity} {ids : List ContractIdentity}

theorem before_iff :
    a.before b = true ↔ toLex (a.chain, a.address) < toLex (b.chain, b.address) := by
  simp [before, Prod.Lex.toLex_lt_toLex]

theorem eq_of_toLex_eq (h : toLex (a.chain, a.address) = toLex (b.chain, b.address)) : a = b := by
  obtain ⟨hchain, haddress⟩ := Prod.mk.inj (toLex_inj.1 h)
  cases a
  cases b
  simp_all

theorem not_before_trans (hab : b.before a = false) (hbc : c.before b = false) :
    c.before a = false := by
  rw [← Bool.not_eq_true, before_iff, not_lt] at hab hbc ⊢
  exact hab.trans hbc

theorem before_or_eq (h : b.before a = false) : a.before b = true ∨ a = b := by
  rw [← Bool.not_eq_true, before_iff, not_lt] at h
  rw [before_iff]
  exact h.lt_or_eq.imp_right eq_of_toLex_eq

theorem before_self (a : ContractIdentity) : a.before a = false := by
  rw [← Bool.not_eq_true, before_iff]
  exact lt_irrefl _

theorem before_asymm (h : a.before b = true) : b.before a = false := by
  rw [← Bool.not_eq_true, before_iff]
  exact lt_asymm (before_iff.1 h)

/-- A sorted list does not go back. -/
theorem pairwise_sorted (ids : List ContractIdentity) :
    (sorted ids).Pairwise fun a b => b.before a = false := by
  have htrans (a b c : ContractIdentity) (hab : (!b.before a) = true) (hbc : (!c.before b) = true) :
      (!c.before a) = true := by
    simp only [Bool.not_eq_true'] at hab hbc ⊢
    exact not_before_trans hab hbc
  have htotal (a b : ContractIdentity) : (!b.before a || !a.before b) = true := by
    cases hba : b.before a with
    | false => rfl
    | true => simp [before_asymm hba]
  simpa [sorted] using List.pairwise_mergeSort htrans htotal ids

theorem count_sorted (id : ContractIdentity) (ids : List ContractIdentity) :
    (sorted ids).count id = ids.count id :=
  (List.mergeSort_perm _ _).count_eq id

/-- What does not go back goes on at every step if nothing is repeated. -/
theorem pairwise_before_iff (h : ids.Pairwise fun a b => b.before a = false) :
    (ids.Pairwise fun a b => a.before b = true) ↔ ids.Nodup := by
  constructor
  · refine List.Pairwise.imp fun {a b} hab => ?_
    rintro rfl
    rw [before_self] at hab
    cases hab
  · intro hnodup
    exact (h.and hnodup).imp fun ⟨hab, hne⟩ => (before_or_eq hab).resolve_right hne

end ContractIdentity

structure ContractIdentity.IsListable (id : ContractIdentity) : Prop where
  chain : id.chain < 2 ^ 64
  address : Tree.IsName id.address

instance (id : ContractIdentity) : Decidable id.IsListable :=
  decidable_of_iff (id.chain < 2 ^ 64 ∧ Tree.IsName id.address)
    ⟨fun h => ⟨h.1, h.2⟩, fun h => ⟨h.1, h.2⟩⟩

namespace ContractStore

variable {s : ContractStore} {t : Tree} {home : Place} {id : ContractIdentity}
  {place : Place} {directory name path : String} {directories : List String} {ids : List ContractIdentity}

/-- A directory in the directory at a place that is named by the number of a contract's
chain, with a directory of the contract's address in it. -/
def HasContract (t : Tree) (home : Place) (id : ContractIdentity) (directory : String) : Prop :=
  Unsigned.parse directory.toList = .ok id.chain ∧
    t.node? (home ++ [directory, id.address]) = some .directory

instance (t : Tree) (home : Place) (id : ContractIdentity) (directory : String) :
    Decidable (HasContract t home id directory) := inferInstanceAs (Decidable (_ ∧ _))

def IsReachable (s : ContractStore) (directory : String) : Prop :=
  ∀ chain, Unsigned.parse directory.toList = .ok chain →
    (joinPath s.root directory).utf8ByteSize ≤ Tree.maxPath

namespace HasContract

theorem chain_lt (h : HasContract t home id directory) : id.chain < 2 ^ 64 := by
  rcases Unsigned.parse_eq_ok_iff.1 h.1 with hnumeral | ⟨digits, -, hnumeral⟩
  · exact hnumeral.fits
  · exact hnumeral.fits

theorem node?_below (hhas : HasContract t home id directory) :
    t.node? (home ++ [directory] ++ [id.address]) = some .directory := by
  rw [List.append_assoc, List.singleton_append, hhas.2]

theorem node?_directory (h : t.IsSound) (hhas : HasContract t home id directory) :
    t.node? (home ++ [directory]) = some .directory :=
  h.above (by rw [hhas.node?_below, Option.isSome_some])

theorem isListable (h : t.IsSound) (hhas : HasContract t home id directory) : id.IsListable :=
  ⟨hhas.chain_lt, h.isName (by rw [hhas.node?_below, Option.isSome_some])⟩

theorem isName_directory (h : t.IsSound) (hhas : HasContract t home id directory) :
    Tree.IsName directory :=
  h.isName (by rw [hhas.node?_directory h, Option.isSome_some])

end HasContract

/-! Listing -/

/-- The directories in a directory are those of the tree, each once. -/
theorem exists_subdirectories (h : t.IsSound) (hlocate : t.locate path = .ok home)
    (hdirectory : t.node? home = some .directory) :
    ∃ names, subdirectories t path = .ok names ∧ names.Nodup ∧
      ∀ name, name ∈ names ↔ t.node? (home ++ [name]) = some .directory := by
  have hlist : t.list path = .ok (t.children home) := by
    simp only [Tree.list, hlocate, bind, Except.bind, hdirectory]
  have hnames : subdirectories t path = .ok
      ((((t.children home).filter fun child => child.2 = .directory).map Prod.fst).mergeSort
        fun a b => !(b < a)) := by
    simp only [subdirectories, hlist, report, Except.mapError, bind, Except.bind]
  refine ⟨_, hnames, (List.mergeSort_perm _ _).nodup_iff.2 ?_, fun name => ?_⟩
  · exact h.nodup_names.sublist (List.filter_sublist.map _)
  · rw [(List.mergeSort_perm _ _).mem_iff]
    simp [h.mem_children_iff]

theorem subdirectories_of_tooLong (hlocate : t.locate path = .error .nameTooLong) :
    subdirectories t path = .error ⟨.listing, path, Fault.nameTooLong.message⟩ := by
  simp only [subdirectories, Tree.list, hlocate, report, Except.mapError, bind, Except.bind]

def contractsOf (s : ContractStore) (t : Tree) (directory : String) :
    Except StoreFault (List ContractIdentity) :=
  match Unsigned.parse directory.toList with
  | .error _ => .ok []
  | .ok chain => s.listChain t chain directory

theorem listChains_cons (s : ContractStore) (t : Tree) (directory : String)
    (rest : List String) : s.listChains t (directory :: rest) = (do
      let contracts ← s.contractsOf t directory
      let others ← s.listChains t rest
      .ok (contracts ++ others)) := by
  rw [listChains, contractsOf]
  cases Unsigned.parse directory.toList with
  | error fault => cases s.listChains t rest <;> rfl
  | ok chain => rfl

theorem mem_map_mk {names : List String} {chain : Nat} :
    id ∈ names.map (ContractIdentity.mk chain) ↔ id.chain = chain ∧ id.address ∈ names := by
  rw [List.mem_map]
  constructor
  · rintro ⟨address, haddress, rfl⟩
    exact ⟨rfl, haddress⟩
  · rintro ⟨rfl, haddress⟩
    exact ⟨id.address, haddress, rfl⟩

/-- A directory adds each of its contracts once, unless its path is too long. -/
theorem contractsOf_cases (h : t.IsSound) (hhome : t.locate s.root = .ok home)
    (hdirectory : t.node? (home ++ [directory]) = some .directory) :
    (¬ s.IsReachable directory ∧ ∃ fault, s.contractsOf t directory = .error fault) ∨
      s.IsReachable directory ∧ ∃ ids, s.contractsOf t directory = .ok ids ∧
        ∀ id, ids.count id = if HasContract t home id directory then 1 else 0 := by
  unfold contractsOf IsReachable
  cases hchain : Unsigned.parse directory.toList with
  | error fault =>
    have hnone (id : ContractIdentity) : ¬ HasContract t home id directory := by
      rintro ⟨hparse, -⟩
      rw [hchain] at hparse
      cases hparse
    exact .inr ⟨nofun, [], rfl, fun id => by rw [if_neg (hnone id), List.count_nil]⟩
  | ok chain =>
    have hsome : (t.node? (home ++ [directory])).isSome := by
      rw [hdirectory, Option.isSome_some]
    have hlocate := Tree.locate_joinPath (h.isName hsome) hhome (h.above hsome)
    split_ifs at hlocate with hlong
    · refine .inl ⟨fun hshort => Nat.not_le.2 hlong (hshort chain rfl),
        ⟨.listing, joinPath s.root directory, Fault.nameTooLong.message⟩, ?_⟩
      simp only [listChain, subdirectories_of_tooLong hlocate, bind, Except.bind]
    · obtain ⟨names, hnames, hnodup, hmem⟩ := exists_subdirectories h hlocate hdirectory
      refine .inr ⟨fun _ _ => Nat.not_lt.1 hlong, names.map (ContractIdentity.mk chain), ?_,
        fun id => ?_⟩
      · simp only [listChain, hnames, bind, Except.bind]
      · have hmk : Function.Injective (ContractIdentity.mk chain) :=
          fun _ _ hab => (ContractIdentity.mk.inj hab).2
        have hplace : home ++ [directory] ++ [id.address] = home ++ [directory, id.address] := by
          rw [List.append_assoc, List.singleton_append]
        have hmem : id ∈ names.map (ContractIdentity.mk chain) ↔
            HasContract t home id directory := by
          rw [mem_map_mk, hmem, hplace, HasContract, hchain, Except.ok.injEq, eq_comm]
        rw [(hnodup.map hmk).count]
        exact if_congr hmem rfl rfl

/-- Over the directories, a contract is listed as often as it is found, and the listing
fails at the first path that is too long. -/
theorem listChains_cases (h : t.IsSound) (hhome : t.locate s.root = .ok home)
    (hdirectories : ∀ directory ∈ directories, t.node? (home ++ [directory]) = some .directory) :
    (¬ (∀ directory ∈ directories, s.IsReachable directory) ∧
        ∃ fault, s.listChains t directories = .error fault) ∨
      (∀ directory ∈ directories, s.IsReachable directory) ∧
        ∃ ids, s.listChains t directories = .ok ids ∧
          ∀ id, ids.count id = directories.countP (HasContract t home id) := by
  induction directories with
  | nil => exact .inr ⟨nofun, [], rfl, fun _ => rfl⟩
  | cons directory rest ih =>
    obtain ⟨hdirectory, hrest⟩ := List.forall_mem_cons.1 hdirectories
    rw [listChains_cons, List.forall_mem_cons]
    rcases contractsOf_cases h hhome hdirectory with
      ⟨hfar, fault, hfault⟩ | ⟨hreach, contracts, hcontracts, hcount⟩
    · exact .inl ⟨fun hall => hfar hall.1, fault, by rw [hfault]; rfl⟩
    · rw [hcontracts]
      rcases ih hrest with ⟨hfar, fault, hfault⟩ | ⟨hall, ids, hids, hcounts⟩
      · exact .inl ⟨fun hall => hfar hall.2, fault, by rw [hfault]; rfl⟩
      · refine .inr ⟨⟨hreach, hall⟩, contracts ++ ids, by rw [hids]; rfl, fun id => ?_⟩
        rw [List.count_append, hcount, hcounts, List.countP_cons, Nat.add_comm]
        simp only [decide_eq_true_eq]

/-- The store lists the contracts of every directory, in order, unless some directory's
path is too long. -/
theorem list_cases (h : t.IsSound) (hhome : t.locate s.root = .ok home)
    (hdirectory : t.node? home = some .directory) :
    (¬ (∀ directory, t.node? (home ++ [directory]) = some .directory → s.IsReachable directory) ∧
        ∃ fault, s.list t = .error fault) ∨
      (∀ directory, t.node? (home ++ [directory]) = some .directory → s.IsReachable directory) ∧
        ∃ ids, s.list t = .ok ids ∧ (ids.Pairwise fun a b => b.before a = false) ∧
          ∀ id, {directory | HasContract t home id directory}.encard = ids.count id := by
  obtain ⟨names, hnames, hnodup, hmem⟩ := exists_subdirectories h hhome hdirectory
  have hlist : s.list t = (do
      let contracts ← s.listChains t names
      .ok (ContractIdentity.sorted contracts)) := by
    rw [list, hnames]
    rfl
  simp only [← hmem]
  rcases listChains_cases h hhome fun directory => (hmem directory).1 with
    ⟨hfar, fault, hfault⟩ | ⟨hall, ids, hids, hcount⟩
  · exact .inl ⟨hfar, fault, by rw [hlist, hfault]; rfl⟩
  · refine .inr ⟨hall, ContractIdentity.sorted ids, by rw [hlist, hids]; rfl,
      ContractIdentity.pairwise_sorted ids, fun id => ?_⟩
    have hset : {directory | HasContract t home id directory} =
        ↑(names.filter (HasContract t home id)).toFinset := by
      ext directory
      simp only [Set.mem_ofPred_eq, List.coe_toFinset, List.mem_filter, decide_eq_true_eq, hmem]
      exact ⟨fun hhas => ⟨hhas.node?_directory h, hhas⟩, And.right⟩
    rw [hset, Set.encard_coe_eq_coe_finsetCard, List.toFinset_card_of_nodup (hnodup.filter _),
      ContractIdentity.count_sorted, hcount, List.countP_eq_length_filter]

/-! Paths of contracts -/

theorem isName_toString {n : Nat} (h : n < 2 ^ 64) : Tree.IsName (toString n) := by
  have hlist : (toString n).toList = Nat.toDigits 10 n := Nat.toList_repr
  have hdigit : ∀ c ∈ (toString n).toList, Ascii.isDigit c = true := by
    rw [hlist]
    exact fun _ => Unsigned.isDigit_of_mem_toDigits
  constructor
  · intro hmark
    simp only [Tree.marks, List.mem_cons, List.not_mem_nil, or_false] at hmark
    rcases hmark with hempty | hpoint | hpoints
    · rw [hempty] at hlist
      exact Nat.toDigits_ne_nil hlist.symm
    · exact absurd (hdigit '.' (by simp [hpoint])) (by decide)
    · exact absurd (hdigit '.' (by simp [hpoints])) (by decide)
  · exact ⟨fun hc => absurd (hdigit _ hc) (by decide), fun hc => absurd (hdigit _ hc) (by decide)⟩
  · have hlength : (Nat.toDigits 10 n).length ≤ 20 :=
      (Nat.length_toDigits_le_iff (by decide) (by decide)).2 (Nat.lt_trans h (by decide))
    have hsize : (toString n).utf8ByteSize = (Nat.toDigits 10 n).length := by
      rw [← String.ofList_toList (s := toString n), String.utf8ByteSize_ofList, hlist]
      exact utf8Len_of_digits fun _ => Unsigned.isDigit_of_mem_toDigits
    rw [hsize]
    exact Nat.le_trans hlength (by decide)

/-- The path of a contract goes through the directory that is named as its chain's number
is written. -/
theorem HasContract.contractPath_eq_iff (h : t.IsSound) (hhas : HasContract t home id directory) :
    s.contractPath id = joinPath (joinPath s.root directory) id.address ↔
      directory = toString id.chain := by
  obtain ⟨hchain, haddress⟩ := hhas.isListable h
  constructor
  · intro hpath
    have hparts := congrArg partsOf hpath
    rw [contractPath, haddress.partsOf_joinPath, haddress.partsOf_joinPath,
      (isName_toString hchain).partsOf_joinPath,
      (hhas.isName_directory h).partsOf_joinPath] at hparts
    simpa [eq_comm] using hparts
  · rintro rfl
    rfl

def above (s : ContractStore) : List String := (Tree.namesOf (joinPath s.root "0")).dropLast

theorem walk_root (h : t.locate s.root = .ok home) : t.walk [] s.above = .ok home := by
  obtain ⟨names, hnames, hjoin⟩ := Tree.exists_namesOf_joinPath s.root
  unfold Tree.locate at h
  split_ifs at h
  rw [above, hjoin "0" (by decide), List.dropLast_concat]
  exact Tree.walk_above hnames h

theorem namesOf_filePath (hid : id.IsListable) (hname : Tree.IsName name) :
    Tree.namesOf (s.filePath id name) = s.above ++ [toString id.chain, id.address, name] := by
  have hchain := isName_toString hid.chain
  obtain ⟨names, -, hjoin⟩ := Tree.exists_namesOf_joinPath s.root
  have hroot : s.above = names := by
    rw [above, hjoin "0" (by decide), List.dropLast_concat]
  have hcontract := Tree.namesOf_joinPath_of_concat (hjoin _ hchain.slash) hchain.ne_empty hid.address
  rw [List.append_cons] at hcontract
  have hnames := Tree.namesOf_joinPath_of_concat hcontract hid.address.ne_empty hname
  rw [hroot]
  simpa [filePath, contractPath] using hnames

/-- Where a contract's file can be, the directories are there. -/
theorem exists_home_of_locate_filePath (hid : id.IsListable) (hname : Tree.IsName name)
    (h : t.locate (s.filePath id name) = .ok place) :
    ∃ home, t.walk [] s.above = .ok home ∧
      place = home ++ [toString id.chain, id.address, name] := by
  have hchain := (isName_toString hid.chain).unmarked
  have hwalk := h
  unfold Tree.locate at hwalk
  split_ifs at hwalk
  rw [namesOf_filePath hid hname] at hwalk
  have hwalk : t.walk [] (s.above ++ [toString id.chain] ++ [id.address] ++ [name]) = .ok place := by
    simpa using hwalk
  obtain ⟨contract, rfl, hcontract, -⟩ := Tree.exists_home_of_walk hwalk hname.unmarked
  obtain ⟨above, rfl, habove, -⟩ := Tree.exists_home_of_walk hcontract hid.address.unmarked
  obtain ⟨home, rfl, hhome, -⟩ := Tree.exists_home_of_walk habove hchain
  exact ⟨home, hhome, by simp⟩

/-- The path of a contract's file leads nowhere but below the directory that is named as
the number of its chain is written. -/
theorem eq_of_locate_filePath (hhome : t.locate s.root = .ok home) (hid : id.IsListable)
    (hname : Tree.IsName name) (hplace : t.locate (s.filePath id name) = .ok place) :
    place = home ++ [toString id.chain, id.address, name] := by
  obtain ⟨above, hwalk, rfl⟩ := exists_home_of_locate_filePath hid hname hplace
  rw [Except.ok.inj ((walk_root hhome).symm.trans hwalk)]

/-- In a directory that is named so, the contract's files are found. -/
theorem HasContract.locate_filePath (h : t.IsSound) (hhome : t.locate s.root = .ok home)
    (hhas : HasContract t home id (toString id.chain)) (hname : Tree.IsName name)
    (hlength : (s.filePath id name).utf8ByteSize ≤ Tree.maxPath) :
    t.locate (s.filePath id name) = .ok (home ++ [toString id.chain, id.address, name]) := by
  have haddress := (hhas.isListable h).address
  have hdirectory := hhas.node?_directory h
  have hcontract : (s.contractPath id).utf8ByteSize ≤ Tree.maxPath :=
    Nat.le_trans (utf8ByteSize_le_joinPath hname.head?_ne) hlength
  have hchain : (joinPath s.root (toString id.chain)).utf8ByteSize ≤ Tree.maxPath :=
    Nat.le_trans (utf8ByteSize_le_joinPath haddress.head?_ne) hcontract
  have hhome := Tree.locate_joinPath_of_le (hhas.isName_directory h) hhome
    (h.above (by rw [hdirectory, Option.isSome_some])) hchain
  have hhome := Tree.locate_joinPath_of_le haddress hhome hdirectory hcontract
  have hfile := Tree.locate_joinPath_of_le hname hhome hhas.node?_below hlength
  rw [List.append_assoc, List.append_assoc] at hfile
  exact hfile

/-! The list as a whole -/

structure Lists (s : ContractStore) (t : Tree) (home : Place) (ids : List ContractIdentity) :
    Prop where
  ordered : ids.Pairwise fun a b => b.before a = false
  count : ∀ id, {directory | HasContract t home id directory}.encard = ids.count id
  increasing_iff : (ids.Pairwise fun a b => a.before b = true) ↔
    ∀ id directory other, HasContract t home id directory → HasContract t home id other →
      directory = other
  path_iff : ∀ {id directory}, HasContract t home id directory →
    (s.contractPath id = joinPath (joinPath s.root directory) id.address ↔
      directory = toString id.chain)
  /-- The files of a contract are found in the directory with the chain's own numeral. -/
  found : ∀ {id name}, HasContract t home id (toString id.chain) → Tree.IsName name →
    (s.filePath id name).utf8ByteSize ≤ Tree.maxPath →
      t.locate (s.filePath id name) = .ok (home ++ [toString id.chain, id.address, name])
  sought : ∀ {id directory name place}, HasContract t home id directory → Tree.IsName name →
    t.locate (s.filePath id name) = .ok place →
      place = home ++ [toString id.chain, id.address, name]

/-- The list is increasing, the path of each contract is that of a directory in which it was
found, and the contract of every directory is in it exactly once. -/
structure IsFaithful (s : ContractStore) (t : Tree) (home : Place)
    (ids : List ContractIdentity) : Prop where
  increasing : ids.Pairwise fun a b => a.before b = true
  path : ∀ id ∈ ids, ∃ directory, HasContract t home id directory ∧
    s.contractPath id = joinPath (joinPath s.root directory) id.address
  once : ∀ {id directory}, HasContract t home id directory → ids.count id = 1

theorem lists_of_count (h : t.IsSound) (hhome : t.locate s.root = .ok home)
    (hordered : ids.Pairwise fun a b => b.before a = false)
    (hcount : ∀ id, {directory | HasContract t home id directory}.encard = ids.count id) :
    s.Lists t home ids where
  ordered := hordered
  count := hcount
  increasing_iff := by
    rw [ContractIdentity.pairwise_before_iff hordered, List.nodup_iff_count_le_one]
    refine forall_congr' fun id => ?_
    rw [← Nat.cast_le (α := ℕ∞), ← hcount, Nat.cast_one, Set.encard_le_one_iff]
    rfl
  path_iff := fun hhas => hhas.contractPath_eq_iff h
  found := fun hhas hname hlength => hhas.locate_filePath h hhome hname hlength
  sought := fun hhas hname hplace =>
    eq_of_locate_filePath hhome (hhas.isListable h) hname hplace

/-- A list is faithful exactly if the directories of chains have the numerals as names that
are written for the numbers. -/
theorem Lists.isFaithful_iff (h : s.Lists t home ids) : s.IsFaithful t home ids ↔
    ∀ id directory, HasContract t home id directory → directory = toString id.chain := by
  have hmem {id : ContractIdentity} :
      id ∈ ids ↔ ∃ directory, HasContract t home id directory := by
    have hcount := h.count id
    rw [← List.count_pos_iff, ← Nat.cast_pos (α := ℕ∞), ← hcount, Set.encard_pos]
    rfl
  constructor
  · intro hfaithful id directory hhas
    obtain ⟨other, hother, hpath⟩ := hfaithful.path id (hmem.2 ⟨directory, hhas⟩)
    rw [← (h.path_iff hother).1 hpath]
    exact h.increasing_iff.1 hfaithful.increasing id _ _ hhas hother
  · intro hnumerals
    have hone {id : ContractIdentity} {directory other : String}
        (hdirectory : HasContract t home id directory) (hother : HasContract t home id other) :
        directory = other :=
      (hnumerals id directory hdirectory).trans (hnumerals id other hother).symm
    refine ⟨h.increasing_iff.2 fun _ _ _ => hone, fun id hid => ?_, fun {id directory} hhas => ?_⟩
    · obtain ⟨directory, hhas⟩ := hmem.1 hid
      exact ⟨directory, hhas, (h.path_iff hhas).2 (hnumerals id directory hhas)⟩
    · have hset : {other | HasContract t home id other} = {directory} :=
        Set.eq_singleton_iff_unique_mem.2 ⟨hhas, fun _ hother => hone hother hhas⟩
      have hcount := h.count id
      rw [hset, Set.encard_singleton] at hcount
      exact_mod_cast hcount.symm

/-- The store lists a sound tree unless the path of some chain's directory is too long, and
the list is faithful exactly if all these directories are named by the numerals that are
written for their numbers. -/
theorem list_faithful_iff_numerals (h : t.IsSound) (hhome : t.locate s.root = .ok home)
    (hdirectory : t.node? home = some .directory) :
    ((∃ ids, s.list t = .ok ids) ↔
      ∀ directory, t.node? (home ++ [directory]) = some .directory → s.IsReachable directory) ∧
      ∀ ids, s.list t = .ok ids → s.Lists t home ids ∧
        (s.IsFaithful t home ids ↔
          ∀ id directory, HasContract t home id directory → directory = toString id.chain) := by
  rcases list_cases h hhome hdirectory with
    ⟨hfar, fault, hfault⟩ | ⟨hreach, ids, hids, hordered, hcount⟩
  · refine ⟨⟨?_, fun hall => absurd hall hfar⟩, ?_⟩
    · rintro ⟨ids, hids⟩
      rw [hfault] at hids
      cases hids
    · intro ids hids
      rw [hfault] at hids
      cases hids
  · refine ⟨⟨fun _ => hreach, fun _ => ⟨ids, hids⟩⟩, fun other hother => ?_⟩
    obtain rfl := Except.ok.inj (hids.symm.trans hother)
    have hlists := lists_of_count h hhome hordered hcount
    exact ⟨hlists, hlists.isFaithful_iff⟩

def zeroed : Tree :=
  (((Tree.empty.set ["1"] .directory).set ["1", "0xa"] .directory).set ["01"] .directory).set
    ["01", "0xa"] .directory

theorem isSound_zeroed : zeroed.IsSound := by
  have hone := @Tree.isSound_empty.set _ [] "1" .directory rfl (by decide) fun _ => rfl
  have htwo := @hone.set _ ["1"] "0xa" .directory (by decide) (by decide) fun _ => rfl
  have hthree := @htwo.set _ [] "01" .directory (by decide) (by decide) fun _ => rfl
  exact @hthree.set _ ["01"] "0xa" .directory (by decide) (by decide) fun _ => rfl

theorem list_zeroed : (⟨"/"⟩ : ContractStore).list zeroed = .ok [⟨1, "0xa"⟩, ⟨1, "0xa"⟩] := by
  cbv

/-- The contract is listed twice, and one of the two directories is never read. -/
theorem zeroed_listed_twice :
    zeroed.IsSound ∧ (⟨"/"⟩ : ContractStore).list zeroed = .ok [⟨1, "0xa"⟩, ⟨1, "0xa"⟩] ∧
      HasContract zeroed [] ⟨1, "0xa"⟩ "01" ∧
      zeroed.locate ((⟨"/"⟩ : ContractStore).contractPath ⟨1, "0xa"⟩) = .ok ["1", "0xa"] ∧
      ¬ (⟨"/"⟩ : ContractStore).IsFaithful zeroed [] [⟨1, "0xa"⟩, ⟨1, "0xa"⟩] := by
  refine ⟨isSound_zeroed, list_zeroed, by decide, by decide, fun hfaithful => ?_⟩
  have hbefore := List.rel_of_pairwise_cons hfaithful.increasing List.mem_cons_self
  exact absurd hbefore (by decide)

theorem zeroed_tree_listed :
    (∀ directory, zeroed.node? [directory] = some .directory →
      (⟨"/"⟩ : ContractStore).IsReachable directory) ∧
      (⟨"/"⟩ : ContractStore).Lists zeroed [] [⟨1, "0xa"⟩, ⟨1, "0xa"⟩] := by
  obtain ⟨hreach, hlists⟩ := @list_faithful_iff_numerals ⟨"/"⟩ zeroed [] isSound_zeroed rfl rfl
  exact ⟨hreach.1 ⟨_, list_zeroed⟩, (hlists _ list_zeroed).1⟩

end ContractStore

end Provenance
