import Provenance.Proofs.Metadata.Extension

/-!
What the entries of a record say, and how. An entry is a key in one piece and a value:
a hash of the right size, a version, a flag, or, behind any other key, whatever is
passed over as one item. Reading an entry puts what it says into the record, and reads
nothing that is not an entry.
-/

namespace Provenance.Metadata

open Cbor

inductive HashKey where
  | ipfs | bzzr0 | bzzr1
  deriving DecidableEq

namespace HashKey

def name : HashKey → String
  | .ipfs => "ipfs"
  | .bzzr0 => "bzzr0"
  | .bzzr1 => "bzzr1"

def size : HashKey → Nat
  | .ipfs => 34
  | .bzzr0 => 32
  | .bzzr1 => 32

def path : HashKey → Bytes → String
  | .ipfs => ipfsPath
  | .bzzr0 => swarmPath "bzzr0"
  | .bzzr1 => swarmPath "bzzr1"

def slot : HashKey → Metadata → Option String
  | .ipfs => Metadata.ipfs
  | .bzzr0 => Metadata.bzzr0
  | .bzzr1 => Metadata.bzzr1

def fill : HashKey → Metadata → Option String → Metadata
  | .ipfs, record, slot => { record with ipfs := slot }
  | .bzzr0, record, slot => { record with bzzr0 := slot }
  | .bzzr1, record, slot => { record with bzzr1 := slot }

end HashKey

inductive Field where
  | hash (key : HashKey) (content : Bytes)
  | solc (version : SolcVersion)
  | experimental (flag : Bool)
  | unknown (key : String) (hkey : key ∉ knownKeys) (value : Bytes)

namespace Field

def key : Field → String
  | .hash key _ => key.name
  | .solc _ => "solc"
  | .experimental _ => "experimental"
  | .unknown key _ _ => key

/-- The bytes of a value. Lengths may take any room, and a text is valid. -/
inductive Value : Field → Bytes → Prop
  | hash {key : HashKey} {content head : Bytes} (hhead : Head 2 content.length head)
      (hsize : content.length = key.size) : Value (.hash key content) (head ++ content)
  | release {major minor patch : UInt8} {head : Bytes} (hhead : Head 2 3 head) :
      Value (.solc (.release major minor patch)) (head ++ [major, minor, patch])
  | prerelease {text : String} {head content : Bytes} (hhead : Head 3 content.length head)
      (htext : Utf8.decode? content = some text) :
      Value (.solc (.prerelease text)) (head ++ content)
  | experimental (flag : Bool) : Value (.experimental flag) [if flag then 0xF5 else 0xF4]
  | unknown {key : String} {hkey : key ∉ knownKeys} {value : Bytes} (hvalue : skip value = .ok []) :
      Value (.unknown key hkey value) value

/-- The bytes of an entry: a text in one piece for the key, and the value. -/
inductive Spells (field : Field) : Bytes → Prop
  | mk {head content value : Bytes} (hhead : Head 3 content.length head)
      (hkey : Utf8.decode? content = some field.key) (hvalue : field.Value value) :
      Spells field (head ++ (content ++ value))

def put (record : Metadata) : Field → Except Fault Metadata
  | .hash key content =>
    (setOnce key.name (key.slot record) (key.path content)).map (key.fill record)
  | .solc version =>
    (setOnce "solc" record.solc version).map fun slot => { record with solc := slot }
  | .experimental flag => .ok { record with experimental := flag }
  | .unknown _ _ _ => .ok record

end Field

theorem skip_append {value : Bytes} (h : skip value = .ok []) (rest : Bytes) :
    skip (value ++ rest) = .ok rest := by
  obtain ⟨taken, rfl, htaken⟩ := localPass_skip _ _ h
  rw [List.append_nil]
  exact htaken rest

section Hashes

variable {size : Nat} {content : Bytes}

theorem hash_append (key : String) {head : Bytes} (hhead : Head 2 content.length head)
    (hsize : content.length = size) (rest : Bytes) :
    hash key size (head ++ (content ++ rest)) = .ok (content, rest) := by
  have hkind : expectKind key .bytes (head ++ (content ++ rest)) = .ok () :=
    expectKind_of_nextKind key (hhead.nextKind_append (by simp) _)
  have hread := item_of_eq_ok (hhead.definite_append (by decide) rest)
  simp only [hash, hkind, byteString, hread, bind, Except.bind, hsize, if_pos]

theorem hash_eq_ok {key : String} {bytes rest : Bytes}
    (h : hash key size bytes = .ok (content, rest)) :
    ∃ head, bytes = head ++ (content ++ rest) ∧ Head 2 content.length head ∧
      content.length = size := by
  obtain ⟨-, -, hread⟩ := exists_of_bind_eq_ok h
  obtain ⟨⟨found, later⟩, hdefinite, hsized⟩ := exists_of_bind_eq_ok hread
  dsimp only at hsized
  split at hsized
  · rename_i hsize
    cases hsized
    obtain ⟨head, hbytes, hhead⟩ := definite_eq_ok (item_eq_ok hdefinite)
    exact ⟨head, hbytes, hhead, hsize⟩
  · cases hsized

end Hashes

theorem version_eq_ok {bytes rest : Bytes} {found : SolcVersion}
    (h : version bytes = .ok (found, rest)) :
    ∃ piece, bytes = piece ++ rest ∧ (Field.solc found).Value piece := by
  obtain ⟨kind, -, hread⟩ := exists_of_bind_eq_ok h
  split at hread
  · obtain ⟨⟨content, later⟩, hdefinite, hrelease⟩ := exists_of_bind_eq_ok hread
    obtain ⟨head, rfl, hhead⟩ := definite_eq_ok (item_eq_ok hdefinite)
    dsimp only at hrelease
    split at hrelease
    · cases hrelease
      exact ⟨_, (List.append_assoc ..).symm, .release hhead⟩
    · cases hrelease
  · obtain ⟨⟨text, later⟩, htext, hfound⟩ := exists_of_bind_eq_ok hread
    cases hfound
    obtain ⟨head, content, rfl, hhead, hdecode⟩ := textString_eq_ok (item_eq_ok htext)
    exact ⟨_, (List.append_assoc ..).symm, .prerelease hhead hdecode⟩
  · cases hread

/-- Reading a content into a slot. -/
theorem slot_eq_ok {α β : Type} {read : Reader α} {bytes rest : Bytes} {key : String}
    {slot : Option β} (content : α → β) {f : Option β → Metadata} {record : Metadata}
    (h : (read bytes >>= fun result => setOnce key slot (content result.1) >>= fun slot =>
      Except.ok (f slot, result.2)) = .ok (record, rest)) :
    ∃ a, read bytes = .ok (a, rest) ∧ (setOnce key slot (content a)).map f = .ok record := by
  obtain ⟨⟨a, later⟩, hread, hset⟩ := exists_of_bind_eq_ok h
  obtain ⟨filled, hfilled, heq⟩ := exists_of_bind_eq_ok hset
  cases heq
  exact ⟨a, hread, by rw [hfilled]; rfl⟩

theorem slot_append {α β : Type} {read : Reader α} {bytes rest : Bytes} {a : α}
    (hread : read bytes = .ok (a, rest)) (key : String) (slot : Option β) (content : α → β)
    (f : Option β → Metadata) :
    (read bytes >>= fun result => setOnce key slot (content result.1) >>= fun slot =>
      Except.ok (f slot, result.2)) = ((setOnce key slot (content a)).map f).map (·, rest) := by
  rw [hread]
  cases slot with
  | none => rfl
  | some filled => rfl

theorem hash_slot_eq_ok (key : HashKey) {record record' : Metadata} {bytes rest : Bytes}
    (h : (hash key.name key.size bytes >>= fun result =>
      setOnce key.name (key.slot record) (key.path result.1) >>= fun slot =>
        Except.ok (key.fill record slot, result.2)) = .ok (record', rest)) :
    ∃ (field : Field) (piece : Bytes), field.key = key.name ∧ bytes = piece ++ rest ∧
      field.Value piece ∧ field.put record = .ok record' := by
  obtain ⟨content, hread, hput⟩ := slot_eq_ok key.path h
  obtain ⟨head, rfl, hhead, hsize⟩ := hash_eq_ok hread
  exact ⟨.hash key content, _, rfl, (List.append_assoc ..).symm, .hash hhead hsize, hput⟩

/-- The value behind a key is one of its field, which is put into the record. -/
theorem value_eq_ok {record record' : Metadata} {key : String} {bytes rest : Bytes}
    (h : value record key bytes = .ok (record', rest)) :
    ∃ (field : Field) (piece : Bytes), field.key = key ∧ bytes = piece ++ rest ∧
      field.Value piece ∧ field.put record = .ok record' := by
  unfold value at h
  split at h
  · exact hash_slot_eq_ok .ipfs h
  · exact hash_slot_eq_ok .bzzr0 h
  · exact hash_slot_eq_ok .bzzr1 h
  · obtain ⟨found, hread, hput⟩ := slot_eq_ok id h
    obtain ⟨piece, rfl, hpiece⟩ := version_eq_ok hread
    exact ⟨.solc found, piece, rfl, rfl, hpiece, hput⟩
  · obtain ⟨-, -, hread⟩ := exists_of_bind_eq_ok h
    obtain ⟨⟨flag, later⟩, hflag, heq⟩ := exists_of_bind_eq_ok hread
    cases heq
    exact ⟨.experimental flag, _, rfl, bool_eq_ok (item_eq_ok hflag), .experimental flag, rfl⟩
  · rename_i hipfs hbzzr0 hbzzr1 hsolc hexperimental
    obtain ⟨later, hskip, heq⟩ := exists_of_bind_eq_ok h
    cases heq
    have hkey : key ∉ knownKeys := by
      simp only [knownKeys, List.mem_cons, List.not_mem_nil, or_false, not_or]
      exact ⟨hipfs, hbzzr0, hbzzr1, hsolc, hexperimental⟩
    obtain ⟨piece, rfl, hpiece⟩ := localPass_skip _ _ (item_eq_ok hskip)
    have halone := hpiece []
    rw [List.append_nil] at halone
    exact ⟨.unknown key hkey piece, piece, rfl, rfl, .unknown halone, rfl⟩

theorem version_append {found : SolcVersion} {piece : Bytes} (h : (Field.solc found).Value piece)
    (rest : Bytes) : version (piece ++ rest) = .ok (found, rest) := by
  cases h with
  | release hhead =>
    rename_i major minor patch head
    have hkind : item nextKind (head ++ ([major, minor, patch] ++ rest)) = .ok .bytes :=
      item_of_eq_ok (hhead.nextKind_append (by simp) _)
    have hread := item_of_eq_ok (@Head.definite_append 2 head [major, minor, patch] hhead
      (by decide) rest)
    rw [List.append_assoc]
    simp only [version, hkind, byteString, hread, bind, Except.bind]
  | prerelease hhead htext =>
    rename_i text head content
    have hkind : item nextKind (head ++ (content ++ rest)) = .ok .text :=
      item_of_eq_ok (hhead.nextKind_append (by simp) _)
    have hread := item_of_eq_ok (hhead.textString_append htext rest)
    rw [List.append_assoc]
    simp only [version, hkind, hread, bind, Except.bind]

/-- A value is read in front of anything, and then only a slot that is filled can
be in the way. -/
theorem Field.Value.value_append {field : Field} {piece : Bytes} (h : field.Value piece)
    (record : Metadata) (rest : Bytes) :
    value record field.key (piece ++ rest) = (field.put record).map (·, rest) := by
  cases h with
  | @hash key content head hhead hsize =>
    have hput := slot_append (hash_append key.name hhead hsize rest) key.name (key.slot record)
      key.path (key.fill record)
    rw [List.append_assoc]
    cases key with
    | ipfs => exact hput
    | bzzr0 => exact hput
    | bzzr1 => exact hput
  | release hhead =>
    exact slot_append (version_append (.release hhead) rest) "solc" record.solc id
      fun slot => { record with solc := slot }
  | prerelease hhead htext =>
    exact slot_append (version_append (.prerelease hhead htext) rest) "solc" record.solc id
      fun slot => { record with solc := slot }
  | experimental flag =>
    cases flag with
    | false => rfl
    | true => rfl
  | @unknown key hkey value hvalue => exact value_of_unknown record hkey (skip_append hvalue rest)

/-- An entry is read in front of anything. -/
theorem Field.Spells.entry_append {field : Field} {piece : Bytes} (h : field.Spells piece)
    (record : Metadata) (rest : Bytes) :
    entry record (piece ++ rest) = (field.put record).map (·, rest) := by
  cases h with
  | mk hhead hkey hvalue =>
    rw [List.append_assoc, List.append_assoc, entry_of_key hhead hkey]
    exact hvalue.value_append record rest

/-- What is read as an entry is one. -/
theorem entry_eq_ok {record record' : Metadata} {bytes rest : Bytes}
    (h : entry record bytes = .ok (record', rest)) :
    ∃ (field : Field) (piece : Bytes), bytes = piece ++ rest ∧ field.Spells piece ∧
      field.put record = .ok record' := by
  obtain ⟨-, -, hread⟩ := exists_of_bind_eq_ok h
  obtain ⟨⟨key, later⟩, htext, hvalue⟩ := exists_of_bind_eq_ok hread
  obtain ⟨head, content, rfl, hhead, hkey⟩ := textString_eq_ok (item_eq_ok htext)
  obtain ⟨field, piece, rfl, rfl, hpiece, hput⟩ := value_eq_ok hvalue
  exact ⟨field, head ++ (content ++ piece), by simp, .mk hhead hkey hpiece, hput⟩

/-- Entries in a row are read one after the other. -/
theorem entries_append {fields : List Field} {pieces : List Bytes}
    (h : List.Forall₂ Field.Spells fields pieces) (record : Metadata) (rest : Bytes) :
    entries record fields.length (pieces.flatten ++ rest) =
      (fields.foldlM Field.put record).map (·, rest) := by
  induction h generalizing record with
  | nil => rfl
  | @cons field piece fields pieces hfield _ ih =>
    rw [List.length_cons, List.flatten_cons, List.append_assoc, entries, hfield.entry_append,
      List.foldlM_cons]
    cases field.put record with
    | error fault => rfl
    | ok record => exact ih record

theorem entries_eq_ok {record record' : Metadata} {n : Nat} {bytes rest : Bytes}
    (h : entries record n bytes = .ok (record', rest)) :
    ∃ fields pieces, fields.length = n ∧ bytes = pieces.flatten ++ rest ∧
      List.Forall₂ Field.Spells fields pieces ∧ fields.foldlM Field.put record = .ok record' := by
  induction n generalizing record bytes with
  | zero =>
    cases h
    exact ⟨[], [], rfl, rfl, .nil, rfl⟩
  | succ n ih =>
    obtain ⟨⟨next, later⟩, hentry, hentries⟩ := exists_of_bind_eq_ok h
    obtain ⟨field, piece, rfl, hfield, hput⟩ := entry_eq_ok hentry
    obtain ⟨fields, pieces, rfl, rfl, hfields, hputs⟩ := ih hentries
    refine ⟨field :: fields, piece :: pieces, rfl, ?_, .cons hfield hfields, ?_⟩
    · rw [List.flatten_cons, List.append_assoc]
    · rw [List.foldlM_cons, hput]
      exact hputs

end Provenance.Metadata
