import Provenance.Execution.Stream
import Provenance.Proofs.Json.Compact

/-!
Messages through their lines. A line ends with the only line end in it, and reading
it gives the message it was written for, if the values in the message are such as
the program holds, without floats, and not nested beyond the limit of the reader.
-/

namespace Provenance

def Json.IsSorted (json : Json) : Prop := json.sorted = json

namespace Execution

open Bytes (ofChars ofText)
open Shape

/-! Types and fields -/

/-- The type of a message decides what reads the rest. -/
theorem tagged_object {α : Type} {byType : List (String × Decoder α)} {type : String}
    (decode : Decoder α) {members : List (String × Json)}
    (htype : variant byType type = .ok decode) (hmembers : ∀ m ∈ members, m.1 ≠ "type") :
    tagged byType (.object (("type", .string type) :: members)) = decode (.object members) := by
  have htags : (("type", Json.string type) :: members).filter (fun m => m.1 = "type") =
      [("type", .string type)] := by
    rw [List.filter_cons_of_pos (by simp), List.filter_eq_nil_iff.mpr (by simpa using hmembers)]
  have hrest : (("type", Json.string type) :: members).filter (fun m => m.1 ≠ "type") = members := by
    rw [List.filter_cons_of_neg (by simp), List.filter_eq_self.mpr (by simpa using hmembers)]
  simp only [tagged, htags, hrest, tagged.choiceByName, text, htype, bind, Except.bind]

theorem unsigned_nat {n : Nat} (h : n < 2 ^ 64) (expected : String) :
    unsigned expected (.nat n) = .ok n := by
  have hfits : 0 ≤ (n : Int) ∧ (n : Int) < 2 ^ 64 := by omega
  have hread : integer expected (fun n => 0 ≤ n ∧ n < 2 ^ 64) (.nat n) = .ok (n : Int) := by
    simp only [integer, Json.nat, decide_eq_true_eq]
    rw [if_pos hfits]
  rw [unsigned, hread]
  rfl

theorem sortedValue_eq {json : Json} (h : json.IsSorted) : sortedValue json = .ok json :=
  congrArg Except.ok h

/-- A record with a field of its own. -/
theorem ofMembers_required {α : Type} {name : String} {decode : Decoder α} {value : α}
    {members : List (String × Json)} {place : Nat} {json : Json}
    (hplace : Fields.occurrences name members = [(place, json)]) (hvalue : decode json = .ok value) :
    (Fields.required name decode).ofMembers members = .ok value := by
  simp only [Fields.required, Fields.field, hplace, hvalue]
  rfl

theorem ofMembers_map {α β : Type} {f : α → β} {fields : Fields α} {value : α}
    {members : List (String × Json)} (h : fields.ofMembers members = .ok value) :
    (f <$> fields).ofMembers members = .ok (f value) := by
  change (fields.ofMembers members).map f = _
  rw [h]
  rfl

theorem ofMembers_seq {α β : Type} {left : Fields (α → β)} {right : Fields α} {f : α → β}
    {value : α} {members : List (String × Json)} (hleft : left.ofMembers members = .ok f)
    (hright : right.ofMembers members = .ok value) :
    (left <*> right).ofMembers members = .ok (f value) := by
  change Fields.both (fun f a => f a) (left.ofMembers members) (right.ofMembers members) = _
  rw [hleft, hright]
  rfl

/-- An open record is what its fields are read as. -/
theorem record_object {α : Type} {name : String} {fields : Fields α} {value : α}
    {members : List (String × Json)} (h : fields.ofMembers members = .ok value) :
    record name false fields (.object members) = .ok value := by
  simp only [record, recordWith, h]
  rfl

namespace ParentMessage

/-- Whether a message holds what it can: a number of sixty-four bits and a value as
the program has them. -/
def IsProper : ParentMessage → Prop
  | input id _ payload => id < 2 ^ 64 ∧ payload.IsSorted
  | shutdown => True

theorem decode_toJson {message : ParentMessage} (h : message.IsProper) :
    decode message.toJson = .ok message := by
  cases message with
  | shutdown => exact (tagged_object (bare shutdown) rfl (by simp)).trans rfl
  | input id compiler payload =>
    obtain ⟨hid, hpayload⟩ := h
    refine (tagged_object _ rfl (by simp)).trans (record_object ?_)
    refine ofMembers_seq (ofMembers_seq (ofMembers_map ?_) ?_) ?_
    · exact ofMembers_required rfl (unsigned_nat hid _)
    · exact ofMembers_required rfl rfl
    · exact ofMembers_required rfl (sortedValue_eq hpayload)

end ParentMessage

namespace WorkerMessage

def IsProper : WorkerMessage → Prop
  | ready => True
  | output id result => id < 2 ^ 64 ∧ result.IsSorted

theorem decode_toJson {message : WorkerMessage} (h : message.IsProper) :
    decode message.toJson = .ok message := by
  cases message with
  | ready => exact (tagged_object (bare ready) rfl (by simp)).trans rfl
  | output id result =>
    obtain ⟨hid, hresult⟩ := h
    refine (tagged_object _ rfl (by simp)).trans (record_object ?_)
    refine ofMembers_seq (ofMembers_map ?_) ?_
    · exact ofMembers_required rfl (unsigned_nat hid _)
    · exact ofMembers_required rfl (sortedValue_eq hresult)

end WorkerMessage

/-! Lines -/

theorem lineOf_eq (json : Json) : lineOf json = ofChars json.compactChars ++ [10] := by
  rw [lineOf, Json.compact, Bytes.ofText_eq, String.toList_append, String.toList_ofList,
    Bytes.ofChars_append]
  rfl

theorem newline_notMem_text (json : Json) : 10 ∉ ofChars json.compactChars :=
  Json.newline_notMem_ofChars (Json.newline_notMem_compactChars json)

/-- The blanks behind an object's text are its line end only. -/
theorem dropEnd_line (members : List (String × Json)) :
    Cut.dropEnd Cut.isBlank ((Json.object members).compact ++ "\n").toList =
      (Json.object members).compactChars := by
  obtain ⟨front, hfront⟩ : ∃ front, (Json.object members).compactChars = front ++ ['\x7d'] :=
    ⟨_, by rw [Json.compactChars]⟩
  rw [Json.compact, String.toList_append, String.toList_ofList, hfront]
  simp [Cut.dropEnd, Cut.isBlank]

/-- The text of a line gives the message that its value is read as. -/
theorem parseMessage_line {μ : Type} {decode : Decoder μ} {members : List (String × Json)}
    {message : μ} (hdecode : decode (.object members) = .ok message)
    (hwhole : (Json.object members).IsWhole) (hdepth : (Json.object members).depth ≤ Json.maxDepth) :
    parseMessage decode ((Json.object members).compact ++ "\n") = .ok message := by
  have hread := Json.readDocument_compact hwhole hdepth
  rw [Json.compact] at hread
  simp only [parseMessage, dropEnd_line, hread, hdecode]
  rfl

end Execution

end Provenance
