import Provenance.Proofs.Json.Compact
import Provenance.Proofs.Json.Order

/-!
How deep the reader goes. A value that has been read is nested within the limit of the
reader, since a frame is opened only where there is room for it, and its whole numbers
fit sixty-four bits. The text of a value that is nested deeper is malformed: the reader
comes to a bracket for which there is no room.
-/

namespace Provenance.Json

open Bytes (ofChars ofText)

/-! Depth and numbers of values with parts -/

theorem depth_leaf {json : Json} (h : json.IsLeaf) : json.depth = 0 := by
  cases json with
  | null | bool | number | string => rfl
  | array | object => exact h.elim

theorem depthOfItems_le_iff {room : Nat} {items : List Json} :
    depthOfItems items ≤ room ↔ ∀ item ∈ items, item.depth ≤ room := by
  induction items with
  | nil => simp [depthOfItems]
  | cons item items ih => rw [depthOfItems, Nat.max_le, ih, List.forall_mem_cons]

theorem depthOfMembers_le_iff {room : Nat} {members : List (String × Json)} :
    depthOfMembers members ≤ room ↔ ∀ m ∈ members, m.2.depth ≤ room := by
  induction members with
  | nil => simp [depthOfMembers]
  | cons member members ih => rw [depthOfMembers, Nat.max_le, ih, List.forall_mem_cons]

theorem areWhole_iff {items : List Json} : AreWhole items ↔ ∀ item ∈ items, item.IsWhole := by
  induction items with
  | nil => simp [AreWhole]
  | cons item items ih => rw [AreWhole, ih, List.forall_mem_cons]

theorem areWholeMembers_iff {members : List (String × Json)} :
    AreWholeMembers members ↔ ∀ m ∈ members, m.2.IsWhole := by
  induction members with
  | nil => simp [AreWholeMembers]
  | cons member members ih => rw [AreWholeMembers, ih, List.forall_mem_cons]

mutual

def numbers : Json → List JsonNumber
  | .number value => [value]
  | .array items => numbersOfItems items
  | .object members => numbersOfMembers members
  | _ => []

def numbersOfItems : List Json → List JsonNumber
  | [] => []
  | item :: rest => item.numbers ++ numbersOfItems rest

def numbersOfMembers : List (String × Json) → List JsonNumber
  | [] => []
  | (_, value) :: rest => value.numbers ++ numbersOfMembers rest

end

theorem mem_numbers_array {number : JsonNumber} {items : List Json} :
    number ∈ (array items).numbers ↔ ∃ item ∈ items, number ∈ item.numbers := by
  rw [numbers]
  induction items with
  | nil => simp [numbersOfItems]
  | cons item items ih => simp [numbersOfItems, ih]

theorem mem_numbers_object {number : JsonNumber} {members : List (String × Json)} :
    number ∈ (object members).numbers ↔ ∃ m ∈ members, number ∈ m.2.numbers := by
  rw [numbers]
  induction members with
  | nil => simp [numbersOfMembers]
  | cons m members ih => simp [numbersOfMembers, ih]

def IsFloatless (json : Json) : Prop := ∀ value, JsonNumber.float value ∉ json.numbers

/-- A value that is nested at most so deep, its whole numbers within sixty-four bits. -/
structure IsBounded (room : Nat) (json : Json) : Prop where
  depth_le : json.depth ≤ room
  inRange : ∀ value, JsonNumber.int value ∈ json.numbers → InRange value

theorem isBounded_array_iff {room : Nat} {items : List Json} :
    IsBounded (room + 1) (.array items) ↔ ∀ item ∈ items, IsBounded room item := by
  constructor
  · intro h item hitem
    have hdepth := depthOfItems_le_iff.1 (Nat.le_of_succ_le_succ h.depth_le)
    exact ⟨hdepth item hitem, fun value hvalue =>
      h.inRange value (mem_numbers_array.2 ⟨item, hitem, hvalue⟩)⟩
  · intro h
    refine ⟨Nat.succ_le_succ (depthOfItems_le_iff.2 fun item hitem => (h item hitem).depth_le),
      fun value hvalue => ?_⟩
    obtain ⟨item, hitem, hvalue⟩ := mem_numbers_array.1 hvalue
    exact (h item hitem).inRange value hvalue

theorem isBounded_object_iff {room : Nat} {members : List (String × Json)} :
    IsBounded (room + 1) (.object members) ↔ ∀ m ∈ members, IsBounded room m.2 := by
  constructor
  · intro h m hm
    have hdepth := depthOfMembers_le_iff.1 (Nat.le_of_succ_le_succ h.depth_le)
    exact ⟨hdepth m hm, fun value hvalue =>
      h.inRange value (mem_numbers_object.2 ⟨m, hm, hvalue⟩)⟩
  · intro h
    refine ⟨Nat.succ_le_succ (depthOfMembers_le_iff.2 fun m hm => (h m hm).depth_le),
      fun value hvalue => ?_⟩
    obtain ⟨m, hm, hvalue⟩ := mem_numbers_object.1 hvalue
    exact (h m hm).inRange value hvalue

theorem not_isBounded_zero_array (items : List Json) : ¬ IsBounded 0 (.array items) :=
  fun h => absurd h.depth_le (Nat.not_succ_le_zero _)

theorem not_isBounded_zero_object (members : List (String × Json)) :
    ¬ IsBounded 0 (.object members) :=
  fun h => absurd h.depth_le (Nat.not_succ_le_zero _)

theorem IsBounded.isWhole {room : Nat} {json : Json} (h : IsBounded room json)
    (hfloatless : json.IsFloatless) : json.IsWhole := by
  induction json using inductOnParts generalizing room with
  | leaf json hleaf =>
    cases json with
    | null | bool | string => trivial
    | number value =>
      cases value with
      | int value => exact h.inRange value (List.mem_singleton_self _)
      | float value => exact absurd (List.mem_singleton_self _) (hfloatless value)
    | array | object => exact hleaf.elim
  | array items ih =>
    cases room with
    | zero => exact absurd h (not_isBounded_zero_array items)
    | succ room =>
      exact areWhole_iff.2 fun item hitem => ih item hitem (isBounded_array_iff.1 h item hitem)
        fun value hvalue => hfloatless value (mem_numbers_array.2 ⟨item, hitem, hvalue⟩)
  | object members ih =>
    cases room with
    | zero => exact absurd h (not_isBounded_zero_object members)
    | succ room =>
      exact areWholeMembers_iff.2 fun m hm => ih m hm (isBounded_object_iff.1 h m hm)
        fun value hvalue => hfloatless value (mem_numbers_object.2 ⟨m, hm, hvalue⟩)

/-- Sorting keeps the bounds. -/
theorem IsBounded.sorted {room : Nat} {json : Json} (h : IsBounded room json) :
    IsBounded room json.sorted := by
  induction json using inductOnParts generalizing room with
  | leaf json hleaf => rwa [sorted_leaf hleaf]
  | array items ih =>
    cases room with
    | zero => exact absurd h (not_isBounded_zero_array items)
    | succ room =>
      rw [Json.sorted, sortedItems_eq_map]
      refine isBounded_array_iff.2 fun _ hmem => ?_
      obtain ⟨item, hitem, rfl⟩ := List.mem_map.1 hmem
      exact ih item hitem (isBounded_array_iff.1 h item hitem)
  | object members ih =>
    cases room with
    | zero => exact absurd h (not_isBounded_zero_object members)
    | succ room =>
      rw [Json.sorted]
      refine isBounded_object_iff.2 fun m hm => ?_
      obtain ⟨value, hmem, hvalue⟩ := exists_of_mem_sorted hm
      exact hvalue ▸ ih _ hmem (isBounded_object_iff.1 h _ hmem)

theorem isBounded_leaf {room : Nat} {json : Json} (h : json.IsLeaf) (hnumbers : json.numbers = []) :
    IsBounded room json :=
  ⟨by rw [depth_leaf h]; exact Nat.zero_le room, fun value hvalue => by simp [hnumbers] at hvalue⟩

/-! The numbers that are read -/

theorem absorb_lt {acc : Nat} (h : acc < 2 ^ 64) (digits : Bytes) :
    (absorb acc digits).1 < 2 ^ 64 := by
  induction digits generalizing acc with
  | nil => exact h
  | cons byte digits ih =>
    rw [absorb]
    dsimp only
    split
    · rename_i hnext
      exact ih hnext
    · exact h

/-- A whole number that is read fits sixty-four bits. -/
theorem inRange_of_numberValue {negative : Bool} {whole : Bytes} {decimals : Option Bytes}
    {power : Option Int} {value : Int}
    (h : numberValue negative whole decimals power = some (.int value)) : InRange value := by
  have hlt := absorb_lt (show 0 < 2 ^ 64 by decide) whole
  have hfloat (x : Option Binary64) : x.map JsonNumber.float ≠ some (.int value) := by
    cases x <;> simp
  rw [numberValue] at h
  dsimp only at h
  split at h
  · exact absurd h (hfloat _)
  split at h
  · split at h
    · rename_i hn
      cases h
      refine ⟨?_, ?_⟩ <;> omega
    · exact absurd h (hfloat _)
  · cases h
    refine ⟨?_, ?_⟩ <;> omega

theorem isBounded_of_numberToken {room : Nat} {negative : Bool} {first : UInt8} {bytes rest : Bytes}
    {json : Json} (h : numberToken false negative first bytes = .ok (json, rest)) :
    IsBounded room json := by
  obtain ⟨⟨whole, behind⟩, -, h⟩ := bind_eq_ok h
  obtain ⟨⟨decimals, behind⟩, -, h⟩ := bind_eq_ok h
  obtain ⟨⟨power, behind⟩, -, h⟩ := bind_eq_ok h
  dsimp only at h
  split at h
  · rename_i value hvalue
    cases h
    refine ⟨Nat.zero_le room, fun n hn => ?_⟩
    obtain rfl := List.mem_singleton.1 hn
    exact inRange_of_numberValue hvalue
  · cases h

theorem eq_of_literal {value json : Json} {expected bytes rest : Bytes}
    (h : literal value expected bytes = .ok (json, rest)) : json = value := by
  induction expected generalizing bytes with
  | nil =>
    cases h
    rfl
  | cons byte expected ih =>
    cases bytes with
    | nil => cases h
    | cons next bytes =>
      rw [literal] at h
      split at h
      · exact ih h
      · cases h

theorem isBounded_of_literal {room : Nat} (value : Json) (hleaf : value.IsLeaf)
    (hnumbers : value.numbers = []) {json : Json} {expected bytes rest : Bytes}
    (h : literal value expected bytes = .ok (json, rest)) : IsBounded room json := by
  rw [eq_of_literal h]
  exact isBounded_leaf hleaf hnumbers

/-! The reader keeps its bounds -/

def Frame.values : Frame → List Json
  | .array _ done => done
  | .object _ done _ => done.map Prod.snd

def Frame.interest : Frame → Interest
  | .array interest _ => interest
  | .object interest _ _ => interest

/-- Frames of a reader that wants the whole value: there was room for each of them, and
what stands in it has the room that it leaves. -/
def AreBounded (limit : Nat) : List Frame → Prop
  | [] => True
  | frame :: frames =>
    frames.length < limit ∧ frame.interest = .whole ∧
      (∀ value ∈ frame.values, IsBounded (limit - (frames.length + 1)) value) ∧
        AreBounded limit frames

def Task.IsBounded (room : Nat) : Task → Prop
  | .want interest => interest = .whole
  | .have value => Json.IsBounded room value

structure Machine.IsBounded (limit : Nat) (m : Machine) : Prop where
  frames : AreBounded limit m.frames
  task : m.task.IsBounded (limit - m.frames.length)

variable {limit : Nat} {frames : List Frame} {bytes rest : Bytes} {m : Machine}

theorem isBounded_beginArray (hframes : AreBounded limit frames) (hroom : frames.length < limit)
    (h : beginArray .whole frames bytes = .ok (m, rest)) : m.IsBounded limit := by
  rw [beginArray] at h
  split at h
  · cases h
  split at h
  · cases h
    refine ⟨hframes, ?_⟩
    obtain ⟨room, hlimit⟩ := Nat.exists_eq_add_of_lt hroom
    rw [show limit - frames.length = room + 1 by omega]
    exact isBounded_array_iff.2 fun _ hitem => absurd hitem List.not_mem_nil
  · cases h
    exact ⟨⟨hroom, rfl, fun _ hvalue => absurd hvalue List.not_mem_nil, hframes⟩, rfl⟩

theorem isBounded_beginObject (hframes : AreBounded limit frames) (hroom : frames.length < limit)
    (h : beginObject .whole frames bytes = .ok (m, rest)) : m.IsBounded limit := by
  rw [beginObject] at h
  split at h
  · cases h
  split at h
  · cases h
    refine ⟨hframes, ?_⟩
    obtain ⟨room, hlimit⟩ := Nat.exists_eq_add_of_lt hroom
    rw [show limit - frames.length = room + 1 by omega]
    exact isBounded_object_iff.2 fun _ hm => absurd hm List.not_mem_nil
  · obtain ⟨⟨name, behind⟩, -, h⟩ := bind_eq_ok h
    cases h
    exact ⟨⟨hroom, rfl, fun _ hvalue => absurd hvalue List.not_mem_nil, hframes⟩, rfl⟩

/-- A value that is read at once is complete. -/
theorem Machine.isBounded_of_map {read : Except Fault (Json × Bytes)}
    {yield : Json × Bytes → Machine × Bytes} (hframes : AreBounded limit frames)
    (hread : ∀ json rest, read = .ok (json, rest) → Json.IsBounded (limit - frames.length) json)
    (hyield : ∀ json rest, yield (json, rest) = (⟨.have json, frames⟩, rest))
    (h : read.map yield = .ok (m, rest)) : m.IsBounded limit := by
  obtain ⟨⟨json, behind⟩, hjson, heq⟩ := map_eq_ok h
  rw [hyield] at heq
  cases heq
  exact ⟨hframes, hread json _ hjson⟩

theorem isBounded_beginValue (hframes : AreBounded limit frames)
    (h : beginValue limit .whole frames bytes = .ok (m, rest)) : m.IsBounded limit := by
  rw [beginValue] at h
  simp only [Interest.isNothing, Bool.false_or, decide_eq_true_eq] at h
  split at h
  · cases h
  split at h
  · split at h
    · rename_i hroom
      exact isBounded_beginObject hframes hroom h
    · cases h
  split at h
  · split at h
    · rename_i hroom
      exact isBounded_beginArray hframes hroom h
    · cases h
  split at h
  · apply Machine.isBounded_of_map hframes ?_ (fun _ _ => rfl) h
    intro json rest hjson
    obtain ⟨⟨text, behind⟩, -, heq⟩ := map_eq_ok hjson
    cases heq
    exact isBounded_leaf trivial rfl
  split at h
  · apply Machine.isBounded_of_map hframes ?_ (fun _ _ => rfl) h
    exact fun _ _ => isBounded_of_literal .null trivial rfl
  split at h
  · apply Machine.isBounded_of_map hframes ?_ (fun _ _ => rfl) h
    exact fun _ _ => isBounded_of_literal (.bool true) trivial rfl
  split at h
  · apply Machine.isBounded_of_map hframes ?_ (fun _ _ => rfl) h
    exact fun _ _ => isBounded_of_literal (.bool false) trivial rfl
  split at h
  · split at h
    · cases h
    · apply Machine.isBounded_of_map hframes ?_ (fun _ _ => rfl) h
      exact fun _ _ => isBounded_of_numberToken
  · apply Machine.isBounded_of_map hframes ?_ (fun _ _ => rfl) h
    exact fun _ _ => isBounded_of_numberToken

theorem isBounded_continueFrame {value : Json} {frame : Frame}
    (hm : Machine.IsBounded limit ⟨.have value, frame :: frames⟩)
    (h : continueFrame value frame frames bytes = .ok (m, rest)) : m.IsBounded limit := by
  obtain ⟨hroom, hinterest, hvalues, hframes⟩ := hm.frames
  have hvalue := hm.task
  rw [List.length_cons] at hvalue
  have hall : ∀ v ∈ value :: frame.values, Json.IsBounded (limit - (frames.length + 1)) v :=
    List.forall_mem_cons.2 ⟨hvalue, hvalues⟩
  have hclosed : limit - frames.length = limit - (frames.length + 1) + 1 := by omega
  rw [continueFrame] at h
  split at h
  · cases h
  cases frame with
  | array interest done =>
    obtain rfl : interest = .whole := hinterest
    dsimp only at h
    split at h
    · cases h
      refine ⟨hframes, ?_⟩
      rw [hclosed]
      exact isBounded_array_iff.2 fun item hitem => hall item (List.mem_reverse.1 hitem)
    split at h
    · split at h
      · cases h
      split at h
      · cases h
      · cases h
        exact ⟨⟨hroom, rfl, hall, hframes⟩, rfl⟩
    · cases h
  | object interest done name =>
    obtain rfl : interest = .whole := hinterest
    dsimp only at h
    split at h
    · cases h
      refine ⟨hframes, ?_⟩
      rw [hclosed]
      refine isBounded_object_iff.2 fun member hmember => ?_
      exact hall _ (List.mem_map_of_mem (f := Prod.snd) (List.mem_reverse.1 hmember))
    split at h
    · obtain ⟨⟨next, behind⟩, -, h⟩ := bind_eq_ok h
      cases h
      exact ⟨⟨hroom, rfl, hall, hframes⟩, rfl⟩
    · cases h

/-- What a reader with such frames yields is bounded. -/
theorem isBounded_of_run {json : Json} (hm : m.IsBounded limit)
    (h : run limit m bytes = .ok (json, rest)) : IsBounded limit json := by
  fun_induction run limit m bytes with
  | case1 => cases h
  | case2 bytes interest frames m' rest' hbegin ih =>
    obtain rfl : interest = .whole := hm.task
    exact ih (isBounded_beginValue hm.frames hbegin) h
  | case3 bytes value =>
    cases h
    exact hm.task
  | case4 => cases h
  | case5 bytes value frame frames m' rest' hcontinue ih =>
    exact ih (isBounded_continueFrame hm hcontinue) h

structure IsParsed (json : Json) : Prop where
  isSorted : json.sorted = json
  isBounded : IsBounded maxDepth json

theorem isParsed_of_read {document : Bytes} {json : Json} (h : read document = .ok json) :
    json.IsParsed := by
  obtain ⟨value, hvalue, rfl⟩ := map_eq_ok h
  obtain ⟨⟨front, behind⟩, hfront, hrest⟩ := bind_eq_ok hvalue
  dsimp only at hrest
  split at hrest
  · cases hrest
    have hstart : Machine.IsBounded maxDepth ⟨.want .whole, []⟩ := ⟨trivial, rfl⟩
    exact ⟨sorted_sorted _, (isBounded_of_run hstart hfront).sorted⟩
  · cases hrest

/-- What is read from a document comes back from its own text. -/
theorem read_compact {json : Json} (hsorted : json.sorted = json) (hwhole : json.IsWhole)
    (hdepth : json.depth ≤ maxDepth) : read (ofText json.compact) = .ok json := by
  rw [read, readDocument_compact hwhole hdepth]
  exact congrArg Except.ok hsorted

/-! Texts that are nested too deeply -/

theorem run_refused {interest : Interest} {fault : Fault}
    (h : beginValue limit interest frames bytes = .error fault) :
    run limit ⟨.want interest, frames⟩ bytes = .error fault := by
  rw [run]
  split
  · rename_i hfault
    rw [h] at hfault
    cases hfault
    rfl
  · rename_i hm
    rw [h] at hm
    cases hm

/-- Behind the last frame for which there is room no bracket is read. -/
theorem beginValue_full {byte : UInt8} (hbyte : byte = 91 ∨ byte = 123)
    (hfull : limit ≤ frames.length) (rest : Bytes) :
    beginValue limit .whole frames (byte :: rest) = .error .malformed := by
  have hroom : ¬ frames.length < limit := Nat.not_lt.2 hfull
  rcases hbyte with rfl | rfl
  · rw [beginValue, dropBlanks_cons (by decide)]
    simp [Interest.isNothing, hroom]
  · rw [beginValue, dropBlanks_cons (by decide)]
    simp [Interest.isNothing, hroom]

mutual

/-- The reader does not come to the end of a text that is nested too deeply. What is
in front of the first part that goes too deep is read as it was written. -/
theorem run_deep (json : Json) (hwhole : json.IsWhole) (frames : List Frame)
    (hframes : frames.length ≤ limit) (hdepth : limit < json.depth + frames.length) (rest : Bytes) :
    run limit ⟨.want .whole, frames⟩ (ofChars json.compactChars ++ rest) = .error .malformed := by
  cases json with
  | null | bool | number | string =>
    simp only [depth] at hdepth
    omega
  | array items =>
    rw [depth] at hdepth
    by_cases hroom : frames.length < limit
    · cases items with
      | nil =>
        rw [depthOfItems] at hdepth
        omega
      | cons item items =>
        rw [bytes_array, run_want (beginValue_array hroom (opensValue_compact hwhole.1 _))]
        rw [depthOfItems] at hdepth
        by_cases hitem : limit < item.depth + (frames.length + 1)
        · exact run_deep item hwhole.1 (.array .whole [] :: frames) hroom hitem _
        · rw [run_compact item hwhole.1 _ (Nat.not_lt.1 hitem) _
            (isDelimited_following _ (.inl rfl) _ _)]
          exact run_items_deep items hwhole.2 item [] frames hroom (by omega) rest
    · exact run_refused (beginValue_full (.inl rfl) (Nat.not_lt.1 hroom) _)
  | object members =>
    rw [depth] at hdepth
    by_cases hroom : frames.length < limit
    · cases members with
      | nil =>
        rw [depthOfMembers] at hdepth
        omega
      | cons member members =>
        obtain ⟨name, value⟩ := member
        rw [bytes_object, run_want (beginValue_object hroom name)]
        rw [depthOfMembers] at hdepth
        by_cases hvalue : limit < value.depth + (frames.length + 1)
        · exact run_deep value hwhole.1 (.object .whole [] name :: frames) hroom hvalue _
        · rw [run_compact value hwhole.1 _ (Nat.not_lt.1 hvalue) _
            (isDelimited_following _ (.inr rfl) _ _)]
          exact run_members_deep members hwhole.2 name value [] frames hroom (by omega) rest
    · exact run_refused (beginValue_full (.inr rfl) (Nat.not_lt.1 hroom) _)

theorem run_items_deep (items : List Json) (hwhole : AreWhole items) (value : Json)
    (done : List Json) (frames : List Frame) (hframes : frames.length + 1 ≤ limit)
    (hdepth : limit < depthOfItems items + (frames.length + 1)) (rest : Bytes) :
    run limit ⟨.have value, .array .whole done :: frames⟩
      (ofChars (following ']' (compactItems items)) ++ rest) = .error .malformed := by
  cases items with
  | nil =>
    rw [depthOfItems] at hdepth
    omega
  | cons item items =>
    rw [bytes_item, run_have (continueFrame_item (opensValue_compact hwhole.1 _))]
    rw [depthOfItems] at hdepth
    by_cases hitem : limit < item.depth + (frames.length + 1)
    · exact run_deep item hwhole.1 (.array .whole (value :: done) :: frames) hframes hitem _
    · rw [run_compact item hwhole.1 _ (Nat.not_lt.1 hitem) _
        (isDelimited_following _ (.inl rfl) _ _)]
      exact run_items_deep items hwhole.2 item (value :: done) frames hframes (by omega) rest

theorem run_members_deep (members : List (String × Json)) (hwhole : AreWholeMembers members)
    (name : String) (value : Json) (done : List (String × Json)) (frames : List Frame)
    (hframes : frames.length + 1 ≤ limit)
    (hdepth : limit < depthOfMembers members + (frames.length + 1)) (rest : Bytes) :
    run limit ⟨.have value, .object .whole done name :: frames⟩
      (ofChars (following '}' (compactMembers members)) ++ rest) = .error .malformed := by
  cases members with
  | nil =>
    rw [depthOfMembers] at hdepth
    omega
  | cons member members =>
    obtain ⟨next, part⟩ := member
    rw [bytes_member, run_have (continueFrame_member name next)]
    rw [depthOfMembers] at hdepth
    by_cases hpart : limit < part.depth + (frames.length + 1)
    · exact run_deep part hwhole.1 (.object .whole ((name, value) :: done) next :: frames) hframes
        hpart _
    · rw [run_compact part hwhole.1 _ (Nat.not_lt.1 hpart) _
        (isDelimited_following _ (.inr rfl) _ _)]
      exact run_members_deep members hwhole.2 next part ((name, value) :: done) frames hframes
        (by omega) rest

end

/-- The text of a value that is nested too deeply is malformed. -/
theorem readDocument_compact_deep {json : Json} (hwhole : json.IsWhole)
    (hdepth : maxDepth < json.depth) :
    readDocument .whole (ofText json.compact) = .error .malformed := by
  have h := run_deep json hwhole [] (Nat.zero_le maxDepth) hdepth []
  rw [List.append_nil] at h
  rw [compact, Bytes.ofText_ofList, readDocument, readFront, h]
  rfl

end Provenance.Json
