import Provenance.Proofs.Execution.LineLimit
import Provenance.Proofs.Execution.Stream
import Provenance.Proofs.Json.Nesting

/-!
Payloads through their messages. A payload comes from a document, so it is nested no
deeper than a reader goes; its message is nested one deeper. So a reader hears every
message whose line keeps the limit, unless the payload is nested as deeply as a
document can be: that message is malformed to it.
-/

namespace Provenance.Execution

open Shape

/-- What is heard of a message within the limit: nothing under the greatest limit, else
the message if there is room for an object around its payload. -/
def heard {μ : Type} (limit : Nat) (payload : Json) (message : μ) (rest : Stream) : Incoming μ :=
  if limit + 1 = 2 ^ 64 then .failed .overflow
  else if payload.depth < Json.maxDepth then .message message rest
  else .failed (.breach .malformed)

/-- How a message with a payload crosses over: on a line of its own, and heard by a
reader whose limit the line keeps, which goes on behind it. -/
structure Crosses {μ : Type} (decode : Decoder μ) (json payload : Json) (message : μ)
    (limit : Nat) : Prop where
  isLine : IsLine (lineOf json)
  received : (lineOf json).length ≤ limit → ∀ more closed,
    (⟨lineOf json ++ more, closed⟩ : Stream).receive decode limit =
      heard limit payload message ⟨more, closed⟩

variable {μ : Type} {decode : Decoder μ} {limit : Nat} {members : List (String × Json)}

theorem parseMessage_deep (hwhole : (Json.object members).IsWhole)
    (hdepth : Json.maxDepth < (Json.object members).depth) :
    parseMessage decode ((Json.object members).compact ++ "\n") = .error (.breach .malformed) := by
  have hread := Json.readDocument_compact_deep hwhole hdepth
  rw [Json.compact] at hread
  simp only [parseMessage, dropEnd_line, hread]

/-- A line within the limit that is no message is refused as that. -/
theorem Stream.receive_refused {json : Json} {cause : Fault} (hlimit : limit < 2 ^ 64 - 1)
    (hlength : (lineOf json).length ≤ limit)
    (h : parseMessage decode (json.compact ++ "\n") = .error cause) (more : Bytes) (closed : Bool) :
    (⟨lineOf json ++ more, closed⟩ : Stream).receive decode limit = .failed cause := by
  have hline := isLine_lineOf json
  have hcut : (⟨lineOf json ++ more, closed⟩ : Stream).line? (limit + 1) =
      some (lineOf json, ⟨more, closed⟩) :=
    (line?_eq_some_iff_splits hlength).2 ⟨rfl, rfl, hline.newline, .inl hline.ends⟩
  have htext : Utf8.decode? (lineOf json) = some (json.compact ++ "\n") := Utf8.decode_ofText _
  have hempty : (lineOf json).isEmpty = false := List.isEmpty_eq_false_iff.2 hline.ne_nil
  rw [receive, asked_eq hlimit]
  simp only [hcut, hempty, Bool.false_eq_true, if_false, htext, if_neg (Nat.not_lt.2 hlength), h]

/-- A message that holds a payload crosses over as far as the payload is nested. -/
theorem crosses_of_depth {json payload : Json} {message : μ} (hjson : json = .object members)
    (hdecode : decode json = .ok message) (hwhole : json.IsWhole)
    (hdepth : json.depth = payload.depth + 1) (hlimit : limit < 2 ^ 64) :
    Crosses decode json payload message limit := by
  subst hjson
  refine ⟨isLine_lineOf _, fun hlength more closed => ?_⟩
  by_cases hlast : limit + 1 = 2 ^ 64
  · rw [heard, if_pos hlast]
    exact Stream.receive_greatest hlast
  rw [heard, if_neg hlast]
  by_cases hroom : payload.depth < Json.maxDepth
  · rw [if_pos hroom]
    exact Stream.receive_lineOf hdecode ⟨hwhole, by omega, hlength⟩ (by omega) more closed
  · rw [if_neg hroom]
    have hdeep : Json.maxDepth < (Json.object members).depth := by omega
    exact Stream.receive_refused (by omega) hlength (parseMessage_deep hwhole hdeep) more closed

theorem crosses_input {payload : Json} {id : Nat} (hid : id < 2 ^ 64) (hsorted : payload.IsSorted)
    (hwhole : payload.IsWhole) (hlimit : limit < 2 ^ 64) (compiler : String) :
    let message := ParentMessage.input id compiler payload
    Crosses ParentMessage.decode message.toJson payload message limit := by
  intro message
  have hrange : Json.InRange id := ⟨by omega, by omega⟩
  refine crosses_of_depth rfl (ParentMessage.decode_toJson ⟨hid, hsorted⟩) ?_ ?_ hlimit
  · exact ⟨trivial, hrange, trivial, hwhole, trivial⟩
  · simp [message, ParentMessage.toJson, Json.depth, Json.depthOfMembers, Json.nat]

theorem crosses_output {result : Json} {id : Nat} (hid : id < 2 ^ 64) (hsorted : result.IsSorted)
    (hwhole : result.IsWhole) (hlimit : limit < 2 ^ 64) :
    let message := WorkerMessage.output id result
    Crosses WorkerMessage.decode message.toJson result message limit := by
  intro message
  have hrange : Json.InRange id := ⟨by omega, by omega⟩
  refine crosses_of_depth rfl (WorkerMessage.decode_toJson ⟨hid, hsorted⟩) ?_ ?_ hlimit
  · exact ⟨trivial, hrange, hwhole, trivial⟩
  · simp [message, WorkerMessage.toJson, Json.depth, Json.depthOfMembers, Json.nat]

/-- What has been read from a document without floats crosses over in both directions,
for every number and every compiler, unless it is nested as deeply as a document can
be. -/
theorem payload_crosses_unless_deepest {document : Bytes} {payload : Json}
    (hread : Json.read document = .ok payload) (hfloatless : payload.IsFloatless) {id limit : Nat}
    (hid : id < 2 ^ 64) (hlimit : limit < 2 ^ 64) (compiler : String) :
    let input := ParentMessage.input id compiler payload
    let output := WorkerMessage.output id payload
    payload.depth ≤ Json.maxDepth ∧
      Crosses ParentMessage.decode input.toJson payload input limit ∧
      Crosses WorkerMessage.decode output.toJson payload output limit := by
  obtain ⟨hsorted, hbounded⟩ := Json.isParsed_of_read hread
  have hwhole := hbounded.isWhole hfloatless
  exact ⟨hbounded.depth_le, crosses_input hid hsorted hwhole hlimit compiler,
    crosses_output hid hsorted hwhole hlimit⟩

def nestedArrays : Nat → Json
  | 0 => .array []
  | n + 1 => .array [nestedArrays n]

theorem depth_nestedArrays (n : Nat) : (nestedArrays n).depth = n + 1 := by
  induction n with
  | zero => rfl
  | succ n ih => simp [nestedArrays, Json.depth, Json.depthOfItems, ih]

theorem numbers_nestedArrays (n : Nat) : (nestedArrays n).numbers = [] := by
  induction n with
  | zero => rfl
  | succ n ih => simp [nestedArrays, Json.numbers, Json.numbersOfItems, ih]

theorem sorted_nestedArrays (n : Nat) : (nestedArrays n).sorted = nestedArrays n := by
  induction n with
  | zero => rfl
  | succ n ih => simp [nestedArrays, Json.sorted, Json.sortedItems, ih]

theorem isFloatless_nestedArrays (n : Nat) : (nestedArrays n).IsFloatless := by
  simp [Json.IsFloatless, numbers_nestedArrays]

theorem read_nestedArrays {n : Nat} (h : n < Json.maxDepth) :
    Json.read (Bytes.ofText (nestedArrays n).compact) = .ok (nestedArrays n) := by
  have hbounded : Json.IsBounded (n + 1) (nestedArrays n) :=
    ⟨(depth_nestedArrays n).le, by simp [numbers_nestedArrays]⟩
  exact Json.read_compact (sorted_nestedArrays n) (hbounded.isWhole (isFloatless_nestedArrays n))
    ((depth_nestedArrays n).trans_le h)

/-- A payload that is nested as deeply as one may be. -/
theorem nested_payload_crosses :
    let payload := nestedArrays 125
    let output := WorkerMessage.output 1 payload
    Json.read (Bytes.ofText payload.compact) = .ok payload ∧
      (⟨lineOf output.toJson, true⟩ : Stream).receive WorkerMessage.decode 4096 =
        .message output ⟨[], true⟩ := by
  intro payload output
  have hread : Json.read (Bytes.ofText payload.compact) = .ok payload :=
    read_nestedArrays (by decide)
  obtain ⟨-, -, hcrosses⟩ := payload_crosses_unless_deepest hread (isFloatless_nestedArrays 125)
    (show 1 < 2 ^ 64 by decide) (show 4096 < 2 ^ 64 by decide) "soljson.js"
  have hheard := hcrosses.received (by decide +kernel) [] true
  rw [List.append_nil] at hheard
  refine ⟨hread, hheard.trans ?_⟩
  rw [heard, if_neg (by decide), if_pos (by rw [depth_nestedArrays]; decide)]

/-- A payload that a document can hold and no message can. -/
theorem deepest_payload_refused :
    let payload := nestedArrays 126
    let output := WorkerMessage.output 1 payload
    Json.read (Bytes.ofText payload.compact) = .ok payload ∧ payload.IsFloatless ∧
      (lineOf output.toJson).length ≤ 4096 ∧
      (⟨lineOf output.toJson, true⟩ : Stream).receive WorkerMessage.decode 4096 ≠
        .message output ⟨[], true⟩ := by
  intro payload output
  have hread : Json.read (Bytes.ofText payload.compact) = .ok payload :=
    read_nestedArrays (by decide)
  have hfloatless := isFloatless_nestedArrays 126
  obtain ⟨hsorted, hbounded⟩ := Json.isParsed_of_read hread
  have hcrosses := crosses_output (show 1 < 2 ^ 64 by decide) hsorted
    (hbounded.isWhole hfloatless) (show 4096 < 2 ^ 64 by decide)
  have hlength : (lineOf output.toJson).length ≤ 4096 := by decide +kernel
  have hheard := hcrosses.received hlength [] true
  rw [List.append_nil, heard, if_neg (by decide), if_neg (by rw [depth_nestedArrays]; decide)]
    at hheard
  exact ⟨hread, hfloatless, hlength, by rw [hheard]; exact nofun⟩

end Provenance.Execution
