import Provenance.Hex
import Provenance.Json.Reader
import Provenance.Json.Shape
import Provenance.Json.Writer
import Provenance.Net.Network

/-!
Asking nodes for the code at an address, over JSON-RPC. There is one node for
each chain; requests are numbered from one on.
-/

namespace Provenance

structure NodeError where
  code : Int
  message : String
  data : Option Json

inductive NodeFault where
  | noUrl (chain : Nat)
  | request (reason : String)
  | badResponse (reason : String)
  | reported (error : NodeError)
  | empty
  | notHex (cause : Hex.Fault)

namespace NodeFault

/-- What failed, without the reason, except where that is all there is to say. -/
def headline : NodeFault → String
  | .noUrl chain => "no rpc url configured for chain " ++ toString chain
  | .request _ => "eth_getCode request failed"
  | .badResponse _ => "invalid json-rpc response"
  | .reported error =>
    "eth_getCode returned error " ++ toString error.code ++ ": " ++ error.message ++
      (error.data.map fun data => " (" ++ data.compact ++ ")").getD ""
  | .empty => "json-rpc response has neither result nor error"
  | .notHex _ => "eth_getCode result is not hex"

def message (f : NodeFault) : String :=
  match f with
  | .request reason | .badResponse reason => f.headline ++ ": " ++ reason
  | .notHex cause => f.headline ++ ": " ++ cause.message
  | _ => f.headline

end NodeFault

open Shape

def NodeError.decode : Decoder NodeError :=
  record "RpcError" false
    (mk <$> Fields.required "code" (signed "i64")
      <*> Fields.required "message" string
      <*> Fields.defaulted "data" (optional fun json => .ok json.sorted) none)

def decodeNodeResponse : Decoder (Option String × Option NodeError) :=
  record "RpcResponse" false
    (Prod.mk <$> Fields.defaulted "result" (optional string) none
      <*> Fields.defaulted "error" (optional NodeError.decode) none)

def nodeResponseInterest : Json.Interest :=
  .members [("result", .whole),
    ("error", .members [("code", .whole), ("message", .whole), ("data", .whole)])]

structure NodeClient where
  urls : List (Nat × Url)
  nextId : Nat := 1

namespace NodeClient

def requestBody (id : Nat) (address : String) : Json :=
  .object [("id", .nat id), ("jsonrpc", .string "2.0"), ("method", .string "eth_getCode"),
    ("params", .array [.string address, .string "latest"])]

def readResponse (body : Bytes) : Except NodeFault Bytes :=
  match Json.readDocument nodeResponseInterest body with
  | .error .unfinished => .error (.badResponse "EOF while parsing a value")
  | .error .malformed => .error (.badResponse "expected value")
  | .ok json =>
    match decodeNodeResponse json with
    | .error m => .error (.badResponse m.cause.message)
    | .ok (_, some error) => .error (.reported error)
    | .ok (none, none) => .error .empty
    | .ok (some text, none) => (Hex.decode text).mapError .notHex

/-- Asks for the code at an address. A chain without a node uses up no number. -/
def code (c : NodeClient) (network : Net.Network) (chain : Nat) (address : String) :
    NodeClient × Net.Network × Except NodeFault Bytes :=
  match c.urls.lookup chain with
  | none => (c, network, .error (.noUrl chain))
  | some url =>
    let body := Bytes.ofText (requestBody c.nextId address).compact
    let c := { c with nextId := c.nextId + 1 }
    let (network, outcome) := network.send ⟨.post, url, body⟩
    let result := match outcome with
      | .error cause => .error (.request cause.message)
      | .ok response =>
        if 400 ≤ response.status && response.status < 600 then
          .error (.request ("HTTP status error (" ++ Net.statusText response.status ++
            ") for url (" ++ url.text ++ ")"))
        else readResponse response.body
    (c, network, result)

end NodeClient

end Provenance
