import Provenance.Digest.Sha
import Provenance.Hex
import Provenance.Json.Reader
import Provenance.Json.Shape
import Provenance.Net.Network
import Provenance.Url.Parser

/-!
Fetching files. A missing file is told apart from every other failure, so that
a version without a build is not mistaken for a broken network.
-/

namespace Provenance

inductive ManifestFault where
  | notJson (cause : Json.Fault)
  | badShape (cause : Shape.Mismatch)
  deriving DecidableEq, Repr

inductive FetchFault where
  | notFound (url : Url)
  | badStatus (url : Url) (status : Nat)
  | request (cause : Net.Fault)
  | manifest (url : Url) (cause : ManifestFault)
  | badUrl (cause : Url.Fault)
  | wrongHash (expected found : Bytes)
  | hashText (text : String) (cause : Hex.Fault)
  | fileName (name : String)
  | file (text : String)
  | archive (text : String)
  deriving DecidableEq, Repr

def ManifestFault.message : ManifestFault → String
  | .notJson .unfinished => "EOF while parsing a value"
  | .notJson .malformed => "expected value"
  | .badShape m => m.message

def FetchFault.message : FetchFault → String
  | .notFound url => "file not found: " ++ url.text
  | .badStatus url status =>
    "request to " ++ url.text ++ " failed with status " ++ Net.statusText status
  | .request cause => "couldn't fetch the file: " ++ cause.message
  | .manifest url cause =>
    "cannot parse release manifest " ++ url.text ++ ": " ++ cause.message
  | .badUrl cause => "invalid build url: " ++ cause.message
  | .wrongHash expected found =>
    "hashsum of fetched file mismatch: Expected " ++ Hex.encode expected ++ ", found " ++
      Hex.encode found
  | .hashText text cause => "can't parse hashsum: " ++ text ++ ": " ++ cause.message
  | .fileName name => "invalid artifact filename: " ++ Quoted.text name
  | .file text => "couldn't create file: " ++ text
  | .archive text => "cannot unpack archive: " ++ text

/-- Fetches the whole body behind a URL. -/
def fetch (network : Net.Network) (url : Url) : Net.Network × Except FetchFault Bytes :=
  let (network, outcome) := network.send ⟨.get, url, []⟩
  let result := match outcome with
    | .error cause => .error (.request cause)
    | .ok response =>
      if response.status = 404 then .error (.notFound url)
      else if Net.isSuccess response.status then .ok response.body
      else .error (.badStatus url response.status)
  (network, result)

def checkHash (content : Bytes) (expected : String) : Except FetchFault Unit :=
  match Hex.decode expected with
  | .error cause => .error (.hashText expected cause)
  | .ok expected =>
    let found := Sha256.digest content
    if expected = found then .ok () else .error (.wrongHash expected found)

end Provenance
