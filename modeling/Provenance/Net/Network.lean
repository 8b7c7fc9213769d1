import Provenance.Bytes
import Provenance.Url.Basic

/-!
The network as the library sees it. A host reaches the network or does not. A
network that is reached holds the replies that each address still has in store
and remembers what was asked of it.
-/

namespace Provenance.Net

/-!
Status codes of HTTP and the reasons that go with them.
-/

def reasons : List (Nat × String) := [
  (100, "Continue"), (101, "Switching Protocols"), (102, "Processing"),
  (200, "OK"), (201, "Created"), (202, "Accepted"), (203, "Non Authoritative Information"),
  (204, "No Content"), (205, "Reset Content"), (206, "Partial Content"), (207, "Multi-Status"),
  (208, "Already Reported"), (226, "IM Used"),
  (300, "Multiple Choices"), (301, "Moved Permanently"), (302, "Found"), (303, "See Other"),
  (304, "Not Modified"), (305, "Use Proxy"), (307, "Temporary Redirect"),
  (308, "Permanent Redirect"),
  (400, "Bad Request"), (401, "Unauthorized"), (402, "Payment Required"), (403, "Forbidden"),
  (404, "Not Found"), (405, "Method Not Allowed"), (406, "Not Acceptable"),
  (407, "Proxy Authentication Required"), (408, "Request Timeout"), (409, "Conflict"),
  (410, "Gone"), (411, "Length Required"), (412, "Precondition Failed"),
  (413, "Payload Too Large"), (414, "URI Too Long"), (415, "Unsupported Media Type"),
  (416, "Range Not Satisfiable"), (417, "Expectation Failed"), (418, "I'm a teapot"),
  (421, "Misdirected Request"), (422, "Unprocessable Entity"), (423, "Locked"),
  (424, "Failed Dependency"), (426, "Upgrade Required"), (428, "Precondition Required"),
  (429, "Too Many Requests"), (431, "Request Header Fields Too Large"),
  (451, "Unavailable For Legal Reasons"),
  (500, "Internal Server Error"), (501, "Not Implemented"), (502, "Bad Gateway"),
  (503, "Service Unavailable"), (504, "Gateway Timeout"), (505, "HTTP Version Not Supported"),
  (506, "Variant Also Negotiates"), (507, "Insufficient Storage"), (508, "Loop Detected"),
  (510, "Not Extended"), (511, "Network Authentication Required")]

def statusText (status : Nat) : String :=
  toString status ++ " " ++ (reasons.lookup status).getD "<unknown status code>"

def isSuccess (status : Nat) : Bool := 200 ≤ status && status < 300

inductive Method where
  | get
  | post
  deriving DecidableEq, Repr

def Method.text : Method → String
  | .get => "GET"
  | .post => "POST"

structure Request where
  method : Method
  url : Url
  body : Bytes

def Request.text (r : Request) : String := r.method.text ++ " " ++ r.url.text

structure Response where
  status : Nat
  body : Bytes
  deriving DecidableEq, Repr

/-- What an address does with a request: it answers, or closes the connection. -/
inductive Reply where
  | response (response : Response)
  | hangUp
  deriving DecidableEq, Repr

inductive Fault where
  | foreignScheme (url : String)
  | unreachable (url : String)
  | closed (url : String)
  deriving DecidableEq, Repr

def Fault.message : Fault → String
  | .foreignScheme url => "builder error for url (" ++ url ++ "): URL scheme is not allowed"
  | .unreachable url =>
    "error sending request for url (" ++ url ++ "): error trying to connect: " ++
      "tcp connect error: Network is unreachable (os error 101)"
  | .closed url =>
    "error sending request for url (" ++ url ++ "): connection closed before message completed"

structure Network where
  reachable : Bool
  /-- The replies of each address, in the order in which they are given. The
  last one is given again and again. -/
  replies : List (String × List Reply)
  /-- Requests that were answered, the earliest first. -/
  asked : List Request

namespace Network

def offline : Network := ⟨false, [], []⟩

def scripted (replies : List (String × List Reply)) : Network := ⟨true, replies, []⟩

def unknownAddress : Reply := .response ⟨404, []⟩

def next (address : String) :
    List (String × List Reply) → Reply × List (String × List Reply)
  | [] => (unknownAddress, [])
  | (other, queue) :: rest =>
    if other = address then
      match queue with
      | [] => (unknownAddress, (other, queue) :: rest)
      | [last] => (last, (other, [last]) :: rest)
      | first :: later => (first, (other, later) :: rest)
    else
      let (reply, rest) := next address rest
      (reply, (other, queue) :: rest)

def send (n : Network) (request : Request) : Network × Except Fault Response :=
  let address := request.url.text
  if request.url.scheme ≠ "http" ∧ request.url.scheme ≠ "https" then
    (n, .error (.foreignScheme address))
  else if !n.reachable then (n, .error (.unreachable address))
  else
    let (reply, replies) := next address n.replies
    let n := { n with replies, asked := n.asked ++ [request] }
    match reply with
    | .response response => (n, .ok response)
    | .hangUp => (n, .error (.closed address))

def forget (n : Network) : Network := { n with asked := [] }

end Network

end Provenance.Net
