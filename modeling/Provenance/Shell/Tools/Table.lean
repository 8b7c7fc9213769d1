import Provenance.Shell.Tools.Basic
import Provenance.Shell.Tools.Copy
import Provenance.Shell.Tools.Characters
import Provenance.Shell.Tools.Codes
import Provenance.Shell.Tools.Count
import Provenance.Shell.Tools.Edit
import Provenance.Shell.Tools.Lines
import Provenance.Shell.Tools.Paths
import Provenance.Shell.Tools.Records
import Provenance.Shell.Tools.Search
import Provenance.Shell.Tools.Test

/-!
The tools by name. Each sets the status of the shell.
-/

namespace Provenance.Shell.Tools

def internal : List (String × (List Chars → Run Unit)) :=
  [("read", read), (":", fun _ => setStatus 0)]

def shared : List (String × (List Chars → Run Unit)) :=
  [("echo", echo), ("printf", printf), ("test", runTest "test"), ("[", bracket), ("kill", kill),
    ("true", fun _ => setStatus 0), ("false", fun _ => setStatus 1)]

def external : List (String × (List Chars → Run Unit)) :=
  [("echo", echoProgram), ("cat", cat), ("head", head), ("tail", tail), ("tee", tee),
    ("yes", yes), ("dd", dd), ("tr", tr),
    ("sleep", sleep), ("uname", uname), ("whoami", whoami), ("id", identity),
    ("wc", wc), ("seq", seq), ("expr", expr),
    ("cut", cut), ("sort", sort), ("uniq", uniq), ("comm", comm), ("rev", rev), ("tac", tac),
    ("nl", nl), ("paste", paste), ("fold", fold),
    ("grep", grep 'G'), ("egrep", grep 'E'), ("fgrep", grep 'F'), ("sed", sed),
    ("awk", awk), ("mawk", awk),
    ("md5sum", digests "md5sum" Md5.digest), ("sha1sum", digests "sha1sum" Sha1.digest),
    ("sha256sum", digests "sha256sum" Sha256.digest), ("cksum", cksum), ("base64", base64),
    ("od", od),
    ("basename", basename), ("dirname", dirname), ("realpath", realpath "realpath"),
    ("readlink", realpath "readlink"), ("mkdir", mkdir), ("rm", rm), ("rmdir", rmdir),
    ("touch", touch), ("cp", cp), ("mv", mv), ("chmod", chmod), ("mktemp", mktemp), ("ls", ls),
    ("stat", stat)]

def own? (name : Chars) : Option (List Chars → Run Unit) :=
  (internal ++ shared).lookup (String.ofList name)

def program? (name : Chars) : Option (List Chars → Run Unit) :=
  (external ++ shared).lookup (String.ofList name)

end Provenance.Shell.Tools
