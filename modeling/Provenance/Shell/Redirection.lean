import Provenance.Shell.Machine

/-!
Where commands read from and write to.
-/

namespace Provenance.Shell

def zeroPath : String := "/dev/zero"

/-- The file without content, in which all that is written is lost. -/
def nullPath : String := "/dev/null"

def inputPath : String := "/dev/stdin"

def descriptorOf? (path : String) : Option Nat :=
  match [(inputPath, 0), ("/dev/stdout", 1), ("/dev/stderr", 2)].lookup path with
  | some descriptor => some descriptor
  | none => do
    let digits ← ["/dev/fd/", "/proc/self/fd/"].findSome? fun directory =>
      if path.startsWith directory then some (path.toList.drop directory.length) else none
    if !digits.isEmpty && digits.all Ascii.isDigit then some (Ascii.numberOf 10 digits) else none

def duplicate (descriptor other : Nat) : Run Bool := do
  let m ← get
  match m.channels.lookup other with
  | some channel => set (m.connect descriptor channel); pure true
  | none => pure false

def openSink (descriptor : Nat) (add : Bool) (path : String) : Run Bool := do
  let m ← get
  if path = nullPath then set (m.connect descriptor (.sink .nowhere)); pure true
  else
    match descriptorOf? path with
    | some other => duplicate descriptor other
    | none =>
      let old := if add then (m.files.read path).toOption.getD [] else []
      match m.files.write path old with
      | .ok files =>
        set ({ m with files }.connect descriptor (.sink (.file path)))
        pure true
      | .error _ => pure false

/-- How much is kept of a text without end. -/
def floodSize : Nat := 2 ^ 20

def zeros : Source := ⟨⟨List.replicate floodSize 0, false⟩, true, true⟩

def openSource (descriptor : Nat) (path : String) : Run Bool := do
  let m ← get
  if path = nullPath then set (m.feed descriptor (.ended [] true)); pure true
  else if path = zeroPath then set (m.feed descriptor zeros); pure true
  else
    match descriptorOf? path with
    | some other => duplicate descriptor other
    | none =>
      match m.files.read path with
      | .ok content => set (m.feed descriptor (.ended content true)); pure true
      | .error _ => pure false

/-- Makes a redirection to an expanded target, and says whether it could. -/
def redirect (descriptor : Nat) (kind : RedirectKind) (target : Chars) : Run Bool := do
  match kind with
  | .read => openSource descriptor (← pathOf target)
  | .document =>
    modify fun m => m.feed descriptor (.ended (Chars.toBytes target) false)
    pure true
  | .write => openSink descriptor false (← pathOf target)
  | .append => openSink descriptor true (← pathOf target)
  | .readWrite =>
    let path ← pathOf target
    if (← get).files.read path |>.isOk then openSource descriptor path
    else
      let _ ← openSink descriptor false path
      openSource descriptor path
  | .duplicate =>
    if target = ['-'] then modify fun m => m.disconnect descriptor; pure true
    else if !target.isEmpty && target.all Ascii.isDigit then
      duplicate descriptor (Ascii.numberOf 10 target)
    else pure false

end Provenance.Shell
