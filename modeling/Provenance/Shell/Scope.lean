import Provenance.Shell.Machine

/-!
How far a stop reaches: to the end of a loop, of a shell inside another, or of a
process.
-/

namespace Provenance.Shell

def codeOf : Execution.ExitStatus → Nat
  | .exited code => code
  | .killed signal => 128 + signal

/-- Ends a shell inside another: all that it had of its own is as before, but for
its status. -/
def leaveShell (before : Machine) (code : Nat) : Run Unit :=
  modify fun after => { after with toScene := { before.toScene with status := code } }

/-- The status with which a shell ends, unless the whole process does. -/
def finalStatus (action : Run Unit) : Run Nat := do
  try
    action
    pure (← get).status
  catch
    | .exit code => pure code
    | .functionEnd => pure (← get).status
    | .leave _ _ => pure (← get).status
    | stop => throw stop

/-- Runs something in a shell of its own, which has no traps yet. -/
def apart (action : Run Unit) : Run Unit := do
  let before ← get
  set { before with traps := before.traps.filter fun trap => trap.2.isEmpty, loops := 0 }
  leaveShell before (← finalStatus action)

def inProcess (action : Run Unit) : Run Unit := do
  let before ← get
  try apart action
  catch
    | .ended status => leaveShell before (codeOf status)
    | stop => throw stop

/-- What something writes when it runs in a shell of its own, and why it did not
come to its end, if it did not. -/
def overhear (action : Run Unit) : Run (Chars × Option Stop) := do
  let before ← get
  let level := before.collected.length
  set ({ before with collected := before.collected ++ [[]] }.connect 1 (.sink (.output level)))
  let stop ← try
      apart action
      pure none
    catch stop => pure (some stop)
  let after ← get
  set { after with collected := after.collected.take level, channels := before.channels }
  pure (Chars.ofBytes (after.collectedAt level), stop)

def capture (action : Run Unit) : Run Chars := do
  let tested := (← get).tested
  modify fun m => { m with tested := false }
  let (text, stop) ← overhear action
  modify fun m => { m with tested }
  match stop with
  | none => pure text
  | some stop => throw stop

def tolerant (action : Run Unit) : Run Unit := do
  let before ← get
  set { before with tested := true }
  action
  modify fun after => { after with tested := before.tested }

def checkStatus : Run Unit := do
  let m ← get
  if m.options.strict && !m.tested && m.status ≠ 0 then throw (.exit m.status)

/-- What a loop does when its body stops: whether it goes on, or else stops too. -/
def loopStop : Stop → Except Stop Bool
  | .leave 0 goOn | .leave 1 goOn => .ok goOn
  | .leave (levels + 2) goOn => .error (.leave (levels + 1) goOn)
  | stop => .error stop

/-- Runs the body of a loop once, and says whether the loop goes on. -/
def turn (body : Run Unit) : Run Bool := do
  let loops := (← get).loops
  let leave : Run Unit := modify fun m => { m with loops }
  modify fun m => { m with loops := loops + 1 }
  try
    body
    leave
    pure true
  catch stop =>
    leave
    match loopStop stop with
    | .ok goOn => pure goOn
    | .error stop => throw stop

def Machine.reconnect (before after : Machine) (descriptor : Nat) : Machine :=
  match before.channels.lookup descriptor with
  | some channel => after.connect descriptor channel
  | none => after.disconnect descriptor

def under (redirections : Run Bool) (descriptors : List Nat) (action : Run Unit) : Run Unit := do
  let before ← get
  let restore : Run Unit := modify fun after => descriptors.foldl (Machine.reconnect before) after
  try
    if ← redirections then action
  catch stop =>
    restore
    throw stop
  restore

end Provenance.Shell
