import Provenance.Compiler.Artifacts

/-!
Downloads that overlap. Each file name has an entry that one download holds at a
time, from its look for the file until it publishes the path or fails. A
download that finds an entry first reads it, once nobody holds it, and joins
those that want to hold it only if nothing is published.
-/

namespace Provenance.Artifacts

/-- Where a download stands. From `checking` to `publishing` it holds its entry. -/
inductive Stage where
  | asked
  | looking
  | reading
  | entering
  | queued
  | checking
  | transferring
  | storing (data : Bytes)
  | publishing
  | ended (result : Except FetchFault String)

namespace Stage

def holds : Stage → Bool
  | .checking | .transferring | .storing _ | .publishing => true
  | .asked | .looking | .reading | .entering | .queued | .ended _ => false

def isTransferring : Stage → Bool
  | .transferring => true
  | _ => false

def isReading : Stage → Bool
  | .reading => true
  | _ => false

def result? : Stage → Option (Except FetchFault String)
  | .ended result => some result
  | _ => none

end Stage

structure Downloads where
  artifacts : Artifacts
  entries : List String
  surroundings : Surroundings
  calls : List (ArtifactOrder × Stage)

namespace Downloads

def start (artifacts : Artifacts) (surroundings : Surroundings)
    (orders : List ArtifactOrder) : Downloads :=
  ⟨artifacts, artifacts.published.map Prod.fst, surroundings, orders.map (·, .asked)⟩

def isHeld (d : Downloads) (fileName : String) : Bool :=
  d.calls.any fun call => call.1.fileName = fileName && call.2.holds

def enter (d : Downloads) (fileName : String) : Downloads :=
  { d with entries := d.entries.insert fileName }

def setStage (d : Downloads) (index : Nat) (order : ArtifactOrder) (stage : Stage) : Downloads :=
  { d with calls := d.calls.set index (order, stage) }

/-- The next step of a download at a given stage; none while it has to wait. -/
def step (d : Downloads) (index : Nat) (order : ArtifactOrder) : Stage → Option Downloads
  | .asked =>
    if FileName.isValid order.fileName then
      some ({ d with artifacts := d.artifacts.countLookup }.setStage index order .looking)
    else some (d.setStage index order (.ended (.error (.fileName order.fileName))))
  | .looking =>
    some (d.setStage index order
      (if order.fileName ∈ d.entries then .reading else .entering))
  | .reading =>
    if d.isHeld order.fileName then none
    else
      match d.artifacts.published? order.fileName with
      | some path =>
        some ({ d with artifacts := d.artifacts.countHit }.setStage index order
          (.ended (.ok path)))
      | none => some (d.setStage index order .entering)
  | .entering => some ((d.enter order.fileName).setStage index order .queued)
  | .queued =>
    if d.isHeld order.fileName then none
    else
      match d.artifacts.published? order.fileName with
      | some path => some (d.setStage index order (.ended (.ok path)))
      | none => some (d.setStage index order .checking)
  | .checking =>
    some (d.setStage index order
      (match d.artifacts.isPresent d.surroundings.files order.fileName with
      | .error fault => .ended (.error fault)
      | .ok true => .publishing
      | .ok false => .transferring))
  | .transferring =>
    let (network, fetched) := fetch d.surroundings.network order.url
    let d := { d with surroundings := { d.surroundings with network } }
    some (d.setStage index order
      (match fetched with
      | .error fault => .ended (.error fault)
      | .ok data => .storing data))
  | .storing data =>
    let (files, stored) := d.artifacts.store d.surroundings.files order data
    let d := { d with surroundings := { d.surroundings with files } }
    some (d.setStage index order
      (match stored with
      | .error fault => .ended (.error fault)
      | .ok () => .publishing))
  | .publishing =>
    some ({ d with artifacts := d.artifacts.publish order.fileName }.setStage index order
      (.ended (.ok (d.artifacts.path order.fileName))))
  | .ended _ => none

def advance (d : Downloads) (index : Nat) : Option Downloads :=
  match d.calls[index]? with
  | some (order, stage) => d.step index order stage
  | none => none

def Step (before after : Downloads) : Prop := ∃ index, before.advance index = some after

/-! One order of the steps: transfers take longer than everything else, an entry
that is let go is first read by all who wait to read it, and otherwise the
earlier download goes first. -/

def indices (d : Downloads) (isAt : Stage → Bool) : List Nat :=
  (d.calls.zipIdx.filter fun entry => isAt entry.1.2).map Prod.snd

def turns (d : Downloads) : List Nat :=
  d.indices Stage.isReading ++ d.indices (fun stage => !stage.isTransferring) ++
    d.indices Stage.isTransferring

/-- Runs until no download can make a step. -/
def run : Nat → Downloads → Downloads
  | 0, d => d
  | fuel + 1, d =>
    match d.turns.findSome? d.advance with
    | some d => run fuel d
    | none => d

def maxSteps : Nat := 10

def finish (d : Downloads) : Downloads := run (maxSteps * d.calls.length) d

def results (d : Downloads) : List (Except FetchFault String) :=
  d.calls.filterMap fun call => call.2.result?

end Downloads

end Provenance.Artifacts
