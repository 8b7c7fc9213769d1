import Provenance.Proofs.Execution.Exchange

/-!
Where an exchange comes to rest. If the compiler succeeds and the lines fit their
readers, both sides succeed, with the output that the compiler gave for the very
input that was handed over. If the compiler fails, the worker says nothing more, and
the other side sees its end.
-/

namespace Provenance.Execution.Parties

variable {p : Parties} {s : Exchange}

def input (p : Parties) : ParentMessage := .input p.task.id p.task.compiler p.task.payload

/-- Parties whose data are such as the program holds: numbers of sixty-four bits, the
cap being small enough for one byte more, and values with their names in order. Time
has a length. -/
structure IsProper (p : Parties) : Prop where
  id_lt : p.task.id < 2 ^ 64
  payload : p.task.payload.IsSorted
  result : ∀ result, p.compile p.task.compiler p.task.payload = .ok result → result.IsSorted
  limit_lt : p.limit < 2 ^ 64 - 1
  timeout_ne : p.timeout ≠ ⟨0⟩

structure InputFits (p : Parties) : Prop where
  ready : IsReadable WorkerMessage.ready.toJson p.limit
  input : IsReadable p.input.toJson Limits.standard.maxOutput

def OutputFits (p : Parties) (result : Json) : Prop :=
  IsReadable (WorkerMessage.output p.task.id result).toJson p.limit

structure Succeeds (p : Parties) (s : Exchange) (result : Json) : Prop where
  driven : (p.session s).result = some (.ok result)
  served : p.WorkerIsDone s ∧ (p.service s).result = .ok ()

/-- The worker has failed, and at no time has it written more than that it is ready. -/
structure Fails (p : Parties) (s : Exchange) (cause : Fault) : Prop where
  served : p.WorkerIsDone s ∧ (p.service s).result = .error cause
  silent : ∀ earlier, p.Reaches earlier s → (p.service earlier).outlet.written <+: [.ready]

/-- The worker's stream is closed, and the other side has seen it close too early. -/
structure Breaks (p : Parties) (s : Exchange) : Prop where
  closed : s.toParent.closed = true
  driven : ∃ breach, (p.session s).result = some (.error (.breach breach))

/-! The worker by what it has received -/

theorem serving_eq (p : Parties) (s : Exchange) :
    (p.service s, p.calls s) =
      match s.toWorker.receive ParentMessage.decode Limits.standard.maxOutput with
      | .nothing => (⟨{ written := [.ready] }, p.timeout, .error (.breach (.noInput p.timeout))⟩, [])
      | .failed cause => (⟨{ written := [.ready] }, ⟨0⟩, .error cause⟩, [])
      | .ended => (⟨{ written := [.ready] }, ⟨0⟩, .error (.breach .closedBeforeInput)⟩, [])
      | .message .shutdown _ => (⟨{ written := [.ready] }, ⟨0⟩, .ok ()⟩, [])
      | .message (.input id compiler payload) rest =>
        match p.compile compiler payload with
        | .error cause =>
          (⟨{ written := [.ready] }, ⟨0⟩, .error cause⟩, [(compiler, payload)])
        | .ok result =>
          (answer id result p.timeout rest { written := [.ready] }, [(compiler, payload)]) := by
  rw [← serveRecorded_toWorker]
  exact serveRecorded_eq rfl

/-- The worker begins with being ready. -/
theorem ready_begins (p : Parties) (s : Exchange) :
    [.ready] <+: (p.service s).outlet.written := by
  have hready : Outlet.write {} WorkerMessage.ready = .ok { written := [.ready] } := rfl
  rw [service, ← serveRecorded_fst]
  exact serveRecorded_extends hready

theorem exists_forParent (p : Parties) (s : Exchange) :
    ∃ more, p.forParent s = lineOf WorkerMessage.ready.toJson ++ more := by
  obtain ⟨more, hmore⟩ := ready_begins p s
  exact ⟨linesOf (more.map WorkerMessage.toJson), by rw [forParent, ← hmore]; rfl⟩

/-! The exchange at rest, line by line -/

theorem capacity_lt : Limits.standard.maxOutput < 2 ^ 64 - 1 := by decide

theorem isReadable_shutdown :
    IsReadable ParentMessage.shutdown.toJson Limits.standard.maxOutput where
  isWhole := ⟨trivial, trivial⟩
  depth_le := by decide
  length_le := by
    rw [lineOf_eq]
    decide

/-- The side that gives the work has got the first line and has sent the input. -/
theorem session_of_ready (hp : p.IsProper) (hready : IsReadable WorkerMessage.ready.toJson p.limit)
    {more : Bytes} (hmore : s.toParent.arrived = lineOf WorkerMessage.ready.toJson ++ more) :
    p.session s =
      p.task.awaitOutput p.limit ⟨more, s.toParent.closed⟩ { written := [p.input] } := by
  have hreceived := Stream.receive_workerMessage .ready trivial hready hp.limit_lt hmore
  rw [session, Task.drive, hreceived]
  rfl

/-- The worker has got the input. -/
theorem serving_of_input (hp : p.IsProper)
    (hinput : IsReadable p.input.toJson Limits.standard.maxOutput) {more : Bytes}
    (hmore : s.toWorker.arrived = lineOf p.input.toJson ++ more) :
    (p.service s, p.calls s) =
      match p.compile p.task.compiler p.task.payload with
      | .error cause =>
        (⟨{ written := [.ready] }, ⟨0⟩, .error cause⟩, [(p.task.compiler, p.task.payload)])
      | .ok result =>
        (answer p.task.id result p.timeout ⟨more, s.toWorker.closed⟩ { written := [.ready] },
          [(p.task.compiler, p.task.payload)]) := by
  have hreceived := Stream.receive_parentMessage p.input ⟨hp.id_lt, hp.payload⟩ hinput capacity_lt
    hmore
  rw [serving_eq, hreceived, input]

namespace AtRest

/-- At rest the first line has arrived. -/
theorem exists_toParent (h : p.AtRest s) :
    ∃ more, s.toParent.arrived = lineOf WorkerMessage.ready.toJson ++ more := by
  rw [h.toParent]
  exact exists_forParent p s

/-- If the first line fits, the input has arrived. -/
theorem exists_toWorker (h : p.AtRest s) (hp : p.IsProper)
    (hready : IsReadable WorkerMessage.ready.toJson p.limit) :
    ∃ more, s.toWorker.arrived = lineOf p.input.toJson ++ more := by
  obtain ⟨more, hmore⟩ := h.exists_toParent
  obtain ⟨messages, hmessages⟩ :=
    p.task.awaitOutput_extends p.limit ⟨more, s.toParent.closed⟩ { written := [p.input] }
  rw [← session_of_ready hp hready hmore] at hmessages
  exact ⟨linesOf (messages.map ParentMessage.toJson), by rw [h.toWorker, forWorker, ← hmessages]; rfl⟩

/-- If the lines up to the input fit, the compiler has been called once, with what
was handed over. -/
theorem calls_eq (h : p.AtRest s) (hp : p.IsProper) (hfits : p.InputFits) :
    p.calls s = [(p.task.compiler, p.task.payload)] := by
  obtain ⟨more, hmore⟩ := h.exists_toWorker hp hfits.ready
  have hserving := serving_of_input hp hfits.input hmore
  split at hserving
  · exact (Prod.mk.inj hserving).2
  · exact (Prod.mk.inj hserving).2

/-- The worker has answered, and the other side has told it to stop. -/
theorem succeeds (h : p.AtRest s) (hp : p.IsProper) (hfits : p.InputFits) {result : Json}
    (hresult : p.compile p.task.compiler p.task.payload = .ok result)
    (houtput : p.OutputFits result) : p.Succeeds s result := by
  obtain ⟨fromWorker, hfromWorker⟩ := h.exists_toParent
  obtain ⟨behindInput, hbehindInput⟩ := h.exists_toWorker hp hfits.ready
  have hsession := session_of_ready hp hfits.ready hfromWorker
  have hserving := serving_of_input hp hfits.input hbehindInput
  rw [hresult] at hserving
  have hservice : p.service s = answer p.task.id result p.timeout
      ⟨behindInput, s.toWorker.closed⟩ { written := [.ready] } := (Prod.mk.inj hserving).1
  have hwritten : (p.service s).outlet.written = [.ready, .output p.task.id result] := by
    rw [hservice, answer_outlet rfl]
    rfl
  have hanswer : fromWorker = lineOf (WorkerMessage.output p.task.id result).toJson ++ [] := by
    have hall := h.toParent
    rw [hfromWorker, forParent, hwritten] at hall
    exact List.append_cancel_left hall
  have hreceived := Stream.receive_workerMessage (s := ⟨fromWorker, s.toParent.closed⟩)
    (.output p.task.id result) ⟨hp.id_lt, hp.result result hresult⟩ houtput hp.limit_lt
    hanswer
  have hdriven : p.session s = ⟨{ written := [p.input, .shutdown] }, some (.ok result)⟩ := by
    rw [hsession, Task.awaitOutput, hreceived]
    simp only [if_true]
    rfl
  have hstop : behindInput = lineOf ParentMessage.shutdown.toJson ++ [] := by
    have hall := h.toWorker
    rw [hbehindInput, forWorker, hdriven] at hall
    exact List.append_cancel_left hall
  have hstopped := Stream.receive_parentMessage (s := ⟨behindInput, s.toWorker.closed⟩)
    .shutdown trivial isReadable_shutdown capacity_lt hstop
  have hended : p.service s =
      ⟨{ written := [.ready, .output p.task.id result] }, ⟨0⟩, .ok ()⟩ := by
    rw [hservice, answer]
    simp only [hstopped]
    rfl
  refine ⟨by rw [hdriven], ?_, by rw [hended]⟩
  rw [WorkerIsDone, hended]

end AtRest

/-- Without an input there is neither a call nor an answer. -/
theorem serving_cases (p : Parties) (s : Exchange) :
    p.calls s = [] ∧ (p.service s).outlet.written = [.ready] ∨
      ∃ id compiler payload rest,
        s.toWorker.receive ParentMessage.decode Limits.standard.maxOutput =
          .message (.input id compiler payload) rest ∧ p.calls s = [(compiler, payload)] := by
  have hserving := serving_eq p s
  split at hserving
  iterate 4
    · rw [(Prod.mk.inj hserving).1, (Prod.mk.inj hserving).2]
      exact .inl ⟨rfl, rfl⟩
  · rename_i id compiler payload rest hreceived
    refine .inr ⟨id, compiler, payload, rest, hreceived, ?_⟩
    split at hserving
    · exact (Prod.mk.inj hserving).2
    · exact (Prod.mk.inj hserving).2

/-- A call was made for a message that has come. -/
theorem exists_received {call : String × Json} (h : call ∈ p.calls s) :
    ∃ id rest, s.toWorker.receive ParentMessage.decode Limits.standard.maxOutput =
      .message (.input id call.1 call.2) rest := by
  rcases serving_cases p s with ⟨hnone, -⟩ | ⟨id, compiler, payload, rest, hreceived, hcalls⟩
  · rw [hnone] at h
    cases h
  · rw [hcalls, List.mem_singleton] at h
    exact ⟨id, rest, by rw [hreceived, h]⟩

/-- A call that fails ends the worker's part. -/
theorem fails_of_call {call : String × Json} {cause : Fault} (hcall : call ∈ p.calls s)
    (hfail : p.compile call.1 call.2 = .error cause) : p.Fails s cause := by
  obtain ⟨id, rest, hreceived⟩ := exists_received hcall
  have hserving := serving_eq p s
  simp only [hreceived, hfail] at hserving
  have hservice := (Prod.mk.inj hserving).1
  refine ⟨⟨?_, by rw [hservice]⟩, fun earlier hreaches => ?_⟩
  · rw [WorkerIsDone, hservice]
  · have hwritten := hreaches.service_written
    rwa [hservice] at hwritten

/-- Behind the ready line of a worker that failed there is only the end of its
stream. -/
theorem AtRest.breaks (h : p.AtRest s) (hp : p.IsProper) {cause : Fault} (hfails : p.Fails s cause)
    {call : String × Json} (hcall : call ∈ p.calls s) : p.Breaks s := by
  have hclosed := h.closed hfails.served.1
  refine ⟨hclosed, ?_⟩
  have hsilent : (p.service s).outlet.written = [.ready] :=
    ((ready_begins p s).eq_of_length_le (hfails.silent s .refl).length_le).symm
  have harrived : s.toParent.arrived =
      Bytes.ofChars WorkerMessage.ready.toJson.compactChars ++ [10] := by
    rw [h.toParent, forParent, hsilent, ← lineOf_eq]
    exact List.append_nil _
  have hnewline : 10 ∉ Bytes.ofChars WorkerMessage.ready.toJson.compactChars := by decide
  -- the call shows that the input was sent, so the first line was a good one
  obtain ⟨id, rest, hreceived⟩ := exists_received hcall
  obtain ⟨line, hline, hinput, -⟩ := Stream.receive_eq_message capacity_lt hreceived
  have hsent : (p.session s).outlet.written ≠ [] := by
    intro hnone
    rw [h.toWorker, forWorker, hnone] at hinput
    exact hline (List.append_eq_nil_iff.mp hinput.symm).1
  rw [session, Task.drive.eq_def] at hsent ⊢
  split at hsent
  · exact absurd rfl hsent
  · exact absurd rfl hsent
  · exact absurd rfl hsent
  · rename_i behind hready
    have hbehind :=
      Stream.receive_single hp.limit_lt hnewline (harrived ▸ List.prefix_rfl) hready
    rw [hclosed] at hbehind
    subst hbehind
    exact ⟨.exitedBeforeOutput, by
      simp only [Outlet.write, Task.awaitOutput, Stream.receive_end hp.limit_lt]
      rfl⟩
  · exact absurd rfl hsent

/-- At no time is the compiler called with anything else. -/
theorem Reaches.calls_input (h : p.Reaches .start s) (hp : p.IsProper)
    (hfits : p.InputFits) : p.calls s <+: [(p.task.compiler, p.task.payload)] := by
  have hs := h.consistent hp.timeout_ne (consistent_start p)
  obtain ⟨s', hreaches, hrest⟩ := (hs.inevitably_atRest hp.timeout_ne).exists_reaches
  rw [← hrest.calls_eq hp hfits]
  exact hreaches.calls_extend

/-- The handshake. However the bytes are cut on their way, the exchange comes to rest.
If the lines up to the input fit their readers, the compiler is called once, with the
very file and payload that were handed over; if it succeeds and the line of its output
fits too, both sides succeed, the one that gave the work with that output. A call that
fails, whatever the lines, is the end of the worker: it fails with the same cause and
never writes an output, its stream is closed, and the other side takes this for a
breach of the protocol. -/
theorem handshake (hp : p.IsProper) :
    p.Inevitably p.AtRest .start ∧
      ∀ s, p.Reaches .start s →
        (p.InputFits → p.calls s <+: [(p.task.compiler, p.task.payload)] ∧
          (p.AtRest s → p.calls s = [(p.task.compiler, p.task.payload)])) ∧
        (∀ result, p.compile p.task.compiler p.task.payload = .ok result → p.InputFits →
          p.OutputFits result → p.AtRest s → p.Succeeds s result) ∧
        (∀ call ∈ p.calls s, ∀ cause, p.compile call.1 call.2 = .error cause →
          p.Fails s cause ∧ (p.AtRest s → p.Breaks s)) := by
  refine ⟨(consistent_start p).inevitably_atRest hp.timeout_ne, fun s hreaches => ⟨?_, ?_, ?_⟩⟩
  · intro hfits
    exact ⟨hreaches.calls_input hp hfits, fun hrest => hrest.calls_eq hp hfits⟩
  · intro result hresult hfits houtput hrest
    exact hrest.succeeds hp hfits hresult houtput
  · intro call hcall cause hfail
    have hfails := fails_of_call hcall hfail
    exact ⟨hfails, fun hrest => hrest.breaks hp hfails hcall⟩

def echoing : Parties where
  task := ⟨42, "soljson.js", .object [("language", .string "Solidity")]⟩
  limit := 1024
  timeout := .ofSeconds 10
  compile compiler payload := .ok (.object [("compiler", .string compiler), ("echo", payload)])

def failing : Parties := { echoing with compile := fun _ _ => .error (.breach (.other "boom")) }

def echo : Json :=
  .object [("compiler", .string "soljson.js"), ("echo", .object [("language", .string "Solidity")])]

theorem isProper_echoing : echoing.IsProper where
  id_lt := by decide
  payload := rfl
  result := by
    intro result h
    cases h
    rfl
  limit_lt := by decide
  timeout_ne := by decide

theorem isProper_failing : failing.IsProper where
  id_lt := by decide
  payload := rfl
  result := by
    intro result h
    cases h
  limit_lt := by decide
  timeout_ne := by decide

theorem inputFits_echoing : echoing.InputFits where
  ready := ⟨⟨trivial, trivial⟩, by decide, by rw [lineOf_eq]; decide⟩
  input := ⟨⟨trivial, ⟨by decide, by decide⟩, trivial, ⟨trivial, trivial⟩, trivial⟩, by decide, by
    rw [lineOf_eq]
    decide⟩

theorem outputFits_echoing : echoing.OutputFits echo :=
  ⟨⟨trivial, ⟨by decide, by decide⟩, ⟨trivial, ⟨trivial, trivial⟩, trivial⟩, trivial⟩, by decide, by
    rw [lineOf_eq]
    decide⟩

/-- With a compiler that echoes both sides succeed; with one that fails, neither. -/
theorem handshake_echoing_failing :
    (∃ s, echoing.Reaches .start s ∧ echoing.AtRest s ∧ echoing.Succeeds s echo ∧
      echoing.calls s = [("soljson.js", .object [("language", .string "Solidity")])]) ∧
    ∃ s, failing.Reaches .start s ∧ failing.AtRest s ∧
      failing.Fails s (.breach (.other "boom")) ∧ failing.Breaks s := by
  constructor
  · obtain ⟨hrests, hruns⟩ := handshake isProper_echoing
    obtain ⟨s, hreaches, hrest⟩ := hrests.exists_reaches
    obtain ⟨hcalls, hsucceeds, -⟩ := hruns s hreaches
    exact ⟨s, hreaches, hrest, hsucceeds echo rfl inputFits_echoing outputFits_echoing hrest,
      (hcalls inputFits_echoing).2 hrest⟩
  · obtain ⟨hrests, hruns⟩ := handshake isProper_failing
    obtain ⟨s, hreaches, hrest⟩ := hrests.exists_reaches
    obtain ⟨hcalls, -, hfails⟩ := hruns s hreaches
    have hcall : (failing.task.compiler, failing.task.payload) ∈ failing.calls s := by
      rw [(hcalls ⟨inputFits_echoing.ready, inputFits_echoing.input⟩).2 hrest]
      exact List.mem_singleton_self _
    obtain ⟨hfailed, hbreaks⟩ := hfails _ hcall _ rfl
    exact ⟨s, hreaches, hrest, hfailed, hbreaks hrest⟩

end Provenance.Execution.Parties
