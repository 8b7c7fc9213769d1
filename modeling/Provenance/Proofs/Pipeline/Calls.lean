import Provenance.Pipeline.Basic

/-!
The work on a contract as the calls that it makes. Others may do as they like
between two calls, so the order of all calls of a run is free but for the order
within a contract. Collaborators whose answers about a contract go by what is
saved of it lead the work to one outcome, whatever happens between its calls.
-/

namespace Provenance.Pipeline

/-- Work that goes from call to call. A call changes the world, and the world
before it decides what comes next. -/
inductive Calls (σ α : Type) where
  | done (value : α)
  | call (change : σ → σ) (next : σ → Calls σ α)

namespace Calls

variable {σ α β : Type}

def lift (action : StateM σ β) (next : β → Calls σ α) : Calls σ α :=
  .call (fun world => (action.run world).2) fun world => next (action.run world).1

def bind : Calls σ α → (α → Calls σ β) → Calls σ β
  | .done value, f => f value
  | .call change next, f => .call change fun world => (next world).bind f

def run : Calls σ α → StateM σ α
  | .done value => pure value
  | .call change next => fun world => (next world).run (change world)

theorem bind_lift {γ : Type} (action : StateM σ γ) (next : γ → Calls σ α) (f : α → Calls σ β) :
    (lift action next).bind f = lift action fun value => (next value).bind f := rfl

theorem run_lift (action : StateM σ β) (next : β → Calls σ α) :
    (lift action next).run = action >>= fun value => (next value).run := rfl

theorem run_bind (p : Calls σ α) (f : α → Calls σ β) :
    (p.bind f).run = p.run >>= fun value => (f value).run := by
  induction p with
  | done value => rfl
  | call change next ih =>
    funext world
    exact congrFun (ih world) (change world)

end Calls

variable {σ : Type}

def readying (c : Collaborators σ) (id : ContractIdentity) (config : ContractConfig) :
    Calls σ (Except ItemOutcome (ContractConfig × Compiling σ)) :=
  .lift (c.input id) fun
    | .error text => .done (.error (.failed (.store text)))
    | .ok input => .lift (c.compile id config.compiler input) fun compiling =>
      .done (.ok (config, compiling))

def preparing (c : Collaborators σ) (force : Bool) (id : ContractIdentity) :
    Calls σ (Except ItemOutcome (ContractConfig × Compiling σ)) :=
  .lift (c.config id) fun
    | .error text => .done (.error (.failed (.store text)))
    | .ok config =>
      if config.skip then .done (.error .skipped)
      else if force then readying c id config
      else .lift (c.hasMetadata id) fun
        | .error text => .done (.error (.failed (.store text)))
        | .ok true => .done (.error .jumped)
        | .ok false => readying c id config

def concluding (c : Collaborators σ) (id : ContractIdentity) (config : ContractConfig)
    (compiled : Except CompilationFault Contracts) : Calls σ ItemOutcome :=
  match compiled with
  | .error cause => .done (.failed (.compilation cause))
  | .ok contracts =>
    match Candidate.find contracts config.name config.sourcePath with
    | .error cause => .done (.failed (.verification cause))
    | .ok candidate => .lift (c.code id) fun
      | .error text => .done (.failed (.verification (.node text)))
      | .ok code =>
        match candidate.judge id code with
        | .error cause => .done (.failed (.verification cause))
        | .ok verdict => .done (judge config.compiler verdict)

def compiling (c : Collaborators σ) (id : ContractIdentity) :
    Except ItemOutcome (ContractConfig × Compiling σ) → Calls σ ItemOutcome
  | .error outcome => .done outcome
  | .ok (config, compiling) => .lift compiling.finish (concluding c id config)

def verifying (c : Collaborators σ) (force : Bool) (id : ContractIdentity) : Calls σ ItemOutcome :=
  (preparing c force id).bind (compiling c id)

theorem run_stored_bind {α β : Type} (action : StateM σ (Except String α)) (next : α → Work σ β) :
    (stored action >>= next).run = action >>= fun
      | .ok value => (next value).run
      | .error text => pure (.error (.failed (.store text))) := by
  simp only [stored, ExceptT.run_bind, ExceptT.run_lift, liftM, monadLift, MonadLift.monadLift,
    bind_assoc, map_eq_pure_bind, pure_bind]
  refine bind_congr fun answer => ?_
  cases answer with
  | ok value => rfl
  | error text => rfl

theorem run_readying (c : Collaborators σ) (id : ContractIdentity) (config : ContractConfig) :
    (readying c id config).run = (do
      let input ← stored (c.input id)
      let compiling ← c.compile id config.compiler input
      pure (config, compiling) : Work σ (ContractConfig × Compiling σ)).run := by
  rw [run_stored_bind, readying, Calls.run_lift]
  refine bind_congr fun answer => ?_
  cases answer with
  | error text => rfl
  | ok input => rfl

theorem run_preparing (c : Collaborators σ) (force : Bool) (id : ContractIdentity) :
    (preparing c force id).run = (prepare c force id).run := by
  rw [prepare, run_stored_bind, preparing, Calls.run_lift]
  refine bind_congr fun answer => ?_
  cases answer with
  | error text => rfl
  | ok config =>
    dsimp only
    by_cases hskip : config.skip = true
    · rw [if_pos hskip, if_pos hskip]
      rfl
    · rw [if_neg hskip, if_neg hskip]
      cases force with
      | true => exact run_readying c id config
      | false =>
        simp only [Bool.false_eq_true, if_false, Bool.not_false, if_true]
        rw [run_stored_bind, Calls.run_lift]
        refine bind_congr fun answer => ?_
        cases answer with
        | error text => rfl
        | ok kept =>
          cases kept with
          | true => rfl
          | false => exact run_readying c id config

theorem run_concluding (c : Collaborators σ) (id : ContractIdentity) (config : ContractConfig)
    (compiled : Except CompilationFault Contracts) :
    (concluding c id config compiled).run = conclude c id config compiled := by
  unfold concluding conclude
  cases compiled with
  | error cause => rfl
  | ok contracts =>
    dsimp only
    cases Candidate.find contracts config.name config.sourcePath with
    | error cause => rfl
    | ok candidate =>
      dsimp only
      rw [Calls.run_lift]
      refine bind_congr fun answer => ?_
      cases answer with
      | error text => rfl
      | ok code =>
        dsimp only
        cases candidate.judge id code with
        | error cause => rfl
        | ok verdict => rfl

theorem run_verifying (c : Collaborators σ) (force : Bool) (id : ContractIdentity) :
    (verifying c force id).run = verifyContract c force id := by
  rw [verifying, Calls.run_bind, run_preparing, verifyContract]
  refine bind_congr fun prepared => ?_
  cases prepared with
  | error outcome => rfl
  | ok prepared =>
    rw [compiling, Calls.run_lift]
    refine bind_congr fun compiled => ?_
    exact run_concluding c id prepared.1 compiled

/-- How one looks at a world: what is saved of each contract, and a journal in
which every call to save is entered. -/
structure Outlook (σ μ κ : Type) where
  saved : ContractIdentity → σ → μ
  journal : σ → κ
  enter : κ → ContractIdentity → Attestation → κ

namespace Outlook

variable {μ κ α β : Type}

structure Same (o : Outlook σ μ κ) (w w' : σ) : Prop where
  saved : ∀ id, o.saved id w = o.saved id w'
  journal : o.journal w = o.journal w'

theorem Same.refl (o : Outlook σ μ κ) (w : σ) : o.Same w w := ⟨fun _ => rfl, rfl⟩

theorem Same.symm {o : Outlook σ μ κ} {w w' : σ} (h : o.Same w w') : o.Same w' w :=
  ⟨fun id => (h.saved id).symm, h.journal.symm⟩

theorem Same.trans {o : Outlook σ μ κ} {w w' w'' : σ} (h : o.Same w w') (h' : o.Same w' w'') :
    o.Same w w'' :=
  ⟨fun id => (h.saved id).trans (h'.saved id), h.journal.trans h'.journal⟩

/-- An action about a contract that goes by what is saved of it, and of which
nothing can be seen. -/
structure Reads (o : Outlook σ μ κ) (id : ContractIdentity) (action : StateM σ α) : Prop where
  answer : ∀ w w', o.saved id w = o.saved id w' → (action.run w).1 = (action.run w').1
  same : ∀ w, o.Same (action.run w).2 w

/-- Collaborators whose answers about a contract go by what is saved of it. Only
saving can be seen, and only at the contract that it is about. How long a
compilation takes is free. -/
structure Local (o : Outlook σ μ κ) (c : Collaborators σ) : Prop where
  config : ∀ id, o.Reads id (c.config id)
  hasMetadata : ∀ id, o.Reads id (c.hasMetadata id)
  input : ∀ id, o.Reads id (c.input id)
  compile : ∀ id compiler input w, o.Same ((c.compile id compiler input).run w).2 w
  compiled : ∀ id compiler input w w' v v', o.saved id w = o.saved id w' →
    o.saved id v = o.saved id v' →
    (((c.compile id compiler input).run w).1.finish.run v).1 =
      (((c.compile id compiler input).run w').1.finish.run v').1
  finish : ∀ id compiler input w v,
    o.Same (((c.compile id compiler input).run w).1.finish.run v).2 v
  code : ∀ id, o.Reads id (c.code id)
  save : ∀ id attestation w w', o.saved id w = o.saved id w' →
    ((c.save id attestation).run w).1 = ((c.save id attestation).run w').1 ∧
      o.saved id ((c.save id attestation).run w).2 = o.saved id ((c.save id attestation).run w').2
  save_other : ∀ id attestation w other, other ≠ id →
    o.saved other ((c.save id attestation).run w).2 = o.saved other w
  save_journal : ∀ id attestation w,
    o.journal ((c.save id attestation).run w).2 = o.enter (o.journal w) id attestation

/-- Work that comes to the given value, whatever happens between its calls, as
long as what is saved of its contract stays the same. -/
def Leads (o : Outlook σ μ κ) (id : ContractIdentity) (kept : μ) (value : α) : Calls σ α → Prop
  | .done value' => value' = value
  | .call change next =>
    (∀ w, o.Same (change w) w) ∧ ∀ w, o.saved id w = kept → o.Leads id kept value (next w)

variable {o : Outlook σ μ κ} {id : ContractIdentity} {kept : μ}

/-- What is left of such work after its first part leads there too. -/
theorem Leads.of_bind {p : Calls σ α} {f : α → Calls σ β} {value : β}
    (h : o.Leads id kept value (p.bind f)) {w : σ} (hw : o.saved id w = kept) :
    o.Leads id kept value (f (p.run w).1) ∧ o.Same (p.run w).2 w := by
  induction p generalizing w with
  | done value => exact ⟨h, .refl o w⟩
  | call change next ih =>
    obtain ⟨hsame, hnext⟩ := h
    have hchanged : o.saved id (change w) = kept := ((hsame w).saved id).trans hw
    obtain ⟨hrest, hrun⟩ := ih w (hnext w hw) hchanged
    exact ⟨hrest, hrun.trans (hsame w)⟩

theorem Leads.run {p : Calls σ α} {value : α} (h : o.Leads id kept value p) {w : σ}
    (hw : o.saved id w = kept) : (p.run w).1 = value ∧ o.Same (p.run w).2 w := by
  induction p generalizing w with
  | done value => exact ⟨h, .refl o w⟩
  | call change next ih =>
    obtain ⟨hsame, hnext⟩ := h
    have hchanged : o.saved id (change w) = kept := ((hsame w).saved id).trans hw
    obtain ⟨hvalue, hrun⟩ := ih w (hnext w hw) hchanged
    exact ⟨hvalue, hrun.trans (hsame w)⟩

def Steady (o : Outlook σ μ κ) (id : ContractIdentity) (kept : μ) (p : Calls σ α) : Prop :=
  ∀ w, o.saved id w = kept → o.Leads id kept (p.run w).1 p

theorem steady_done (value : α) : o.Steady id kept (.done value : Calls σ α) := fun _ _ => rfl

theorem steady_lift {action : StateM σ β} (haction : o.Reads id action)
    {next : β → Calls σ α} (hnext : ∀ answer, o.Steady id kept (next answer)) :
    o.Steady id kept (.lift action next) := by
  intro w hw
  refine ⟨haction.same, fun w' hw' => ?_⟩
  have hanswer := haction.answer w w' (hw.trans hw'.symm)
  have hafter : o.saved id (action.run w).2 = kept := ((haction.same w).saved id).trans hw
  change o.Leads id kept _ (next (action.run w').1)
  rw [← hanswer]
  exact hnext (action.run w).1 (action.run w).2 hafter

/-- The compiler is called, and later it ends. -/
theorem steady_compile {c : Collaborators σ} (hc : o.Local c) (compiler : String) (input : Json)
    {next : Except CompilationFault Contracts → Calls σ α}
    (hnext : ∀ answer, o.Steady id kept (next answer)) :
    o.Steady id kept
      (.lift (c.compile id compiler input) fun compiling => .lift compiling.finish next) := by
  intro w hw
  refine ⟨hc.compile id compiler input, fun w' hw' => ⟨hc.finish id compiler input w', ?_⟩⟩
  intro v hv
  have hbegun := ((hc.compile id compiler input w).saved id).trans hw
  have hanswer := hc.compiled id compiler input w w' ((c.compile id compiler input).run w).2 v
    (hw.trans hw'.symm) (hbegun.trans hv.symm)
  change o.Leads id kept _ (next (((c.compile id compiler input).run w').1.finish.run v).1)
  rw [← hanswer]
  exact hnext _ _ (((hc.finish id compiler input w _).saved id).trans hbegun)

theorem steady_concluding {c : Collaborators σ} (hc : o.Local c) (config : ContractConfig)
    (compiled : Except CompilationFault Contracts) :
    o.Steady id kept (concluding c id config compiled) := by
  unfold concluding
  cases compiled with
  | error cause => exact steady_done _
  | ok contracts =>
    dsimp only
    cases Candidate.find contracts config.name config.sourcePath with
    | error cause => exact steady_done _
    | ok candidate =>
      refine steady_lift (hc.code id) fun answer => ?_
      cases answer with
      | error text => exact steady_done _
      | ok code =>
        dsimp only
        cases candidate.judge id code with
        | error cause => exact steady_done _
        | ok verdict => exact steady_done _

theorem steady_readying {c : Collaborators σ} (hc : o.Local c) (config : ContractConfig) :
    o.Steady id kept ((readying c id config).bind (compiling c id)) := by
  rw [readying, Calls.bind_lift]
  refine steady_lift (hc.input id) fun answer => ?_
  cases answer with
  | error text => exact steady_done _
  | ok input => exact steady_compile hc config.compiler input (steady_concluding hc config)

/-- Work on a contract comes to the same outcome whatever happens meanwhile. -/
theorem steady_verifying {c : Collaborators σ} (hc : o.Local c) (force : Bool) :
    o.Steady id kept (verifying c force id) := by
  rw [verifying, preparing, Calls.bind_lift]
  refine steady_lift (hc.config id) fun answer => ?_
  cases answer with
  | error text => exact steady_done _
  | ok config =>
    dsimp only
    by_cases hskip : config.skip = true
    · rw [if_pos hskip]
      exact steady_done _
    · rw [if_neg hskip]
      cases force with
      | true => exact steady_readying hc config
      | false =>
        simp only [Bool.false_eq_true, if_false]
        rw [Calls.bind_lift]
        refine steady_lift (hc.hasMetadata id) fun answer => ?_
        cases answer with
        | error text => exact steady_done _
        | ok kept =>
          cases kept with
          | true => exact steady_done _
          | false => exact steady_readying hc config

end Outlook

end Provenance.Pipeline
