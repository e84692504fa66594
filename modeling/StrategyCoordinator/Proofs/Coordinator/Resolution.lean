import StrategyCoordinator.Proofs.Coordinator.Running
import StrategyCoordinator.Proofs.Coordinator.Transition
import StrategyCoordinator.Proofs.Fallible

/-!
# From the configuration to a run

Resolving the configuration either finds an error, and then the call ends there, or it names a
request, having built at most the model that the request needs. A resolved call brings the
backends in line with the request and runs them. The equations here join the accounts of the
single steps to one account of the whole call.
-/

namespace StrategyCoordinator

/-- Whether a call was refused because of an error of the configuration. -/
def isRefusal : Except OptimizerError Unit → Bool
  | .error e => e.isConfigurationError
  | .ok () => false

namespace OptionStore

/-- The strategy is the one that the text of its option selects. -/
theorem readAlgorithm_eq_ok {store : OptionStore} {algorithm : Algorithm} :
    store.readAlgorithm = .ok algorithm ↔ ∃ text,
      store.getChoice OptionName.algorithm = .ok text ∧ Algorithm.parse? text = some algorithm := by
  constructor
  · intro h
    obtain ⟨text, htext, h⟩ := bind_eq_ok.mp h
    exact ⟨text, liftError_eq_ok.mp htext, Algorithm.read_eq_ok.mp h⟩
  · rintro ⟨text, htext, hparse⟩
    exact bind_eq_ok.mpr ⟨text, liftError_eq_ok.mpr htext, Algorithm.read_eq_ok.mpr hparse⟩

/-- The kind and size of the approximation are those that the options select, unless the size is
negative. -/
theorem readQuasiNewton_eq_ok {store : OptionStore} {kind : QuasiNewtonKind} {size : Nat} :
    store.readQuasiNewton = .ok (kind, size) ↔ ∃ text n,
      store.getChoice OptionName.quasiNewtonKind = .ok text ∧
        QuasiNewtonKind.parse? text = some kind ∧
        store.getInt OptionName.subspaceSize = .ok n ∧ 0 ≤ n.toInt ∧ size = n.toInt.toNat := by
  constructor
  · intro h
    obtain ⟨text, htext, h⟩ := bind_eq_ok.mp h
    obtain ⟨found, hparse, h⟩ := bind_eq_ok.mp h
    obtain ⟨n, hn, h⟩ := bind_eq_ok.mp h
    split at h
    next => cases h
    next hsize =>
      cases h
      exact ⟨text, n, liftError_eq_ok.mp htext, QuasiNewtonKind.read_eq_ok.mp hparse,
        liftError_eq_ok.mp hn, Int.not_lt.mp hsize, rfl⟩
  · rintro ⟨text, n, htext, hparse, hn, hsize, rfl⟩
    refine bind_eq_ok.mpr ⟨text, liftError_eq_ok.mpr htext, ?_⟩
    refine bind_eq_ok.mpr ⟨kind, QuasiNewtonKind.read_eq_ok.mpr hparse, ?_⟩
    refine bind_eq_ok.mpr ⟨n, liftError_eq_ok.mpr hn, ?_⟩
    exact if_neg (Int.not_lt.mpr hsize)

/-- Reading the strategy fails only with errors of the configuration. -/
theorem isConfigurationError_of_readAlgorithm {store : OptionStore} {e : OptimizerError}
    (h : store.readAlgorithm = .error e) : e.isConfigurationError = true := by
  rcases bind_eq_error.mp h with h | ⟨text, -, h⟩
  · exact isConfigurationError_of_liftError h
  · obtain ⟨-, rfl⟩ := Algorithm.read_eq_error.mp h
    rfl

/-- Reading the checkpoint file fails only with errors of the configuration. -/
theorem isConfigurationError_of_readCheckpoint {store : OptionStore} {e : OptimizerError}
    (h : store.readCheckpoint = .error e) : e.isConfigurationError = true := by
  unfold readCheckpoint at h
  split at h
  · cases h
  · exact isConfigurationError_of_liftError h

/-- Reading the kind and size of the approximation fails only with errors of the
configuration. -/
theorem isConfigurationError_of_readQuasiNewton {store : OptionStore} {e : OptimizerError}
    (h : store.readQuasiNewton = .error e) : e.isConfigurationError = true := by
  rcases bind_eq_error.mp h with h | ⟨text, -, h⟩
  · exact isConfigurationError_of_liftError h
  · rcases bind_eq_error.mp h with h | ⟨kind, -, h⟩
    · obtain ⟨-, rfl⟩ := QuasiNewtonKind.read_eq_error.mp h
      rfl
    · rcases bind_eq_error.mp h with h | ⟨size, -, h⟩
      · exact isConfigurationError_of_liftError h
      · split at h <;> cases h
        rfl

end OptionStore

variable {R : Type} {kit : SolverKit R}

namespace Session

variable [Scalar R]

/-- The state once the model that the options describe was built and made the coordinator's. -/
def withBuiltSubproblem (s : Session kit) (kind : QuasiNewtonKind) (size : Nat) : Session kit :=
  { s with
    workshop := (s.workshop.buildSubproblem kind size).2
    subproblem := some s.workshop.nextSerial }

/-- Making sure of a model either finds the coordinator's own or builds the one that the
options describe. -/
theorem ensureSubproblem_cases {s r : Session kit} {handle : Nat}
    (h : s.ensureSubproblem = .ok (handle, r)) :
    (r = s ∧ s.subproblem = some handle) ∨
      s.subproblem = none ∧ handle = s.workshop.nextSerial ∧
        ∃ kind size, s.options.readQuasiNewton = .ok (kind, size) ∧
          r = s.withBuiltSubproblem kind size := by
  unfold ensureSubproblem at h
  split at h
  next own hown =>
    cases h
    exact Or.inl ⟨rfl, hown⟩
  next hown =>
    obtain ⟨built, hbuilt, h⟩ := bind_eq_ok.mp h
    obtain ⟨⟨kind, size⟩, hread, hbuilt⟩ := bind_eq_ok.mp hbuilt
    cases hbuilt
    cases h
    exact Or.inr ⟨hown, rfl, kind, size, hread, rfl⟩

/-- Making sure of a model fails only with errors of the configuration. -/
theorem isConfigurationError_of_ensureSubproblem {s : Session kit} {e : OptimizerError}
    (h : s.ensureSubproblem = .error e) : e.isConfigurationError = true := by
  unfold ensureSubproblem at h
  split at h
  next => cases h
  next =>
    rcases bind_eq_error.mp h with h | ⟨built, -, h⟩
    · rcases bind_eq_error.mp h with h | ⟨configured, -, h⟩
      · exact OptionStore.isConfigurationError_of_readQuasiNewton h
      · cases h
    · cases h

/-- Resolving fails only with errors of the configuration. -/
theorem isConfigurationError_of_resolve {s : Session kit} {e : OptimizerError}
    (h : s.resolve = .error e) : e.isConfigurationError = true := by
  rcases bind_eq_error.mp h with h | ⟨algorithm, -, h⟩
  · exact OptionStore.isConfigurationError_of_readAlgorithm h
  · cases algorithm with
    | interiorPoint =>
      rcases bind_eq_error.mp h with h | ⟨checkpoint, -, h⟩
      · exact OptionStore.isConfigurationError_of_readCheckpoint h
      · cases h
    | trustRegion =>
      rcases bind_eq_error.mp h with h | ⟨ensured, -, h⟩
      · exact isConfigurationError_of_ensureSubproblem h
      · cases h
    | movingAsymptotes => cases h

/-- A resolved request is one of the selected strategy. Either nothing was built, and a request
for the trust-region strategy names the coordinator's model, or the model was missing and was
built as the options describe it. -/
theorem resolve_cases {s r : Session kit} {request : Request}
    (h : s.resolve = .ok (request, r)) :
    s.options.readAlgorithm = .ok request.algorithm ∧
      ((r = s ∧ ∀ handle, request = .trustRegion handle → s.subproblem = some handle) ∨
        s.subproblem = none ∧ request = .trustRegion s.workshop.nextSerial ∧
          ∃ kind size, s.options.readQuasiNewton = .ok (kind, size) ∧
            r = s.withBuiltSubproblem kind size) := by
  obtain ⟨algorithm, halgorithm, h⟩ := bind_eq_ok.mp h
  cases algorithm with
  | interiorPoint =>
    obtain ⟨checkpoint, -, h⟩ := bind_eq_ok.mp h
    cases h
    exact ⟨halgorithm, Or.inl ⟨rfl, nofun⟩⟩
  | trustRegion =>
    obtain ⟨⟨handle, ensured⟩, hensured, h⟩ := bind_eq_ok.mp h
    cases h
    refine ⟨halgorithm, ?_⟩
    rcases ensureSubproblem_cases hensured with ⟨rfl, hown⟩ | ⟨hown, rfl, hbuilt⟩
    · exact Or.inl ⟨rfl, fun other hother => Request.trustRegion.inj hother ▸ hown⟩
    · exact Or.inr ⟨hown, rfl, hbuilt⟩
  | movingAsymptotes =>
    cases h
    exact ⟨halgorithm, Or.inl ⟨rfl, nofun⟩⟩

/-- A request for the trust-region strategy names the model that is then the coordinator's. -/
theorem subproblem_of_resolve {s resolved : Session kit} {request : Request}
    (h : s.resolve = .ok (request, resolved)) :
    ∀ handle, request = .trustRegion handle → resolved.subproblem = some handle := by
  obtain ⟨-, ⟨rfl, hown⟩ | ⟨-, rfl, kind, size, -, rfl⟩⟩ := resolve_cases h
  · exact hown
  · rintro handle ⟨⟩
    rfl

/-- What live backends are built on once they are in line with a request. -/
def alignedAssembly (s : Session kit) (request : Request) : Assembly :=
  if s.backends.serves request then s.backends.assembly
  else request.assembly s.workshop.nextSerial

/-- The entries of bringing the live backends in line with a request. -/
def transitionEntries (s : Session kit) (request : Request) : Journal :=
  if s.backends.serves request then []
  else s.replacementNotice request ++ Journal.ofDiscards s.backends.roster ++
    s.withoutBackends.partings s.backends.bound? ++
    Journal.ofBuilds (request.builds s.workshop.nextSerial)

/-- The serial number that comes next after bringing the backends in line with a request. -/
def alignedSerial (s : Session kit) (request : Request) : Nat :=
  if s.backends.serves request then s.workshop.nextSerial
  else s.workshop.nextSerial + (request.builds s.workshop.nextSerial).length

/-- The entries that close a call: it is entered as finished if it succeeded. -/
def closing (s : Session kit) : Except OptimizerError Unit → Journal
  | .ok () => [.log (.finished s.state)]
  | .error _ => []

/-- The account of a call that was resolved to a request: what it leaves of the resolved state,
what it answers and what it enters in the journal. -/
structure CarriedOut (resolved : Session kit) (request : Request) (s' : Session kit)
    (answer : Except OptimizerError Unit) : Prop where
  options : s'.options = resolved.options
  subproblem : s'.subproblem = resolved.subproblem
  held : s'.held = resolved.held
  problem : s'.workshop.problem = resolved.workshop.problem
  assembly : s'.backends.assembly = resolved.alignedAssembly request
  nextSerial : s'.workshop.nextSerial = resolved.alignedSerial request
  answered : answer = .ok () ∨ ∃ failure, answer = .error (.backend failure)
  journal : ∃ runs : Journal, runs.IsRunOf s'.backends.roster ∧
    s'.workshop.journal = resolved.workshop.journal ++
      .log (.started request.algorithm resolved.state) ::
        (resolved.transitionEntries request ++ runs ++ s'.closing answer)

omit [Scalar R] in
/-- What a transition leaves and enters, whether or not the backends serve the request. -/
theorem transition_aligned (s : Session kit) (request : Request) :
    (s.transition request).options = s.options ∧
      (s.transition request).subproblem = s.subproblem ∧
      (s.transition request).held = s.held ∧
      (s.transition request).workshop.problem = s.workshop.problem ∧
      (s.transition request).backends.assembly = s.alignedAssembly request ∧
      (s.transition request).workshop.nextSerial = s.alignedSerial request ∧
      (s.transition request).workshop.journal =
        s.workshop.journal ++ s.transitionEntries request := by
  cases hserves : s.backends.serves request with
  | true =>
    rw [s.transition_of_serves hserves]
    simp [alignedAssembly, alignedSerial, transitionEntries, hserves]
  | false =>
    have h := s.transition_replacedFor hserves
    refine ⟨h.options, h.subproblem, h.held, h.problem, ?_, ?_, ?_⟩
    · simpa [alignedAssembly, hserves] using h.assembly
    · simpa [alignedSerial, hserves] using h.nextSerial
    · simpa [transitionEntries, hserves] using h.journal

/-- A call with an error in its configuration enters that error and does nothing else. -/
theorem optimize_of_error {s : Session kit} {e : OptimizerError} (h : s.resolve = .error e)
    (condition : kit.Condition) : s.optimize condition = (s.log (.refused e), .error e) := by
  unfold optimize
  rw [h]

/-- A resolved call aligns the live backends and runs them. -/
theorem optimize_of_ok {s resolved : Session kit} {request : Request}
    (h : s.resolve = .ok (request, resolved)) (condition : kit.Condition) :
    resolved.CarriedOut request (s.optimize condition).1 (s.optimize condition).2 := by
  obtain ⟨hoptions, hsubproblem, hheld, hproblem, hassembly, hserial, hjournal⟩ :=
    (resolved.log (.started request.algorithm resolved.state)).transition_aligned request
  have hrun := ((resolved.log (.started request.algorithm resolved.state)).transition
    request).runBackends_leaves condition request.checkpoint
  obtain ⟨runs, hruns, hisRun⟩ := hrun.journal
  simp only [optimize, h]
  generalize ((resolved.log (.started request.algorithm resolved.state)).transition
    request).runBackends condition request.checkpoint = ran at hrun hruns
  obtain ⟨final, outcome⟩ := ran
  have hroster : runs.IsRunOf final.backends.roster := by
    rw [Backends.roster, hrun.assembly]
    exact hisRun
  have hentries : final.workshop.journal = resolved.workshop.journal ++
      .log (.started request.algorithm resolved.state) ::
        (resolved.transitionEntries request ++ runs) := by
    rw [hruns, hjournal, List.append_assoc]
    exact List.append_assoc _ [_] _
  cases outcome with
  | error failure =>
    exact ⟨hrun.options.trans hoptions, hrun.subproblem.trans hsubproblem,
      hrun.held.trans hheld, hrun.problem.trans hproblem, hrun.assembly.trans hassembly,
      hrun.nextSerial.trans hserial, Or.inr ⟨failure, rfl⟩, runs, hroster,
      by simpa [closing] using hentries⟩
  | ok =>
    exact ⟨hrun.options.trans hoptions, hrun.subproblem.trans hsubproblem,
      hrun.held.trans hheld, hrun.problem.trans hproblem, hrun.assembly.trans hassembly,
      hrun.nextSerial.trans hserial, Or.inl rfl, runs, hroster,
      by simp [closing, log, Workshop.log, hentries, state]⟩

/-- What log records, resolving, transitions and runs preserve, a call preserves. -/
theorem optimize_invariant {P : Session kit → Prop}
    (hlog : ∀ s record, P s → P (s.log record))
    (hresolve : ∀ s request resolved, s.resolve = .ok (request, resolved) → P s → P resolved)
    (htransition : ∀ s request,
      (∀ handle, request = .trustRegion handle → s.subproblem = some handle) →
      P s → P (s.transition request))
    (hrun : ∀ s s', s.RunLeaves s' → P s → P s')
    (s : Session kit) (condition : kit.Condition) (hs : P s) : P (s.optimize condition).1 := by
  unfold optimize
  split
  next e _ => exact hlog s (.refused e) hs
  next request resolved hresolved =>
    have hown := subproblem_of_resolve hresolved
    have hstarted := hlog _ (.started request.algorithm resolved.state)
      (hresolve s request resolved hresolved hs)
    have haligned := htransition (resolved.log (.started request.algorithm resolved.state))
      request hown hstarted
    have hran := hrun _ _ (runBackends_leaves _ condition request.checkpoint) haligned
    simp only
    split
    next => exact hran
    next => exact hlog _ _ hran

/-- A call that was resolved to a request is not refused. -/
theorem not_refused_of_resolve {s resolved : Session kit} {request : Request}
    (h : s.resolve = .ok (request, resolved)) (condition : kit.Condition) :
    isRefusal (s.optimize condition).2 = false := by
  rcases (optimize_of_ok h condition).answered with hanswer | ⟨failure, hanswer⟩
  · rw [hanswer]
    rfl
  · rw [hanswer]
    rfl

/-- A call is refused exactly if its configuration cannot be resolved. -/
theorem isRefusal_optimize_iff (s : Session kit) (condition : kit.Condition) :
    isRefusal (s.optimize condition).2 = true ↔ ∃ e, s.resolve = .error e := by
  constructor
  · intro hrefusal
    cases hresolve : s.resolve with
    | error e => exact ⟨e, rfl⟩
    | ok resolved =>
      rw [not_refused_of_resolve hresolve condition] at hrefusal
      cases hrefusal
  · rintro ⟨e, hresolve⟩
    rw [optimize_of_error hresolve]
    exact isConfigurationError_of_resolve hresolve

/-- A call that is not refused was resolved to a request. -/
theorem exists_resolve_of_not_refused {s : Session kit} {condition : kit.Condition}
    (h : isRefusal (s.optimize condition).2 = false) :
    ∃ request resolved, s.resolve = .ok (request, resolved) := by
  cases hresolve : s.resolve with
  | error e =>
    have hrefusal := (s.isRefusal_optimize_iff condition).mpr ⟨e, hresolve⟩
    rw [h] at hrefusal
    cases hrefusal
  | ok resolved => exact ⟨resolved.1, resolved.2, rfl⟩

end Session

end StrategyCoordinator
