import StrategyCoordinator.Proofs.Coordinator.Handles
import StrategyCoordinator.Proofs.Options.Validity
import StrategyCoordinator.Solvers.Elementary

/-!
# Default options are never refused

The kinds under which the coordinator registers its options admit only what it can read: the words
of the strategies and of the approximations, a text or none, and a size that is not negative. A
registered option keeps its kind, and every store that was made by edits holds values that the
kinds admit. So no call finds an error in options that were edited from the default ones, whichever
edits were accepted or refused.
-/

namespace StrategyCoordinator

/-- The word of a strategy selects it. -/
theorem Algorithm.parse?_text (algorithm : Algorithm) :
    Algorithm.parse? algorithm.text = some algorithm := by
  cases algorithm <;> decide

/-- The word of an approximation selects it. -/
theorem QuasiNewtonKind.parse?_text (kind : QuasiNewtonKind) :
    QuasiNewtonKind.parse? kind.text = some kind := by
  cases kind <;> decide

namespace OptionStore

section Registering

/-- Registering several options is a sequence of edits, also if it stops at an error. -/
theorem exists_edits_registerAll (store : OptionStore) (items : List Registration) :
    ∃ edits, (store.registerAll items).1 = store.applyAll edits := by
  induction items generalizing store with
  | nil => exact ⟨[], rfl⟩
  | cons item rest ih =>
    unfold registerAll
    cases hregister : store.register item with
    | error e => exact ⟨[], rfl⟩
    | ok next =>
      obtain ⟨edits, hedits⟩ := ih next
      refine ⟨.register item :: edits, ?_⟩
      have happly : ((StoreEdit.register item).apply store).1 = next := by
        simp only [StoreEdit.apply, StoreEdit.result, hregister]
      rw [applyAll, happly]
      exact hedits

/-- An option under a name, of a kind. -/
def Offers (store : OptionStore) (name : String) (kind : OptionKind) : Prop :=
  ∃ entry, store.entries.find? name = some entry ∧ entry.kind = kind

/-- An option that is offered stays so, whatever is done to the store. -/
theorem Offers.applyAll {store : OptionStore} {name : String} {kind : OptionKind}
    (h : store.Offers name kind) (edits : List StoreEdit) :
    (store.applyAll edits).Offers name kind := by
  obtain ⟨entry, hentry, hkind⟩ := h
  obtain ⟨after, hafter, hsame⟩ := sameOption_applyAll hentry edits
  exact ⟨after, hafter, hsame.kind.trans hkind⟩

/-- Options that were registered one after another are all offered. -/
theorem offers_registerAll {store store' : OptionStore} {items : List Registration}
    (h : store.registerAll items = (store', .ok ())) :
    ∀ item ∈ items, store'.Offers item.name item.kind := by
  induction items generalizing store with
  | nil => simp
  | cons item rest ih =>
    unfold registerAll at h
    cases hregister : store.register item with
    | error e =>
      rw [hregister] at h
      cases h
    | ok next =>
      rw [hregister] at h
      obtain ⟨-, -, rfl⟩ := register_eq_ok.mp hregister
      obtain ⟨edits, hedits⟩ := exists_edits_registerAll (store.put item.name item.entry) rest
      -- The registrations after the first are edits, so they leave what it offers.
      have hfirst : (store.put item.name item.entry).Offers item.name item.kind :=
        ⟨item.entry, store.find?_put_self item.name item.entry, rfl⟩
      have hstore : (store.put item.name item.entry).applyAll edits = store' :=
        hedits.symm.trans (congrArg Prod.fst h)
      exact List.forall_mem_cons.mpr ⟨hstore ▸ hfirst.applyAll edits, ih h⟩

end Registering

section Reading

variable {store : OptionStore} {name : String}

/-- An option with choices is read as one of them. -/
theorem Valid.exists_getChoice (h : store.Valid) {values : List String}
    (hoffers : store.Offers name (.choice values)) :
    ∃ text ∈ values, store.getChoice name = .ok text := by
  obtain ⟨entry, hentry, hkind⟩ := hoffers
  obtain ⟨text, hmem, hvalue⟩ := (hkind ▸ (h name entry hentry).value).exists_choice
  refine ⟨text, hmem, ?_⟩
  rw [getChoice_of_find? hentry, hvalue]

/-- A text option is read as a text, or as none. -/
theorem Valid.exists_getStr (h : store.Valid) (hoffers : store.Offers name .str) :
    ∃ text, store.getStr name = .ok text := by
  obtain ⟨entry, hentry, hkind⟩ := hoffers
  obtain ⟨text, hvalue⟩ := (hkind ▸ (h name entry hentry).value).exists_str
  refine ⟨text, ?_⟩
  rw [getStr_of_find? hentry, hvalue]

/-- An integer option is read as an integer within its range. -/
theorem Valid.exists_getInt (h : store.Valid) {lower upper : Int64}
    (hoffers : store.Offers name (.int lower upper)) :
    ∃ n, store.getInt name = .ok n ∧ lower.toInt ≤ n.toInt := by
  obtain ⟨entry, hentry, hkind⟩ := hoffers
  obtain ⟨n, hvalue, hlower, -⟩ := (hkind ▸ (h name entry hentry).value).exists_int
  refine ⟨n, ?_, hlower⟩
  rw [getInt_of_find? hentry, hvalue]

end Reading

/-- A store in which everything can be read that the coordinator may need. -/
structure Ready (store : OptionStore) : Prop where
  algorithm : ∃ algorithm, store.readAlgorithm = .ok algorithm
  checkpoint : ∃ checkpoint, store.readCheckpoint = .ok checkpoint
  quasiNewton : ∃ kind size, store.readQuasiNewton = .ok (kind, size)

/-- A valid store that offers the coordinator's options is ready. -/
theorem Valid.ready {store : OptionStore} (h : store.Valid)
    (hoffers : ∀ item ∈ coordinatorOptions, store.Offers item.name item.kind) :
    store.Ready := by
  simp only [coordinatorOptions, List.forall_mem_cons] at hoffers
  obtain ⟨halgorithm, hcheckpoint, hkind, hsize, -⟩ := hoffers
  refine ⟨?_, ?_, ?_⟩
  · obtain ⟨text, hmem, htext⟩ := h.exists_getChoice halgorithm
    obtain ⟨algorithm, -, rfl⟩ := List.mem_map.mp hmem
    exact ⟨algorithm, readAlgorithm_eq_ok.mpr ⟨_, htext, algorithm.parse?_text⟩⟩
  · obtain ⟨text, htext⟩ := h.exists_getStr hcheckpoint
    have hread : store.getStr OptionName.checkpointFile = .ok text := htext
    refine ⟨text, ?_⟩
    rw [readCheckpoint, hread]
    rfl
  · obtain ⟨text, hmem, htext⟩ := h.exists_getChoice hkind
    obtain ⟨kind, -, rfl⟩ := List.mem_map.mp hmem
    obtain ⟨n, hn, hlower⟩ := h.exists_getInt hsize
    exact ⟨kind, n.toInt.toNat,
      readQuasiNewton_eq_ok.mpr ⟨_, n, htext, kind.parse?_text, hn, hlower, rfl⟩⟩

end OptionStore

/-- A registrar that changes a store by edits only. -/
def OptionRegistrar.EditsOnly (registrar : OptionRegistrar) : Prop :=
  ∀ store : OptionStore, ∃ edits, (registrar store).1 = store.applyAll edits

namespace OptionStore

/-- The default options are made if the coordinator's options and then those of the backends can be
registered. -/
theorem registered_of_defaults {registrar : OptionRegistrar} {store : OptionStore}
    (h : defaults registrar = .ok store) :
    ∃ base, empty.registerAll coordinatorOptions = (base, .ok ()) ∧
      registrar base = (store, .ok ()) := by
  unfold defaults addDefaults at h
  split at h
  next made hmade =>
    cases h
    split at hmade
    next base hbase => exact ⟨base, hbase, hmade⟩
    next => cases hmade
  next => cases h

/-- The default options were made by edits, and the coordinator's are among them. -/
theorem exists_edits_of_defaults {registrar : OptionRegistrar} (hregistrar : registrar.EditsOnly)
    {store : OptionStore} (h : defaults registrar = .ok store) :
    (∃ edits, store = empty.applyAll edits) ∧
      ∀ item ∈ coordinatorOptions, store.Offers item.name item.kind := by
  obtain ⟨base, hbase, hstore⟩ := registered_of_defaults h
  obtain ⟨first, hfirst⟩ := exists_edits_registerAll empty coordinatorOptions
  obtain ⟨second, hsecond⟩ := hregistrar base
  rw [hbase] at hfirst
  rw [hstore] at hsecond
  have hmade : store = base.applyAll second := hsecond
  constructor
  · refine ⟨first ++ second, ?_⟩
    rw [applyAll_append, ← hfirst]
    exact hmade
  · intro item hitem
    exact hmade ▸ (offers_registerAll hbase item hitem).applyAll second

/-- Options that were edited from the default ones are ready. -/
theorem ready_of_defaults {registrar : OptionRegistrar} (hregistrar : registrar.EditsOnly)
    {store : OptionStore} (h : defaults registrar = .ok store) (edits : List StoreEdit) :
    (store.applyAll edits).Ready := by
  obtain ⟨⟨before, rfl⟩, hoffers⟩ := exists_edits_of_defaults hregistrar h
  exact ((empty_valid.applyAll before).applyAll edits).ready fun item hitem =>
    (hoffers item hitem).applyAll edits

end OptionStore

variable {R : Type} {kit : SolverKit R} [Scalar R]

namespace Session

/-- A coordinator whose options are ready resolves its configuration. -/
theorem exists_resolve_of_ready {s : Session kit} (h : s.options.Ready) :
    ∃ request resolved, s.resolve = .ok (request, resolved) := by
  obtain ⟨algorithm, halgorithm⟩ := h.algorithm
  cases algorithm with
  | interiorPoint =>
    obtain ⟨checkpoint, hcheckpoint⟩ := h.checkpoint
    exact ⟨_, _, bind_eq_ok.mpr ⟨_, halgorithm, bind_eq_ok.mpr ⟨checkpoint, hcheckpoint, rfl⟩⟩⟩
  | movingAsymptotes => exact ⟨_, _, bind_eq_ok.mpr ⟨_, halgorithm, rfl⟩⟩
  | trustRegion =>
    obtain ⟨⟨handle, ensured⟩, hensured⟩ :
        ∃ ensured, s.ensureSubproblem = .ok ensured := by
      unfold ensureSubproblem
      cases s.subproblem with
      | some own => exact ⟨_, rfl⟩
      | none =>
        obtain ⟨kind, size, hread⟩ := h.quasiNewton
        have hbuilt : s.workshop.buildConfiguredSubproblem s.options =
            .ok (s.workshop.buildSubproblem kind size) :=
          bind_eq_ok.mpr ⟨(kind, size), hread, rfl⟩
        exact ⟨_, bind_eq_ok.mpr ⟨_, hbuilt, rfl⟩⟩
    exact ⟨_, _, bind_eq_ok.mpr ⟨_, halgorithm, bind_eq_ok.mpr ⟨_, hensured, rfl⟩⟩⟩

/-- A call with options that are ready succeeds, or a backend fails in it. -/
theorem answer_of_ready {s : Session kit} (h : s.options.Ready) (condition : kit.Condition) :
    (s.optimize condition).2 = .ok () ∨
      ∃ failure, (s.optimize condition).2 = .error (.backend failure) := by
  obtain ⟨request, resolved, hresolve⟩ := exists_resolve_of_ready h
  exact (optimize_of_ok hresolve condition).answered

/-- Options that have a property keep it if callers put only options with the property in place. -/
theorem options_invariant {P : OptionStore → Prop} {s : Session kit} (hs : P s.options)
    {operations : List (Operation kit)}
    (hput : ∀ options, .setOptions options ∈ operations → P options) :
    ∀ step ∈ s.steps operations, P step.before.options := by
  induction operations generalizing s with
  | nil => simp [steps]
  | cons operation rest ih =>
    refine List.forall_mem_cons.mpr ⟨hs, ih ?_ fun options hmem => ?_⟩
    · by_cases hsets : ∃ options, operation = .setOptions options
      · obtain ⟨options, rfl⟩ := hsets
        exact hput options List.mem_cons_self
      · rw [s.options_perform fun options heq => hsets ⟨options, heq⟩]
        exact hs
    · exact hput options (List.mem_cons_of_mem _ hmem)

/-- Let the default options be made successfully by a kit that registers its options by edits only,
and edited further, with any edits accepted or refused. Then in every reachable state with such
options a call succeeds or a backend fails in it. So in a history that only ever puts such options
in place, no call is refused because of its configuration. -/
theorem edited_defaults_never_refused (problem : Problem R)
    (hkit : kit.registerOptions.EditsOnly) {store : OptionStore}
    (hdefaults : OptionStore.defaults kit.registerOptions = .ok store) :
    (∀ options (operations : List (Operation kit)) (edits : List StoreEdit) condition,
      let s := (new kit problem options).performAll operations
      s.options = store.applyAll edits →
        (s.optimize condition).2 = .ok () ∨
          ∃ failure, (s.optimize condition).2 = .error (.backend failure)) ∧
    ∀ (edits : List StoreEdit) (operations : List (Operation kit)),
      (∀ options, .setOptions options ∈ operations →
        ∃ edits, options = store.applyAll edits) →
      ∀ step ∈ (new kit problem (store.applyAll edits)).steps operations, ∀ condition,
        step.operation = .optimize condition →
          (step.before.optimize condition).2 = .ok () ∨
            ∃ failure, (step.before.optimize condition).2 = .error (.backend failure) := by
  have hready := OptionStore.ready_of_defaults hkit hdefaults
  refine ⟨?_, ?_⟩
  · intro options operations edits condition s hoptions
    exact answer_of_ready (hoptions ▸ hready edits) condition
  · intro edits operations hput step hstep condition _
    have hput' : ∀ options, .setOptions options ∈ operations → options.Ready := by
      intro options hmem
      obtain ⟨edits', rfl⟩ := hput options hmem
      exact hready edits'
    have hoptions := options_invariant
      (s := new kit problem (store.applyAll edits)) (hready edits) hput' step hstep
    exact answer_of_ready hoptions condition

/-- With solvers that offer a radius, options are edited with some edits accepted and some refused:
the strategy is not set to a word that is none, but to the moving asymptotes. After a run under the
default options, a call under the edited ones is not refused, nor is one of a history. -/
theorem offered_radius_never_refused :
    let radius : Registration := .float "tr_radius" (Binary64.ofInt 1) (Binary64.ofInt 0)
      (Binary64.ofInt 10) "The radius of the trust region"
    let kit := { ElementarySolvers.standard with options := [radius] }.kit
    let problem : Problem Binary64 := Problem.ofBounds [] 0
    let store := (OptionStore.empty.addDefaults kit.registerOptions).1
    let edits : List StoreEdit :=
      [.set OptionName.algorithm (.str (some "newton")),
        .set OptionName.algorithm (.str (some "mma")), .reset OptionName.quasiNewtonKind,
        .set OptionName.subspaceSize (.int (-1)), .register radius]
    let start := new kit problem store
    let changed := start.performAll [.optimize none, .setOptions (store.applyAll edits)]
    kit.registerOptions.EditsOnly ∧ OptionStore.defaults kit.registerOptions = .ok store ∧
      ((changed.optimize (some .asymptotes)).2 = .ok () ∨
        ∃ failure, (changed.optimize (some .asymptotes)).2 = .error (.backend failure)) ∧
      ((start.optimize none).2 = .ok () ∨
        ∃ failure, (start.optimize none).2 = .error (.backend failure)) := by
  intro radius kit problem store edits start changed
  have hkit : kit.registerOptions.EditsOnly := fun store =>
    OptionStore.exists_edits_registerAll store [radius]
  have hdefaults : OptionStore.defaults kit.registerOptions = .ok store := by decide
  obtain ⟨hstate, hhistory⟩ := edited_defaults_never_refused problem hkit hdefaults
  refine ⟨hkit, hdefaults, ?_, ?_⟩
  · exact hstate store [.optimize none, .setOptions (store.applyAll edits)] edits
      (some .asymptotes) rfl
  · have hput : ∀ options, .setOptions options ∈
        ([.optimize none, .setOptions (store.applyAll edits)] : List (Operation kit)) →
        ∃ edits, options = store.applyAll edits := by
      intro options hmem
      simp only [List.mem_cons, reduceCtorEq, Operation.setOptions.injEq, List.not_mem_nil,
        or_false, false_or] at hmem
      exact ⟨edits, hmem⟩
    exact hhistory [] _ hput ⟨start, .optimize none⟩ List.mem_cons_self none rfl

end Session

end StrategyCoordinator
