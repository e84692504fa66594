import StrategyCoordinator.Options.Edit
import StrategyCoordinator.Proofs.Coordinator.Contents
import StrategyCoordinator.Proofs.Coordinator.Reuse
import StrategyCoordinator.Solvers.Elementary

/-!
# Who reports the optimized point

The optimized point is put together from two reports: the primal point of the outermost live
backend and the multipliers of the live interior-point backend. What a backend reports changes
only in its own run, since nothing else is given the backend to change it.

A kit starts silent if fresh backends report nothing. Then whatever is reported was found in a
run of a live backend, and the two backends that report were built in the same step. After a
rebuild there is no point until both have been run.
-/

namespace StrategyCoordinator

/-- A report of a backend, with the backend's role and serial number. -/
structure Report (α : Type) where
  reporter : Role × Nat
  value : α

/-- The backend that makes a report was run in the given events. -/
def Report.HasRun {α : Type} (report : Report α) (events : List Event) : Prop :=
  .ran report.reporter.1 report.reporter.2 ∈ events

variable {R : Type}

/-- Two values are joined to a point exactly if both are reported. -/
theorem Report.join_eq_some {x? : Option (Vec R)} {multipliers? : Option (Multipliers R)}
    (outer inner : Role × Nat) {point : OptimizedPoint R} :
    (do
      let x ← x?
      let multipliers ← multipliers?
      return ⟨x, multipliers⟩) = some point ↔
      ∃ x multipliers, x?.map (Report.mk outer) = some x ∧
        multipliers?.map (Report.mk inner) = some multipliers ∧
        point = ⟨x.value, multipliers.value⟩ := by
  cases x? with
  | none => simp
  | some x =>
    cases multipliers? with
    | none => simp
    | some multipliers => simp [eq_comm]

/-- Fresh backends report nothing. -/
structure SolverKit.StartsSilent (kit : SolverKit R) : Prop where
  solution : ∀ serial target options,
    kit.solution (kit.newInteriorPoint serial target options) = none
  multipliers : ∀ serial target options,
    kit.multipliers (kit.newInteriorPoint serial target options) = none
  trustRegionIterate : ∀ serial options,
    kit.trustRegionIterate (kit.newTrustRegion serial options) = none
  asymptotesIterate : ∀ serial problem options,
    kit.asymptotesIterate (kit.newAsymptotes serial problem options).1 = none

variable {kit : SolverKit R}

namespace Backends

/-- The primal point that the outermost live backend reports. -/
def primal? : Backends kit → Option (Report (Vec R))
  | .uninitialized => none
  | .interiorPoint ip => (kit.solution ip.backend).map fun point => ⟨ip.label, point.x⟩
  | .trustRegion tr _ _ =>
    (kit.trustRegionIterate tr.backend).map fun x => ⟨(.trustRegion, tr.serial), x⟩
  | .asymptotes mma _ =>
    (kit.asymptotesIterate mma.backend).map fun x => ⟨(.asymptotes, mma.serial), x⟩

/-- The multipliers that the live interior-point backend reports. On its own it reports them with
its primal point. -/
def multipliers? : Backends kit → Option (Report (Multipliers R))
  | .uninitialized => none
  | .interiorPoint ip => (kit.solution ip.backend).map fun point => ⟨ip.label, point.multipliers⟩
  | .trustRegion _ ip _ | .asymptotes _ ip =>
    (kit.multipliers ip.backend).map fun multipliers => ⟨ip.label, multipliers⟩

/-- There is a point exactly if both are reported, and then it joins the two reports. -/
theorem point?_eq_some {backends : Backends kit} {point : OptimizedPoint R} :
    backends.point? = some point ↔ ∃ x multipliers, backends.primal? = some x ∧
      backends.multipliers? = some multipliers ∧ point = ⟨x.value, multipliers.value⟩ := by
  cases backends with
  | uninitialized => simp [point?, primal?]
  | interiorPoint ip =>
    cases h : kit.solution ip.backend with
    | none => simp [point?, primal?, h]
    | some solution => simp [point?, primal?, multipliers?, h, eq_comm]
  | trustRegion tr ip bound => exact Report.join_eq_some (.trustRegion, tr.serial) ip.label
  | asymptotes mma ip => exact Report.join_eq_some (.asymptotes, mma.serial) ip.label

/-- There is no point while either of the two is missing. -/
theorem point?_eq_none {backends : Backends kit}
    (h : backends.primal? = none ∨ backends.multipliers? = none) : backends.point? = none := by
  rw [Option.eq_none_iff_forall_ne_some]
  intro point hpoint
  obtain ⟨x, multipliers, hx, hmultipliers, -⟩ := point?_eq_some.mp hpoint
  rcases h with h | h
  · rw [h] at hx
    cases hx
  · rw [h] at hmultipliers
    cases hmultipliers

/-- There is none while nothing is live. -/
theorem point?_of_uninitialized {backends : Backends kit}
    (h : backends.state = .uninitialized) : backends.point? = none := by
  cases backends with
  | uninitialized => rfl
  | interiorPoint | trustRegion | asymptotes => cases h

/-- The primal point is reported by the first backend of the roster. -/
theorem head?_of_primal? {backends : Backends kit} {report : Report (Vec R)}
    (h : backends.primal? = some report) : backends.roster.head? = some report.reporter := by
  cases backends with
  | uninitialized => cases h
  | interiorPoint | trustRegion | asymptotes =>
    obtain ⟨value, -, rfl⟩ := Option.map_eq_some_iff.mp h
    rfl

/-- It is the outermost backend of its strategy, if the live backends fit each other. -/
theorem outerRole_of_primal? {backends : Backends kit} (hwired : backends.assembly.Wired)
    {report : Report (Vec R)} (h : backends.primal? = some report) :
    ∃ algorithm, backends.state.algorithm? = some algorithm ∧
      report.reporter.1 = algorithm.outerRole := by
  cases backends with
  | uninitialized => cases h
  | interiorPoint ip =>
    obtain ⟨value, -, rfl⟩ := Option.map_eq_some_iff.mp h
    have htarget : ip.target = .problem := hwired
    refine ⟨.interiorPoint, rfl, ?_⟩
    rw [LiveInteriorPoint.label, htarget]
    rfl
  | trustRegion | asymptotes =>
    obtain ⟨value, -, rfl⟩ := Option.map_eq_some_iff.mp h
    exact ⟨_, rfl, rfl⟩

/-- The multipliers are reported by the last backend of the roster, an interior-point backend. -/
theorem getLast?_of_multipliers? {backends : Backends kit} {report : Report (Multipliers R)}
    (h : backends.multipliers? = some report) :
    backends.roster.getLast? = some report.reporter ∧
      ∃ target, report.reporter.1 = .interiorPoint target := by
  cases backends with
  | uninitialized => cases h
  | interiorPoint | trustRegion | asymptotes =>
    obtain ⟨value, -, rfl⟩ := Option.map_eq_some_iff.mp h
    exact ⟨rfl, _, rfl⟩

/-- An interior-point backend on its own reports both. -/
theorem reporter_eq_of_alone {backends : Backends kit} {x : Report (Vec R)}
    {multipliers : Report (Multipliers R)} (hx : backends.primal? = some x)
    (hmultipliers : backends.multipliers? = some multipliers)
    (halone : backends.state = .pureInteriorPoint) : x.reporter = multipliers.reporter := by
  cases backends with
  | interiorPoint ip =>
    have hhead := head?_of_primal? hx
    have hlast := (getLast?_of_multipliers? hmultipliers).1
    exact Option.some.inj (hhead.symm.trans hlast)
  | uninitialized | trustRegion | asymptotes => cases halone

/-- A live backend is the first or the last of the roster. -/
theorem head?_or_getLast?_of_mem {backends : Backends kit} {backend : Role × Nat}
    (h : backend ∈ backends.roster) :
    backends.roster.head? = some backend ∨ backends.roster.getLast? = some backend := by
  cases backends with
  | uninitialized => cases h
  | interiorPoint ip =>
    obtain rfl := List.mem_singleton.mp h
    exact Or.inl rfl
  | trustRegion | asymptotes =>
    rcases List.mem_cons.mp h with rfl | h
    · exact Or.inl rfl
    · obtain rfl := List.mem_singleton.mp h
      exact Or.inr rfl

/-- The live backends report nothing. -/
structure Silent (backends : Backends kit) : Prop where
  primal : backends.primal? = none
  multipliers : backends.multipliers? = none

/-- Whatever the live backends report, the one that reports it was run in the given events. -/
structure ReportAfter (backends : Backends kit) (events : List Event) : Prop where
  primal : ∀ report, backends.primal? = some report → report.HasRun events
  multipliers : ∀ report, backends.multipliers? = some report → report.HasRun events

/-- Silent backends report nothing at any time. -/
theorem Silent.reportAfter {backends : Backends kit} (h : backends.Silent) (events : List Event) :
    backends.ReportAfter events := by
  refine ⟨fun report hreport => ?_, fun report hreport => ?_⟩
  · rw [h.primal] at hreport
    cases hreport
  · rw [h.multipliers] at hreport
    cases hreport

/-- Later events do not undo a run. -/
theorem ReportAfter.mono {backends : Backends kit} {events later : List Event}
    (h : backends.ReportAfter events) (hsubset : events ⊆ later) : backends.ReportAfter later :=
  ⟨fun report hreport => hsubset (h.primal report hreport),
    fun report hreport => hsubset (h.multipliers report hreport)⟩

end Backends

namespace Workshop

/-- An inner backend is as it was, unless it was run in the entries that were added. -/
def KeepsUnlessRun (w : Workshop kit) (ip : LiveInteriorPoint kit) (w' : Workshop kit)
    (ip' : LiveInteriorPoint kit) : Prop :=
  ∃ entries : Journal, w'.journal = w.journal ++ entries ∧
    (ip' = ip ∨ .ran ip.label.1 ip.label.2 ∈ entries.events)

/-- Without a request it is as it was. -/
theorem KeepsUnlessRun.refl (w : Workshop kit) (ip : LiveInteriorPoint kit) :
    w.KeepsUnlessRun ip w ip :=
  ⟨[], (List.append_nil _).symm, Or.inl rfl⟩

/-- The events of running an outer backend, inside whose run the inner one may be run. -/
theorem KeepsUnlessRun.events {w w' : Workshop kit} {ip ip' : LiveInteriorPoint kit} {role : Role}
    {serial : Nat} (h : (w.happen (.ran role serial)).KeepsUnlessRun ip w' ip') :
    ∃ runs, w'.journal.events = w.journal.events ++ runs ∧ .ran role serial ∈ runs ∧
      (ip' = ip ∨ .ran ip.label.1 ip.label.2 ∈ runs) := by
  obtain ⟨entries, hentries, hinner⟩ := h
  refine ⟨.ran role serial :: entries.events, ?_, List.mem_cons_self, ?_⟩
  · rw [hentries, happen, Journal.events_append, Journal.events_append, List.append_assoc]
    rfl
  · exact hinner.imp_right (List.mem_cons_of_mem _)

variable [Scalar R]

/-- After a solve it was run, whatever is done then. -/
theorem keepsUnlessRun_of_solve (condition : kit.Condition) (checkpoint : Option String)
    (w : Workshop kit) (ip : LiveInteriorPoint kit) {w' : Workshop kit}
    {ip' : LiveInteriorPoint kit} {entries : Journal}
    (hjournal : w'.journal = (solve condition checkpoint w ip).1.journal ++ entries) :
    w.KeepsUnlessRun ip w' ip' := by
  rw [solve_journal, List.append_assoc] at hjournal
  exact ⟨_, hjournal, Or.inr List.mem_cons_self⟩

/-- A trust-region run changes the inner backend only by having it solve. -/
theorem performTrustRegion_keepsUnlessRun (condition : kit.Condition) (handle : Nat)
    (before : kit.TrustRegion) (w : Workshop kit) (ip : LiveInteriorPoint kit)
    (run : TrustRegionRun R kit.Curvature kit.TrustRegion) :
    w.KeepsUnlessRun ip (performTrustRegion condition handle before w ip run).workshop
      (performTrustRegion condition handle before w ip run).inner := by
  induction run generalizing w ip with
  | finish => exact .refl w ip
  | inspect next ih =>
    unfold performTrustRegion
    split
    · exact .refl w ip
    · exact ih _ w ip
  | setCenter x next ih =>
    unfold performTrustRegion
    split
    · exact .refl w ip
    · split
      · exact ih _ w ip
      · exact ih _ _ ip
  | setRadius radius next ih => exact ih _ ip
  | updateCurvature s y next ih =>
    unfold performTrustRegion
    split
    · exact .refl w ip
    · exact ih _ _ ip
  | solve checkpoint next ih =>
    obtain ⟨entries, hentries, -⟩ := ih _ _ (solve condition checkpoint w ip).1
      (solve condition checkpoint w ip).2.1
    exact keepsUnlessRun_of_solve condition checkpoint w ip hentries

/-- So does a moving-asymptotes run. -/
theorem performAsymptotes_keepsUnlessRun (condition : kit.Condition) (owner : Nat)
    (w : Workshop kit) (ip : LiveInteriorPoint kit) (run : AsymptotesRun R kit.Asymptotes) :
    w.KeepsUnlessRun ip (performAsymptotes condition owner w ip run).workshop
      (performAsymptotes condition owner w ip run).inner := by
  induction run generalizing w ip with
  | finish => exact .refl w ip
  | setSurrogate surrogate next ih => exact ih _ ip
  | solve checkpoint next ih =>
    obtain ⟨entries, hentries, -⟩ := ih _ _ (solve condition checkpoint w ip).1
      (solve condition checkpoint w ip).2.1
    exact keepsUnlessRun_of_solve condition checkpoint w ip hentries

end Workshop

namespace Session

variable [Scalar R]

/-- A run leaves the multipliers that are reported, unless the interior-point backend is run. -/
theorem multipliers?_runBackends (s : Session kit) (condition : kit.Condition)
    (checkpoint : Option String) :
    ∃ runs, (s.runBackends condition checkpoint).1.events = s.events ++ runs ∧
      ((s.runBackends condition checkpoint).1.backends.multipliers? = s.backends.multipliers? ∨
        ∀ inner, s.backends.roster.getLast? = some inner → .ran inner.1 inner.2 ∈ runs) := by
  obtain ⟨workshop, options, backends, subproblem, held⟩ := s
  cases backends with
  | uninitialized => exact ⟨[], (List.append_nil _).symm, Or.inl rfl⟩
  | interiorPoint ip =>
    have hevents := congrArg Journal.events
      (Workshop.solve_journal condition checkpoint workshop ip)
    rw [Journal.events_append] at hevents
    refine ⟨_, hevents, Or.inr fun inner hinner => ?_⟩
    obtain rfl := Option.some.inj hinner
    exact List.mem_cons_self
  | trustRegion tr ip bound =>
    obtain ⟨runs, hevents, -, hinner⟩ := (Workshop.performTrustRegion_keepsUnlessRun condition
      tr.subproblem tr.backend _ ip (kit.runTrustRegion condition tr.backend)).events
    refine ⟨runs, hevents, ?_⟩
    rcases hinner with hsame | hran
    · exact Or.inl (by simp only [runBackends, Backends.multipliers?, hsame])
    · refine Or.inr fun inner hinner => ?_
      obtain rfl := Option.some.inj hinner
      exact hran
  | asymptotes mma ip =>
    obtain ⟨runs, hevents, -, hinner⟩ := (Workshop.performAsymptotes_keepsUnlessRun condition
      mma.serial _ ip (kit.runAsymptotes condition mma.backend)).events
    refine ⟨runs, hevents, ?_⟩
    rcases hinner with hsame | hran
    · exact Or.inl (by simp only [runBackends, Backends.multipliers?, hsame])
    · refine Or.inr fun inner hinner => ?_
      obtain rfl := Option.some.inj hinner
      exact hran

/-- What live backends report after a run, they report after the events of the run or after those
before it. -/
theorem reportAfter_runBackends (s : Session kit) (condition : kit.Condition)
    (checkpoint : Option String) {past : List Event} (h : s.backends.ReportAfter past) :
    ∃ runs, (s.runBackends condition checkpoint).1.events = s.events ++ runs ∧
      (s.runBackends condition checkpoint).1.backends.ReportAfter (past ++ runs) := by
  obtain ⟨runs, hevents, hmultipliers⟩ := s.multipliers?_runBackends condition checkpoint
  have hleaves := s.runBackends_leaves condition checkpoint
  obtain ⟨entries, hentries, hisRun⟩ := hleaves.journal
  have hroster : (s.runBackends condition checkpoint).1.backends.roster = s.backends.roster :=
    congrArg Assembly.roster hleaves.assembly
  have hruns : runs = entries.events := by
    have hboth := congrArg Journal.events hentries
    rw [Journal.events_append] at hboth
    exact List.append_cancel_left (hevents.symm.trans hboth)
  refine ⟨runs, hevents, fun report hreport => ?_, fun report hreport => ?_⟩
  · -- The backend that reports the primal point is the one that is run first.
    have hhead := Backends.head?_of_primal? hreport
    have hfirst := hisRun.runsOf.1
    rw [← hroster, hhead, ← hruns] at hfirst
    exact List.mem_append_right _ (List.mem_of_head? hfirst)
  · rcases hmultipliers with hsame | hran
    · exact List.mem_append_left _ (h.multipliers report (hsame ▸ hreport))
    · have hlast := (Backends.getLast?_of_multipliers? hreport).1
      exact List.mem_append_right _ (hran _ (hroster ▸ hlast))

omit [Scalar R] in
/-- Fresh backends report nothing when the kit starts silent. -/
theorem silent_transition (hkit : kit.StartsSilent) (s : Session kit) {request : Request}
    (h : s.backends.serves request = false) : (s.transition request).backends.Silent := by
  unfold transition
  rw [if_neg (by simp [h])]
  cases request with
  | interiorPoint checkpoint =>
    have hsolution := hkit.solution s.discardBackends.workshop.nextSerial .problem
      s.discardBackends.options
    exact ⟨congrArg (Option.map _) hsolution, congrArg (Option.map _) hsolution⟩
  | trustRegion handle =>
    exact ⟨congrArg (Option.map _) (hkit.trustRegionIterate _ _),
      congrArg (Option.map _) (hkit.multipliers _ _ _)⟩
  | asymptotes =>
    exact ⟨congrArg (Option.map _) (hkit.asymptotesIterate _ _ _),
      congrArg (Option.map _) (hkit.multipliers _ _ _)⟩

/-- What happened before a call has happened when it hands over. -/
theorem events_prefix_handedOver {s resolved : Session kit} {request : Request}
    (h : s.resolve = .ok (request, resolved)) :
    s.events <+: (resolved.handedOver request).events := by
  obtain ⟨hresolved, -⟩ := events_resolve h
  obtain ⟨-, -, -, -, -, -, hjournal⟩ :=
    (resolved.log (.started request.algorithm resolved.state)).transition_aligned request
  have hevents := congrArg Journal.events hjournal
  rw [Journal.events_append] at hevents
  have hlogged := resolved.events_log (.started request.algorithm resolved.state)
  have hstarted : resolved.events <+: (resolved.handedOver request).events :=
    ⟨_, (hevents.trans (congrArg (· ++ _) hlogged)).symm⟩
  exact .trans ⟨_, hresolved.symm⟩ hstarted

/-- What live backends report after a call, they report after the events of the call or after those
before which they reported when the call handed over. -/
theorem reportAfter_optimize {s resolved : Session kit} {request : Request}
    (h : s.resolve = .ok (request, resolved)) (condition : kit.Condition) {past : List Event}
    (hready : (resolved.handedOver request).backends.ReportAfter past) :
    (s.optimize condition).1.backends.ReportAfter
      (past ++ (Step.mk s (.optimize condition)).events) := by
  obtain ⟨hbackends, hevents, -⟩ := optimize_run h condition
  obtain ⟨runs, hruns, hafter⟩ := (resolved.handedOver request).reportAfter_runBackends condition
    request.checkpoint hready
  obtain ⟨done, hdone⟩ := events_prefix_handedOver h
  have hstep : (Step.mk s (.optimize condition)).events = done ++ runs := by
    have hsplit := (Step.mk s (.optimize condition)).events_after
    refine List.append_cancel_left (hsplit.symm.trans ?_)
    rw [← List.append_assoc, hdone, ← hruns]
    exact hevents
  rw [hbackends, hstep]
  refine hafter.mono (List.append_subset.mpr ⟨List.subset_append_left _ _, ?_⟩)
  exact List.subset_append_of_subset_right _ (List.subset_append_right _ _)

/-- When a call hands over, it has kept the live backends, or fresh ones report nothing. -/
theorem reportAfter_handedOver (hkit : kit.StartsSilent) {s resolved : Session kit}
    {request : Request} (h : s.resolve = .ok (request, resolved)) {past : List Event}
    (hs : s.backends.ReportAfter past) :
    (resolved.handedOver request).backends.ReportAfter past := by
  have hbackends : resolved.backends = s.backends := (resolve_aside h).backends
  rw [handedOver]
  cases hserves :
    (resolved.log (.started request.algorithm resolved.state)).backends.serves request with
  | true =>
    rw [transition_of_serves _ hserves]
    exact hbackends ▸ hs
  | false => exact (silent_transition hkit _ hserves).reportAfter past

end Session

namespace Step

variable [Scalar R]

/-- The backends that are live after a step were live before it, or were all built in it. -/
theorem roster_kept_or_built (step : Step kit) (hstocked : step.before.Stocked) :
    step.after.backends.roster = step.before.backends.roster ∨
      ∀ backend ∈ step.after.backends.roster, .built backend.1 backend.2 ∈ step.events := by
  cases step.kind with
  | aside haside =>
    exact Or.inl (congrArg Backends.roster (step.before.perform_aside haside).backends)
  | refused condition hresolve =>
    rw [after_of_error hresolve]
    exact Or.inl rfl
  | @carriedOut s resolved request condition hresolve =>
    by_cases hsuits : s.backends.Suits request
    · have hreused := Session.optimize_reused hstocked hresolve hsuits condition
      exact Or.inl (congrArg Assembly.roster hreused.assembly)
    · have hrebuilt := Session.optimize_rebuilt hresolve hsuits condition
      obtain ⟨partings, runs, -, -, hevents⟩ := hrebuilt.events
      have hstep := (Step.mk s (.optimize condition)).events_after
      refine Or.inr fun backend hbackend => ?_
      have hroster : backend ∈ (request.assembly resolved.workshop.nextSerial).roster :=
        hrebuilt.assembly ▸ hbackend
      have hbuilds := (request.builds_perm_roster _).mem_iff.mpr hroster
      rw [List.append_cancel_left (hstep.symm.trans hevents)]
      refine List.mem_append_right _ (List.mem_append_right _ (List.mem_append_right _ ?_))
      exact List.mem_append_left _ (List.mem_map.mpr ⟨backend, hbuilds, rfl⟩)

/-- A step leaves the reports of backends that were run in it, or that reported before. -/
theorem reportAfter_after (hkit : kit.StartsSilent) (step : Step kit)
    (h : step.before.backends.ReportAfter step.before.events) :
    step.after.backends.ReportAfter step.after.events := by
  rw [events_after]
  cases step.kind with
  | aside haside =>
    have hbackends : step.after.backends = step.before.backends :=
      (step.before.perform_aside haside).backends
    rw [hbackends]
    exact h.mono (List.subset_append_left _ _)
  | refused condition hresolve =>
    rw [after_of_error hresolve]
    exact h.mono (List.subset_append_left _ _)
  | carriedOut condition hresolve =>
    exact Session.reportAfter_optimize hresolve condition
      (Session.reportAfter_handedOver hkit hresolve h)

end Step

namespace Session

variable [Scalar R]

/-- Over a history the live backends stay, or some step built all that are live at the end. -/
theorem roster_kept_or_built (s : Session kit) (hstocked : s.Stocked)
    (operations : List (Operation kit)) :
    (s.performAll operations).backends.roster = s.backends.roster ∨
      ∃ step ∈ s.steps operations, ∀ backend ∈ (s.performAll operations).backends.roster,
        .built backend.1 backend.2 ∈ step.events := by
  induction operations generalizing s with
  | nil => exact Or.inl rfl
  | cons operation rest ih =>
    rcases ih _ (s.perform_stocked operation hstocked) with hkept | ⟨step, hstep, hbuilt⟩
    · have hroster : (s.performAll (operation :: rest)).backends.roster =
          (Step.mk s operation).after.backends.roster := hkept
      rw [hroster]
      refine ((Step.mk s operation).roster_kept_or_built hstocked).imp_right fun hbuilt => ?_
      exact ⟨_, List.mem_cons_self, hbuilt⟩
    · exact Or.inr ⟨step, List.mem_cons_of_mem _ hstep, hbuilt⟩

/-- After every history, whatever is reported was found in a run. -/
theorem reportAfter_performAll (hkit : kit.StartsSilent) (problem : Problem R)
    (options : OptionStore) (operations : List (Operation kit)) :
    let s := (new kit problem options).performAll operations
    s.backends.ReportAfter s.events :=
  performAll_invariant (P := fun s => s.backends.ReportAfter s.events)
    (fun s operation => Step.reportAfter_after hkit ⟨s, operation⟩)
    (Backends.Silent.reportAfter ⟨rfl, rfl⟩ _) operations

/-- What the backends have to do with each other that report the two parts of a point: the one is
the outermost live backend of its strategy, the other the live interior-point backend, both were
run, and one step built both. -/
structure JoinedBy (s : Session kit) (steps : List (Step kit)) (outer inner : Role × Nat) :
    Prop where
  outermost : s.backends.roster.head? = some outer ∧
    ∃ algorithm, s.state.algorithm? = some algorithm ∧ outer.1 = algorithm.outerRole
  interior : s.backends.roster.getLast? = some inner ∧ ∃ target, inner.1 = .interiorPoint target
  alone : s.state = .pureInteriorPoint → outer = inner
  lives : Lives s.events outer.1 outer.2 ∧ Lives s.events inner.1 inner.2
  ran : .ran outer.1 outer.2 ∈ s.events ∧ .ran inner.1 inner.2 ∈ s.events
  together : ∃ step ∈ steps, .built outer.1 outer.2 ∈ step.events ∧
    .built inner.1 inner.2 ∈ step.events

/-- The two backends that report belong together. -/
theorem joinedBy_of_reports (hkit : kit.StartsSilent) (problem : Problem R)
    (options : OptionStore) (operations : List (Operation kit)) {x : Report (Vec R)}
    {multipliers : Report (Multipliers R)} :
    let start := new kit problem options
    let s := start.performAll operations
    s.backends.primal? = some x → s.backends.multipliers? = some multipliers →
      s.JoinedBy (start.steps operations) x.reporter multipliers.reporter := by
  intro start s hx hmultipliers
  have hsound : s.Sound problem := performAll_sound problem options operations
  have hreports : s.backends.ReportAfter s.events :=
    reportAfter_performAll hkit problem options operations
  have hhead := Backends.head?_of_primal? hx
  obtain ⟨hlast, hinterior⟩ := Backends.getLast?_of_multipliers? hmultipliers
  have houter := List.mem_of_head? hhead
  have hinner := List.mem_of_getLast? hlast
  have hlives : ∀ backend ∈ s.backends.roster, Lives s.events backend.1 backend.2 := by
    intro backend hbackend
    have htracks := (follows_performAll problem options operations).tracks
    exact (htracks.lives backend.1 backend.2 (htracks.fits.isBackend hbackend)).mpr hbackend
  refine ⟨⟨hhead, ?_⟩, ⟨hlast, hinterior⟩, ?_, ⟨hlives _ houter, hlives _ hinner⟩,
    ⟨hreports.primal x hx, hreports.multipliers multipliers hmultipliers⟩, ?_⟩
  · exact Backends.outerRole_of_primal? hsound.wired hx
  · exact Backends.reporter_eq_of_alone hx hmultipliers
  · rcases start.roster_kept_or_built (new_stocked kit problem options) operations with
      hkept | ⟨step, hstep, hbuilt⟩
    · have hnone : s.backends.roster = [] := hkept
      rw [hnone] at houter
      exact absurd houter List.not_mem_nil
    · exact ⟨step, hstep, hbuilt _ houter, hbuilt _ hinner⟩

/-- A call that replaces the live backends hands over to backends that report nothing. -/
theorem silent_handedOver (hkit : kit.StartsSilent) {s resolved : Session kit}
    {request : Request} (h : s.resolve = .ok (request, resolved))
    (hsuits : ¬s.backends.Suits request) :
    (resolved.handedOver request).backends.Silent := by
  have hbackends : resolved.backends = s.backends := (resolve_aside h).backends
  refine silent_transition hkit _ ?_
  show resolved.backends.serves request = false
  rw [hbackends]
  exact Backends.serves_eq_false hsuits

/-- After a call that replaced the live backends there is a point only if each of the fresh ones was
run in that call. -/
theorem ran_of_point?_rebuilt (hkit : kit.StartsSilent) {s resolved : Session kit}
    {request : Request} (h : s.resolve = .ok (request, resolved))
    (hsuits : ¬s.backends.Suits request) (condition : kit.Condition)
    {point : OptimizedPoint R} (hpoint : (s.optimize condition).1.point? = some point) :
    ∀ backend ∈ (s.optimize condition).1.backends.roster,
      .ran backend.1 backend.2 ∈ (Step.mk s (.optimize condition)).events := by
  have hready := (silent_handedOver hkit h hsuits).reportAfter []
  have hreports := reportAfter_optimize h condition hready
  obtain ⟨x, multipliers, hx, hmultipliers, -⟩ := Backends.point?_eq_some.mp hpoint
  intro backend hbackend
  rcases Backends.head?_or_getLast?_of_mem hbackend with hhead | hlast
  · obtain rfl := Option.some.inj (hhead.symm.trans (Backends.head?_of_primal? hx))
    exact hreports.primal x hx
  · have hreporter := (Backends.getLast?_of_multipliers? hmultipliers).1
    obtain rfl := Option.some.inj (hlast.symm.trans hreporter)
    exact hreports.multipliers multipliers hmultipliers

/-- Operations that run no strategy and refused calls leave the point. -/
theorem point?_perform (s : Session kit) {operation : Operation kit}
    (h : ∀ condition, operation = .optimize condition →
      isRefusal (s.optimize condition).2 = true) :
    (s.perform operation).1.point? = s.point? := by
  cases (Step.mk s operation).kind with
  | aside haside => exact congrArg Backends.point? (s.perform_aside haside).backends
  | refused condition hresolve =>
    have hafter : (s.perform (.optimize condition)).1 = s.log (.refused _) :=
      Step.after_of_error hresolve condition
    rw [hafter]
    rfl
  | carriedOut condition hresolve =>
    have hrefused := h condition rfl
    rw [not_refused_of_resolve hresolve condition] at hrefused
    cases hrefused

/-- None of the backends before a call that replaces them is live after it. -/
theorem not_mem_roster_of_rebuilt (problem : Problem R) (options : OptionStore)
    (operations : List (Operation kit)) {condition : kit.Condition} {request : Request}
    {next : Nat} :
    let s := (new kit problem options).performAll operations
    s.Rebuilt request next (s.optimize condition).1 →
      ∀ backend ∈ (s.optimize condition).1.backends.roster, backend ∉ s.backends.roster := by
  intro s hrebuilt backend hafter hbefore
  have hfollows := follows_performAll problem options (operations ++ [.optimize condition])
  rw [performAll_append] at hfollows
  have htracks : (s.optimize condition).1.roll.Tracks (s.optimize condition).1.events :=
    hfollows.tracks
  have hlives := (htracks.lives backend.1 backend.2 (htracks.fits.isBackend hafter)).mpr hafter
  obtain ⟨partings, runs, -, -, hevents⟩ := hrebuilt.events
  refine hlives.2 ?_
  rw [hevents]
  refine List.mem_append_right _ (List.mem_append_right _ (List.mem_append_left _ ?_))
  exact List.mem_map.mpr ⟨backend, hbefore, rfl⟩

/-- With a kit that starts silent, in every reachable state: there is no point until a call passes
the checks of the configuration. There is a point exactly if the outermost live backend reports a
primal point and the live interior-point backend reports multipliers, and then it joins the two;
both are live, both were run, and one step built both. Only a call that passes the checks changes
the point. If such a call replaces the live backends, there is no point when it hands over to the
fresh ones, and none after it unless it has run each of them. -/
theorem point_never_stale (hkit : kit.StartsSilent) (problem : Problem R) (options : OptionStore)
    (operations : List (Operation kit)) :
    let start := new kit problem options
    let s := start.performAll operations
    ((∀ step ∈ start.steps operations, ∀ condition, step.operation = .optimize condition →
        isRefusal (step.before.optimize condition).2 = true) → s.point? = none) ∧
      (∀ point, s.point? = some point ↔ ∃ x multipliers, s.backends.primal? = some x ∧
        s.backends.multipliers? = some multipliers ∧ point = ⟨x.value, multipliers.value⟩) ∧
      (∀ x multipliers, s.backends.primal? = some x → s.backends.multipliers? = some multipliers →
        s.JoinedBy (start.steps operations) x.reporter multipliers.reporter) ∧
      (∀ operation, (∀ condition, operation = .optimize condition →
        isRefusal (s.optimize condition).2 = true) →
          (s.perform operation).1.point? = s.point?) ∧
      ∀ condition request resolved, s.resolve = .ok (request, resolved) →
        ¬s.backends.Suits request →
          let s' := (s.optimize condition).1
          (resolved.handedOver request).point? = none ∧
            (∀ backend ∈ s'.backends.roster, backend ∉ s.backends.roster) ∧
            ∀ point, s'.point? = some point → ∀ backend ∈ s'.backends.roster,
              .ran backend.1 backend.2 ∈ (Step.mk s (.optimize condition)).events := by
  intro start s
  refine ⟨?_, fun point => Backends.point?_eq_some, ?_, ?_, ?_⟩
  · intro hrefused
    have hstate : s.backends.state = .uninitialized :=
      (start.state_performAll_eq_uninitialized operations).mpr ⟨rfl, hrefused⟩
    exact Backends.point?_of_uninitialized hstate
  · intro x multipliers hx hmultipliers
    exact joinedBy_of_reports hkit problem options operations hx hmultipliers
  · intro operation hrefused
    exact s.point?_perform hrefused
  · intro condition request resolved hresolve hsuits
    exact ⟨Backends.point?_eq_none (Or.inl (silent_handedOver hkit hresolve hsuits).primal),
      not_mem_roster_of_rebuilt problem options operations
        (optimize_rebuilt hresolve hsuits condition),
      fun _ hpoint => ran_of_point?_rebuilt hkit hresolve hsuits condition hpoint⟩

/-- With the standard solvers, which start silent, there is a point after a call of the
moving-asymptotes strategy, and it is joined from backends that belong together. Other options leave
it, and a switch to the trust-region strategy whose run fails at once leaves none. -/
theorem standard_point :
    let kit := ElementarySolvers.standard.kit
    let problem : Problem Binary64 := Problem.ofBounds [] 0
    let options := (OptionStore.empty.addDefaults kit.registerOptions).1
    let asymptotes := ((StoreEdit.set OptionName.algorithm (.choice "mma")).apply options).1
    let start := new kit problem asymptotes
    let ran := start.performAll [.optimize none]
    let switched := start.performAll [.optimize none, .setOptions options]
    start.point? = none ∧
      (∃ (x : Report (Vec Binary64)) (multipliers : Report (Multipliers Binary64)),
        ran.point? = some ⟨x.value, multipliers.value⟩ ∧
        ran.JoinedBy (start.steps [.optimize none]) x.reporter multipliers.reporter) ∧
      switched.point? = ran.point? ∧ (switched.optimize none).1.point? = none := by
  intro kit problem options asymptotes start ran switched
  have hkit : kit.StartsSilent :=
    ⟨fun _ _ _ => rfl, fun _ _ _ => rfl, fun _ _ => rfl, fun _ _ _ => rfl⟩
  obtain ⟨hnone, -⟩ := point_never_stale hkit problem asymptotes ([] : List (Operation kit))
  obtain ⟨-, hpoint, hjoined, hkept, -⟩ :=
    point_never_stale hkit problem asymptotes ([.optimize none] : List (Operation kit))
  obtain ⟨-, -, -, -, hrebuilt⟩ := point_never_stale hkit problem asymptotes
    ([.optimize none, .setOptions options] : List (Operation kit))
  have hswitched : switched = (ran.perform (.setOptions options)).1 := rfl
  refine ⟨hnone fun _ hstep => absurd hstep List.not_mem_nil, ?_, ?_, ?_⟩
  · obtain ⟨point, hsome⟩ := Option.isSome_iff_exists.mp (by decide : ran.point?.isSome = true)
    obtain ⟨x, multipliers, hx, hmultipliers, rfl⟩ := (hpoint point).mp hsome
    exact ⟨x, multipliers, hsome, hjoined x multipliers hx hmultipliers⟩
  · rw [hswitched]
    exact hkept (.setOptions options) nofun
  · obtain ⟨request, resolved, hresolve⟩ :=
      exists_resolve_of_not_refused (by decide : isRefusal (switched.optimize none).2 = false)
    have hresolved := hresolve
    cases hresolved
    obtain ⟨-, -, hafter⟩ := hrebuilt none _ _ hresolve (by decide)
    rw [Option.eq_none_iff_forall_ne_some]
    intro point hsome
    exact absurd (hafter point hsome) (by decide)

end Session

end StrategyCoordinator
