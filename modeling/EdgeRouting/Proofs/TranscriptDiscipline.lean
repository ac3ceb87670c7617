import EdgeRouting.Proofs.IngressObligations

/-!
# The discipline of transcripts

Every obligation to fetch something leans on what came just before it: a certificate on the
registration of its secret, a service on the two registrations of its split, endpoints on these and
on a service whose endpoints count, the authority on a backend that needs it.  The obligations of an
ingress are justified in this sense, and a transcript shows them one by one up to the first
obstacle, so the order of its registrations and lookups follows.
-/

namespace EdgeRouting

/-! ## Justified obligations -/

/-- Some path without another host has a split whose cluster was just seen to. -/
def Ingress.NeedsAuthorityAfter (lookup : Lookup) (ingress : Ingress)
    (before : List Obligation) : Prop :=
  ∃ rule ∈ ingress.rules, ∃ path ∈ rule.paths, path.rewritesHost = false ∧
    ∃ split ∈ path.splits, split.clusterObligations lookup <:+ before

/-- What must come just before an obligation. -/
def Obligation.Justified (config : Config) (lookup : Lookup) (ingress : Ingress)
    (before : List Obligation) : Obligation → Prop
  | .register _ => True
  | .hold _ => True
  | .fetch _ (.secret name) =>
      (∃ binding ∈ ingress.tls, binding.secret = name ∧
        [.register ⟨.secret, name⟩] <:+ before) ∨
      (name = config.caSecret ∧ config.internalEncryption = true ∧
        ingress.NeedsAuthorityAfter lookup before)
  | .fetch _ (.service name) =>
      [.register ⟨.service, name⟩, .register ⟨.endpoints, name⟩] <:+ before
  | .fetch _ (.endpoints name) =>
      lookup.findsExternalName name = false ∧
        [.register ⟨.service, name⟩, .register ⟨.endpoints, name⟩,
          .fetch .service (.service name)] <:+ before
  | .fetch _ (.nameSpace name) =>
      name = ingress.owner.ns ∧ config.trafficIsolation = .port

section Justified

variable {config : Config} {lookup : Lookup} {ingress : Ingress}

theorem Obligation.Justified.after
    (earlier before : List Obligation) (obligation : Obligation)
    (hjustified : obligation.Justified config lookup ingress before) :
    obligation.Justified config lookup ingress (earlier ++ before) := by
  have hlater : ∀ {list : List Obligation}, list <:+ before → list <:+ earlier ++ before :=
    fun hsuffix => hsuffix.trans (List.suffix_append earlier before)
  cases obligation with
  | register reference => trivial
  | hold condition => trivial
  | fetch subject query =>
      cases query with
      | secret name =>
          rcases hjustified with ⟨binding, hbinding, hname, hsuffix⟩ |
            ⟨hname, hencryption, rule, hrule, path, hpath, hhost, split, hsplit, hsuffix⟩
          · exact .inl ⟨binding, hbinding, hname, hlater hsuffix⟩
          · exact .inr ⟨hname, hencryption, rule, hrule, path, hpath, hhost, split, hsplit,
              hlater hsuffix⟩
      | service name => exact hlater hjustified
      | endpoints name => exact ⟨hjustified.1, hlater hjustified.2⟩
      | nameSpace name => exact hjustified

theorem justified_binding {binding : TlsBinding} (hbinding : binding ∈ ingress.tls) :
    EachAfter (Obligation.Justified config lookup ingress) [] binding.obligations :=
  ⟨trivial, .inl ⟨binding, hbinding, rfl, List.suffix_rfl⟩, trivial⟩

theorem justified_cluster (split : Split) :
    EachAfter (Obligation.Justified config lookup ingress) []
      (split.clusterObligations lookup) := by
  refine eachAfter_append.mpr ⟨⟨trivial, trivial, List.suffix_rfl, trivial⟩, ?_⟩
  unfold Split.memberObligations
  cases hexternal : lookup.findsExternalName split.service with
  | true => trivial
  | false => exact ⟨⟨hexternal, List.suffix_rfl⟩, trivial⟩

theorem justified_split {rule : Rule} {path : HttpPath} {split : Split}
    (hrule : rule ∈ ingress.rules) (hpath : path ∈ rule.paths)
    (hsplit : split ∈ path.splits) :
    EachAfter (Obligation.Justified config lookup ingress) []
      (split.obligations config lookup path) := by
  refine eachAfter_append.mpr ⟨justified_cluster split, ?_⟩
  unfold HttpPath.authorityObligations
  cases hneeded : config.internalEncryption && !path.rewritesHost with
  | false => trivial
  | true =>
      rw [Bool.and_eq_true, Bool.not_eq_true'] at hneeded
      obtain ⟨hencryption, hhost⟩ := hneeded
      exact ⟨.inr ⟨rfl, hencryption, rule, hrule, path, hpath, hhost, split, hsplit,
        List.suffix_rfl⟩, trivial⟩

theorem justified_path {rule : Rule} {path : HttpPath} (annotations : TextMap)
    (hrule : rule ∈ ingress.rules) (hpath : path ∈ rule.paths) :
    EachAfter (Obligation.Justified config lookup ingress) []
      (path.obligations config lookup annotations) := by
  refine EachAfter.append Obligation.Justified.after
    (.flatMap Obligation.Justified.after fun split hsplit =>
      justified_split hrule hpath hsplit) ?_
  cases path.splits.isEmpty with
  | true => trivial
  | false => exact ⟨trivial, trivial⟩

theorem justified_rule {rule : Rule} (annotations : TextMap) (hrule : rule ∈ ingress.rules) :
    EachAfter (Obligation.Justified config lookup ingress) []
      (rule.obligations config lookup annotations) :=
  EachAfter.append Obligation.Justified.after
    (.flatMap Obligation.Justified.after fun _ hpath =>
      justified_path annotations hrule hpath)
    ⟨trivial, trivial⟩

theorem justified_obligations (config : Config) (lookup : Lookup) (ingress : Ingress) :
    EachAfter (Obligation.Justified config lookup ingress) []
      (ingress.obligations config lookup) := by
  refine EachAfter.append Obligation.Justified.after
    (EachAfter.append Obligation.Justified.after
      (.flatMap Obligation.Justified.after fun _ hbinding => justified_binding hbinding)
      (.flatMap Obligation.Justified.after fun _ hrule => justified_rule _ hrule)) ?_
  unfold Ingress.listenerObligations
  cases hisolation : config.trafficIsolation with
  | none => trivial
  | port => exact ⟨⟨rfl, hisolation⟩, trivial⟩

/-! ### The namespace comes last -/

theorem TlsBinding.fetch_nameSpace_not_mem
    (binding : TlsBinding) (subject : Subject) (name : String) :
    .fetch subject (.nameSpace name) ∉ binding.obligations := by
  simp [obligations]

theorem Split.fetch_nameSpace_not_mem
    (path : HttpPath) (split : Split) (subject : Subject) (name : String) :
    .fetch subject (.nameSpace name) ∉ split.obligations config lookup path := by
  unfold obligations clusterObligations memberObligations HttpPath.authorityObligations
  cases lookup.findsExternalName split.service <;>
    cases config.internalEncryption && !path.rewritesHost <;> simp

theorem Rule.fetch_nameSpace_not_mem
    (annotations : TextMap) (rule : Rule) (subject : Subject) (name : String) :
    .fetch subject (.nameSpace name) ∉ rule.obligations config lookup annotations := by
  intro hmem
  simp only [Rule.obligations, HttpPath.obligations, List.mem_append, List.mem_flatMap,
    List.mem_singleton, reduceCtorEq, or_false] at hmem
  obtain ⟨path, _, ⟨split, _, hfetch⟩ | hhold⟩ := hmem
  · exact split.fetch_nameSpace_not_mem path subject name hfetch
  · cases hempty : path.splits.isEmpty with
    | true => simp [hempty] at hhold
    | false => simp [hempty] at hhold

theorem Ingress.eq_nil_of_fetch_nameSpace
    {subject : Subject} {name : String} {before after : List Obligation}
    (hsplit : ingress.obligations config lookup =
      before ++ .fetch subject (.nameSpace name) :: after) :
    after = [] := by
  have hlistener : ∀ {rest : List Obligation},
      ingress.listenerObligations config =
        rest ++ .fetch subject (.nameSpace name) :: after → after = [] := by
    intro rest hrest
    unfold listenerObligations at hrest
    cases hisolation : config.trafficIsolation with
    | none => simp [hisolation] at hrest
    | port =>
        simp only [hisolation] at hrest
        have hlength := congrArg List.length hrest
        simp only [List.length_append, List.length_cons, List.length_nil] at hlength
        exact List.eq_nil_of_length_eq_zero (by omega)
  unfold obligations at hsplit
  rcases List.append_eq_append_iff.mp hsplit with ⟨rest, _, hrest⟩ | ⟨rest, hfirst, hrest⟩
  · exact hlistener hrest
  · cases rest with
    | nil =>
        rw [List.nil_append] at hrest
        exact hlistener (hrest.symm.trans (List.nil_append _).symm)
    | cons head others =>
        -- The fetch would be one of the certificates or of the rules.
        rw [List.cons_append, List.cons.injEq] at hrest
        have hmem : .fetch subject (.nameSpace name) ∈
            ingress.tls.flatMap TlsBinding.obligations ++
              ingress.rules.flatMap
                (Rule.obligations config lookup ingress.metadata.annotationsOrEmpty) := by
          rw [hfirst, ← hrest.1]
          exact List.mem_append_right _ List.mem_cons_self
        simp only [List.mem_append, List.mem_flatMap] at hmem
        rcases hmem with ⟨binding, _, hbinding⟩ | ⟨rule, _, hrule⟩
        · exact absurd hbinding (binding.fetch_nameSpace_not_mem subject name)
        · exact absurd hrule (rule.fetch_nameSpace_not_mem _ subject name)

end Justified

/-! ## From the transcript back to the obligations -/

theorem append_toList_eq_append_cons
    {σ : Type} {list earlier later : List σ} {last : Option σ} {element : σ}
    (hsplit : list ++ last.toList = earlier ++ element :: later) :
    (∃ between, list = earlier ++ element :: between ∧ later = between ++ last.toList) ∨
      (list = earlier ∧ last = some element ∧ later = []) := by
  induction list generalizing earlier with
  | nil =>
      cases last with
      | none => simp at hsplit
      | some value =>
          cases earlier with
          | nil => simpa using hsplit
          | cons head rest => simp at hsplit
  | cons first rest ih =>
      cases earlier with
      | nil =>
          simp only [List.cons_append, List.nil_append, List.cons.injEq] at hsplit
          exact .inl ⟨rest, by rw [hsplit.1, List.nil_append], hsplit.2.symm⟩
      | cons head others =>
          simp only [List.cons_append, List.cons.injEq] at hsplit
          rcases ih hsplit.2 with ⟨between, hrest, hlater⟩ | ⟨hrest, hlast, hlater⟩
          · exact .inl ⟨between, by rw [hsplit.1, hrest, List.cons_append], hlater⟩
          · exact .inr ⟨by rw [hsplit.1, hrest], hlast, hlater⟩

namespace Plan.Fulfils

variable {α : Type} {lookup : Lookup} {plan : Plan α} {obligations : List Obligation}

/-- An event among those of obligations that are met stands for one of them. -/
theorem exists_obligation_of_events
    {earlier later : List Event} {event : Event}
    (hevents : Obligation.events obligations = earlier ++ event :: later) :
    ∃ before obligation after, obligations = before ++ obligation :: after ∧
      earlier = Obligation.events before ∧ obligation.event? true = some event ∧
      later = Obligation.events after := by
  unfold Obligation.events at hevents
  rw [List.filterMap_eq_append_iff] at hevents
  obtain ⟨first, second, hobligations, hearlier, hsecond⟩ := hevents
  rw [List.filterMap_eq_cons_iff] at hsecond
  obtain ⟨silent, obligation, after, hsplit, hsilent, hevent, hlater⟩ := hsecond
  refine ⟨first ++ silent, obligation, after, ?_, ?_, hevent, hlater.symm⟩
  · rw [hobligations, hsplit, List.append_assoc]
  · rw [Obligation.events_append, ← hearlier]
    have hnone : Obligation.events silent = [] := List.filterMap_eq_nil_iff.mpr hsilent
    rw [hnone, List.append_nil]
    rfl

/-- Every event of a run stands for an obligation, all obligations before it are met, and it is the
last event if its own obligation is not. -/
theorem exists_obligation_of_transcript
    (hplan : plan.Fulfils lookup obligations) (registrar : Registrar)
    {earlier later : List Event} {event : Event}
    (htranscript : (plan.run lookup registrar).transcript = earlier ++ event :: later) :
    ∃ before obligation after, obligations = before ++ obligation :: after ∧
      EachAfter (Obligation.Met lookup registrar) [] before ∧
      earlier = Obligation.events before ∧
      obligation.event?
          (obligation.obstacle? lookup registrar (Obligation.references before)).isNone =
        some event ∧
      (¬ obligation.Met lookup registrar before → later = []) ∧
      (after = [] → later = []) := by
  rcases hplan.run_cases registrar with
    ⟨hmet, value, hrun⟩ | ⟨met, last, rest, obstacle, hsplit, hmet, hobstacle, hrun⟩
  · rw [hrun] at htranscript
    obtain ⟨before, obligation, after, hposition, hearlier, hevent, hlater⟩ :=
      exists_obligation_of_events htranscript
    have hhere : obligation.Met lookup registrar before := hmet.at_split hposition
    refine ⟨before, obligation, after, hposition, hmet.of_prefix hposition, hearlier, ?_, ?_,
      ?_⟩
    · unfold Obligation.Met at hhere
      rw [hhere]
      exact hevent
    · intro hunmet
      exact absurd hhere hunmet
    · intro hafter
      rw [hlater, hafter]
      rfl
  · rw [hrun] at htranscript
    rcases append_toList_eq_append_cons htranscript with
      ⟨between, hevents, hlater⟩ | ⟨hearlier, hevent, hlater⟩
    · obtain ⟨before, obligation, after, hposition, hearlier, hevent, _⟩ :=
        exists_obligation_of_events hevents
      have hhere : obligation.Met lookup registrar before := hmet.at_split hposition
      refine ⟨before, obligation, after ++ last :: rest, ?_, hmet.of_prefix hposition,
        hearlier, ?_, ?_, ?_⟩
      · rw [hsplit, hposition, List.append_assoc, List.cons_append]
      · unfold Obligation.Met at hhere
        rw [hhere]
        exact hevent
      · intro hunmet
        exact absurd hhere hunmet
      · intro hafter
        simp at hafter
    · refine ⟨met, last, rest, hsplit, hmet, hearlier.symm, ?_, fun _ => hlater,
        fun _ => hlater⟩
      rw [hobstacle]
      exact hevent

end Plan.Fulfils

/-! ## The discipline -/

/-- The registration was refused, or the object was not found or could not be fetched. -/
def Event.Failed (lookup : Lookup) : Event → Prop
  | .registration _ accepted => accepted = false
  | .lookup query => ∃ cause, lookup query = .error cause

/-- What the transcript shows of a split before the authority of its path is asked for. -/
def Split.clusterEvents (lookup : Lookup) (split : Split) : List Event :=
  [.registration ⟨.service, split.service⟩ true, .registration ⟨.endpoints, split.service⟩ true,
    .lookup (.service split.service)] ++
    if lookup.findsExternalName split.service then []
    else [.lookup (.endpoints split.service)]

/-- The order of the registrations and lookups of a resolution. -/
structure Run.Disciplined (config : Config) (lookup : Lookup) (registrar : Registrar)
    (ingress : Ingress) (run : Run ProxyConfig) : Prop where
  /-- A secret is that of a binding, which was just accepted, or the authority's, which no
  registration precedes but the cluster of a split that needs it. -/
  secretLookup : ∀ {before after : List Event} {name : ObjectName},
    run.transcript = before ++ .lookup (.secret name) :: after →
      (∃ binding ∈ ingress.tls, binding.secret = name ∧
        [.registration ⟨.secret, name⟩ true] <:+ before) ∨
      (name = config.caSecret ∧ config.internalEncryption = true ∧
        ∃ rule ∈ ingress.rules, ∃ path ∈ rule.paths, path.rewritesHost = false ∧
          ∃ split ∈ path.splits, split.clusterEvents lookup <:+ before)
  serviceLookup : ∀ {before after : List Event} {name : ObjectName},
    run.transcript = before ++ .lookup (.service name) :: after →
      [.registration ⟨.service, name⟩ true, .registration ⟨.endpoints, name⟩ true] <:+ before
  endpointsLookup : ∀ {before after : List Event} {name : ObjectName},
    run.transcript = before ++ .lookup (.endpoints name) :: after →
      lookup.findsExternalName name = false ∧
        [.registration ⟨.service, name⟩ true, .registration ⟨.endpoints, name⟩ true,
          .lookup (.service name)] <:+ before
  nameSpaceLookup : ∀ {before after : List Event} {name : String},
    run.transcript = before ++ .lookup (.nameSpace name) :: after →
      name = ingress.owner.ns ∧ config.trafficIsolation = .port ∧ after = []
  /-- The registrar decides on each reference after those before it. -/
  decision : ∀ {before after : List Event} {reference : Reference} {accepted : Bool},
    run.transcript = before ++ .registration reference accepted :: after →
      accepted = (registrar (before.filterMap Event.reference?) reference).isNone
  stops : ∀ {before after : List Event} {event : Event},
    run.transcript = before ++ event :: after → event.Failed lookup → after = []
  /-- All references are accepted but for a last one that fails the run. -/
  references : run.references = run.transcript.filterMap Event.reference? ∧
    (run.references = run.accepted ∨
      ∃ reference reason, run.references = run.accepted ++ [reference] ∧
        registrar run.accepted reference = some reason ∧
        run.result = .error (.track reference reason))
  /-- Nothing is left out up to the first obstacle. -/
  complete : (EachAfter (Obligation.Met lookup registrar) [] (ingress.obligations config lookup) ∧
      run.transcript = Obligation.events (ingress.obligations config lookup)) ∨
    ∃ met obligation later, ingress.obligations config lookup = met ++ obligation :: later ∧
      EachAfter (Obligation.Met lookup registrar) [] met ∧
      ¬ obligation.Met lookup registrar met ∧
      run.transcript = Obligation.events met ++ (obligation.event? false).toList

section Disciplined

variable {config : Config} {lookup : Lookup} {registrar : Registrar} {ingress : Ingress}

theorem Split.events_clusterObligations (split : Split) :
    Obligation.events (split.clusterObligations lookup) = split.clusterEvents lookup := by
  unfold clusterObligations clusterEvents memberObligations
  cases lookup.findsExternalName split.service <;> rfl

/-- Every lookup of a resolution is an obligation to fetch, justified by those before it. -/
theorem exists_justified_fetch
    {earlier later : List Event} {query : Query}
    (htranscript : (resolve config lookup registrar ingress).transcript =
      earlier ++ .lookup query :: later) :
    ∃ before subject after,
      ingress.obligations config lookup = before ++ .fetch subject query :: after ∧
      earlier = Obligation.events before ∧
      (Obligation.fetch subject query).Justified config lookup ingress before ∧
      (after = [] → later = []) := by
  obtain ⟨before, obligation, after, hsplit, _, hearlier, hevent, _, hlast⟩ :=
    (Plan.ingress_fulfils config lookup ingress).exists_obligation_of_transcript registrar
      htranscript
  have hjustified := (justified_obligations config lookup ingress).at_split hsplit
  cases obligation with
  | register reference => simp [Obligation.event?] at hevent
  | hold condition => simp [Obligation.event?] at hevent
  | fetch subject asked =>
      simp only [Obligation.event?, Option.some.injEq, Event.lookup.injEq] at hevent
      subst asked
      exact ⟨before, subject, after, hsplit, hearlier, hjustified, hlast⟩

theorem suffix_events {first second : List Obligation} (hsuffix : first <:+ second) :
    Obligation.events first <:+ Obligation.events second :=
  hsuffix.filterMap _

theorem Obligation.not_met_of_failed
    {before : List Obligation} {obligation : Obligation} {event : Event}
    (hevent : obligation.event?
        (obligation.obstacle? lookup registrar (references before)).isNone = some event)
    (hfailed : event.Failed lookup) :
    ¬ obligation.Met lookup registrar before := by
  intro hmet
  unfold Met at hmet
  rw [hmet] at hevent
  cases obligation with
  | hold condition => simp [event?] at hevent
  | register reference =>
      simp only [event?, Option.isNone_none, Option.some.injEq] at hevent
      subst event
      simp [Event.Failed] at hfailed
  | fetch subject query =>
      simp only [event?, Option.some.injEq] at hevent
      subst event
      obtain ⟨cause, hcause⟩ := hfailed
      simp only [obstacle?] at hmet
      rw [hcause] at hmet
      simp at hmet

theorem references_of_resolve
    (config : Config) (lookup : Lookup) (registrar : Registrar) (ingress : Ingress) :
    (resolve config lookup registrar ingress).references =
        (resolve config lookup registrar ingress).accepted ∨
      ∃ reference reason,
        (resolve config lookup registrar ingress).references =
          (resolve config lookup registrar ingress).accepted ++ [reference] ∧
        registrar (resolve config lookup registrar ingress).accepted reference =
          some reason ∧
        (resolve config lookup registrar ingress).result =
          .error (.track reference reason) := by
  unfold resolve Run.accepted
  rcases (Plan.ingress_fulfils config lookup ingress).run_cases registrar with
    ⟨_, value, hrun⟩ | ⟨met, obligation, later, obstacle, _, _, hobstacle, hrun⟩
  · left
    rw [hrun, Obligation.filterMap_accepted?_events]
  · rw [hrun, List.filterMap_append, Obligation.filterMap_accepted?_events,
      Obligation.references_append]
    cases obligation with
    | register reference =>
        obtain ⟨reason, hrefused, hreason⟩ := Option.map_eq_some_iff.mp hobstacle
        subst obstacle
        have hnone : ((Obligation.register reference).event? false).toList.filterMap
            Event.accepted? = [] := rfl
        rw [hnone, List.append_nil]
        exact .inr ⟨reference, reason, rfl, hrefused, rfl⟩
    | fetch subject query => exact .inl rfl
    | hold condition => exact .inl rfl

/-- Registrations and lookups are in order, whatever the lookup answers and whichever registrations
are refused. -/
theorem resolve_disciplined
    (config : Config) (lookup : Lookup) (registrar : Registrar) (ingress : Ingress) :
    (resolve config lookup registrar ingress).Disciplined config lookup registrar ingress where
  secretLookup := by
    intro earlier later name htranscript
    obtain ⟨before, subject, after, _, hearlier, hjustified, _⟩ :=
      exists_justified_fetch htranscript
    subst earlier
    rcases hjustified with ⟨binding, hbinding, hname, hsuffix⟩ |
      ⟨hname, hencryption, rule, hrule, path, hpath, hhost, split, hsplit, hsuffix⟩
    · exact .inl ⟨binding, hbinding, hname, suffix_events hsuffix⟩
    · refine .inr ⟨hname, hencryption, rule, hrule, path, hpath, hhost, split, hsplit, ?_⟩
      rw [← split.events_clusterObligations]
      exact suffix_events hsuffix
  serviceLookup := by
    intro earlier later name htranscript
    obtain ⟨before, subject, after, _, hearlier, hjustified, _⟩ :=
      exists_justified_fetch htranscript
    subst earlier
    exact suffix_events hjustified
  endpointsLookup := by
    intro earlier later name htranscript
    obtain ⟨before, subject, after, _, hearlier, hjustified, _⟩ :=
      exists_justified_fetch htranscript
    subst earlier
    exact ⟨hjustified.1, suffix_events hjustified.2⟩
  nameSpaceLookup := by
    intro earlier later name htranscript
    obtain ⟨before, subject, after, hsplit, _, hjustified, hlast⟩ :=
      exists_justified_fetch htranscript
    exact ⟨hjustified.1, hjustified.2, hlast (ingress.eq_nil_of_fetch_nameSpace hsplit)⟩
  decision := by
    intro earlier later reference accepted htranscript
    obtain ⟨before, obligation, after, _, _, hearlier, hevent, _, _⟩ :=
      (Plan.ingress_fulfils config lookup ingress).exists_obligation_of_transcript registrar
        htranscript
    rw [hearlier, Obligation.filterMap_reference?_events]
    cases obligation with
    | fetch subject query => simp [Obligation.event?] at hevent
    | hold condition => simp [Obligation.event?] at hevent
    | register registered =>
        simp only [Obligation.event?, Obligation.obstacle?, Option.isNone_map,
          Option.some.injEq, Event.registration.injEq] at hevent
        obtain ⟨hreference, haccepted⟩ := hevent
        subst registered
        exact haccepted.symm
  stops := by
    intro earlier later event htranscript hfailed
    obtain ⟨before, obligation, after, _, _, _, hevent, hunmet, _⟩ :=
      (Plan.ingress_fulfils config lookup ingress).exists_obligation_of_transcript registrar
        htranscript
    exact hunmet (Obligation.not_met_of_failed hevent hfailed)
  references :=
    ⟨Plan.references_run lookup registrar (Plan.ingress config ingress),
      references_of_resolve config lookup registrar ingress⟩
  complete := by
    rcases (Plan.ingress_fulfils config lookup ingress).run_cases registrar with
      ⟨hmet, value, hrun⟩ | ⟨met, obligation, later, obstacle, hsplit, hmet, hobstacle, hrun⟩
    · exact .inl ⟨hmet, congrArg Run.transcript hrun⟩
    · refine .inr ⟨met, obligation, later, hsplit, hmet, ?_, congrArg Run.transcript hrun⟩
      unfold Obligation.Met
      rw [hobstacle]
      exact Option.some_ne_none obstacle

end Disciplined

/-- The endpoints of the gallery are registered, but never looked up, and nothing comes after the
endpoints that are refused. -/
theorem refused_shopServedBy_disciplined :
    (resolve .standard galleryCluster (.refusing ⟨.endpoints, ⟨"shop", "front"⟩⟩)
      (shopServedBy ["gallery", "front"])).transcript =
      [.registration ⟨.secret, ⟨"shop", "cert"⟩⟩ true, .lookup (.secret ⟨"shop", "cert"⟩),
        .registration ⟨.service, ⟨"shop", "gallery"⟩⟩ true,
        .registration ⟨.endpoints, ⟨"shop", "gallery"⟩⟩ true,
        .lookup (.service ⟨"shop", "gallery"⟩),
        .registration ⟨.service, ⟨"shop", "front"⟩⟩ true,
        .registration ⟨.endpoints, ⟨"shop", "front"⟩⟩ false] ∧
    (resolve .standard galleryCluster (.refusing ⟨.endpoints, ⟨"shop", "front"⟩⟩)
      (shopServedBy ["gallery", "front"])).Disciplined .standard galleryCluster
        (.refusing ⟨.endpoints, ⟨"shop", "front"⟩⟩) (shopServedBy ["gallery", "front"]) :=
  ⟨by decide, resolve_disciplined _ _ _ _⟩
end EdgeRouting
