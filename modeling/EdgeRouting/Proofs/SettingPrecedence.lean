import EdgeRouting.Proofs.EnvironmentValues

/-!
# The precedence of settings

Each setting comes from the command line if its option is there, else from its environment variable
if that is set, and else it is the standard one.  The order of the arguments and the resource files
make no difference to it.
-/

namespace EdgeRouting

/-! ## Where a setting comes from -/

/-- The setting is what the argument for the parameter reads as if there is one, else what its
variable reads as if it has one that is set, and else the standard one. -/
structure Parameter.Determines (parameter : Parameter) (environment : Environment)
    (arguments : List Argument) {α : Type} (reads : String → α → Prop) (standard setting : α) :
    Prop where
  byArgument : ∀ argument ∈ arguments, argument.parameter = parameter → reads argument.value setting
  byVariable : (∀ argument ∈ arguments, argument.parameter ≠ parameter) →
    ∀ name value, parameter.environmentName? = some name → environment name = some value →
      reads value setting
  byStandard : (∀ argument ∈ arguments, argument.parameter ≠ parameter) →
    (∀ name, parameter.environmentName? = some name → environment name = none) →
      setting = standard

def IsSwitchText (text : String) (on : Bool) : Prop := text = if on then "true" else "false"

/-- Each field has a parameter of its own, but for the secret, which has two.  There is a secret if
both parts of its name are given and neither is empty. -/
structure Config.IsDeterminedBy (config : Config) (environment : Environment)
    (arguments : List Argument) : Prop where
  internalEncryption : Parameter.internalEncryption.Determines environment arguments IsSwitchText
    Config.standard.internalEncryption config.internalEncryption
  trafficIsolation : Parameter.trafficIsolation.Determines environment arguments
    (fun text isolation => TrafficIsolation.parse? text = some isolation)
    Config.standard.trafficIsolation config.trafficIsolation
  httpOptionDisabled : Parameter.httpOptionDisabled.Determines environment arguments IsSwitchText
    Config.standard.httpOptionDisabled config.httpOptionDisabled
  extAuthzEnabled : Parameter.extAuthzEnabled.Determines environment arguments IsSwitchText
    Config.standard.extAuthzEnabled config.extAuthzEnabled
  servingNamespace : Parameter.servingNamespace.Determines environment arguments Eq
    Config.standard.servingNamespace config.servingNamespace
  caSecretName : Parameter.caSecretName.Determines environment arguments Eq
    Config.standard.caSecretName config.caSecretName
  certsSecret : ∃ nameSpace? name? : Option String,
    Parameter.certsSecretNamespace.Determines environment arguments
      (fun text given => given = some text) none nameSpace? ∧
    Parameter.certsSecretName.Determines environment arguments
      (fun text given => given = some text) none name? ∧
    ∀ nameSpace name, config.certsSecret = some ⟨nameSpace, name⟩ ↔
      nameSpace? = some nameSpace ∧ name? = some name ∧ nameSpace ≠ "" ∧ name ≠ ""

theorem Config.IsDeterminedBy.certsSecret_eq_none {config : Config} {environment : Environment}
    {arguments : List Argument} (hconfig : config.IsDeterminedBy environment arguments)
    {argument : Argument} (hargument : argument ∈ arguments)
    (hparameter : argument.parameter = .certsSecretNamespace ∨
      argument.parameter = .certsSecretName) (hempty : argument.value = "") :
    config.certsSecret = none := by
  obtain ⟨nameSpace?, name?, hnameSpace, hname, hiff⟩ := hconfig.certsSecret
  rw [Option.eq_none_iff_forall_not_mem]
  rintro ⟨nameSpace, name⟩ hsecret
  obtain ⟨rfl, rfl, hsome, hnamed⟩ := (hiff nameSpace name).mp hsecret
  rcases hparameter with hparameter | hparameter
  · have hvalue := hnameSpace.byArgument argument hargument hparameter
    rw [hempty] at hvalue
    exact hsome (Option.some.inj hvalue)
  · have hvalue := hname.byArgument argument hargument hparameter
    rw [hempty] at hvalue
    exact hnamed (Option.some.inj hvalue)

theorem GivenValues.certsSecret_eq_some_iff {given : GivenValues}
    {nameSpace name : String} :
    given.certsSecret = some ⟨nameSpace, name⟩ ↔
      given.last? .certsSecretNamespace = some nameSpace ∧
        given.last? .certsSecretName = some name ∧ nameSpace ≠ "" ∧ name ≠ "" := by
  unfold certsSecret
  cases given.last? .certsSecretNamespace with
  | none => simp
  | some givenNameSpace =>
      cases given.last? .certsSecretName with
      | none => simp
      | some givenName =>
          simp only [Option.ite_none_left_eq_some, not_or, Option.some.injEq, ObjectName.mk.injEq]
          constructor
          · rintro ⟨⟨hsome, hnamed⟩, rfl, rfl⟩
            exact ⟨rfl, rfl, hsome, hnamed⟩
          · rintro ⟨rfl, rfl, hsome, hnamed⟩
            exact ⟨⟨hsome, hnamed⟩, rfl, rfl⟩

namespace CommandLine

variable {environment other : Environment} {arguments others : List Argument}
  {parameter : Parameter} {value : String} {options : Options} {words : List String}

/-- The values of the arguments, and those of the variables that stand in for arguments. -/
def effectiveValues (environment : Environment) (arguments : List Argument) : GivenValues :=
  valuesOf arguments ++ (valuesOf arguments).additions environment

theorem mem_valuesOf_iff :
    (parameter, value) ∈ valuesOf arguments ↔
      ∃ argument ∈ arguments, argument.parameter = parameter ∧ argument.value = value := by
  simp [valuesOf, Argument.entry]

theorem last?_valuesOf_eq_none_iff :
    (valuesOf arguments).last? parameter = none ↔
      ∀ argument ∈ arguments, argument.parameter ≠ parameter := by
  simp [GivenValues.last?, valuesOf, Argument.entry]

theorem mem_effectiveValues_iff :
    (parameter, value) ∈ effectiveValues environment arguments ↔
      (∃ argument ∈ arguments, argument.parameter = parameter ∧ argument.value = value) ∨
        (∀ argument ∈ arguments, argument.parameter ≠ parameter) ∧
          parameter.environmentValue? environment = some value := by
  rw [effectiveValues, List.mem_append, mem_valuesOf_iff, GivenValues.mem_additions_iff,
    last?_valuesOf_eq_none_iff]

/-- Of the values in effect only those that pass their checks have to be read. -/
theorem determines_of_last? {α : Type} {reads : String → α → Prop} {standard setting : α}
    (haccept : (effectiveValues environment arguments).Acceptable)
    (hsingle : parameter.isRepeatable = false)
    (hreads : ∀ text, parameter.check text = none →
      (effectiveValues environment arguments).last? parameter = some text → reads text setting)
    (hstandard : (effectiveValues environment arguments).last? parameter = none →
      setting = standard) :
    parameter.Determines environment arguments reads standard setting := by
  have hmem : ∀ text, (parameter, text) ∈ effectiveValues environment arguments →
      reads text setting := by
    intro text hmem
    exact hreads text (haccept.checked _ hmem) ((haccept.last?_eq_some_iff hsingle).mpr hmem)
  constructor
  · intro argument hargument hparameter
    exact hmem _ (mem_effectiveValues_iff.mpr (.inl ⟨argument, hargument, hparameter, rfl⟩))
  · intro hnone name value hname hvalue
    have hvariable : parameter.environmentValue? environment = some value := by
      rw [Parameter.environmentValue?, hname, Option.bind_some, hvalue]
    exact hmem _ (mem_effectiveValues_iff.mpr (.inr ⟨hnone, hvariable⟩))
  · intro hnone hunset
    apply hstandard
    rw [Option.eq_none_iff_forall_not_mem]
    intro text hlast
    rcases mem_effectiveValues_iff.mp (GivenValues.mem_of_last? hlast) with
      ⟨argument, hargument, hparameter, -⟩ | ⟨-, hvariable⟩
    · exact hnone argument hargument hparameter
    · obtain ⟨name, hname, hvalue⟩ := Option.bind_eq_some_iff.mp hvariable
      rw [hunset name hname] at hvalue
      cases hvalue

theorem determines_isOn (haccept : (effectiveValues environment arguments).Acceptable)
    (hsingle : parameter.isRepeatable = false) (hswitch : parameter.isSwitch = true) :
    parameter.Determines environment arguments IsSwitchText false
      ((effectiveValues environment arguments).isOn parameter) := by
  refine determines_of_last? haccept hsingle ?_ ?_
  · intro text hcheck hlast
    have htext : text = "true" ∨ text = "false" := by
      rw [or_iff_not_imp_left]
      simpa [Parameter.check, hswitch] using hcheck
    rcases htext with rfl | rfl <;> simp [GivenValues.isOn, hlast, IsSwitchText]
  · intro hlast
    simp [GivenValues.isOn, hlast]

theorem determines_getD {standard : String}
    (haccept : (effectiveValues environment arguments).Acceptable)
    (hsingle : parameter.isRepeatable = false) :
    parameter.Determines environment arguments Eq standard
      (((effectiveValues environment arguments).last? parameter).getD standard) := by
  refine determines_of_last? haccept hsingle ?_ ?_
  · intro text _ hlast
    rw [hlast, Option.getD_some]
  · intro hlast
    rw [hlast, Option.getD_none]

theorem determines_trafficIsolation
    (haccept : (effectiveValues environment arguments).Acceptable) :
    Parameter.trafficIsolation.Determines environment arguments
      (fun text isolation => TrafficIsolation.parse? text = some isolation) .none
      (effectiveValues environment arguments).config.trafficIsolation := by
  refine determines_of_last? haccept rfl ?_ ?_
  · intro text hcheck hlast
    have hknown : TrafficIsolation.parse? text ≠ none := by
      simpa [Parameter.check, Parameter.isSwitch] using hcheck
    obtain ⟨isolation, hisolation⟩ := Option.ne_none_iff_exists'.mp hknown
    simp [GivenValues.config, hlast, hisolation]
  · intro hlast
    simp [GivenValues.config, hlast]

theorem config_isDeterminedBy (haccept : (effectiveValues environment arguments).Acceptable) :
    (effectiveValues environment arguments).config.IsDeterminedBy environment arguments where
  internalEncryption := determines_isOn haccept rfl rfl
  trafficIsolation := determines_trafficIsolation haccept
  httpOptionDisabled := determines_isOn haccept rfl rfl
  extAuthzEnabled := determines_isOn haccept rfl rfl
  servingNamespace := determines_getD haccept rfl
  caSecretName := determines_getD haccept rfl
  certsSecret := by
    refine ⟨_, _, determines_of_last? haccept rfl (fun text _ hlast => hlast) id,
      determines_of_last? haccept rfl (fun text _ hlast => hlast) id, ?_⟩
    intro nameSpace name
    exact GivenValues.certsSecret_eq_some_iff

/-! ## What makes no difference -/

def resourcesOf (arguments : List Argument) : List String :=
  (arguments.filter fun argument => argument.parameter = .resources).map Argument.value

def withoutResources (arguments : List Argument) : List Argument :=
  arguments.filter fun argument => argument.parameter ≠ .resources

theorem settings_valuesOf :
    (valuesOf arguments).settings = valuesOf (withoutResources arguments) := by
  rw [GivenValues.settings, valuesOf, List.filter_map, valuesOf, withoutResources]
  congr 1
  apply List.filter_congr
  intro argument _
  exact (decide_not ..).symm

theorem environmentValue?_of_isRepeatable (hrepeatable : parameter.isRepeatable = true) :
    parameter.environmentValue? environment = none := by
  obtain rfl : parameter = .resources := of_decide_eq_true hrepeatable
  rfl

theorem allOf_effectiveValues :
    (effectiveValues environment arguments).allOf .resources = resourcesOf arguments := by
  have hadditions : ((valuesOf arguments).additions environment).filter
      (fun entry => entry.1 = .resources) = [] := by
    rw [List.filter_eq_nil_iff]
    rintro ⟨parameter, value⟩ hentry
    simp only [decide_eq_true_eq]
    rintro rfl
    obtain ⟨-, hvariable⟩ := GivenValues.mem_additions_iff.mp hentry
    cases hvariable
  rw [GivenValues.allOf, effectiveValues, List.filter_append, hadditions, List.append_nil, valuesOf,
    List.filter_map, List.map_map]
  rfl

theorem readAll_addVariables_eq_ok_iff {given all : GivenValues} :
    readAll (wordsOf arguments) = .ok given ∧ given.addVariables environment = .ok all ↔
      (effectiveValues environment arguments).Acceptable ∧ given = valuesOf arguments ∧
        all = effectiveValues environment arguments := by
  rw [readAll_wordsOf_eq_ok_iff]
  constructor
  · rintro ⟨⟨haccept, rfl⟩, hall⟩
    obtain ⟨heffective, rfl⟩ := (GivenValues.addVariables_eq_ok_iff haccept).mp hall
    exact ⟨heffective, rfl, rfl⟩
  · rintro ⟨heffective, rfl, rfl⟩
    have haccept := heffective.of_append
    exact ⟨⟨haccept, rfl⟩, (GivenValues.addVariables_eq_ok_iff haccept).mpr ⟨heffective, rfl⟩⟩

theorem parse_wordsOf_eq_ok_iff :
    Options.parse environment (wordsOf arguments) = .ok options ↔
      (effectiveValues environment arguments).Acceptable ∧
        ∃ ingress, (effectiveValues environment arguments).last? .ingress = some ingress ∧
          options =
            ⟨(effectiveValues environment arguments).config, resourcesOf arguments, ingress⟩ := by
  unfold Options.parse
  simp only [bind_eq_ok_iff]
  constructor
  · rintro ⟨given, hgiven, all, hall, hoptions⟩
    obtain ⟨haccept, rfl, rfl⟩ := readAll_addVariables_eq_ok_iff.mp ⟨hgiven, hall⟩
    refine ⟨haccept, ?_⟩
    split at hoptions
    · cases hoptions
    · next ingress hingress =>
        cases hoptions
        exact ⟨ingress, hingress, by rw [allOf_effectiveValues]⟩
  · rintro ⟨haccept, ingress, hingress, rfl⟩
    obtain ⟨hgiven, hall⟩ := readAll_addVariables_eq_ok_iff.mpr ⟨haccept, rfl, rfl⟩
    refine ⟨_, hgiven, _, hall, ?_⟩
    simp only [hingress, allOf_effectiveValues]
    rfl

/-- The environments agree on the variables of all parameters that no argument is for. -/
def AgreeBehind (arguments : List Argument) (environment other : Environment) : Prop :=
  ∀ (parameter : Parameter) (name : String),
    (∀ argument ∈ arguments, argument.parameter ≠ parameter) →
      parameter.environmentName? = some name → other name = environment name

theorem AgreeBehind.effectiveValues_eq (hagree : AgreeBehind arguments environment other) :
    effectiveValues other arguments = effectiveValues environment arguments := by
  unfold effectiveValues
  congr 1
  apply List.filterMap_congr
  intro parameter _
  unfold GivenValues.added?
  split
  · rfl
  · next hlast =>
      have hnone := last?_valuesOf_eq_none_iff.mp (Option.not_isSome_iff_eq_none.mp hlast)
      congr 1
      unfold Parameter.environmentValue?
      cases hname : parameter.environmentName? with
      | none => rfl
      | some name => exact hagree parameter name hnone hname

theorem additions_eq_of_perm
    (hperm : (valuesOf others).settings.Perm (valuesOf arguments).settings) :
    (valuesOf others).additions environment = (valuesOf arguments).additions environment := by
  apply List.filterMap_congr
  intro parameter _
  unfold GivenValues.added?
  cases hrepeatable : parameter.isRepeatable with
  | true => simp [environmentValue?_of_isRepeatable hrepeatable]
  | false =>
      have hlast : ((valuesOf others).last? parameter).isSome =
          ((valuesOf arguments).last? parameter).isSome := by
        rw [Bool.eq_iff_iff, GivenValues.isSome_last?_iff, GivenValues.isSome_last?_iff]
        simp only [GivenValues.mem_iff_of_perm hperm hrepeatable]
      rw [hlast]

theorem parse_wordsOf_of_perm
    (hparse : Options.parse environment (wordsOf arguments) = .ok options)
    (hperm : (valuesOf others).settings.Perm (valuesOf arguments).settings)
    (hresources : ∀ argument ∈ others, argument.parameter = .resources → argument.value ≠ "") :
    Options.parse environment (wordsOf others) =
      .ok { options with resources := resourcesOf others } := by
  obtain ⟨haccept, ingress, hingress, rfl⟩ := parse_wordsOf_eq_ok_iff.mp hparse
  have hadditions : (valuesOf others).additions environment =
      (valuesOf arguments).additions environment := additions_eq_of_perm hperm
  have hsettings : (effectiveValues environment others).settings.Perm
      (effectiveValues environment arguments).settings := by
    rw [effectiveValues, effectiveValues, GivenValues.settings_append,
      GivenValues.settings_append, hadditions]
    exact hperm.append_right _
  -- Only the paths of resources are new, and these have no check but that they are not empty.
  have hother : (effectiveValues environment others).Acceptable := by
    refine haccept.of_perm hsettings ?_
    rintro ⟨parameter, value⟩ hentry hrepeatable
    obtain rfl : parameter = .resources := of_decide_eq_true hrepeatable
    rcases mem_effectiveValues_iff.mp hentry with ⟨argument, hargument, hparameter, rfl⟩ | ⟨-, hset⟩
    · have hvalue := hresources argument hargument hparameter
      simp [Parameter.check, Parameter.isSwitch, hvalue]
    · cases hset
  have hlast : ∀ parameter, parameter.isRepeatable = false →
      (effectiveValues environment others).last? parameter =
        (effectiveValues environment arguments).last? parameter :=
    fun parameter hsingle => haccept.last?_eq_of_perm hother hsettings hsingle
  refine parse_wordsOf_eq_ok_iff.mpr ⟨hother, ingress, ?_, ?_⟩
  · rw [hlast .ingress rfl, hingress]
  · rw [GivenValues.config_eq_of_last?_eq hlast]

theorem exists_readAll_of_parse (hparse : Options.parse environment words = .ok options) :
    ∃ given, readAll words = .ok given := by
  obtain ⟨given, hgiven, -⟩ := bind_eq_ok_iff.mp hparse
  exact ⟨given, hgiven⟩

theorem resources_ne_empty (haccept : (valuesOf arguments).Acceptable) :
    ∀ argument ∈ arguments, argument.parameter = .resources → argument.value ≠ "" := by
  intro argument hargument hparameter hempty
  have hchecked := haccept.checked (.resources, "")
    (mem_valuesOf_iff.mpr ⟨argument, hargument, hparameter, hempty⟩)
  cases hchecked

/-! ## The precedence of settings -/

/-- A command line without two hyphens alone is one of arguments.  They and the variables that stand
in for arguments determine the settings.  Nothing else matters to these: not what other variables
are set to, not the order of the arguments, and not how many resource files there are. -/
theorem config_determined_of_parse (hescape : "--" ∉ words)
    (hparse : Options.parse environment words = .ok options) :
    (∃ arguments, wordsOf arguments = words) ∧
    ∀ arguments, wordsOf arguments = words →
      options.config.IsDeterminedBy environment arguments ∧
      (∀ argument ∈ arguments,
        argument.parameter = .certsSecretNamespace ∨ argument.parameter = .certsSecretName →
          argument.value = "" → options.config.certsSecret = none) ∧
      (∀ other, AgreeBehind arguments environment other →
        Options.parse other words = .ok options) ∧
      (∀ rearranged : List Argument, rearranged.Perm arguments →
        Options.parse environment (wordsOf rearranged) =
          .ok { options with resources := resourcesOf rearranged }) ∧
      ∀ others, withoutResources others = withoutResources arguments →
        (∀ argument ∈ others, argument.parameter = .resources → argument.value ≠ "") →
          Options.parse environment (wordsOf others) =
            .ok { options with resources := resourcesOf others } := by
  constructor
  · obtain ⟨given, hgiven⟩ := exists_readAll_of_parse hparse
    exact exists_arguments_of_readAll hescape hgiven
  · rintro arguments rfl
    obtain ⟨haccept, ingress, hingress, hoptions⟩ := parse_wordsOf_eq_ok_iff.mp hparse
    have hconfig : options.config.IsDeterminedBy environment arguments := by
      rw [hoptions]
      exact config_isDeterminedBy haccept
    refine ⟨hconfig, ?_, ?_, ?_, ?_⟩
    · intro argument hargument hparameter hempty
      exact hconfig.certsSecret_eq_none hargument hparameter hempty
    · intro other hagree
      rw [parse_wordsOf_eq_ok_iff, hagree.effectiveValues_eq]
      exact ⟨haccept, ingress, hingress, hoptions⟩
    · intro rearranged hperm
      refine parse_wordsOf_of_perm hparse ((hperm.map Argument.entry).filter _) ?_
      intro argument hargument
      exact resources_ne_empty haccept.of_append argument (hperm.mem_iff.mp hargument)
    · intro others hothers hresources
      refine parse_wordsOf_of_perm hparse ?_ hresources
      rw [settings_valuesOf, settings_valuesOf, hothers]

/-! ### A certificate that is switched off -/

/-- One of the variables has no value that a switch can have. -/
def gatewayEnvironment : Environment
  | "CERTS_SECRET_NAMESPACE" => some "ingress"
  | "CERTS_SECRET_NAME" => some "cert"
  | "INTERNAL_ENCRYPTION" => some "perhaps"
  | "TRAFFIC_ISOLATION" => some "port"
  | _ => none

def gatewayArguments : List Argument :=
  [⟨.resources, "a.json", _, .apart .letter (.inr (by decide))⟩,
    ⟨.internalEncryption, "true", _, .together (.switch rfl rfl)⟩,
    ⟨.certsSecretName, "", _, .together (.option rfl rfl)⟩,
    ⟨.ingress, "shop.json", _, .ingress (.inr (by decide))⟩,
    ⟨.servingNamespace, "edge", _, .apart (.option rfl rfl) (.inr (by decide))⟩,
    ⟨.resources, "b.json", _, .together (.option rfl rfl)⟩]

def gatewayWords : List String :=
  ["-r", "a.json", "--internal-encryption", "--certs-secret-name=", "shop.json",
    "--serving-namespace", "edge", "--resources=b.json"]

def gatewayOptions : Options where
  config := ⟨true, .port, false, false, none, "edge", "routing-serving-certs"⟩
  resources := ["a.json", "b.json"]
  ingress := "shop.json"

theorem gateway_determined :
    "--" ∉ gatewayWords ∧
    Options.parse gatewayEnvironment gatewayWords = .ok gatewayOptions ∧
    wordsOf gatewayArguments = gatewayWords ∧
    gatewayOptions.config.IsDeterminedBy gatewayEnvironment gatewayArguments ∧
    (∀ other, AgreeBehind gatewayArguments gatewayEnvironment other →
      Options.parse other gatewayWords = .ok gatewayOptions) ∧
    Options.parse gatewayEnvironment (wordsOf gatewayArguments.reverse) =
      .ok { gatewayOptions with resources := ["b.json", "a.json"] } ∧
    Options.parse gatewayEnvironment (wordsOf (withoutResources gatewayArguments)) =
      .ok { gatewayOptions with resources := [] } := by
  have hescape : "--" ∉ gatewayWords := by decide
  have hparse : Options.parse gatewayEnvironment gatewayWords = .ok gatewayOptions := by
    decide +kernel
  have hwords : wordsOf gatewayArguments = gatewayWords := by decide
  obtain ⟨-, hall⟩ := config_determined_of_parse hescape hparse
  obtain ⟨hconfig, -, hagree, hperm, hothers⟩ := hall gatewayArguments hwords
  refine ⟨hescape, hparse, hwords, hconfig, hagree, ?_, ?_⟩
  · exact hperm gatewayArguments.reverse (List.reverse_perm gatewayArguments)
  · refine hothers (withoutResources gatewayArguments) rfl ?_
    intro argument hargument hparameter
    exact absurd hparameter (of_decide_eq_true (List.mem_filter.mp hargument).2)

end CommandLine

end EdgeRouting
