import EdgeRouting.Proofs.CommandLineReading

/-!
# Values from the environment

A variable adds its value if the parameter was not given.  Each parameter has a variable of its own,
if it has one at all, so that what is added is known before it is.
-/

namespace EdgeRouting

theorem Parameter.mem_all (parameter : Parameter) : parameter ∈ Parameter.all := by
  cases parameter <;> decide

theorem Parameter.nodup_all : Parameter.all.Nodup := by decide

/-- What the variable of the parameter is set to, if it has one. -/
def Parameter.environmentValue? (environment : Environment) (parameter : Parameter) :
    Option String :=
  parameter.environmentName?.bind environment

namespace GivenValues

variable {environment other : Environment} {given next : GivenValues} {parameter : Parameter}
  {value : String} {parameters : List Parameter}

/-- The value of the variable, if the parameter was not given. -/
def added? (environment : Environment) (given : GivenValues) (parameter : Parameter) :
    Option (Parameter × String) :=
  if (given.last? parameter).isSome then none
  else (parameter.environmentValue? environment).map fun value => (parameter, value)

/-- The values of all variables whose parameters were not given. -/
def additions (environment : Environment) (given : GivenValues) : GivenValues :=
  Parameter.all.filterMap (given.added? environment)

theorem mem_additions_iff :
    (parameter, value) ∈ given.additions environment ↔
      given.last? parameter = none ∧ parameter.environmentValue? environment = some value := by
  unfold additions
  rw [List.mem_filterMap]
  constructor
  · rintro ⟨asked, -, hadded⟩
    unfold added? at hadded
    split at hadded
    · cases hadded
    · next hlast =>
        obtain ⟨found, hfound, heq⟩ := Option.map_eq_some_iff.mp hadded
        cases heq
        exact ⟨Option.not_isSome_iff_eq_none.mp hlast, hfound⟩
  · rintro ⟨hlast, hvariable⟩
    refine ⟨parameter, parameter.mem_all, ?_⟩
    simp [added?, hlast, hvariable]

/-- The step of `addVariables`. -/
def addVariable (environment : Environment) (given : GivenValues) (parameter : Parameter) :
    Except UsageError GivenValues :=
  match given.last? parameter, parameter.environmentName?.bind environment with
  | none, some value => given.accept parameter value
  | _, _ => .ok given

theorem addVariable_eq_ok_iff (haccept : given.Acceptable) :
    given.addVariable environment parameter = .ok next ↔
      Acceptable (given ++ (given.added? environment parameter).toList) ∧
        next = given ++ (given.added? environment parameter).toList := by
  unfold addVariable
  split
  · next value hlast hvariable =>
      have hadded : given.added? environment parameter = some (parameter, value) := by
        simp [added?, Parameter.environmentValue?, hlast, hvariable]
      rw [hadded, accept_eq_ok_iff haccept]
      rfl
  · next hnot =>
      have hadded : given.added? environment parameter = none := by
        unfold added? Parameter.environmentValue?
        cases hlast : given.last? parameter with
        | some value => rfl
        | none =>
            cases hvariable : parameter.environmentName?.bind environment with
            | none => rfl
            | some value => exact absurd hvariable (hnot value hlast)
      simp [hadded, haccept, eq_comm]

theorem added?_append {values : GivenValues} (hfresh : ∀ entry ∈ values, entry.1 ≠ parameter) :
    (given ++ values).added? environment parameter = given.added? environment parameter := by
  have hlast : ((given ++ values).last? parameter).isSome = (given.last? parameter).isSome := by
    rw [Bool.eq_iff_iff, isSome_last?_iff, isSome_last?_iff]
    have hnone : ∀ value, (parameter, value) ∉ values := fun value hmem => hfresh _ hmem rfl
    simp [hnone]
  unfold added?
  rw [hlast]

theorem fst_of_added? {entry : Parameter × String}
    (hadded : entry ∈ (given.added? environment parameter).toList) : entry.1 = parameter := by
  rw [Option.mem_toList] at hadded
  unfold added? at hadded
  split at hadded
  · cases hadded
  · obtain ⟨value, -, rfl⟩ := Option.map_eq_some_iff.mp hadded
    rfl

/-- What one variable adds makes no difference to the others. -/
theorem foldlM_addVariable_eq_ok_iff (haccept : given.Acceptable) (hnodup : parameters.Nodup) :
    parameters.foldlM (addVariable environment) given = .ok next ↔
      Acceptable (given ++ parameters.filterMap (given.added? environment)) ∧
        next = given ++ parameters.filterMap (given.added? environment) := by
  induction parameters generalizing given with
  | nil =>
      simp only [List.foldlM_nil, List.filterMap_nil, List.append_nil, haccept, true_and]
      constructor
      · intro hok
        cases hok
        rfl
      · rintro rfl
        rfl
  | cons parameter rest ih =>
      obtain ⟨hnew, hrest⟩ := List.nodup_cons.mp hnodup
      have hothers : rest.filterMap
          ((given ++ (given.added? environment parameter).toList).added? environment) =
          rest.filterMap (given.added? environment) := by
        apply List.filterMap_congr
        intro other hother
        apply added?_append
        intro entry hentry
        rw [fst_of_added? hentry]
        exact (ne_of_mem_of_not_mem hother hnew).symm
      have hall : given ++ (parameter :: rest).filterMap (given.added? environment) =
          given ++ (given.added? environment parameter).toList ++
            rest.filterMap (given.added? environment) := by
        rw [List.filterMap_cons]
        cases given.added? environment parameter <;> simp
      rw [foldlM_cons_eq_ok_iff, hall]
      constructor
      · rintro ⟨middle, hfirst, hlast⟩
        obtain ⟨hmiddle, rfl⟩ := (addVariable_eq_ok_iff haccept).mp hfirst
        rwa [ih hmiddle hrest, hothers] at hlast
      · intro hlast
        have hmiddle := hlast.1.of_append
        refine ⟨_, (addVariable_eq_ok_iff haccept).mpr ⟨hmiddle, rfl⟩, ?_⟩
        rwa [ih hmiddle hrest, hothers]

theorem addVariables_eq_ok_iff (haccept : given.Acceptable) :
    given.addVariables environment = .ok next ↔
      Acceptable (given ++ given.additions environment) ∧
        next = given ++ given.additions environment := by
  have hfold : given.addVariables environment =
      Parameter.all.foldlM (addVariable environment) given := rfl
  rw [hfold, foldlM_addVariable_eq_ok_iff haccept Parameter.nodup_all]
  rfl

end GivenValues

end EdgeRouting
