import EdgeRouting.CommandLine.Options
import Mathlib.Data.List.Nodup
import Mathlib.Data.List.Perm.Basic

/-!
# Acceptable values

Values are accepted one after another.  What is accepted in the end is a list in which all values
pass their checks and all parameters but the repeatable ones differ, and so the order of the values
makes no difference to the settings in it.
-/

namespace EdgeRouting.GivenValues

variable {given other next : GivenValues} {parameter : Parameter} {value : String}

/-- The values that may be given only once. -/
def settings (given : GivenValues) : GivenValues :=
  given.filter fun entry => !entry.1.isRepeatable

/-- All values pass their checks, and no parameter has two but a repeatable one. -/
structure Acceptable (given : GivenValues) : Prop where
  checked : ∀ entry ∈ given, entry.1.check entry.2 = none
  unrepeated : (given.settings.map Prod.fst).Nodup

theorem mem_settings_iff (hsingle : parameter.isRepeatable = false) :
    (parameter, value) ∈ given.settings ↔ (parameter, value) ∈ given := by
  simp [settings, hsingle]

theorem settings_append : settings (given ++ other) = given.settings ++ other.settings :=
  List.filter_append given other

theorem isSome_last?_iff :
    (given.last? parameter).isSome = true ↔ ∃ value, (parameter, value) ∈ given := by
  simp [last?]

theorem mem_of_last? (hlast : given.last? parameter = some value) : (parameter, value) ∈ given := by
  obtain ⟨⟨found, _⟩, hfound, rfl⟩ := Option.map_eq_some_iff.mp hlast
  obtain rfl : found = parameter := by simpa using List.find?_some hfound
  exact List.mem_reverse.mp (List.mem_of_find?_eq_some hfound)

/-! ## Accepting values -/

theorem acceptable_nil : Acceptable [] := ⟨by simp, by simp [settings]⟩

theorem Acceptable.of_append (haccept : Acceptable (given ++ other)) : given.Acceptable := by
  refine ⟨fun entry hentry => haccept.checked entry (List.mem_append_left other hentry), ?_⟩
  have hunrepeated := haccept.unrepeated
  rw [settings_append, List.map_append] at hunrepeated
  exact hunrepeated.of_append_left

theorem acceptable_concat_iff :
    Acceptable (given ++ [(parameter, value)]) ↔
      given.Acceptable ∧ parameter.check value = none ∧
        (parameter.isRepeatable = false → ∀ other, (parameter, other) ∉ given) := by
  have hunrepeated : ((settings (given ++ [(parameter, value)])).map Prod.fst).Nodup ↔
      (given.settings.map Prod.fst).Nodup ∧
        (parameter.isRepeatable = false → ∀ other, (parameter, other) ∉ given) := by
    rw [settings_append, List.map_append]
    cases hsingle : parameter.isRepeatable with
    | true => simp [settings, hsingle]
    | false =>
        rw [List.nodup_append_comm]
        simp [settings, hsingle, and_comm]
  constructor
  · intro haccept
    obtain ⟨-, hnew⟩ := hunrepeated.mp haccept.unrepeated
    exact ⟨haccept.of_append, haccept.checked (parameter, value) (by simp), hnew⟩
  · rintro ⟨haccept, hcheck, hnew⟩
    refine ⟨?_, hunrepeated.mpr ⟨haccept.unrepeated, hnew⟩⟩
    intro entry hentry
    rcases List.mem_append.mp hentry with hold | hlast
    · exact haccept.checked entry hold
    · rw [List.mem_singleton.mp hlast]
      exact hcheck

theorem accept_eq_ok_iff (haccept : given.Acceptable) :
    given.accept parameter value = .ok next ↔
      Acceptable (given ++ [(parameter, value)]) ∧ next = given ++ [(parameter, value)] := by
  have hrepeated : (!parameter.isRepeatable && (given.last? parameter).isSome) = true ↔
      parameter.isRepeatable = false ∧ ∃ other, (parameter, other) ∈ given := by
    rw [Bool.and_eq_true, isSome_last?_iff, Bool.not_eq_true']
  rw [acceptable_concat_iff]
  unfold accept
  split
  · next hagain =>
      obtain ⟨hsingle, other, hother⟩ := hrepeated.mp hagain
      constructor
      · intro hok
        cases hok
      · rintro ⟨⟨-, -, hnew⟩, -⟩
        exact absurd hother (hnew hsingle other)
  · next honce =>
      have hnew : parameter.isRepeatable = false → ∀ other, (parameter, other) ∉ given :=
        fun hsingle other hother => honce (hrepeated.mpr ⟨hsingle, other, hother⟩)
      cases parameter.check value with
      | some error => simp
      | none =>
          constructor
          · intro hok
            cases hok
            exact ⟨⟨haccept, rfl, hnew⟩, rfl⟩
          · rintro ⟨-, rfl⟩
            rfl

/-! ## Settings in any order -/

theorem Acceptable.eq_of_mem (haccept : given.Acceptable) (hsingle : parameter.isRepeatable = false)
    {first second : String} (hfirst : (parameter, first) ∈ given)
    (hsecond : (parameter, second) ∈ given) : first = second := by
  have hsame := List.inj_on_of_nodup_map haccept.unrepeated
    ((mem_settings_iff hsingle).mpr hfirst) ((mem_settings_iff hsingle).mpr hsecond) rfl
  exact congrArg Prod.snd hsame

theorem Acceptable.last?_eq_some_iff (haccept : given.Acceptable)
    (hsingle : parameter.isRepeatable = false) :
    given.last? parameter = some value ↔ (parameter, value) ∈ given := by
  constructor
  · exact mem_of_last?
  · intro hmem
    obtain ⟨last, hlast⟩ := Option.isSome_iff_exists.mp (isSome_last?_iff.mpr ⟨value, hmem⟩)
    rw [hlast, haccept.eq_of_mem hsingle (mem_of_last? hlast) hmem]

theorem mem_iff_of_perm (hperm : other.settings.Perm given.settings)
    (hsingle : parameter.isRepeatable = false) :
    (parameter, value) ∈ other ↔ (parameter, value) ∈ given :=
  calc (parameter, value) ∈ other
    _ ↔ (parameter, value) ∈ other.settings := (mem_settings_iff hsingle).symm
    _ ↔ (parameter, value) ∈ given.settings := hperm.mem_iff
    _ ↔ (parameter, value) ∈ given := mem_settings_iff hsingle

/-- Repeatable parameters may have any values that pass their checks. -/
theorem Acceptable.of_perm (haccept : given.Acceptable)
    (hperm : other.settings.Perm given.settings)
    (hchecked : ∀ entry ∈ other, entry.1.isRepeatable = true → entry.1.check entry.2 = none) :
    other.Acceptable := by
  refine ⟨?_, (hperm.map Prod.fst).nodup_iff.mpr haccept.unrepeated⟩
  intro entry hentry
  cases hsingle : entry.1.isRepeatable with
  | true => exact hchecked entry hentry hsingle
  | false => exact haccept.checked entry ((mem_iff_of_perm hperm hsingle).mp hentry)

theorem Acceptable.last?_eq_of_perm (haccept : given.Acceptable) (hother : other.Acceptable)
    (hperm : other.settings.Perm given.settings) (hsingle : parameter.isRepeatable = false) :
    other.last? parameter = given.last? parameter := by
  ext value
  rw [hother.last?_eq_some_iff hsingle, haccept.last?_eq_some_iff hsingle,
    mem_iff_of_perm hperm hsingle]

theorem config_eq_of_last?_eq
    (hlast : ∀ parameter, parameter.isRepeatable = false →
      other.last? parameter = given.last? parameter) :
    other.config = given.config := by
  simp only [config, isOn, certsSecret, hlast .internalEncryption rfl,
    hlast .trafficIsolation rfl, hlast .httpOptionDisabled rfl, hlast .extAuthzEnabled rfl,
    hlast .certsSecretNamespace rfl, hlast .certsSecretName rfl, hlast .servingNamespace rfl,
    hlast .caSecretName rfl]

end EdgeRouting.GivenValues
