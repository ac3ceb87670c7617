import EdgeRouting.CommandLine.Options
import Mathlib.Data.List.TakeWhile

/-!
# The words of an argument

An argument of a command line is an option, with its value or as a switch, or the path of the
ingress.  The value of an option is a word of its own, or it is attached to the name.  A word alone
says which of these it is: it sets a parameter, it names a parameter, or it is plain.
-/

namespace EdgeRouting

/-! ## How arguments are written -/

/-- The word is not taken for an option.  A hyphen alone is none, either. -/
def CommandLine.IsPlain (word : String) : Prop := word = "-" ∨ word.toList.head? ≠ some '-'

namespace Parameter

open CommandLine (IsPlain)

/-- The word names the parameter, whose value is the next word. -/
inductive IsNamedBy : Parameter → String → Prop
  | option {parameter : Parameter} {name : String} (hname : parameter.optionName? = some name)
      (hvalued : parameter.isSwitch = false) : IsNamedBy parameter ("--" ++ name)
  | letter : IsNamedBy .resources "-r"

/-- The word is an option and has its value with it.  A switch that is given is on. -/
inductive IsSetBy : Parameter → String → String → Prop
  | switch {parameter : Parameter} {name : String} (hname : parameter.optionName? = some name)
      (hswitch : parameter.isSwitch = true) : IsSetBy parameter "true" ("--" ++ name)
  | option {parameter : Parameter} {name value : String}
      (hname : parameter.optionName? = some name) (hvalued : parameter.isSwitch = false) :
      IsSetBy parameter value ("--" ++ name ++ "=" ++ value)
  | letter {value : String} (hsome : value ≠ "") (hmark : value.toList.head? ≠ some '=') :
      IsSetBy .resources value ("-r" ++ value)
  | letterMarked {value : String} : IsSetBy .resources value ("-r=" ++ value)

/-- The words give the parameter the value. -/
inductive IsWritten : Parameter → String → List String → Prop
  | together {parameter : Parameter} {value word : String} (hword : parameter.IsSetBy value word) :
      IsWritten parameter value [word]
  | apart {parameter : Parameter} {name value : String} (hname : parameter.IsNamedBy name)
      (hplain : IsPlain value) : IsWritten parameter value [name, value]
  | ingress {value : String} (hplain : IsPlain value) : IsWritten .ingress value [value]

variable {parameter : Parameter} {name value word : String}

theorem IsNamedBy.ne_ingress (hword : parameter.IsNamedBy word) : parameter ≠ .ingress := by
  rintro rfl
  cases hword
  contradiction

theorem IsSetBy.ne_ingress (hword : parameter.IsSetBy value word) : parameter ≠ .ingress := by
  rintro rfl
  cases hword <;> contradiction

/-- The name of an option ends before an equals sign. -/
theorem chars_of_optionName? (hname : parameter.optionName? = some name) :
    name.toList ≠ [] ∧ ∀ c ∈ name.toList, decide (c ≠ '=') = true := by
  have hchars : name.toList ≠ [] ∧ '=' ∉ name.toList := by
    cases parameter <;> cases hname <;> decide
  refine ⟨hchars.1, ?_⟩
  intro c hc
  exact decide_eq_true (ne_of_mem_of_not_mem hc hchars.2)

theorem ofOptionName?_eq_some_iff :
    ofOptionName? name = some parameter ↔ parameter.optionName? = some name := by
  constructor
  · intro hfound
    simpa using List.find?_some hfound
  · intro hname
    cases parameter <;> cases hname <;> decide

end Parameter

/-! ## The form of a word -/

namespace ArgumentForm

variable {parameter : Parameter} {name value word : String}

/-- The word has this form. -/
def Describes : ArgumentForm → String → Prop
  | escape, word => word = "--"
  | option name none, word => word = "--" ++ name
  | option name (some value), word => word = "--" ++ name ++ "=" ++ value
  | letter name attached, word => word.toList = '-' :: name :: attached
  | plain, word => CommandLine.IsPlain word

theorem describes_ofChars (word : String) : (ofChars word.toList).Describes word := by
  obtain ⟨chars, rfl⟩ : ∃ chars, word = String.ofList chars :=
    ⟨word.toList, String.ofList_toList.symm⟩
  rw [String.toList_ofList]
  unfold ofChars
  split
  · rfl
  · next chars _ =>
      -- The characters are the name, and the rest from the first equals sign on.
      have hchars := List.takeWhile_append_dropWhile (p := (· ≠ '=')) (l := chars)
      generalize List.takeWhile (· ≠ '=') chars = name at hchars
      dsimp only
      split
      · next hrest =>
          rw [hrest, List.append_nil] at hchars
          subst hchars
          apply String.toList_injective
          simp only [String.toList_append, String.toList_ofList]
          rfl
      · next mark value hrest =>
          have hmark : mark = '=' := by
            have hfirst := List.head?_dropWhile_not (p := (· ≠ '=')) (l := chars)
            rw [hrest] at hfirst
            simpa using hfirst
          rw [hrest, hmark] at hchars
          apply String.toList_injective
          simp only [String.toList_append, String.toList_ofList, List.append_assoc, ← hchars]
          rfl
  · exact String.toList_ofList
  · next hletter =>
      match chars with
      | [] => exact .inr (by simp)
      | [c] =>
          by_cases hhyphen : c = '-'
          · exact .inl (by rw [hhyphen])
          · exact .inr (by simpa using hhyphen)
      | c :: d :: rest =>
          refine .inr ?_
          rw [String.toList_ofList]
          rintro ⟨⟩
          exact hletter d rest rfl

theorem ofChars_long {chars : List Char} (hsome : chars ≠ []) :
    ofChars ('-' :: '-' :: chars) =
      match chars.dropWhile (· ≠ '=') with
      | [] => option (String.ofList (chars.takeWhile (· ≠ '='))) none
      | _ :: value =>
          option (String.ofList (chars.takeWhile (· ≠ '='))) (some (String.ofList value)) := by
  obtain ⟨first, rest, rfl⟩ := List.exists_cons_of_ne_nil hsome
  rfl

theorem ofChars_name (hname : parameter.optionName? = some name) :
    ofChars ("--" ++ name).toList = option name none := by
  obtain ⟨hsome, hmark⟩ := Parameter.chars_of_optionName? hname
  have hchars : ("--" ++ name).toList = '-' :: '-' :: name.toList := by
    rw [String.toList_append]
    rfl
  rw [hchars, ofChars_long hsome, List.takeWhile_eq_self_iff.mpr hmark,
    List.dropWhile_eq_nil_iff.mpr hmark, String.ofList_toList]

theorem ofChars_nameWithValue (hname : parameter.optionName? = some name) :
    ofChars ("--" ++ name ++ "=" ++ value).toList = option name (some value) := by
  obtain ⟨-, hmark⟩ := Parameter.chars_of_optionName? hname
  have hchars : ("--" ++ name ++ "=" ++ value).toList =
      '-' :: '-' :: (name.toList ++ '=' :: value.toList) := by
    simp only [String.toList_append, List.append_assoc]
    rfl
  rw [hchars, ofChars_long (by simp), List.takeWhile_append_of_pos hmark,
    List.dropWhile_append_of_pos hmark]
  simp

theorem ofChars_letter : ofChars ("-r" ++ value).toList = letter 'r' value.toList := by
  rw [String.toList_append]
  rfl

theorem ofChars_plain (hplain : CommandLine.IsPlain word) : ofChars word.toList = plain := by
  obtain rfl | hhead := hplain
  · rfl
  · match hword : word.toList with
    | [] => rfl
    | c :: rest =>
        unfold ofChars
        split <;> simp_all

/-- Only a switch that has a value attached is no argument. -/
theorem Describes.option_cases {attached : Option String}
    (hname : parameter.optionName? = some name) (hword : (option name attached).Describes word)
    (hswitch : parameter.isSwitch = true → attached = none) :
    parameter.IsNamedBy word ∨ ∃ value, parameter.IsSetBy value word := by
  cases attached with
  | none =>
      subst hword
      cases hkind : parameter.isSwitch with
      | true => exact .inr ⟨"true", .switch hname hkind⟩
      | false => exact .inl (.option hname hkind)
  | some value =>
      subst hword
      cases hkind : parameter.isSwitch with
      | true => cases hswitch hkind
      | false => exact .inr ⟨value, .option hname hkind⟩

theorem Describes.letter_cases {attached : List Char}
    (hword : (letter 'r' attached).Describes word) :
    Parameter.IsNamedBy .resources word ∨ ∃ value, Parameter.IsSetBy .resources value word := by
  obtain ⟨value, rfl⟩ : ∃ value : String, attached = value.toList :=
    ⟨String.ofList attached, String.toList_ofList.symm⟩
  have hjoined : word = "-r" ++ value := by
    apply String.toList_injective
    rw [String.toList_append]
    exact hword
  subst hjoined
  by_cases hsome : value = ""
  · subst hsome
    exact .inl .letter
  · by_cases hmark : value.toList.head? = some '='
    · obtain ⟨rest, hrest⟩ := List.head?_eq_some_iff.mp hmark
      have hmarked : "-r" ++ value = "-r=" ++ String.ofList rest := by
        apply String.toList_injective
        simp only [String.toList_append, String.toList_ofList, hrest]
        rfl
      exact .inr ⟨String.ofList rest, hmarked ▸ .letterMarked⟩
    · exact .inr ⟨value, .letter hsome hmark⟩

end ArgumentForm

/-! ## What a word does -/

namespace CommandLine

variable {line next : CommandLine} {parameter : Parameter} {value word : String}

theorem read_of_isNamedBy (hword : parameter.IsNamedBy word) (hescaped : line.escaped = false) :
    line.read word = line.await parameter none := by
  cases hword with
  | option hname hvalued =>
      simp only [read, hescaped, ArgumentForm.ofChars_name hname,
        Parameter.ofOptionName?_eq_some_iff.mpr hname, hvalued, Bool.false_eq_true, if_false]
  | letter => simp [read, hescaped, ArgumentForm.ofChars]

theorem read_of_isSetBy (hword : parameter.IsSetBy value word) (hescaped : line.escaped = false) :
    line.read word = line.take parameter value := by
  cases hword with
  | switch hname hswitch =>
      simp only [read, hescaped, ArgumentForm.ofChars_name hname,
        Parameter.ofOptionName?_eq_some_iff.mpr hname, hswitch, Bool.false_eq_true, if_false,
        if_true]
  | option hname hvalued =>
      simp only [read, hescaped, ArgumentForm.ofChars_nameWithValue hname,
        Parameter.ofOptionName?_eq_some_iff.mpr hname, hvalued, Bool.false_eq_true, if_false]
  | letter hsome hmark =>
      simp only [read, hescaped, ArgumentForm.ofChars_letter, Bool.false_eq_true, if_false, ne_eq,
        not_true_eq_false]
      split
      · next hchars => exact absurd (String.toList_eq_nil_iff.mp hchars) hsome
      · next hchars => simp [hchars] at hmark
      · rw [String.ofList_toList]
  | letterMarked => simp [read, hescaped, ArgumentForm.ofChars]

theorem read_of_isPlain (hword : IsPlain word) (hescaped : line.escaped = false) :
    line.read word = line.valueOrPlain word := by
  simp [read, hescaped, ArgumentForm.ofChars_plain hword]

theorem refuse_ne_ok {error : UsageError} : line.refuse error ≠ .ok next := by
  unfold refuse
  split <;> simp

theorem cases_of_read (hok : line.read word = .ok next) (hescaped : line.escaped = false)
    (hescape : word ≠ "--") :
    (∃ parameter : Parameter, parameter.IsNamedBy word ∨ ∃ value, parameter.IsSetBy value word) ∨
      IsPlain word := by
  have hform := ArgumentForm.describes_ofChars word
  unfold read at hok
  rw [hescaped] at hok
  simp only [Bool.false_eq_true, if_false] at hok
  split at hok
  · next hkind =>
      rw [hkind] at hform
      exact absurd hform hescape
  · next name attached hkind =>
      rw [hkind] at hform
      split at hok
      · exact absurd hok refuse_ne_ok
      · next parameter hfound =>
          have hname := Parameter.ofOptionName?_eq_some_iff.mp hfound
          refine .inl ⟨parameter, hform.option_cases hname ?_⟩
          intro hswitch
          rw [if_pos hswitch] at hok
          cases attached with
          | none => rfl
          | some value => exact absurd hok refuse_ne_ok
  · next name attached hkind =>
      rw [hkind] at hform
      split at hok
      · exact absurd hok refuse_ne_ok
      · next hletter =>
          obtain rfl : name = 'r' := not_not.mp hletter
          exact .inl ⟨.resources, hform.letter_cases⟩
  · next hkind =>
      rw [hkind] at hform
      exact .inr hform

end CommandLine

end EdgeRouting
