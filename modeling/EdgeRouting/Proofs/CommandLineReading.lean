import EdgeRouting.Proofs.AcceptableValues
import EdgeRouting.Proofs.ArgumentWords
import EdgeRouting.Proofs.ResourceLoading

/-!
# Reading a command line

A command line of arguments is read to the values of these arguments, if they are acceptable.
Without two hyphens alone there are no other command lines that can be read.
-/

namespace EdgeRouting

theorem foldlM_cons_eq_ok_iff {ε α β : Type} {step : β → α → Except ε β} {first : α}
    {rest : List α} {start last : β} :
    (first :: rest).foldlM step start = .ok last ↔
      ∃ next, step start first = .ok next ∧ rest.foldlM step next = .ok last := by
  rw [List.foldlM_cons, bind_eq_ok_iff]

/-- A parameter and its value, and the words that they are written in. -/
structure Argument where
  parameter : Parameter
  value : String
  words : List String
  written : parameter.IsWritten value words

def Argument.entry (argument : Argument) : Parameter × String :=
  (argument.parameter, argument.value)

namespace CommandLine

def wordsOf (arguments : List Argument) : List String := arguments.flatMap Argument.words

def valuesOf (arguments : List Argument) : GivenValues := arguments.map Argument.entry

variable {line next : CommandLine} {parameter : Parameter} {value word : String}
  {values given : GivenValues} {awaited : Option Parameter} {argument : Argument}
  {arguments : List Argument} {words : List String}

/-! ## How far words are read -/

/-- The value that has been read but is not taken yet. -/
def pendingValues (line : CommandLine) : GivenValues :=
  match line.pending with
  | some (parameter, some value) => [(parameter, value)]
  | _ => []

/-- The parameter that has been named but has no value yet. -/
def awaited? (line : CommandLine) : Option Parameter :=
  match line.pending with
  | some (parameter, none) => some parameter
  | _ => none

/-- The words so far have these values; if the last one is a name, the next one is the value of that
parameter. -/
structure HasRead (line : CommandLine) (values : GivenValues) (awaited : Option Parameter) :
    Prop where
  given : line.given ++ line.pendingValues = values
  acceptable : line.given.Acceptable
  hasIngress : line.hasIngress = true ↔ ∃ value, (.ingress, value) ∈ values
  escaped : line.escaped = false
  named : line.awaited? = awaited
  named_ne : awaited ≠ some .ingress

theorem hasRead_start : start.HasRead [] none where
  given := rfl
  acceptable := GivenValues.acceptable_nil
  hasIngress := by simp [start]
  escaped := rfl
  named := rfl
  named_ne := by simp

theorem settle_pending {hasIngress escaped : Bool} :
    settle ⟨given, some (parameter, some value), hasIngress, escaped⟩ =
      given.accept parameter value >>= fun accepted =>
        .ok ⟨accepted, none, hasIngress, escaped⟩ := by
  unfold settle
  dsimp only
  cases given.accept parameter value <;> rfl

theorem take_eq :
    line.take parameter value = line.settle >>= fun settled =>
      settled.given.accept parameter value >>= fun given => .ok { settled with given } := by
  unfold take
  cases line.settle with
  | error error => rfl
  | ok settled =>
      dsimp only [bind, Except.bind]
      cases settled.given.accept parameter value <;> rfl

theorem await_eq {value? : Option String} :
    line.await parameter value? = line.settle >>= fun settled =>
      .ok { settled with pending := some (parameter, value?) } := by
  unfold await
  cases line.settle <;> rfl

theorem plain_eq (hingress : line.hasIngress = false) :
    line.plain word = line.await .ingress (some word) >>= fun line =>
      .ok { line with hasIngress := true } := by
  unfold plain
  rw [hingress]
  cases line.await .ingress (some word) <;> rfl

/-- A value that is pending is acceptable behind those that are taken, and then taken itself. -/
theorem HasRead.settle_eq_ok_iff (hread : line.HasRead values awaited) :
    line.settle = .ok next ↔
      awaited = none ∧ values.Acceptable ∧
        next = { line with given := values, pending := none } := by
  obtain ⟨rfl, haccept, _, _, rfl, _⟩ := hread
  obtain ⟨given, pending, hasIngress, escaped⟩ := line
  match pending with
  | none => simp [settle, awaited?, pendingValues, haccept, eq_comm]
  | some (parameter, none) => simp [settle, awaited?]
  | some (parameter, some value) =>
      rw [settle_pending, bind_eq_ok_iff]
      simp only [GivenValues.accept_eq_ok_iff haccept, awaited?, pendingValues, true_and,
        and_assoc, exists_and_left, exists_eq_left, Except.ok.injEq, eq_comm]

theorem HasRead.take_eq_ok_iff (hread : line.HasRead values awaited) :
    line.take parameter value = .ok next ↔
      awaited = none ∧ GivenValues.Acceptable (values ++ [(parameter, value)]) ∧
        next = { line with given := values ++ [(parameter, value)], pending := none } := by
  rw [take_eq]
  simp only [bind_eq_ok_iff, hread.settle_eq_ok_iff]
  constructor
  · rintro ⟨_, ⟨hawaited, haccept, rfl⟩, given, hgiven, hnext⟩
    obtain ⟨hnew, rfl⟩ := (GivenValues.accept_eq_ok_iff haccept).mp hgiven
    cases hnext
    exact ⟨hawaited, hnew, rfl⟩
  · rintro ⟨hawaited, hnew, rfl⟩
    have haccept := hnew.of_append
    have hgiven := (GivenValues.accept_eq_ok_iff haccept).mpr ⟨hnew, rfl⟩
    exact ⟨_, ⟨hawaited, haccept, rfl⟩, _, hgiven, rfl⟩

theorem HasRead.await_eq_ok_iff {value? : Option String} (hread : line.HasRead values awaited) :
    line.await parameter value? = .ok next ↔
      awaited = none ∧ values.Acceptable ∧
        next = { line with given := values, pending := some (parameter, value?) } := by
  rw [await_eq]
  simp only [bind_eq_ok_iff, hread.settle_eq_ok_iff]
  constructor
  · rintro ⟨_, ⟨hawaited, haccept, rfl⟩, hnext⟩
    cases hnext
    exact ⟨hawaited, haccept, rfl⟩
  · rintro ⟨hawaited, haccept, rfl⟩
    exact ⟨_, ⟨hawaited, haccept, rfl⟩, rfl⟩

theorem HasRead.plain_eq_ok_iff (hread : line.HasRead values awaited) :
    line.plain word = .ok next ↔
      awaited = none ∧ values.Acceptable ∧ line.hasIngress = false ∧
        next = { line with
          given := values, pending := some (.ingress, some word), hasIngress := true } := by
  cases hingress : line.hasIngress with
  | true => simp [plain, hingress, refuse_ne_ok]
  | false =>
      rw [plain_eq hingress]
      simp only [bind_eq_ok_iff, hread.await_eq_ok_iff]
      constructor
      · rintro ⟨_, ⟨hawaited, haccept, rfl⟩, hnext⟩
        cases hnext
        exact ⟨hawaited, haccept, trivial, rfl⟩
      · rintro ⟨hawaited, haccept, _, rfl⟩
        exact ⟨_, ⟨hawaited, haccept, rfl⟩, rfl⟩

/-! ### Reading a word -/

theorem HasRead.of_isSetBy (hread : line.HasRead values awaited)
    (hword : parameter.IsSetBy value word) (hok : line.read word = .ok next) :
    awaited = none ∧ next.HasRead (values ++ [(parameter, value)]) none := by
  rw [read_of_isSetBy hword hread.escaped, hread.take_eq_ok_iff] at hok
  obtain ⟨hawaited, haccept, rfl⟩ := hok
  refine ⟨hawaited, ?_⟩
  exact {
    given := by simp [pendingValues]
    acceptable := haccept
    hasIngress := by simpa [hword.ne_ingress.symm] using hread.hasIngress
    escaped := hread.escaped
    named := rfl
    named_ne := by simp }

theorem HasRead.of_isNamedBy (hread : line.HasRead values awaited)
    (hword : parameter.IsNamedBy word) (hok : line.read word = .ok next) :
    awaited = none ∧ next.HasRead values (some parameter) := by
  rw [read_of_isNamedBy hword hread.escaped, hread.await_eq_ok_iff] at hok
  obtain ⟨hawaited, haccept, rfl⟩ := hok
  refine ⟨hawaited, ?_⟩
  exact {
    given := by simp [pendingValues]
    acceptable := haccept
    hasIngress := hread.hasIngress
    escaped := hread.escaped
    named := rfl
    named_ne := by simpa using hword.ne_ingress }

theorem pending_of_awaited? (hawaited : line.awaited? = some parameter) :
    line.pending = some (parameter, none) := by
  unfold awaited? at hawaited
  split at hawaited
  · next hpending =>
      cases hawaited
      exact hpending
  · cases hawaited

theorem valueOrPlain_of_awaited? (hawaited : line.awaited? = none) :
    line.valueOrPlain word = line.plain word := by
  unfold valueOrPlain
  split
  · next hpending => simp [awaited?, hpending] at hawaited
  · rfl

/-- A plain word is the value of the parameter that is named before it, else the path of the
ingress. -/
theorem HasRead.of_isPlain (hread : line.HasRead values awaited) (hword : IsPlain word)
    (hok : line.read word = .ok next) :
    next.HasRead (values ++ [(awaited.getD .ingress, word)]) none := by
  rw [read_of_isPlain hword hread.escaped] at hok
  cases awaited with
  | some parameter =>
      have hpending := pending_of_awaited? hread.named
      rw [valueOrPlain, hpending] at hok
      cases hok
      exact {
        given := by simp [pendingValues, ← hread.given, hpending]
        acceptable := hread.acceptable
        hasIngress := by
          have hne : .ingress ≠ parameter := fun heq => hread.named_ne (congrArg some heq.symm)
          simpa [hne] using hread.hasIngress
        escaped := hread.escaped
        named := rfl
        named_ne := by simp }
  | none =>
      rw [valueOrPlain_of_awaited? hread.named, hread.plain_eq_ok_iff] at hok
      obtain ⟨-, haccept, -, rfl⟩ := hok
      exact {
        given := by simp [pendingValues]
        acceptable := haccept
        hasIngress := by simp
        escaped := hread.escaped
        named := rfl
        named_ne := by simp }

theorem HasRead.exists_of_isSetBy (hread : line.HasRead values none)
    (hword : parameter.IsSetBy value word)
    (haccept : GivenValues.Acceptable (values ++ [(parameter, value)])) :
    ∃ next, line.read word = .ok next := by
  rw [read_of_isSetBy hword hread.escaped]
  exact ⟨_, hread.take_eq_ok_iff.mpr ⟨rfl, haccept, rfl⟩⟩

theorem HasRead.exists_of_isNamedBy (hread : line.HasRead values none)
    (hword : parameter.IsNamedBy word) (haccept : values.Acceptable) :
    ∃ next, line.read word = .ok next := by
  rw [read_of_isNamedBy hword hread.escaped]
  exact ⟨_, hread.await_eq_ok_iff.mpr ⟨rfl, haccept, rfl⟩⟩

theorem HasRead.exists_of_isPlain (hread : line.HasRead values awaited) (hword : IsPlain word)
    (haccept : GivenValues.Acceptable (values ++ [(awaited.getD .ingress, word)])) :
    ∃ next, line.read word = .ok next := by
  rw [read_of_isPlain hword hread.escaped]
  cases awaited with
  | some parameter =>
      rw [valueOrPlain, pending_of_awaited? hread.named]
      exact ⟨_, rfl⟩
  | none =>
      obtain ⟨haccept, -, hnew⟩ := GivenValues.acceptable_concat_iff.mp haccept
      have hingress : line.hasIngress = false := by
        rw [Bool.eq_false_iff]
        intro hingress
        obtain ⟨other, hother⟩ := hread.hasIngress.mp hingress
        exact hnew rfl other hother
      rw [valueOrPlain_of_awaited? hread.named]
      exact ⟨_, hread.plain_eq_ok_iff.mpr ⟨rfl, haccept, hingress, rfl⟩⟩

/-! ## Reading arguments -/

theorem HasRead.of_argument (hread : line.HasRead values none)
    (hok : argument.words.foldlM read line = .ok next) :
    next.HasRead (values ++ [argument.entry]) none := by
  obtain ⟨parameter, value, words, hwritten⟩ := argument
  cases hwritten with
  | together hword =>
      obtain ⟨_, hfirst, hlast⟩ := foldlM_cons_eq_ok_iff.mp hok
      cases hlast
      exact (hread.of_isSetBy hword hfirst).2
  | apart hname hplain =>
      obtain ⟨named, hnamed, hrest⟩ := foldlM_cons_eq_ok_iff.mp hok
      obtain ⟨_, hvalue, hlast⟩ := foldlM_cons_eq_ok_iff.mp hrest
      cases hlast
      exact (hread.of_isNamedBy hname hnamed).2.of_isPlain hplain hvalue
  | ingress hplain =>
      obtain ⟨_, hfirst, hlast⟩ := foldlM_cons_eq_ok_iff.mp hok
      cases hlast
      exact hread.of_isPlain hplain hfirst

theorem HasRead.exists_of_argument (hread : line.HasRead values none)
    (haccept : GivenValues.Acceptable (values ++ [argument.entry])) :
    ∃ next, argument.words.foldlM read line = .ok next := by
  obtain ⟨parameter, value, words, hwritten⟩ := argument
  cases hwritten with
  | together hword =>
      obtain ⟨next, hnext⟩ := hread.exists_of_isSetBy hword haccept
      exact ⟨next, foldlM_cons_eq_ok_iff.mpr ⟨next, hnext, rfl⟩⟩
  | apart hname hplain =>
      obtain ⟨hbefore, -⟩ := GivenValues.acceptable_concat_iff.mp haccept
      obtain ⟨named, hnamed⟩ := hread.exists_of_isNamedBy hname hbefore
      have hbehind := (hread.of_isNamedBy hname hnamed).2
      obtain ⟨next, hnext⟩ := hbehind.exists_of_isPlain hplain haccept
      exact ⟨next, foldlM_cons_eq_ok_iff.mpr
        ⟨named, hnamed, foldlM_cons_eq_ok_iff.mpr ⟨next, hnext, rfl⟩⟩⟩
  | ingress hplain =>
      obtain ⟨next, hnext⟩ := hread.exists_of_isPlain hplain haccept
      exact ⟨next, foldlM_cons_eq_ok_iff.mpr ⟨next, hnext, rfl⟩⟩

theorem HasRead.of_arguments (hread : line.HasRead values none)
    (hok : (wordsOf arguments).foldlM read line = .ok next) :
    next.HasRead (values ++ valuesOf arguments) none := by
  induction arguments generalizing line values with
  | nil =>
      cases hok
      simpa [valuesOf] using hread
  | cons argument rest ih =>
      rw [wordsOf, List.flatMap_cons, List.foldlM_append, bind_eq_ok_iff] at hok
      obtain ⟨middle, hfirst, hrest⟩ := hok
      simpa [valuesOf] using ih (hread.of_argument hfirst) hrest

theorem HasRead.exists_of_arguments (hread : line.HasRead values none)
    (haccept : GivenValues.Acceptable (values ++ valuesOf arguments)) :
    ∃ next, (wordsOf arguments).foldlM read line = .ok next := by
  induction arguments generalizing line values with
  | nil => exact ⟨line, rfl⟩
  | cons argument rest ih =>
      have hvalues : values ++ valuesOf (argument :: rest) =
          values ++ [argument.entry] ++ valuesOf rest := by simp [valuesOf]
      rw [hvalues] at haccept
      obtain ⟨middle, hfirst⟩ := hread.exists_of_argument haccept.of_append
      obtain ⟨last, hrest⟩ := ih (hread.of_argument hfirst) haccept
      refine ⟨last, ?_⟩
      rw [wordsOf, List.flatMap_cons, List.foldlM_append]
      exact bind_eq_ok_iff.mpr ⟨middle, hfirst, hrest⟩

theorem readAll_eq_ok_iff :
    readAll words = .ok given ↔
      ∃ line, words.foldlM read start = .ok line ∧
        ∃ settled, line.settle = .ok settled ∧ settled.given = given := by
  unfold readAll
  simp only [bind_eq_ok_iff]
  constructor
  · rintro ⟨line, hline, settled, hsettled, hgiven⟩
    cases hgiven
    exact ⟨line, hline, settled, hsettled, rfl⟩
  · rintro ⟨line, hline, settled, hsettled, rfl⟩
    exact ⟨line, hline, settled, hsettled, rfl⟩

/-- A command line of arguments is read to their values, if these are acceptable. -/
theorem readAll_wordsOf_eq_ok_iff :
    readAll (wordsOf arguments) = .ok given ↔
      (valuesOf arguments).Acceptable ∧ given = valuesOf arguments := by
  rw [readAll_eq_ok_iff]
  constructor
  · rintro ⟨line, hline, settled, hsettled, rfl⟩
    have hread := hasRead_start.of_arguments hline
    obtain ⟨-, haccept, rfl⟩ := hread.settle_eq_ok_iff.mp hsettled
    exact ⟨haccept, rfl⟩
  · rintro ⟨haccept, rfl⟩
    obtain ⟨line, hline⟩ := hasRead_start.exists_of_arguments haccept
    have hread := hasRead_start.of_arguments hline
    exact ⟨line, hline, _, hread.settle_eq_ok_iff.mpr ⟨rfl, haccept, rfl⟩, rfl⟩

/-- The words are those of arguments, and the last of them may be a name whose value is yet to
come. -/
inductive IsBehind (line : CommandLine) : List String → Prop
  | argument {arguments : List Argument} (hread : line.HasRead (valuesOf arguments) none) :
      IsBehind line (wordsOf arguments)
  | name {arguments : List Argument} {parameter : Parameter} {name : String}
      (hread : line.HasRead (valuesOf arguments) (some parameter))
      (hname : parameter.IsNamedBy name) : IsBehind line (wordsOf arguments ++ [name])

theorem IsBehind.concat (argument : Argument)
    (hread : line.HasRead (valuesOf arguments ++ [argument.entry]) none) :
    line.IsBehind (wordsOf arguments ++ argument.words) := by
  have hwords : wordsOf (arguments ++ [argument]) = wordsOf arguments ++ argument.words := by
    simp [wordsOf]
  rw [← hwords]
  exact .argument (by simpa [valuesOf] using hread)

/-- In a command line that can be read a name is followed by a plain word. -/
theorem IsBehind.step (hbehind : line.IsBehind words) (hescape : word ≠ "--")
    (hok : line.read word = .ok next) : next.IsBehind (words ++ [word]) := by
  have hescaped : line.escaped = false := by
    cases hbehind with
    | argument hread | name hread _ => exact hread.escaped
  -- Behind a name only a plain word can be read, since all others settle the pending parameter.
  rcases cases_of_read hok hescaped hescape with ⟨parameter, hnamed | ⟨value, hset⟩⟩ | hplain
  · cases hbehind with
    | argument hread => exact .name (hread.of_isNamedBy hnamed hok).2 hnamed
    | name hread hname => cases (hread.of_isNamedBy hnamed hok).1
  · cases hbehind with
    | argument hread =>
        exact .concat ⟨parameter, value, [word], .together hset⟩
          (hread.of_isSetBy hset hok).2
    | name hread hname => cases (hread.of_isSetBy hset hok).1
  · cases hbehind with
    | argument hread =>
        exact .concat ⟨.ingress, word, [word], .ingress hplain⟩
          (hread.of_isPlain hplain hok)
    | @name arguments parameter name hread hname =>
        rw [List.append_assoc]
        exact .concat ⟨parameter, word, [name, word], .apart hname hplain⟩
          (hread.of_isPlain hplain hok)

theorem IsBehind.run {others : List String} (hbehind : line.IsBehind words)
    (hescape : "--" ∉ others) (hok : others.foldlM read line = .ok next) :
    next.IsBehind (words ++ others) := by
  induction others generalizing line words with
  | nil =>
      cases hok
      simpa using hbehind
  | cons word rest ih =>
      obtain ⟨middle, hfirst, hrest⟩ := foldlM_cons_eq_ok_iff.mp hok
      have hword : word ≠ "--" := fun heq => hescape (heq ▸ List.mem_cons_self)
      have hothers : "--" ∉ rest := fun hmem => hescape (List.mem_cons_of_mem word hmem)
      have hlast := ih (hbehind.step hword hfirst) hothers hrest
      simpa using hlast

/-- Without two hyphens alone, a command line that can be read is one of arguments. -/
theorem exists_arguments_of_readAll (hescape : "--" ∉ words) (hok : readAll words = .ok given) :
    ∃ arguments, wordsOf arguments = words := by
  obtain ⟨line, hline, settled, hsettled, rfl⟩ := readAll_eq_ok_iff.mp hok
  have hstart : start.IsBehind (wordsOf []) := .argument hasRead_start
  have hbehind := hstart.run hescape hline
  simp only [wordsOf, List.flatMap_nil, List.nil_append] at hbehind
  cases hbehind with
  | argument hread => exact ⟨_, rfl⟩
  | name hread hname => cases (hread.settle_eq_ok_iff.mp hsettled).1

end CommandLine

end EdgeRouting
