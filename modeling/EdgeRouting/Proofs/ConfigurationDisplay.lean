import EdgeRouting.Proofs.ShownText
import EdgeRouting.Proxy.Outline

/-!
# What the display of a configuration tells

No two configurations are displayed alike.  What is displayed is read from the front: a word ends
before the comma behind it, a quoted text at its quotation mark, a record after its fields, and a
list at the first line with a smaller margin.
-/

namespace EdgeRouting

namespace Outline

variable {α β : Type} {level : Nat} {rest others : List Char}

/-- The outline of a value tells which value it is and where it ends, if there is a comma
behind it. -/
def Shows (form : α → Outline) : Prop :=
  ∀ (level : Nat) (first second : α) (rest others : List Char),
    (render level (form first)).toList ++ ',' :: rest =
      (render level (form second)).toList ++ ',' :: others →
    first = second ∧ rest = others

/-! ## Words -/

theorem shows_word {text : α → String} (hcomma : ∀ value, ',' ∉ (text value).toList)
    (hinj : Function.Injective text) : Shows fun value => word (text value) := by
  intro level first second rest others hsame
  obtain ⟨htext, hrest⟩ := Text.append_mark_inj (hcomma first) (hcomma second) hsame
  exact ⟨hinj (String.toList_inj.mp htext), hrest⟩

theorem shows_text : Shows text := by
  intro level first second rest others hsame
  obtain ⟨htext, hbehind⟩ := Text.quoted_inj hsame
  exact ⟨htext, (List.cons.inj hbehind).2⟩

theorem shows_number : Shows number := by
  refine shows_word (fun value hcomma => ?_) Text.decimal_injective
  exact absurd (Text.isDigit_of_mem_decimal hcomma) (by decide)

theorem shows_switch : Shows switch := by
  refine shows_word (by decide) ?_
  intro first second
  revert first second
  decide

/-! ## Values within others -/

theorem Shows.of_injective {form : α → Outline} (hform : Shows form) {part : β → α}
    (hpart : Function.Injective part) : Shows fun value => form (part value) := by
  intro level first second rest others hsame
  obtain ⟨hparts, hrest⟩ := hform level _ _ rest others hsame
  exact ⟨hpart hparts, hrest⟩

theorem toList_render_wrapped (name : String) (content : Outline) :
    (render level (wrapped name content)).toList =
      name.toList ++ '(' :: '\n' :: (margin (level + 1)).toList ++
        (render (level + 1) content).toList ++ ',' :: '\n' :: ((margin level).toList ++ [')']) := by
  simp [render]

theorem wrapped_inj {name other : String} {content inner : Outline}
    (hname : '(' ∉ name.toList) (hother : '(' ∉ other.toList)
    (hsame : (render level (wrapped name content)).toList ++ rest =
      (render level (wrapped other inner)).toList ++ others) :
    name = other ∧
      (render (level + 1) content).toList ++ ',' :: '\n' :: ((margin level).toList ++ ')' :: rest) =
        (render (level + 1) inner).toList ++
          ',' :: '\n' :: ((margin level).toList ++ ')' :: others) := by
  simp only [toList_render_wrapped, List.append_assoc, List.cons_append, List.nil_append] at hsame
  obtain ⟨hnames, hcontents⟩ := Text.append_mark_inj hname hother hsame
  simp only [List.cons.injEq, List.append_cancel_left_eq, true_and] at hcontents
  exact ⟨String.toList_inj.mp hnames, hcontents⟩

theorem Shows.option {form : α → Outline} (hform : Shows form) : Shows (option form) := by
  intro level first second rest others hsame
  cases first with
  | none =>
      cases second with
      | none => exact ⟨rfl, by simpa using hsame⟩
      | some value => simp [Outline.option, render] at hsame
  | some value =>
      cases second with
      | none => simp [Outline.option, render] at hsame
      | some other =>
          obtain ⟨-, hcontents⟩ := wrapped_inj (by decide) (by decide) hsame
          obtain ⟨rfl, hends⟩ := hform (level + 1) value other _ _ hcontents
          exact ⟨rfl, by simpa using hends⟩

/-! ## Lines -/

/-- Lines end with the first one that has a smaller margin, which is told from its first mark. -/
theorem lines_inj {line : α → List Char} {mark : Char} (hmark : mark ≠ ' ')
    (hline : ∀ (first second : α) (rest others : List Char),
      line first ++ rest = line second ++ others → first = second ∧ rest = others)
    {first second : List α}
    (hsame : (first.flatMap fun value => (margin (level + 1)).toList ++ line value) ++
        ((margin level).toList ++ mark :: rest) =
      (second.flatMap fun value => (margin (level + 1)).toList ++ line value) ++
        ((margin level).toList ++ mark :: others)) :
    first = second ∧ rest = others := by
  have hmargin : (margin (level + 1)).toList = (margin level).toList ++ [' ', ' ', ' ', ' '] := by
    rw [margin, margin, String.toList_ofList, String.toList_ofList, Nat.mul_add, Nat.mul_one,
      ← List.replicate_append_replicate]
    rfl
  induction first generalizing second with
  | nil =>
      cases second with
      | nil => exact ⟨rfl, by simpa using hsame⟩
      | cons other values => simp [hmargin, hmark] at hsame
  | cons value values ih =>
      cases second with
      | nil => simp [hmargin, hmark.symm] at hsame
      | cons other values =>
          simp only [List.flatMap_cons, List.append_assoc, List.append_cancel_left_eq] at hsame ih
          obtain ⟨rfl, hbehind⟩ := hline value other _ _ hsame
          obtain ⟨rfl, hrest⟩ := ih hbehind
          exact ⟨rfl, hrest⟩

theorem toList_renderItems (level : Nat) (items : List Outline) :
    (renderItems level items).toList = items.flatMap fun item =>
      (margin level).toList ++ ((render level item).toList ++ [',', '\n']) := by
  induction items with
  | nil => rfl
  | cons item items ih => simp [renderItems, ih]

theorem toList_renderFields (level : Nat) (fields : List (String × Outline)) :
    (renderFields level fields).toList = fields.flatMap fun field =>
      (margin level).toList ++
        (field.1.toList ++ ':' :: ' ' :: ((render level field.2).toList ++ [',', '\n'])) := by
  induction fields with
  | nil => rfl
  | cons field fields ih => simp [renderFields, ih]

theorem toList_render_list {items : List Outline} (hitems : items ≠ []) :
    (render level (list items)).toList =
      '[' :: '\n' :: ((renderItems (level + 1) items).toList ++
        ((margin level).toList ++ [']'])) := by
  cases items with
  | nil => exact absurd rfl hitems
  | cons first items => simp [render, renderItems]

theorem toList_render_map {entries : List (String × Outline)} (hentries : entries ≠ []) :
    (render level (map entries)).toList =
      '\x7b' :: '\n' :: ((renderFields (level + 1) entries).toList ++
        ((margin level).toList ++ ['\x7d'])) := by
  cases entries with
  | nil => exact absurd rfl hentries
  | cons first entries => simp [render, renderFields]

theorem toList_render_list_map_cons (form : α → Outline) (first : α) (values : List α) :
    (render level (list ((first :: values).map form))).toList =
      '[' :: '\n' :: (((first :: values).flatMap fun value => (margin (level + 1)).toList ++
          ((render (level + 1) (form value)).toList ++ [',', '\n'])) ++
        ((margin level).toList ++ [']'])) := by
  have hvalues : (first :: values).map form ≠ [] := List.cons_ne_nil _ _
  rw [toList_render_list hvalues, toList_renderItems, List.flatMap_map]

theorem Shows.list {form : α → Outline} (hform : Shows form) :
    Shows fun values : List α => Outline.list (values.map form) := by
  intro level first second rest others hsame
  cases first with
  | nil =>
      cases second with
      | nil => exact ⟨rfl, by simpa using hsame⟩
      | cons other values =>
          rw [toList_render_list_map_cons] at hsame
          simp [render] at hsame
  | cons value values =>
      rw [toList_render_list_map_cons] at hsame
      cases second with
      | nil => simp [render] at hsame
      | cons other others =>
          rw [toList_render_list_map_cons] at hsame
          simp only [List.cons_append, List.append_assoc, List.nil_append, List.cons.injEq,
            true_and] at hsame
          refine (lines_inj (by decide) ?_ hsame).imp_right fun hends => (List.cons.inj hends).2
          intro value other rest others hline
          simp only [List.append_assoc, List.cons_append, List.nil_append] at hline
          obtain ⟨rfl, hends⟩ := hform (level + 1) value other _ _ hline
          exact ⟨rfl, (List.cons.inj hends).2⟩

theorem shows_texts : Shows texts := shows_text.list

theorem shows_bytes : Shows bytes := by
  have hbyte : Shows fun byte : UInt8 => number byte.toNat :=
    shows_number.of_injective fun _ _ hsame => UInt8.toNat_inj.mp hsame
  exact hbyte.list

theorem toList_render_textMap {table : TextMap} (htable : table.entries ≠ []) :
    (render level (textMap table)).toList =
      '\x7b' :: '\n' :: ((table.entries.flatMap fun entry => (margin (level + 1)).toList ++
          ((Text.quoted entry.1).toList ++
            ':' :: ' ' :: ((Text.quoted entry.2).toList ++ [',', '\n']))) ++
        ((margin level).toList ++ ['\x7d'])) := by
  have hentries : (table.entries.map fun entry => (Text.quoted entry.1, text entry.2)) ≠ [] := by
    simpa using htable
  rw [textMap, toList_render_map hentries, toList_renderFields, List.flatMap_map]
  rfl

theorem entry_inj (first second : String × String) (rest others : List Char)
    (hsame : (Text.quoted first.1).toList ++
        ':' :: ' ' :: ((Text.quoted first.2).toList ++ [',', '\n']) ++ rest =
      (Text.quoted second.1).toList ++
        ':' :: ' ' :: ((Text.quoted second.2).toList ++ [',', '\n']) ++ others) :
    first = second ∧ rest = others := by
  simp only [List.append_assoc, List.cons_append, List.nil_append] at hsame
  obtain ⟨hkey, hbehind⟩ := Text.quoted_inj hsame
  simp only [List.cons.injEq, true_and] at hbehind
  obtain ⟨hvalue, hends⟩ := Text.quoted_inj hbehind
  simp only [List.cons.injEq, true_and] at hends
  exact ⟨Prod.ext hkey hvalue, hends⟩

theorem shows_textMap : Shows textMap := by
  intro level first second rest others hsame
  by_cases hfirst : first.entries = []
  · by_cases hsecond : second.entries = []
    · have hends : rest = others := by simpa [textMap, hfirst, hsecond] using hsame
      exact ⟨KeyMap.ext_entries (hfirst.trans hsecond.symm), hends⟩
    · rw [toList_render_textMap hsecond] at hsame
      simp [textMap, hfirst, render] at hsame
  · rw [toList_render_textMap hfirst] at hsame
    by_cases hsecond : second.entries = []
    · simp [textMap, hsecond, render] at hsame
    · rw [toList_render_textMap hsecond] at hsame
      simp only [List.cons_append, List.append_assoc, List.nil_append, List.cons.injEq,
        true_and] at hsame
      obtain ⟨hentries, hends⟩ := lines_inj (by decide) entry_inj hsame
      exact ⟨KeyMap.ext_entries hentries, (List.cons.inj hends).2⟩

/-! ## Records -/

theorem fields_of_record {name : String} {fields more : List (String × Outline)}
    (hsame : (render level (record name fields)).toList ++ rest =
      (render level (record name more)).toList ++ others) :
    (renderFields (level + 1) fields).toList ++ ((margin level).toList ++ '\x7d' :: rest) =
      (renderFields (level + 1) more).toList ++ ((margin level).toList ++ '\x7d' :: others) := by
  simpa [render] using hsame

theorem Shows.field {form : α → Outline} (hform : Shows form) {name : String} {first second : α}
    {fields more : List (String × Outline)}
    (hsame : (renderFields level ((name, form first) :: fields)).toList ++ rest =
      (renderFields level ((name, form second) :: more)).toList ++ others) :
    first = second ∧
      (renderFields level fields).toList ++ rest = (renderFields level more).toList ++ others := by
  simp only [renderFields, String.toList_append, List.append_assoc, List.append_cancel_left_eq]
    at hsame
  obtain ⟨hfirst, hbehind⟩ := hform level first second _ _ hsame
  exact ⟨hfirst, (List.cons.inj hbehind).2⟩

theorem end_of_record
    (hsame : (renderFields (level + 1) []).toList ++ ((margin level).toList ++
        '\x7d' :: ',' :: rest) =
      (renderFields (level + 1) []).toList ++ ((margin level).toList ++
        '\x7d' :: ',' :: others)) : rest = others := by
  simpa [renderFields] using hsame

/-- A record as a field of another one. -/
theorem fields_of_field {field name : String} {fields more others : List (String × Outline)}
    {inner : List (String × Outline)} {behind : List Char}
    (hsame : (renderFields level ((field, record name fields) :: more)).toList ++ rest =
      (renderFields level ((field, record name inner) :: others)).toList ++ behind) :
    (renderFields (level + 1) fields).toList ++ ((margin level).toList ++
        '\x7d' :: ',' :: '\n' :: ((renderFields level more).toList ++ rest)) =
      (renderFields (level + 1) inner).toList ++ ((margin level).toList ++
        '\x7d' :: ',' :: '\n' :: ((renderFields level others).toList ++ behind)) := by
  simpa [renderFields, render] using hsame

theorem behind_field
    (hsame : (renderFields (level + 1) []).toList ++ ((margin level).toList ++
        '\x7d' :: ',' :: '\n' :: rest) =
      (renderFields (level + 1) []).toList ++ ((margin level).toList ++
        '\x7d' :: ',' :: '\n' :: others)) : rest = others :=
  (List.cons.inj (end_of_record hsame)).2

end Outline

open Outline

/-! ## Durations -/

namespace Duration

/-- A whole number and what is behind it, for so many milliseconds. -/
inductive DisplayedAs : Nat → Nat → List Char → Prop
  | nothing : DisplayedAs 0 0 ['n', 's']
  | milliseconds (count : Nat) : DisplayedAs count count ['m', 's']
  | seconds (count : Nat) : DisplayedAs (1000 * count) count ['s']
  | decimals (count : Nat) {rest : Nat} (hrest : rest < 1000) :
      DisplayedAs (1000 * count + rest) count ('.' :: ((decimals rest).toList ++ ['s']))

theorem exists_displayedAs (duration : Duration) :
    ∃ whole behind, duration.display.toList = (toString whole).toList ++ behind ∧
      DisplayedAs duration.milliseconds whole behind := by
  obtain ⟨milliseconds⟩ := duration
  have hdivision := Nat.div_add_mod milliseconds 1000
  unfold display
  dsimp only
  split
  · next hzero =>
    subst hzero
    exact ⟨0, _, rfl, .nothing⟩
  · split
    · next hseconds =>
      rw [hseconds, Nat.mul_zero, Nat.zero_add] at hdivision
      refine ⟨milliseconds % 1000, ['m', 's'], by simp, ?_⟩
      rw [hdivision]
      exact .milliseconds milliseconds
    · split
      · next hrest =>
        rw [hrest, Nat.add_zero] at hdivision
        refine ⟨milliseconds / 1000, ['s'], by simp, ?_⟩
        have hdisplayed := DisplayedAs.seconds (milliseconds / 1000)
        rwa [hdivision] at hdisplayed
      · refine ⟨milliseconds / 1000,
          '.' :: ((decimals (milliseconds % 1000)).toList ++ ['s']), by simp, ?_⟩
        have hrest : milliseconds % 1000 < 1000 := Nat.mod_lt _ (by decide)
        have hdisplayed := DisplayedAs.decimals (milliseconds / 1000) hrest
        rwa [hdivision] at hdisplayed

theorem toList_decimals (rest : Nat) :
    (decimals rest).toList =
      ((((Nat.toDigits 10 (1000 + rest)).drop 1).reverse.dropWhile (· = '0')).reverse) := by
  rw [decimals, String.toList_ofList, Nat.toString_eq_repr, Nat.toList_repr]

/-- The thousandths that decimals stand for. -/
def ofDecimals (digits : List Char) : Nat :=
  Nat.ofDigitChars 10 (digits ++ List.replicate (3 - digits.length) '0') 0

theorem ofDecimals_decimals {rest : Nat} (hrest : rest < 1000) :
    ofDecimals (decimals rest).toList = rest := by
  have hall : ∀ rest < 1000, ofDecimals
      ((((Nat.toDigits 10 (1000 + rest)).drop 1).reverse.dropWhile (· = '0')).reverse) = rest := by
    decide +kernel
  rw [toList_decimals, hall rest hrest]

theorem isDigit_of_mem_decimals {rest : Nat} {c : Char} (hc : c ∈ (decimals rest).toList) :
    c.isDigit = true := by
  rw [toList_decimals, List.mem_reverse] at hc
  have hdigits := List.mem_reverse.mp ((List.dropWhile_suffix _).mem hc)
  exact Nat.isDigit_of_mem_toDigits (by decide) (by decide) (List.mem_of_mem_drop hdigits)

theorem DisplayedAs.exists_mark {milliseconds whole : Nat} {behind : List Char}
    (hdisplayed : DisplayedAs milliseconds whole behind) :
    ∃ mark rest, behind = mark :: rest ∧ ¬mark.isDigit = true ∧ ',' ∉ behind := by
  cases hdisplayed with
  | nothing => exact ⟨'n', ['s'], rfl, by decide, by decide⟩
  | milliseconds => exact ⟨'m', ['s'], rfl, by decide, by decide⟩
  | seconds => exact ⟨'s', [], rfl, by decide, by decide⟩
  | decimals =>
      refine ⟨'.', _, rfl, by decide, ?_⟩
      simp only [List.mem_cons, List.mem_append, List.not_mem_nil, or_false, not_or]
      refine ⟨by decide, fun hcomma => ?_, by decide⟩
      exact absurd (isDigit_of_mem_decimals hcomma) (by decide)

theorem DisplayedAs.unique {milliseconds others whole : Nat} {behind : List Char}
    (hdisplayed : DisplayedAs milliseconds whole behind)
    (hother : DisplayedAs others whole behind) : milliseconds = others := by
  cases hdisplayed with
  | nothing =>
      cases hother
      rfl
  | milliseconds =>
      cases hother
      rfl
  | seconds =>
      cases hother
      rfl
  | @decimals _ rest hrest =>
      generalize hbehind : '.' :: ((Duration.decimals rest).toList ++ ['s']) = behind at hother
      cases hother with
      | nothing => simp at hbehind
      | milliseconds => simp at hbehind
      | seconds => simp at hbehind
      | @decimals _ other hotherRest =>
          have hdigits := List.append_cancel_right (List.cons.inj hbehind).2
          rw [← ofDecimals_decimals hrest, hdigits, ofDecimals_decimals hotherRest]

theorem comma_not_mem_display (duration : Duration) : ',' ∉ duration.display.toList := by
  obtain ⟨whole, behind, hdisplay, hdisplayed⟩ := duration.exists_displayedAs
  obtain ⟨mark, rest, -, -, hcomma⟩ := hdisplayed.exists_mark
  rw [hdisplay, List.mem_append, not_or]
  exact ⟨fun hmem => absurd (Text.isDigit_of_mem_decimal hmem) (by decide), hcomma⟩

theorem display_injective : Function.Injective display := by
  intro first second hsame
  obtain ⟨whole, behind, hfirst, hdisplayed⟩ := first.exists_displayedAs
  obtain ⟨other, ending, hsecond, hother⟩ := second.exists_displayedAs
  obtain ⟨mark, rest, rfl, hmark, -⟩ := hdisplayed.exists_mark
  obtain ⟨otherMark, others, rfl, hotherMark, -⟩ := hother.exists_mark
  have hchars := congrArg String.toList hsame
  rw [hfirst, hsecond] at hchars
  obtain ⟨hwhole, rfl, rfl⟩ := Text.append_cons_inj_of_forall
    (fun _ hc => Text.isDigit_of_mem_decimal hc) hmark
    (fun _ hc => Text.isDigit_of_mem_decimal hc) hotherMark hchars
  have hnumber : whole = other := Text.decimal_injective (String.toList_inj.mp hwhole)
  subst hnumber
  exact congrArg Duration.mk (hdisplayed.unique hother)

end Duration

/-! ## The parts of a configuration -/

attribute [ext] SniMatch Endpoint TransportSocket Cluster HeaderMatcher HeaderValue WeightedCluster
  ForwardAction RouteMatch Route VirtualHost ProxyConfig

theorem ObjectName.shows_outline : Shows ObjectName.outline := by
  intro level first second rest others hsame
  have hfields := fields_of_record hsame
  obtain ⟨hns, hfields⟩ := shows_text.field hfields
  obtain ⟨hname, hfields⟩ := shows_text.field hfields
  exact ⟨ObjectName.ext hns hname, end_of_record hfields⟩

theorem SniMatch.shows_outline : Shows SniMatch.outline := by
  intro level first second rest others hsame
  have hfields := fields_of_record hsame
  obtain ⟨hhosts, hfields⟩ := shows_texts.field hfields
  obtain ⟨hsource, hfields⟩ := ObjectName.shows_outline.field hfields
  obtain ⟨hchain, hfields⟩ := shows_bytes.field hfields
  obtain ⟨hkey, hfields⟩ := shows_bytes.field hfields
  exact ⟨SniMatch.ext hhosts hsource hchain hkey, end_of_record hfields⟩

theorem Endpoint.shows_outline : Shows Endpoint.outline := by
  intro level first second rest others hsame
  have hfields := fields_of_field (fields_of_record hsame)
  obtain ⟨haddress, hfields⟩ := shows_text.field hfields
  obtain ⟨hport, hfields⟩ := shows_number.field hfields
  exact ⟨Endpoint.ext haddress (UInt32.toNat_inj.mp hport), end_of_record (behind_field hfields)⟩

theorem TransportSocket.shows_outline : Shows TransportSocket.outline := by
  intro level first second rest others hsame
  have hfields := fields_of_record hsame
  obtain ⟨hname, hfields⟩ := shows_text.field hfields
  have hconfig := fields_of_field hfields
  obtain ⟨htype, hconfig⟩ := shows_text.field hconfig
  obtain ⟨hvalue, hconfig⟩ := shows_bytes.field hconfig
  exact ⟨TransportSocket.ext hname htype hvalue, end_of_record (behind_field hconfig)⟩

theorem DiscoveryType.shows_label :
    Shows fun discovery : DiscoveryType => word discovery.label := by
  refine shows_word ?_ ?_
  · rintro ⟨⟩ <;> decide
  · rintro ⟨⟩ ⟨⟩ <;> decide

theorem Duration.shows_display : Shows fun duration : Duration => word duration.display :=
  shows_word Duration.comma_not_mem_display Duration.display_injective

theorem Cluster.shows_outline : Shows Cluster.outline := by
  intro level first second rest others hsame
  have hfields := fields_of_record hsame
  obtain ⟨hname, hfields⟩ := shows_text.field hfields
  obtain ⟨hdiscovery, hfields⟩ := DiscoveryType.shows_label.field hfields
  obtain ⟨htimeout, hfields⟩ := Duration.shows_display.field hfields
  have hassignment := fields_of_field hfields
  obtain ⟨hassigned, hassignment⟩ := shows_text.field hassignment
  obtain ⟨hendpoints, hassignment⟩ := Endpoint.shows_outline.list.field hassignment
  obtain ⟨hhttp2, hfields⟩ := shows_switch.field (behind_field hassignment)
  obtain ⟨hsocket, hfields⟩ := TransportSocket.shows_outline.option.field hfields
  exact ⟨Cluster.ext hname hdiscovery htimeout hassigned hendpoints hhttp2 hsocket,
    end_of_record hfields⟩

theorem HeaderMatcher.shows_outline : Shows HeaderMatcher.outline := by
  intro level first second rest others hsame
  have hfields := fields_of_record hsame
  obtain ⟨hname, hfields⟩ := shows_text.field hfields
  obtain ⟨hexact, hfields⟩ := shows_text.option.field hfields
  exact ⟨HeaderMatcher.ext hname hexact, end_of_record hfields⟩

theorem HeaderValue.shows_outline : Shows HeaderValue.outline := by
  intro level first second rest others hsame
  have hfields := fields_of_record hsame
  obtain ⟨hkey, hfields⟩ := shows_text.field hfields
  obtain ⟨hvalue, hfields⟩ := shows_text.field hfields
  obtain ⟨happend, hfields⟩ := shows_switch.field hfields
  exact ⟨HeaderValue.ext hkey hvalue happend, end_of_record hfields⟩

theorem WeightedCluster.shows_outline : Shows WeightedCluster.outline := by
  intro level first second rest others hsame
  have hfields := fields_of_record hsame
  obtain ⟨hname, hfields⟩ := shows_text.field hfields
  obtain ⟨hweight, hfields⟩ := shows_number.field hfields
  obtain ⟨hheaders, hfields⟩ := HeaderValue.shows_outline.list.field hfields
  exact ⟨WeightedCluster.ext hname (UInt32.toNat_inj.mp hweight) hheaders, end_of_record hfields⟩

theorem ForwardAction.shows_outline : Shows ForwardAction.outline := by
  intro level first second rest others hsame
  have hfields := fields_of_record hsame
  obtain ⟨hweighted, hfields⟩ := WeightedCluster.shows_outline.list.field hfields
  obtain ⟨htimeout, hfields⟩ := Duration.shows_display.field hfields
  obtain ⟨hupgrades, hfields⟩ := shows_texts.field hfields
  obtain ⟨hhost, hfields⟩ := shows_text.option.field hfields
  exact ⟨ForwardAction.ext hweighted htimeout hupgrades hhost, end_of_record hfields⟩

/-- The name of the wrapper tells what is done. -/
theorem RouteAction.shows_outline : Shows RouteAction.outline := by
  intro level first second rest others hsame
  cases first with
  | forward action =>
      cases second with
      | forward other =>
          obtain ⟨-, hcontents⟩ := wrapped_inj (by decide) (by decide) hsame
          obtain ⟨rfl, hends⟩ := ForwardAction.shows_outline _ _ _ _ _ hcontents
          exact ⟨rfl, by simpa using hends⟩
      | redirect | respond => simp [outline, render] at hsame
  | redirect https status =>
      cases second with
      | redirect otherHttps otherStatus =>
          obtain ⟨-, hcontents⟩ := wrapped_inj (by decide) (by decide) hsame
          have hfields := fields_of_record hcontents
          obtain ⟨hhttps, hfields⟩ := shows_switch.field hfields
          obtain ⟨hstatus, hfields⟩ := shows_number.field hfields
          rw [hhttps, UInt16.toNat_inj.mp hstatus]
          exact ⟨rfl, by simpa using end_of_record hfields⟩
      | forward | respond => simp [outline, render] at hsame
  | respond status =>
      cases second with
      | respond otherStatus =>
          obtain ⟨-, hcontents⟩ := wrapped_inj (by decide) (by decide) hsame
          have hfields := fields_of_record hcontents
          obtain ⟨hstatus, hfields⟩ := shows_number.field hfields
          rw [UInt16.toNat_inj.mp hstatus]
          exact ⟨rfl, by simpa using end_of_record hfields⟩
      | forward | redirect => simp [outline, render] at hsame

theorem ExtAuthz.shows_outline : Shows ExtAuthz.outline := by
  intro level first second rest others hsame
  cases first with
  | disabled =>
      cases second with
      | disabled => exact ⟨rfl, by simpa using hsame⟩
      | check extensions => simp [outline, render] at hsame
  | check extensions =>
      cases second with
      | disabled => simp [outline, render] at hsame
      | check others =>
          have hfields := fields_of_record hsame
          obtain ⟨hextensions, hfields⟩ := shows_textMap.field hfields
          exact ⟨congrArg check hextensions, end_of_record hfields⟩

theorem Route.shows_outline : Shows Route.outline := by
  intro level first second rest others hsame
  have hfields := fields_of_record hsame
  obtain ⟨hname, hfields⟩ := shows_text.field hfields
  have hcriteria := fields_of_field hfields
  obtain ⟨hpathPrefix, hcriteria⟩ := shows_text.field hcriteria
  obtain ⟨hheaders, hcriteria⟩ := HeaderMatcher.shows_outline.list.field hcriteria
  obtain ⟨haction, hfields⟩ := RouteAction.shows_outline.field (behind_field hcriteria)
  obtain ⟨hrequest, hfields⟩ := HeaderValue.shows_outline.list.field hfields
  obtain ⟨hauthz, hfields⟩ := ExtAuthz.shows_outline.option.field hfields
  exact ⟨Route.ext hname (RouteMatch.ext hpathPrefix hheaders) haction hrequest hauthz,
    end_of_record hfields⟩

theorem VirtualHost.shows_outline : Shows VirtualHost.outline := by
  intro level first second rest others hsame
  have hfields := fields_of_record hsame
  obtain ⟨hname, hfields⟩ := shows_text.field hfields
  obtain ⟨hdomains, hfields⟩ := shows_texts.field hfields
  obtain ⟨hroutes, hfields⟩ := Route.shows_outline.list.field hfields
  obtain ⟨hauthz, hfields⟩ := ExtAuthz.shows_outline.option.field hfields
  exact ⟨VirtualHost.ext hname hdomains hroutes hauthz, end_of_record hfields⟩

theorem ProxyConfig.shows_outline : Shows ProxyConfig.outline := by
  intro level first second rest others hsame
  have hfields := fields_of_record hsame
  obtain ⟨hname, hfields⟩ := ObjectName.shows_outline.field hfields
  obtain ⟨hport, hfields⟩ := shows_text.option.field hfields
  obtain ⟨hsni, hfields⟩ := SniMatch.shows_outline.list.field hfields
  obtain ⟨hclusters, hfields⟩ := Cluster.shows_outline.list.field hfields
  obtain ⟨hexternal, hfields⟩ := VirtualHost.shows_outline.list.field hfields
  obtain ⟨htls, hfields⟩ := VirtualHost.shows_outline.list.field hfields
  obtain ⟨hinternal, hfields⟩ := VirtualHost.shows_outline.list.field hfields
  exact ⟨ProxyConfig.ext hname hport hsni hclusters hexternal htls hinternal,
    end_of_record hfields⟩

/-- A configuration is not displayed like any other. -/
theorem ProxyConfig.display_injective : Function.Injective ProxyConfig.display := by
  intro first second hsame
  have hrendered : (render 0 first.outline).toList = (render 0 second.outline).toList :=
    congrArg String.toList hsame
  exact (ProxyConfig.shows_outline 0 first second [] [] (by rw [hrendered])).1

end EdgeRouting
