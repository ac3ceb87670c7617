import EdgeRouting.Proofs.JsonTexts
import EdgeRouting.Proofs.RouteListing

/-!
# Routes to drop and their annotation

Every list of routes to drop can be stored in an annotation: what is written of it is read again as
the same list, whatever characters its paths are made of.  White space around the text is not part
of it, also where it is no white space of JSON, and white space alone lists nothing.
-/

namespace EdgeRouting

/-! ## White space around a text -/

namespace Text

theorem dropWhile_surrounded {test : Char → Bool} {blank text : List Char}
    (hblank : ∀ c ∈ blank, test c = true) (hfirst : ∀ c ∈ text.head?, test c = false)
    (hne : text ≠ []) (rest : List Char) :
    (blank ++ (text ++ rest)).dropWhile test = text ++ rest := by
  rw [List.dropWhile_append_of_pos hblank]
  cases text with
  | nil => exact absurd rfl hne
  | cons c others =>
      have hc : test c = false := hfirst c rfl
      rw [List.cons_append, List.dropWhile_cons_of_neg (by simp [hc])]

theorem trim_surrounded {before text after : List Char}
    (hbefore : ∀ c ∈ before, isBlank c = true) (hafter : ∀ c ∈ after, isBlank c = true)
    (hfirst : ∀ c ∈ text.head?, isBlank c = false)
    (hlast : ∀ c ∈ text.getLast?, isBlank c = false) (hne : text ≠ []) :
    trim (before ++ (text ++ after)) = text := by
  have hafterReversed : ∀ c ∈ after.reverse, isBlank c = true := by
    intro c hmem
    exact hafter c (List.mem_reverse.mp hmem)
  have hlastReversed : ∀ c ∈ text.reverse.head?, isBlank c = false := by
    rw [List.head?_reverse]
    exact hlast
  have hneReversed : text.reverse ≠ [] := fun heq => hne (List.reverse_eq_nil_iff.mp heq)
  have hend := dropWhile_surrounded hafterReversed hlastReversed hneReversed []
  rw [List.append_nil] at hend
  rw [trim, dropWhile_surrounded hbefore hfirst hne, dropWhileEnd, List.reverse_append, hend,
    List.reverse_reverse]

theorem trim_blank {blank : List Char} (hblank : ∀ c ∈ blank, isBlank c = true) :
    trim blank = [] := by
  have hdropped : (blank ++ []).dropWhile isBlank = [] :=
    List.dropWhile_append_of_pos hblank
  rw [List.append_nil] at hdropped
  rw [trim, hdropped]
  rfl

end Text

/-! ## Reading what was written -/

theorem DropRoute.render_toJson (route : DropRoute) :
    route.toJson.render =
      '\x7b' :: (Json.renderString "path" ++ ':' :: Json.renderString route.path ++ ['\x7d']) := by
  simp [toJson, Json.render, Json.renderMembers]

theorem DropRoute.read_takes (route : DropRoute) :
    Json.Reader.Takes read route.toJson.render route := by
  intro input rest hinput
  rw [render_toJson] at hinput
  obtain ⟨left, hleft, hread⟩ := Json.record_takes (Json.quotedText_takes route.path)
    (.error .unsuitable) input rest hinput
  refine ⟨left, hleft, ?_⟩
  rw [read, hread]
  rfl

theorem DropRoute.opensItem_render (route : DropRoute) :
    Json.OpensItem route.toJson.render := by
  rw [render_toJson]
  exact ⟨_, _, rfl, by decide, by decide⟩

namespace DropRoutes

theorem render_toJson (routes : DropRoutes) :
    routes.toJson.render =
      '\x7b' :: (Json.renderString "routes" ++
        ':' :: (Json.array (routes.routes.map DropRoute.toJson)).render ++ ['\x7d']) := by
  simp [toJson, Json.render, Json.renderMembers]

theorem read_takes (routes : DropRoutes) :
    Json.Reader.Takes read routes.toJson.render routes := by
  intro input rest hinput
  rw [render_toJson] at hinput
  have hlist := Json.list_takes DropRoute.read_takes DropRoute.opensItem_render routes.routes
  obtain ⟨left, hleft, hread⟩ := Json.record_takes hlist (.ok []) input rest hinput
  refine ⟨left, hleft, ?_⟩
  rw [read, hread]
  rfl

/-- The text of routes begins and ends with a bracket, which are left when it is trimmed. -/
theorem trim_render {before after : List Char}
    (hbefore : ∀ c ∈ before, Text.isBlank c = true)
    (hafter : ∀ c ∈ after, Text.isBlank c = true) (routes : DropRoutes) :
    Text.trim (before ++ (routes.toJson.render ++ after)) = routes.toJson.render := by
  rw [render_toJson]
  apply Text.trim_surrounded hbefore hafter
  · intro c hc
    cases hc
    decide
  · rw [← List.cons_append, List.getLast?_concat]
    intro c hc
    cases hc
    decide
  · exact List.cons_ne_nil _ _

theorem parse_surrounded {before after : String}
    (hbefore : ∀ c ∈ before.toList, Text.isBlank c = true)
    (hafter : ∀ c ∈ after.toList, Text.isBlank c = true) (routes : DropRoutes) :
    parse (before ++ routes.toJson.print ++ after) = .ok routes := by
  have hne : routes.toJson.render ≠ [] := by
    rw [render_toJson]
    exact List.cons_ne_nil _ _
  have htext : (before ++ routes.toJson.print ++ after).toList =
      before.toList ++ (routes.toJson.render ++ after.toList) := by
    simp [Json.print]
  unfold parse
  rw [htext, trim_render hbefore hafter]
  cases hrender : routes.toJson.render with
  | nil => exact absurd hrender hne
  | cons first rest =>
      rw [← hrender]
      exact Json.whole_of_takes routes.read_takes

theorem parse_blank {document : String}
    (hblank : ∀ c ∈ document.toList, Text.isBlank c = true) : parse document = .ok empty := by
  unfold parse
  rw [Text.trim_blank hblank]

end DropRoutes

/-- The path that is rejected for an entry: its own, with a slash in front of it if there is
none. -/
structure DropRoute.IsRejectedAs (route : DropRoute) (path : String) : Prop where
  rooted : Text.startsWith path "/" = true
  kept : Text.startsWith route.path "/" = true → path = route.path
  completed : Text.startsWith route.path "/" = false → path = "/" ++ route.path

theorem DropRoute.isRejectedAs_slashedPath (route : DropRoute) :
    route.IsRejectedAs route.slashedPath := by
  rw [slashedPath_eq]
  cases hslash : Text.startsWith route.path "/" with
  | true =>
      exact ⟨hslash, fun _ => rfl, fun hmissing => absurd hslash (by simp [hmissing])⟩
  | false =>
      have hrooted : Text.startsWith ("/" ++ route.path) "/" = true := by
        rw [Text.startsWith_iff, String.toList_append]
        exact List.prefix_append _ _
      exact ⟨hrooted, fun hpresent => absurd hslash (by simp [hpresent]), fun _ => rfl⟩

/-- Routes to drop are read from the annotation that they were stored in, whatever white space
stands around their text and whatever other annotations there are, and reject one path each, in
order.  Without the annotation, or with nothing but white space in it, there are none. -/
theorem dropRoutes_survive_annotation
    {before after : String} (hbefore : ∀ c ∈ before.toList, Text.isBlank c = true)
    (hafter : ∀ c ∈ after.toList, Text.isBlank c = true)
    (routes : DropRoutes) (annotations : TextMap) :
    Annotations.dropRoutes (annotations.insert "ingress.translator.io/drop-routes"
      (before ++ routes.toJson.print ++ after)) = .ok routes ∧
    List.Forall₂ DropRoute.IsRejectedAs routes.routes routes.paths ∧
    Annotations.dropRoutes (annotations.insert "ingress.translator.io/drop-routes" before) =
      .ok ⟨[]⟩ ∧
    Annotations.dropRoutes (annotations.erase "ingress.translator.io/drop-routes") = .ok ⟨[]⟩ := by
  have hstored (document : String) :
      Annotations.dropRoutes
        (annotations.insert "ingress.translator.io/drop-routes" document) =
          DropRoutes.parse document := by
    simp only [Annotations.dropRoutes, Annotations.dropRoutesKey, KeyMap.get?_insert, if_true]
  refine ⟨?_, ?_, ?_, ?_⟩
  · rw [hstored, DropRoutes.parse_surrounded hbefore hafter]
  · unfold DropRoutes.paths
    rw [List.forall₂_map_right_iff, List.forall₂_same]
    intro route _
    exact route.isRejectedAs_slashedPath
  · rw [hstored, DropRoutes.parse_blank hbefore]
    rfl
  · simp only [Annotations.dropRoutes, Annotations.dropRoutesKey, KeyMap.get?_erase, if_true]
    rfl

example :
    (⟨[⟨"a\"\x1f"⟩, ⟨"/é"⟩]⟩ : DropRoutes).toJson.print =
      "\x7b\"routes\":[\x7b\"path\":\"a\\\"\\u001f\"\x7d,\x7b\"path\":\"/é\"\x7d]\x7d" := by
  decide +kernel

/-- Paths with a quotation mark, a backslash, control characters and characters beyond ASCII, an
empty one, and one that has its slash already. -/
def oddRoutes : DropRoutes :=
  ⟨[⟨"say \"no\""⟩, ⟨"/c:\\temp"⟩, ⟨"\x01\x08\t\x1f"⟩, ⟨"/žluť/😀"⟩, ⟨""⟩]⟩

theorem oddRoutes_survive :
    (∀ c ∈ "\u00a0 \n".toList, Text.isBlank c = true) ∧
    (∀ c ∈ "\u3000\x0b".toList, Text.isBlank c = true) ∧
    Annotations.dropRoutes
      ((KeyMap.empty.insert "ingress.translator.io/disable-http2" "true").insert
        "ingress.translator.io/drop-routes"
        ("\u00a0 \n" ++ oddRoutes.toJson.print ++ "\u3000\x0b")) = .ok oddRoutes ∧
    oddRoutes.paths =
      ["/say \"no\"", "/c:\\temp", "/\x01\x08\t\x1f", "/žluť/😀", "/"] ∧
    List.Forall₂ DropRoute.IsRejectedAs oddRoutes.routes oddRoutes.paths := by
  have hbefore : ∀ c ∈ "\u00a0 \n".toList, Text.isBlank c = true :=
    List.all_eq_true.mp (by decide)
  have hafter : ∀ c ∈ "\u3000\x0b".toList, Text.isBlank c = true :=
    List.all_eq_true.mp (by decide)
  have hsurvive := dropRoutes_survive_annotation hbefore hafter oddRoutes
    (KeyMap.empty.insert "ingress.translator.io/disable-http2" "true")
  exact ⟨hbefore, hafter, hsurvive.1, by decide +kernel, hsurvive.2.1⟩

end EdgeRouting
