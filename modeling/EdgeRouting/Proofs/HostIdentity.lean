import EdgeRouting.Proofs.ClusterCollisions
import EdgeRouting.Proofs.VisibilityPartition
import Mathlib.Data.List.Flatten
import Mathlib.Data.List.Nodup
import Mathlib.Data.List.Sigma

/-!
# The names and domains of virtual hosts

A virtual host is named by its ingress and by the place of its rule.  The name is put together from
texts that are not escaped, and the name of an ingress may contain everything that stands around it.
Still the name can be taken apart again: the place is what follows the last opening bracket, and the
namespace what stands before the first slash.  So no two virtual hosts of a proxy share a name, if
the namespaces of its ingresses have no slash in them.

Each host of a rule is a domain of its own and once more with any port.  The proxy refuses a table
in which a domain occurs twice.
-/

namespace EdgeRouting

/-- The configuration is what some ready resolution of the ingress gives. -/
def ProxyConfig.ResolvedFrom (ingress : Ingress) (value : ProxyConfig) : Prop :=
  ∃ (config : Config) (lookup : Lookup) (registrar : Registrar),
    (resolve config lookup registrar ingress).result = .ok (.ready value)

namespace Bucket

/-- The rules whose virtual hosts a bucket holds unless it is empty, each with its place. -/
def sources (bucket : Bucket) (ingress : Ingress) : List (Rule × Nat) :=
  match bucket with
  | internal => ingress.rules.zipIdx
  | _ => ingress.rules.zipIdx.filter fun rule => rule.1.visibility = .externalIP

/-- The virtual host has the position in its bucket that the rule at this place has among the rules
whose virtual hosts are there. -/
def HoldsFor (bucket : Bucket) (ingress : Ingress) (value : ProxyConfig) (place : Nat)
    (host : VirtualHost) : Prop :=
  ∃ (position : Nat) (rule : Rule),
    (bucket.sources ingress)[position]? = some (rule, place) ∧
      (bucket.hosts value)[position]? = some host

end Bucket

/-! ## Taking a name apart -/

theorem eq_of_append_last_mark
    {mark : Char} {first second rest other : List Char}
    (hrest : mark ∉ rest) (hother : mark ∉ other)
    (hsame : first ++ mark :: rest = second ++ mark :: other) :
    first = second ∧ rest = other := by
  -- From behind, the last mark comes first.
  have hreversed := congrArg List.reverse hsame
  simp only [List.reverse_append, List.reverse_cons, List.append_assoc, List.cons_append,
    List.nil_append] at hreversed
  obtain ⟨hrests, hfirsts⟩ := Text.append_mark_inj
    (by simpa using hrest) (by simpa using hother) hreversed
  exact ⟨List.reverse_inj.mp hfirsts, List.reverse_inj.mp hrests⟩

theorem bracket_not_mem_decimal (place : Nat) : '[' ∉ (toString place).toList ++ [']'] := by
  intro hmem
  rcases List.mem_append.mp hmem with hdecimal | hend
  · exact absurd (Text.isDigit_of_mem_decimal hdecimal) (by decide)
  · exact absurd hend (by decide)

theorem toList_ruleName (ingress : Ingress) (place : Nat) :
    (ruleName ingress place).toList =
      ('(' :: ingress.owner.display.toList ++ ").Rules".toList) ++
        '[' :: ((toString place).toList ++ [']']) := by
  simp [ruleName]

theorem ruleName_eq_iff
    {ingress other : Ingress} {place otherPlace : Nat}
    (hslash : '/' ∉ ingress.owner.ns.toList) (hotherSlash : '/' ∉ other.owner.ns.toList) :
    ruleName ingress place = ruleName other otherPlace ↔
      ingress.owner = other.owner ∧ place = otherPlace := by
  constructor
  · intro hname
    have htoList := congrArg String.toList hname
    rw [toList_ruleName, toList_ruleName] at htoList
    obtain ⟨hbefore, hbehind⟩ := eq_of_append_last_mark
      (bracket_not_mem_decimal place) (bracket_not_mem_decimal otherPlace) htoList
    have hdisplay : ingress.owner.display = other.owner.display :=
      String.toList_inj.mp (List.cons.inj (List.append_cancel_right hbefore)).2
    have hplaces : toString place = toString otherPlace :=
      String.toList_inj.mp (List.append_cancel_right hbehind)
    exact ⟨ObjectName.eq_of_display hslash hotherSlash hdisplay, Text.decimal_injective hplaces⟩
  · rintro ⟨howner, rfl⟩
    rw [ruleName, ruleName, howner]

/-! ## Domains -/

/-- A host and the same host with any port. -/
def withAnyPort (host : String) : List String := [host, host ++ ":*"]

theorem eq_of_mem_withAnyPort
    {first second domain : String}
    (hfirst : ¬ ":*".toList <:+ first.toList) (hsecond : ¬ ":*".toList <:+ second.toList)
    (hmem : domain ∈ withAnyPort first) (hother : domain ∈ withAnyPort second) :
    first = second := by
  have hport (host : String) : ":*".toList <:+ (host ++ ":*").toList := by
    rw [String.toList_append]
    exact List.suffix_append _ _
  simp only [withAnyPort, List.mem_cons, List.not_mem_nil, or_false] at hmem hother
  rcases hmem with rfl | rfl
  · rcases hother with heq | rfl
    · exact heq
    · exact absurd (hport second) hfirst
  · rcases hother with rfl | heq
    · exact absurd (hport first) hsecond
    · have htoList := congrArg String.toList heq
      rw [String.toList_append, String.toList_append] at htoList
      exact String.toList_inj.mp (List.append_cancel_right htoList)

theorem nodup_withAnyPort (host : String) : (withAnyPort host).Nodup := by
  have hlonger : host ≠ host ++ ":*" := by
    intro heq
    have hlength := congrArg (fun text : String => text.toList.length) heq
    simp at hlength
  simpa [withAnyPort] using hlonger

theorem nodup_flatMap_withAnyPort
    {hosts : List String} (hdistinct : hosts.Nodup)
    (hport : ∀ host ∈ hosts, ¬ ":*".toList <:+ host.toList) :
    (hosts.flatMap withAnyPort).Nodup := by
  refine List.nodup_flatMap.mpr ⟨fun host _ => nodup_withAnyPort host, ?_⟩
  refine hdistinct.imp_of_mem fun {first second} hfirst hsecond hne => ?_
  intro domain hmem hother
  exact hne (eq_of_mem_withAnyPort (hport first hfirst) (hport second hsecond) hmem hother)

/-! ## The virtual hosts of a resolution -/

section Ready

variable {config : Config} {lookup : Lookup} {registrar : Registrar} {ingress : Ingress}
  {value : ProxyConfig}

theorem Bucket.rules_eq_sources_or_nil (config : Config) (ingress : Ingress) (bucket : Bucket) :
    bucket.rules config ingress = bucket.sources ingress ∨ bucket.rules config ingress = [] := by
  cases bucket with
  | internal => exact .inl (Bucket.rules_internal config ingress)
  | external => exact .inl (Bucket.rules_external config ingress)
  | externalTls =>
      rw [Bucket.rules_externalTls, Bucket.rules_external]
      cases config.servesTls ingress with
      | true => exact .inl rfl
      | false => exact .inr rfl

theorem nodup_names_of_ready
    (hready : (resolve config lookup registrar ingress).result = .ok (.ready value))
    (bucket : Bucket) : ((bucket.hosts value).map VirtualHost.name).Nodup := by
  have hnames : (bucket.hosts value).map VirtualHost.name =
      ((bucket.rules config ingress).map Prod.snd).map (ruleName ingress) := by
    rw [hosts_of_ready hready bucket, List.map_map, List.map_map]
    rfl
  have hplaces : ((bucket.rules config ingress).map Prod.snd).Nodup := by
    have hall : (ingress.rules.zipIdx.map Prod.snd).Nodup := List.nodup_zipIdx_map_snd _
    exact hall.sublist (List.filter_sublist.map _)
  rw [hnames]
  exact hplaces.map fun _ _ hname => ruleName_injective hname

theorem nodup_domains_of_ready
    (hready : (resolve config lookup registrar ingress).result = .ok (.ready value))
    (hdistinct : (ingress.rules.flatMap Rule.hosts).Nodup)
    (hport : ∀ host ∈ ingress.rules.flatMap Rule.hosts, ¬ ":*".toList <:+ host.toList)
    (bucket : Bucket) : ((bucket.hosts value).flatMap VirtualHost.domains).Nodup := by
  have hserved : (((bucket.rules config ingress).map Prod.fst).flatMap Rule.hosts).Sublist
      (ingress.rules.flatMap Rule.hosts) := by
    rw [Bucket.map_fst_rules]
    exact List.filter_sublist.flatMap Rule.hosts
  have hdomains : (bucket.hosts value).flatMap VirtualHost.domains =
      (((bucket.rules config ingress).map Prod.fst).flatMap Rule.hosts).flatMap withAnyPort := by
    rw [hosts_of_ready hready bucket, List.flatMap_map, List.flatMap_map, List.flatMap_assoc]
    rfl
  rw [hdomains]
  exact nodup_flatMap_withAnyPort (hdistinct.sublist hserved)
    fun host hhost => hport host (hserved.subset hhost)

theorem exists_holdsFor_of_ready
    (hready : (resolve config lookup registrar ingress).result = .ok (.ready value))
    (bucket : Bucket) {host : VirtualHost} (hhost : host ∈ bucket.hosts value) :
    ∃ place, bucket.HoldsFor ingress value place host := by
  obtain ⟨position, hposition⟩ := List.mem_iff_getElem?.mp hhost
  have hsource := hposition
  rw [hosts_of_ready hready bucket, List.getElem?_map] at hsource
  obtain ⟨⟨rule, place⟩, hrule, _⟩ := Option.map_eq_some_iff.mp hsource
  rcases Bucket.rules_eq_sources_or_nil config ingress bucket with hrules | hrules
  · rw [hrules] at hrule
    exact ⟨place, position, rule, hrule, hposition⟩
  · simp [hrules] at hrule

theorem name_of_holdsFor
    (hready : (resolve config lookup registrar ingress).result = .ok (.ready value))
    {bucket : Bucket} {place : Nat} {host : VirtualHost}
    (hholds : bucket.HoldsFor ingress value place host) :
    host.name = ruleName ingress place := by
  obtain ⟨position, rule, hrule, hhost⟩ := hholds
  rw [hosts_of_ready hready bucket, List.getElem?_map] at hhost
  obtain ⟨source, hsource, rfl⟩ := Option.map_eq_some_iff.mp hhost
  rcases Bucket.rules_eq_sources_or_nil config ingress bucket with hrules | hrules
  · rw [hrules, hrule] at hsource
    rw [← Option.some.inj hsource]
    rfl
  · simp [hrules] at hsource

end Ready

/-- In every bucket the names of the virtual hosts differ, and so do all their domains if the hosts
of the ingress do and none of them already stands for any port.  The name of a virtual host tells
the ingress and the rule that it is for, also among the virtual hosts of several ingresses. -/
theorem hosts_told_apart
    {ingress other : Ingress} {value otherValue : ProxyConfig}
    (hvalue : value.ResolvedFrom ingress) (hother : otherValue.ResolvedFrom other) :
    (∀ bucket : Bucket, ((bucket.hosts value).map VirtualHost.name).Nodup) ∧
    ((ingress.rules.flatMap Rule.hosts).Nodup →
      (∀ host ∈ ingress.rules.flatMap Rule.hosts, ¬ ":*".toList <:+ host.toList) →
      ∀ bucket : Bucket, ((bucket.hosts value).flatMap VirtualHost.domains).Nodup) ∧
    (∀ bucket : Bucket, ∀ host ∈ bucket.hosts value,
      ∃ place, bucket.HoldsFor ingress value place host) ∧
    ('/' ∉ (ingress.metadata.ns.getD "").toList →
      '/' ∉ (other.metadata.ns.getD "").toList →
      ∀ (bucket otherBucket : Bucket) (place otherPlace : Nat) (host otherHost : VirtualHost),
        bucket.HoldsFor ingress value place host →
        otherBucket.HoldsFor other otherValue otherPlace otherHost →
        (host.name = otherHost.name ↔
          ingress.metadata.ns.getD "" = other.metadata.ns.getD "" ∧
            ingress.metadata.name.getD "" = other.metadata.name.getD "" ∧
            place = otherPlace)) := by
  obtain ⟨config, lookup, registrar, hready⟩ := hvalue
  obtain ⟨_, _, _, hotherReady⟩ := hother
  refine ⟨nodup_names_of_ready hready, nodup_domains_of_ready hready,
    fun bucket host hhost => exists_holdsFor_of_ready hready bucket hhost, ?_⟩
  intro hslash hotherSlash bucket otherBucket place otherPlace host otherHost hholds hotherHolds
  have hname := name_of_holdsFor hready hholds
  have hotherName := name_of_holdsFor hotherReady hotherHolds
  have howner : ingress.owner = other.owner ↔
      ingress.metadata.ns.getD "" = other.metadata.ns.getD "" ∧
        ingress.metadata.name.getD "" = other.metadata.name.getD "" := ObjectName.ext_iff
  rw [hname, hotherName, ruleName_eq_iff hslash hotherSlash, howner, and_assoc]

/-! ### A shop with brackets in its name -/

/-- The shop in `guardedShop` under a name that looks like that of a virtual host. -/
def bracketedShop : Ingress :=
  { guardedShop with
    metadata := { guardedShop.metadata with name := some "web).Rules[1]" } }

theorem bracketedShop_told_apart :
    ∃ value otherValue : ProxyConfig,
      value.ResolvedFrom guardedShop ∧ otherValue.ResolvedFrom bracketedShop ∧
      value.internalVirtualHosts.map VirtualHost.name =
        ["(shop/web).Rules[0]", "(shop/web).Rules[1]"] ∧
      otherValue.internalVirtualHosts.map VirtualHost.name =
        ["(shop/web).Rules[1]).Rules[0]", "(shop/web).Rules[1]).Rules[1]"] ∧
      (∀ bucket : Bucket, ((bucket.hosts value).map VirtualHost.name).Nodup) ∧
      (∀ bucket : Bucket, ((bucket.hosts value).flatMap VirtualHost.domains).Nodup) ∧
      ∀ (bucket otherBucket : Bucket) (place otherPlace : Nat) (host otherHost : VirtualHost),
        bucket.HoldsFor guardedShop value place host →
        otherBucket.HoldsFor bracketedShop otherValue otherPlace otherHost →
        host.name ≠ otherHost.name := by
  obtain ⟨value, hready⟩ : ∃ value,
      (resolve guardedConfig idleServices .accepting guardedShop).result = .ok (.ready value) :=
    exists_ready_of_isReady (by decide +kernel)
  obtain ⟨otherValue, hotherReady⟩ : ∃ value,
      (resolve guardedConfig idleServices .accepting bracketedShop).result =
        .ok (.ready value) :=
    exists_ready_of_isReady (by decide +kernel)
  have hvalue : value.ResolvedFrom guardedShop := ⟨_, _, _, hready⟩
  have hother : otherValue.ResolvedFrom bracketedShop := ⟨_, _, _, hotherReady⟩
  obtain ⟨hnames, hdomains, _, hapart⟩ := hosts_told_apart hvalue hother
  refine ⟨value, otherValue, hvalue, hother, ?_, ?_, hnames, ?_, ?_⟩
  · rw [internal_of_ready hready]
    decide +kernel
  · rw [internal_of_ready hotherReady]
    decide +kernel
  · exact hdomains (by decide) (by decide)
  · intro bucket otherBucket place otherPlace host otherHost hholds hotherHolds hsame
    have hparts := (hapart (by decide) (by decide) bucket otherBucket place otherPlace
      host otherHost hholds hotherHolds).mp hsame
    exact absurd hparts.2.1 (by decide)

end EdgeRouting
