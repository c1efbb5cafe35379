import MetricRouter.Deployment
import MetricRouter.Proofs.Routing.Bindings

/-!
# Placing destinations

A deployment is seen as the list of its destinations with their patterns.

* `Deployment.Entry`, `Deployment.entries`, `Deployment.names`, `Deployment.destinations` — the view;
* `Deployment.Kept` — the invariant: names and serial numbers tell destinations apart, and inboxes are of destinations;
* `Deployment.Placed`, `Deployment.Refused`, `place_cases` — a destination is placed if its patterns compile, and else
  it is as if nothing happened;
* `Deployment.Removed`, `entries_removeOthers` — the destinations that a list does not name are removed;
* `kept_of_placed`, `kept_of_refused`, `kept_of_removed` — all this keeps the invariant.
-/

namespace MetricRouter

open Pattern (Compiles Group Matchers)

/-- Do all patterns compile? -/
def DestinationSettings.compiles (s : DestinationSettings) : Bool := s.patterns.all Compiles

namespace Deployment

/-! ## The view -/

/-- A destination with its patterns. -/
structure Entry where
  destination : Destination
  patterns : List String

namespace Entry

/-- The name of the destination. -/
def name (e : Entry) : String := e.destination.name

/-- The entry with the patterns that settings have for its name. -/
def refresh (s : DestinationSettings) (e : Entry) : Entry :=
  if e.name = s.name then { e with patterns := s.patterns.eraseDups } else e

@[simp] theorem destination_refresh (s : DestinationSettings) (e : Entry) :
    (e.refresh s).destination = e.destination := by
  unfold refresh
  split <;> rfl

@[simp] theorem name_refresh (s : DestinationSettings) (e : Entry) : (e.refresh s).name = e.name :=
  congrArg Destination.name (destination_refresh s e)

/-- The entry of a binding. -/
def ofBinding (b : Binding) : Entry := ⟨b.destination, b.patterns.members⟩

end Entry

/-- The destinations with their patterns, in order. -/
def entries (d : Deployment) : List Entry := d.pool.router.bindings.map Entry.ofBinding

/-- The destinations in order. -/
def destinations (d : Deployment) : List Destination := d.entries.map Entry.destination

/-- The names of the destinations in order. -/
def names (d : Deployment) : List String := d.entries.map Entry.name

/-- The matchers of all patterns. -/
def matchers (d : Deployment) : Matchers := d.pool.router.matchers

/-- **Names and serial numbers tell destinations apart**, later ones will have other serial numbers, inboxes are of
destinations, and the router keeps its bindings apart. -/
structure Kept (d : Deployment) : Prop where
  names : d.names.Nodup
  serials : (d.destinations.map Destination.serial).Nodup
  created : ∀ x ∈ d.destinations, x.serial < d.outlets.created
  inboxes : ∀ name, (d.inboxes.get? name).isSome → name ∈ d.names
  bound : d.pool.router.Bound

section View

variable {d : Deployment} {b : Binding}

theorem names_eq_destinations (d : Deployment) : d.names = d.pool.router.destinations := by
  rw [names, entries, List.map_map]
  rfl

/-- **To set the patterns of a binding is to set those of its name.** -/
theorem map_ofBinding_setGroup (h : d.Kept) (hb : b ∈ d.pool.router.bindings) {s : DestinationSettings}
    (hname : b.name = s.name) {g : Group} (hg : g.members = s.patterns.eraseDups) :
    (Router.setGroup b.serial g d.pool.router.bindings).map Entry.ofBinding =
      d.entries.map (Entry.refresh s) := by
  have hnames : d.pool.router.destinations.Nodup := names_eq_destinations d ▸ h.names
  rw [Router.setGroup_eq h.bound.numbered hnames hb, entries, List.map_map, List.map_map, hname]
  refine List.map_congr_left fun x _ => ?_
  show Entry.ofBinding (if x.name = s.name then { x with patterns := g } else x) = if x.name = s.name then _ else _
  split
  · rw [← hg]
    rfl
  · rfl

end View

/-! ## Placing -/

/-- The entries once a destination is placed among them: the one of its name has its patterns, and if there is none,
a new one stands at the end. -/
def placed (created : Nat) (s : DestinationSettings) (es : List Entry) : List Entry :=
  if s.name ∈ es.map Entry.name then es.map (Entry.refresh s)
  else es ++ [⟨⟨created, s.name⟩, s.patterns.eraseDups⟩]

/-- **A destination was placed.** -/
structure Placed (d : Deployment) (s : DestinationSettings) (d' : Deployment) : Prop where
  entries : d'.entries = placed d.outlets.created s d.entries
  created : d'.outlets.created = if s.name ∈ d.names then d.outlets.created else d.outlets.created + 1
  inboxes : ∀ name, (d'.inboxes.get? name).isSome → (d.inboxes.get? name).isSome ∨ name = s.name
  bound : d'.pool.router.Bound

/-- **A destination was not placed**, because a pattern does not compile. -/
structure Refused (d d' : Deployment) : Prop where
  entries : d'.entries = d.entries
  created : d.outlets.created ≤ d'.outlets.created
  inboxes : d'.inboxes = d.inboxes
  bound : d'.pool.router.Bound

section Place

variable {d d' : Deployment} {s : DestinationSettings} {b : Binding}

/-- How a destination is placed: it is if its patterns compile. -/
def PlaceCases (d : Deployment) (s : DestinationSettings) (result : Except Failure Unit × Deployment) : Prop :=
  (s.compiles = true ∧ result.1 = .ok () ∧ Placed d s result.2) ∨
    (s.compiles = false ∧ result.1 = .error .invalidPattern ∧ Refused d result.2)

theorem place_known (h : d.Kept) (hb : d.pool.router.binding? s.name = some b) : PlaceCases d s (d.place s) := by
  obtain ⟨hmem, hname⟩ := Router.mem_of_binding? hb
  have hknown : s.name ∈ d.names := names_eq_destinations d ▸ hname ▸ List.mem_map_of_mem hmem
  have hbound := Router.bound_setPatterns h.bound s.name s.patterns
  rw [place, if_pos (by rw [hb]; rfl), Pool.setPatterns]
  rcases Router.setPatterns_cases h.bound.compiled hb s.patterns with
    ⟨hall, g, ms, hmembers, -, hset⟩ | ⟨hall, ms, -, hset⟩
  · rw [hset] at hbound ⊢
    refine Or.inl ⟨hall, rfl, ?_, ?_, fun name h => Or.inl h, hbound⟩
    · rw [placed, ← names, if_pos hknown]
      exact map_ofBinding_setGroup h hmem hname hmembers
    · rw [if_pos hknown]
      rfl
  · rw [hset] at hbound ⊢
    exact Or.inr ⟨hall, rfl, rfl, Nat.le_refl _, rfl, hbound⟩

theorem place_new (h : d.Kept) (hb : d.pool.router.binding? s.name = none) : PlaceCases d s (d.place s) := by
  have hnew : s.name ∉ d.names := names_eq_destinations d ▸ Router.binding?_eq_none_iff.mp hb
  have hothers : Router.without s.name d.pool.router.bindings = d.pool.router.bindings := by
    refine List.filter_eq_self.mpr fun x hx => ?_
    rw [bne_iff_ne]
    exact fun hname => Router.binding?_eq_none_iff.mp hb (hname ▸ List.mem_map_of_mem hx)
  rw [place, if_neg (by rw [hb]; simp), add]
  simp only [Pool.register]
  have hfurnished : (d.withOutlets (d.outlets.create s.name (outlet s)).2).pool.router.Bound := h.bound.withWorld _
  have hbound := Router.bound_register hfurnished (d.outlets.create s.name (outlet s)).1 s.patterns
  rcases Router.register_cases hfurnished.compiled (d.outlets.create s.name (outlet s)).1 s.patterns with
    ⟨hall, g, ms, hmembers, -, hregister⟩ | ⟨hall, ms, -, hregister⟩
  · rw [hregister] at hbound ⊢
    have hentries : (Router.without s.name d.pool.router.bindings ++
        [(⟨d.pool.router.registrations, ⟨d.outlets.created, s.name⟩, g⟩ : Binding)]).map Entry.ofBinding =
          placed d.outlets.created s d.entries := by
      rw [hothers, List.map_append, placed, ← names, if_neg hnew, ← hmembers]
      rfl
    have hcreated : d.outlets.created + 1 = if s.name ∈ d.names then d.outlets.created else d.outlets.created + 1 :=
      (if_neg hnew).symm
    cases s.kind with
    | log => exact Or.inl ⟨hall, rfl, hentries, hcreated, fun name h => Or.inl h, hbound⟩
    | inbox =>
      refine Or.inl ⟨hall, rfl, hentries, hcreated, fun name h => ?_, hbound⟩
      simp only [Table.get?_insert] at h
      split at h
      · rename_i hname
        exact Or.inr hname.symm
      · exact Or.inl h
  · rw [hregister] at hbound ⊢
    exact Or.inr ⟨hall, rfl, rfl, Nat.le_succ _, rfl, hbound⟩

/-- **A destination is placed if its patterns compile**, and else it is as if nothing happened. -/
theorem place_cases (h : d.Kept) (s : DestinationSettings) : PlaceCases d s (d.place s) := by
  cases hb : d.pool.router.binding? s.name with
  | some b => exact place_known h hb
  | none => exact place_new h hb

theorem names_placed (created : Nat) (s : DestinationSettings) (es : List Entry) :
    (placed created s es).map Entry.name =
      if s.name ∈ es.map Entry.name then es.map Entry.name else es.map Entry.name ++ [s.name] := by
  unfold placed
  split
  · rw [List.map_map]
    exact List.map_congr_left fun e _ => Entry.name_refresh s e
  · rw [List.map_append]
    rfl

theorem destinations_placed (created : Nat) (s : DestinationSettings) (es : List Entry) :
    (placed created s es).map Entry.destination =
      if s.name ∈ es.map Entry.name then es.map Entry.destination
      else es.map Entry.destination ++ [⟨created, s.name⟩] := by
  unfold placed
  split
  · rw [List.map_map]
    exact List.map_congr_left fun e _ => Entry.destination_refresh s e
  · rw [List.map_append]
    rfl

theorem Placed.names (h : Placed d s d') :
    d'.names = if s.name ∈ d.names then d.names else d.names ++ [s.name] := by
  rw [Deployment.names, h.entries, names_placed]
  rfl

theorem Placed.destinations (h : Placed d s d') : d'.destinations =
    if s.name ∈ d.names then d.destinations else d.destinations ++ [⟨d.outlets.created, s.name⟩] := by
  rw [Deployment.destinations, h.entries, destinations_placed]
  rfl

theorem Placed.created_le (h : Placed d s d') : d.outlets.created ≤ d'.outlets.created := by
  rw [h.created]
  split
  · exact Nat.le_refl _
  · exact Nat.le_succ _

/-- **Placing keeps the invariant.** -/
theorem kept_of_placed (h : d.Kept) (hplaced : Placed d s d') : d'.Kept := by
  have hnames := hplaced.names
  have hdestinations := hplaced.destinations
  have hcreated := hplaced.created
  have hinboxes : ∀ name, (d'.inboxes.get? name).isSome → name ∈ d.names ∨ name = s.name :=
    fun name hname => (hplaced.inboxes name hname).imp_left (h.inboxes name)
  by_cases hknown : s.name ∈ d.names
  · rw [if_pos hknown] at hnames hdestinations hcreated
    refine ⟨hnames ▸ h.names, hdestinations ▸ h.serials, ?_, fun name hname => ?_, hplaced.bound⟩
    · rw [hdestinations, hcreated]
      exact h.created
    · rw [hnames]
      exact (hinboxes name hname).elim id fun he => he ▸ hknown
  · rw [if_neg hknown] at hnames hdestinations hcreated
    refine ⟨?_, ?_, ?_, fun name hname => ?_, hplaced.bound⟩
    · rw [hnames, ← List.concat_eq_append]
      exact h.names.concat hknown
    · rw [hdestinations, List.map_append]
      refine List.nodup_append.mpr ⟨h.serials, List.nodup_singleton _, fun n hn n' hn' => ?_⟩
      obtain ⟨x, hx, rfl⟩ := List.mem_map.mp hn
      rw [List.mem_singleton.mp hn']
      exact Nat.ne_of_lt (h.created x hx)
    · rw [hdestinations, hcreated]
      refine fun x hx => (List.mem_append.mp hx).elim (fun hx => Nat.lt_succ_of_lt (h.created x hx)) fun hx => ?_
      rw [List.mem_singleton.mp hx]
      exact Nat.lt_succ_self _
    · rw [hnames, List.mem_append, List.mem_singleton]
      exact hinboxes name hname

theorem kept_of_refused (h : d.Kept) (hrefused : Refused d d') : d'.Kept := by
  have hnames : d'.names = d.names := congrArg (List.map Entry.name) hrefused.entries
  have hdestinations : d'.destinations = d.destinations := congrArg (List.map Entry.destination) hrefused.entries
  refine ⟨hnames ▸ h.names, hdestinations ▸ h.serials, fun x hx => ?_, fun name hname => ?_, hrefused.bound⟩
  · rw [hdestinations] at hx
    exact (h.created x hx).trans_le hrefused.created
  · rw [hrefused.inboxes] at hname
    rw [hnames]
    exact h.inboxes name hname

theorem kept_place (h : d.Kept) (s : DestinationSettings) : (d.place s).2.Kept := by
  rcases place_cases h s with ⟨-, -, hplaced⟩ | ⟨-, -, hrefused⟩
  · exact kept_of_placed h hplaced
  · exact kept_of_refused h hrefused

end Place

/-! ## Removing -/

/-- **The destinations of some names were removed** with their inboxes. -/
structure Removed (d : Deployment) (gone : List String) (d' : Deployment) : Prop where
  entries : d'.entries = d.entries.filter (fun e => !gone.contains e.name)
  created : d'.outlets.created = d.outlets.created
  inboxes : ∀ name, d'.inboxes.get? name = if name ∈ gone then none else d.inboxes.get? name
  bound : d.pool.router.Bound → d'.pool.router.Bound

section Remove

variable {d d' d'' : Deployment} {gone gone' : List String}

theorem Removed.trans (h : Removed d gone d') (h' : Removed d' gone' d'') : Removed d (gone ++ gone') d'' where
  entries := by
    rw [h'.entries, h.entries, List.filter_filter]
    refine List.filter_congr fun e _ => ?_
    rw [List.contains_append, Bool.not_or, Bool.and_comm]
  created := h'.created.trans h.created
  inboxes := fun name => by
    rw [h'.inboxes, h.inboxes]
    by_cases hgone : name ∈ gone
    · simp [hgone]
    · simp [hgone]
  bound := h'.bound ∘ h.bound

theorem removed_remove (d : Deployment) (name : String) : Removed d [name] (d.remove name) := by
  have hentries : (Router.without name d.pool.router.bindings).map Entry.ofBinding =
      d.entries.filter (fun e => !([name] : List String).contains e.name) := by
    rw [entries, List.filter_map, Router.without]
    congr 1
    refine List.filter_congr fun b _ => ?_
    rw [Function.comp_apply, List.contains_cons, List.contains_nil, Bool.or_false]
    rfl
  have hclose (os : Outlets) (serial : Nat) : (os.close serial).created = os.created := by
    unfold Outlets.close
    split <;> rfl
  have hbound (h : d.pool.router.Bound) : (d.pool.router.unregister name).2.Bound := Router.bound_unregister h name
  unfold remove dropInbox
  simp only [Pool.unregister, Router.unregister] at hbound ⊢
  split
  · rename_i hnone
    refine ⟨hentries, rfl, fun x => ?_, hbound⟩
    simp only [List.mem_singleton]
    split
    · rename_i hx
      rw [hx]
      exact hnone
    · rfl
  · refine ⟨hentries, hclose _ _, fun x => ?_, fun h => (hbound h).withWorld _⟩
    simp only [withOutlets, Table.get?_erase, List.mem_singleton, eq_comm]

theorem removed_foldl (d : Deployment) (gone : List String) : Removed d gone (gone.foldl remove d) := by
  induction gone generalizing d with
  | nil => exact ⟨(List.filter_eq_self.mpr fun _ _ => rfl).symm, rfl, fun _ => rfl, id⟩
  | cons name rest ih => exact (removed_remove d name).trans (ih (d.remove name))

/-- **The destinations that a list does not name are removed**, and the others stay in their order. -/
theorem entries_removeOthers (d : Deployment) (wanted : List String) :
    (d.removeOthers wanted).entries = d.entries.filter (fun e => wanted.contains e.name) := by
  rw [removeOthers, (removed_foldl d _).entries]
  refine List.filter_congr fun e he => ?_
  have hmem : e.name ∈ d.pool.router.destinations := by
    rw [← names_eq_destinations]
    exact List.mem_map_of_mem he
  rw [Bool.eq_iff_iff]
  simp [hmem]

theorem kept_of_removed (h : d.Kept) (hremoved : Removed d gone d') : d'.Kept := by
  have hsub : d'.entries.Sublist d.entries := hremoved.entries ▸ List.filter_sublist
  refine ⟨h.names.sublist (hsub.map _), h.serials.sublist ((hsub.map _).map _), fun x hx => ?_, fun name hname => ?_,
    hremoved.bound h.bound⟩
  · rw [hremoved.created]
    exact h.created x ((hsub.map _).subset hx)
  · rw [hremoved.inboxes] at hname
    split at hname
    · exact absurd hname (by simp)
    · rename_i hgone
      obtain ⟨e, he, rfl⟩ := List.mem_map.mp (h.inboxes name hname)
      refine List.mem_map_of_mem ?_
      rw [hremoved.entries]
      exact List.mem_filter.mpr ⟨he, by simpa using hgone⟩

theorem kept_removeOthers (h : d.Kept) (wanted : List String) : (d.removeOthers wanted).Kept :=
  kept_of_removed h (removed_foldl d _)

theorem created_removeOthers (d : Deployment) (wanted : List String) :
    (d.removeOthers wanted).outlets.created = d.outlets.created :=
  (removed_foldl d _).created

end Remove

end Deployment

end MetricRouter
