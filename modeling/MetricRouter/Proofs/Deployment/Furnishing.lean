import MetricRouter.Proofs.Deployment.Tables

/-!
# The outlets that destinations have

A destination keeps the outlet with which it was added. A table that names it again gives it other patterns and nothing
else, so its kind and the room of its inbox are those of the first table of all that have named it without a break.

* `addedWith` — the settings with which the destination of a name was added;
* `Furnished` — the invariant: every destination has the outlet of these settings, and an inbox that can be taken;
* `outlets_place_known`, `outlets_place_new` — what placing a destination makes of the outlets and the inboxes;
* `furnished_remove`, `furnished_place`, `furnished_apply`, `furnished_after` — removing and placing, and whole tables,
  keep the invariant;
* `Follows`, `Furnished.follows_iff` — the outlets and inboxes that a table asks for, and when they are there;
* `outlets_after` — the main statement;
* `not_follows_of_changed_settings` — a table whose kinds and capacities are not followed.
-/

namespace MetricRouter

namespace DestinationSettings

/-- The settings of a name in a table. -/
def named? (table : List DestinationSettings) (name : String) : Option DestinationSettings :=
  table.find? (fun s => s.name == name)

/-- The settings with which the destination of a name was added: of the last tables, that name it without a break, the
first one tells. -/
def addedWith (tables : List (List DestinationSettings)) (name : String) : Option DestinationSettings :=
  tables.foldl (fun earlier table => (named? table name).map earlier.getD) none

variable {table : List DestinationSettings} {name : String}

theorem isSome_named?_iff : (named? table name).isSome ↔ name ∈ names table := by
  rw [named?, List.find?_isSome, names, List.mem_map]
  simp only [beq_iff_eq]

theorem addedWith_concat (tables : List (List DestinationSettings)) (table : List DestinationSettings)
    (name : String) :
    addedWith (tables ++ [table]) name = (named? table name).map (addedWith tables name).getD :=
  List.foldl_concat _ _ _ _

end DestinationSettings

namespace Deployment

open DestinationSettings (named? addedWith)

/-- **Every destination has the outlet of the settings with which it was added**, and its inbox, if it has one, can be
taken. -/
structure Furnished (d : Deployment) (added : String → Option DestinationSettings) : Prop where
  kept : d.Kept
  named : ∀ name, (added name).isSome → name ∈ d.names
  outlets : ∀ x ∈ d.destinations, ∃ s, added x.name = some s ∧ d.outlets.table.get? x.serial = some (outlet s) ∧
    d.inboxes.get? x.name = if s.kind = .inbox then some x.serial else none

section Furnished

variable {d d' : Deployment} {added : String → Option DestinationSettings} {s : DestinationSettings} {name : String}
  {gone : List String} {x : Destination}

theorem mem_names_iff : name ∈ d.names ↔ ∃ x ∈ d.destinations, x.name = name := by
  rw [names, destinations, List.mem_map]
  simp only [List.mem_map, exists_exists_and_eq_and]
  rfl

/-! ## Removing -/

theorem mem_destinations_of_removed (h : Removed d gone d') :
    x ∈ d'.destinations ↔ x ∈ d.destinations ∧ x.name ∉ gone := by
  rw [destinations, h.entries, destinations, List.mem_map, List.mem_map]
  constructor
  · rintro ⟨e, he, rfl⟩
    obtain ⟨hmem, hstays⟩ := List.mem_filter.mp he
    have hname : e.name ∉ gone := by simpa using hstays
    exact ⟨⟨e, hmem, rfl⟩, hname⟩
  · rintro ⟨⟨e, he, rfl⟩, hstays⟩
    have hname : e.name ∉ gone := hstays
    exact ⟨e, List.mem_filter.mpr ⟨he, by simpa using hname⟩, rfl⟩

theorem Furnished.serial_of_inbox (h : d.Furnished added) {serial : Nat} (hinbox : d.inboxes.get? name = some serial) :
    ∃ x ∈ d.destinations, x.name = name ∧ x.serial = serial := by
  obtain ⟨x, hx, rfl⟩ := mem_names_iff.mp (h.kept.inboxes name (Option.isSome_of_eq_some hinbox))
  obtain ⟨s, -, -, htaken⟩ := h.outlets x hx
  rw [hinbox] at htaken
  split at htaken
  · exact ⟨x, hx, rfl, (Option.some.inj htaken).symm⟩
  · exact absurd htaken (by simp)

theorem outlet_remove (h : d.Furnished added) (hx : x ∈ d.destinations) (hne : x.name ≠ name) :
    (d.remove name).outlets.table.get? x.serial = d.outlets.table.get? x.serial := by
  unfold remove dropInbox
  simp only [Pool.unregister, Router.unregister]
  split
  · rfl
  · rename_i serial hinbox
    obtain ⟨y, hy, rfl, rfl⟩ := h.serial_of_inbox hinbox
    have hserial : y.serial ≠ x.serial := fun hsame =>
      hne (congrArg Destination.name (List.inj_on_of_nodup_map h.kept.serials hx hy hsame.symm))
    simp only [withOutlets, outlets, Outlets.close]
    split
    · rfl
    · rw [Table.get?_insert, if_neg hserial]

theorem furnished_remove (h : d.Furnished added) (name : String) :
    (d.remove name).Furnished (fun n => if n = name then none else added n) where
  kept := kept_of_removed h.kept (removed_remove d name)
  named := fun n hn => by
    split at hn
    · exact absurd hn (by simp)
    · rename_i hne
      obtain ⟨x, hx, rfl⟩ := mem_names_iff.mp (h.named n hn)
      have hstays : x ∈ (d.remove name).destinations :=
        (mem_destinations_of_removed (removed_remove d name)).mpr ⟨hx, by simpa using hne⟩
      exact mem_names_iff.mpr ⟨x, hstays, rfl⟩
  outlets := fun x hx => by
    obtain ⟨hmem, hstays⟩ := (mem_destinations_of_removed (removed_remove d name)).mp hx
    have hne : x.name ≠ name := by simpa using hstays
    obtain ⟨s, hs, houtlet, hinbox⟩ := h.outlets x hmem
    refine ⟨s, by rw [if_neg hne, hs], ?_, ?_⟩
    · rw [outlet_remove h hmem hne, houtlet]
    · rw [(removed_remove d name).inboxes, if_neg hstays, hinbox]

theorem furnished_foldl_remove (h : d.Furnished added) (gone : List String) :
    (gone.foldl remove d).Furnished (fun n => if n ∈ gone then none else added n) := by
  induction gone generalizing d added with
  | nil => simpa using h
  | cons name rest ih =>
    have hrest := ih (furnished_remove h name)
    have hsame : (fun n => if n ∈ rest then none else if n = name then none else added n) =
        fun n => if n ∈ name :: rest then none else added n := by
      funext n
      by_cases hn : n = name <;> by_cases hrest : n ∈ rest <;> simp [hn, hrest]
    rw [hsame] at hrest
    exact hrest

/-- **What a table does not name is removed**, and the others keep their outlets. -/
theorem furnished_removeOthers (h : d.Furnished added) (wanted : List String) :
    (d.removeOthers wanted).Furnished (fun n => if n ∈ wanted then added n else none) := by
  have hremoved := furnished_foldl_remove h (d.pool.router.destinations.filter fun name => !wanted.contains name)
  rw [← removeOthers] at hremoved
  refine ⟨hremoved.kept, fun n hn => hremoved.named n ?_, fun x hx => ?_⟩
  · split at hn
    · rename_i hwanted
      rw [if_neg (by simp [hwanted])]
      exact hn
    · exact absurd hn (by simp)
  · obtain ⟨s, hs, hrest⟩ := hremoved.outlets x hx
    refine ⟨s, ?_, hrest⟩
    split at hs
    · exact absurd hs (by simp)
    · rename_i hstays
      have hmem : x.name ∈ d.pool.router.destinations :=
        names_eq_destinations d ▸ h.named _ (Option.isSome_of_eq_some hs)
      rw [if_pos (by simpa [hmem] using hstays), hs]

/-! ## Placing -/

theorem outlets_place_known (h : d.Kept) (hknown : s.name ∈ d.names) :
    (d.place s).2.outlets = d.outlets ∧ (d.place s).2.inboxes = d.inboxes := by
  obtain ⟨b, hb⟩ := Router.exists_binding? (names_eq_destinations d ▸ hknown)
  rw [place, if_pos (by rw [hb]; rfl), Pool.setPatterns]
  rcases Router.setPatterns_cases h.bound.compiled hb s.patterns with ⟨-, g, ms, -, -, hset⟩ | ⟨-, ms, -, hset⟩ <;>
  · rw [hset]
    exact ⟨rfl, rfl⟩

theorem outlets_place_new (h : d.Kept) (hnew : s.name ∉ d.names) (hok : (d.place s).1 = .ok ()) :
    (d.place s).2.outlets = (d.outlets.create s.name (outlet s)).2 ∧
      (d.place s).2.inboxes =
        if s.kind = .inbox then d.inboxes.insert s.name d.outlets.created else d.inboxes := by
  have hnone : d.pool.router.binding? s.name = none :=
    Router.binding?_eq_none_iff.mpr (names_eq_destinations d ▸ hnew)
  rw [place, if_neg (by rw [hnone]; simp), add] at hok ⊢
  simp only [Pool.register] at hok ⊢
  rcases Router.register_cases (r := (d.withOutlets (d.outlets.create s.name (outlet s)).2).pool.router) h.bound.compiled
    (d.outlets.create s.name (outlet s)).1 s.patterns with ⟨-, g, ms, -, -, hregister⟩ | ⟨-, ms, -, hregister⟩
  · rw [hregister]
    cases s.kind <;> exact ⟨rfl, rfl⟩
  · rw [hregister] at hok
    exact absurd hok (by simp)

/-- **A destination that is placed keeps its outlet**, or has the one that the settings ask for if it is new. -/
theorem furnished_place (h : d.Furnished added) (hok : (d.place s).1 = .ok ()) :
    (d.place s).2.Furnished (fun n => if n = s.name then some ((added n).getD s) else added n) := by
  have hplaced : Placed d s (d.place s).2 := by
    rcases place_cases h.kept s with ⟨-, -, hplaced⟩ | ⟨-, herror, -⟩
    · exact hplaced
    · rw [hok] at herror
      exact absurd herror (by simp)
  have hnames := hplaced.names
  have hdestinations := hplaced.destinations
  by_cases hknown : s.name ∈ d.names
  · rw [if_pos hknown] at hnames hdestinations
    obtain ⟨houtlets, hinboxes⟩ := outlets_place_known h.kept hknown
    refine ⟨kept_of_placed h.kept hplaced, fun n hn => ?_, fun x hx => ?_⟩
    · rw [hnames]
      split at hn
      · rename_i hsame
        exact hsame ▸ hknown
      · exact h.named n hn
    · rw [hdestinations] at hx
      obtain ⟨t, ht, hoften⟩ := h.outlets x hx
      rw [houtlets, hinboxes]
      refine ⟨t, ?_, hoften⟩
      split
      · rw [ht, Option.getD_some]
      · exact ht
  · rw [if_neg hknown] at hnames hdestinations
    obtain ⟨houtlets, hinboxes⟩ := outlets_place_new h.kept hknown hok
    refine ⟨kept_of_placed h.kept hplaced, fun n hn => ?_, fun x hx => ?_⟩
    · rw [hnames, List.mem_append, List.mem_singleton]
      split at hn
      · rename_i hsame
        exact Or.inr hsame
      · exact Or.inl (h.named n hn)
    · rw [hdestinations] at hx
      rw [houtlets, hinboxes]
      rcases List.mem_append.mp hx with hx | hx
      · have hne : s.name ≠ x.name := fun hsame => hknown (hsame ▸ mem_names_iff.mpr ⟨x, hx, rfl⟩)
        obtain ⟨t, ht, houtlet, hinbox⟩ := h.outlets x hx
        refine ⟨t, by rw [if_neg hne.symm, ht], ?_, ?_⟩
        · rw [Outlets.create, Table.get?_insert, if_neg (Nat.ne_of_gt (h.kept.created x hx)), houtlet]
        · rw [← hinbox]
          split
          · rw [Table.get?_insert, if_neg hne]
          · rfl
      · obtain rfl := List.mem_singleton.mp hx
        have hfresh : added s.name = none :=
          Option.not_isSome_iff_eq_none.mp fun hsome => hknown (h.named _ hsome)
        have hvacant : d.inboxes.get? s.name = none :=
          Option.not_isSome_iff_eq_none.mp fun hsome => hknown (h.kept.inboxes _ hsome)
        refine ⟨s, by rw [if_pos rfl, hfresh, Option.getD_none], ?_, ?_⟩
        · rw [Outlets.create, Table.get?_insert, if_pos rfl]
        · split
          · rw [Table.get?_insert, if_pos rfl]
          · exact hvacant

theorem furnished_placeAll (h : d.Furnished added) {table : List DestinationSettings}
    (hok : (d.placeAll table).1 = .ok ()) :
    (d.placeAll table).2.Furnished (fun n => (added n).or (named? table n)) := by
  induction table generalizing d added with
  | nil => simpa [named?, placeAll] using h
  | cons s rest ih =>
    rcases place_cases h.kept s with ⟨-, hplace, -⟩ | ⟨-, herror, -⟩
    · rw [placeAll_of_ok hplace] at hok ⊢
      have hrest := ih (furnished_place h hplace) hok
      have hsame : (fun n => (if n = s.name then some ((added n).getD s) else added n).or (named? rest n)) =
          fun n => (added n).or (named? (s :: rest) n) := by
        funext n
        rw [named?, named?, List.find?_cons]
        by_cases hn : n = s.name
        · cases added n <;> simp [hn]
        · rw [if_neg hn, beq_eq_false_iff_ne.mpr (Ne.symm hn)]
      rw [hsame] at hrest
      exact hrest
    · rw [placeAll_of_error herror] at hok
      exact absurd hok (by simp)

/-! ## Tables -/

/-- **A table keeps the outlets of the destinations that it names.** -/
theorem furnished_apply (h : d.Furnished added) {table : List DestinationSettings}
    (hok : (d.apply table).1 = .ok ()) :
    (d.apply table).2.Furnished (fun n => (named? table n).map (added n).getD) := by
  have hplaced := furnished_placeAll (furnished_removeOthers h (DestinationSettings.names table)) hok
  have hsame : (fun n => (if n ∈ DestinationSettings.names table then added n else none).or (named? table n)) =
      fun n => (named? table n).map (added n).getD := by
    funext n
    by_cases hn : n ∈ DestinationSettings.names table
    · obtain ⟨s, hs⟩ := Option.isSome_iff_exists.mp (DestinationSettings.isSome_named?_iff.mpr hn)
      rw [if_pos hn, hs]
      cases added n <;> rfl
    · have hs : named? table n = none :=
        Option.not_isSome_iff_eq_none.mp fun hsome => hn (DestinationSettings.isSome_named?_iff.mp hsome)
      rw [if_neg hn, hs]
      rfl
  rw [hsame] at hplaced
  exact hplaced

theorem Empty.furnished (h : d.Empty) : d.Furnished (addedWith []) where
  kept := h.kept
  named := fun _ hn => absurd hn (by simp [addedWith])
  outlets := fun x hx => absurd hx (by simp [destinations, h.entries])

/-- **Every destination has the outlet with which it was added**, after any tables that can be applied. -/
theorem furnished_after (h : d.Empty) {tables : List (List DestinationSettings)}
    (hok : ∀ r ∈ Run.answers apply d tables, r = .ok ()) :
    (Run.after apply d tables).Furnished (addedWith tables) := by
  induction tables using List.reverseRecOn with
  | nil => exact h.furnished
  | append_singleton earlier table ih =>
    rw [Run.answers_append] at hok
    obtain ⟨hearlier, htable⟩ := List.forall_mem_append.mp hok
    have hlast := furnished_apply (ih hearlier) (htable _ List.mem_cons_self)
    have hsame : addedWith (earlier ++ [table]) = fun n => (named? table n).map (addedWith earlier n).getD :=
      funext (DestinationSettings.addedWith_concat earlier table)
    rw [Run.after_concat, hsame]
    exact hlast

end Furnished

section Follows

variable {d : Deployment} {added : String → Option DestinationSettings} {name : String}
  {tables : List (List DestinationSettings)} {table last : List DestinationSettings}

/-- **The outlets and the inboxes are those that a table asks for.** Every destination has the outlet of the settings
that the table has for its name, and an inbox can be taken for the names of inboxes in the table. -/
structure Follows (d : Deployment) (table : List DestinationSettings) : Prop where
  outlets : ∀ x ∈ d.destinations, ∃ s ∈ table, s.name = x.name ∧ d.outlets.table.get? x.serial = some (outlet s)
  inboxes : ∀ name, (d.inboxes.get? name).isSome ↔ ∃ s ∈ table, s.name = name ∧ s.kind = .inbox

/-- Settings ask for the same outlet if they agree in the kind, and for inboxes in the capacity. -/
theorem outlet_eq_iff {s t : DestinationSettings} :
    outlet s = outlet t ↔ s.kind = t.kind ∧ (s.kind = .inbox → s.inboxCapacity = t.inboxCapacity) := by
  unfold outlet
  cases s.kind <;> cases t.kind <;> simp [Inbox.create]

theorem Furnished.isSome_iff (h : d.Furnished added) : (added name).isSome ↔ name ∈ d.names := by
  refine ⟨h.named name, fun hname => ?_⟩
  obtain ⟨x, hx, rfl⟩ := mem_names_iff.mp hname
  obtain ⟨s, hs, -⟩ := h.outlets x hx
  exact Option.isSome_of_eq_some hs

theorem Furnished.inbox_iff (h : d.Furnished added) {serial : Nat} :
    d.inboxes.get? name = some serial ↔
      ⟨serial, name⟩ ∈ d.destinations ∧ ∃ s, added name = some s ∧ s.kind = .inbox := by
  constructor
  · intro hinbox
    obtain ⟨x, hx, rfl, rfl⟩ := h.serial_of_inbox hinbox
    obtain ⟨s, hs, -, htaken⟩ := h.outlets x hx
    refine ⟨hx, s, hs, ?_⟩
    by_contra hkind
    rw [hinbox, if_neg hkind] at htaken
    exact absurd htaken (by simp)
  · rintro ⟨hx, s, hs, hkind⟩
    obtain ⟨t, ht, -, htaken⟩ := h.outlets _ hx
    rw [htaken, ← Option.some.inj (hs.symm.trans ht), if_pos hkind]

/-- **A table is followed if its destinations were added with settings of the same kinds and capacities.** -/
theorem Furnished.follows_iff (h : d.Furnished added) (hnodup : (DestinationSettings.names table).Nodup)
    (hnames : ∀ name, (added name).isSome ↔ name ∈ DestinationSettings.names table) :
    d.Follows table ↔ ∀ s ∈ table, ∀ first, added s.name = some first →
      first.kind = s.kind ∧ (first.kind = .inbox → first.inboxCapacity = s.inboxCapacity) := by
  refine ⟨fun hfollows s hs first hfirst => ?_, fun hsame => ⟨fun x hx => ?_, fun name => ?_⟩⟩
  · obtain ⟨x, hx, hname⟩ := mem_names_iff.mp (h.named s.name (Option.isSome_of_eq_some hfirst))
    obtain ⟨added', hadded, houtlet, -⟩ := h.outlets x hx
    obtain ⟨t, ht, htname, hasked⟩ := hfollows.outlets x hx
    obtain rfl := List.inj_on_of_nodup_map hnodup ht hs (htname.trans hname)
    rw [hname, hfirst] at hadded
    rw [houtlet, ← Option.some.inj hadded] at hasked
    exact outlet_eq_iff.mp (Option.some.inj hasked)
  · obtain ⟨first, hfirst, houtlet, -⟩ := h.outlets x hx
    obtain ⟨s, hs, hname⟩ := List.mem_map.mp ((hnames x.name).mp (Option.isSome_of_eq_some hfirst))
    refine ⟨s, hs, hname, ?_⟩
    rw [houtlet, outlet_eq_iff.mpr (hsame s hs first (hname ▸ hfirst))]
  · constructor
    · intro hinbox
      obtain ⟨serial, hserial⟩ := Option.isSome_iff_exists.mp hinbox
      obtain ⟨-, first, hfirst, hkind⟩ := h.inbox_iff.mp hserial
      obtain ⟨s, hs, rfl⟩ := List.mem_map.mp ((hnames name).mp (Option.isSome_of_eq_some hfirst))
      exact ⟨s, hs, rfl, (hsame s hs first hfirst).1 ▸ hkind⟩
    · rintro ⟨s, hs, rfl, hkind⟩
      obtain ⟨first, hfirst⟩ := Option.isSome_iff_exists.mp ((hnames s.name).mpr (List.mem_map_of_mem hs))
      obtain ⟨⟨serial, n⟩, hx, rfl⟩ := mem_names_iff.mp (h.named s.name (Option.isSome_of_eq_some hfirst))
      exact Option.isSome_of_eq_some (h.inbox_iff.mpr ⟨hx, first, hfirst, (hsame s hs first hfirst).1.trans hkind⟩)

/-- **A destination keeps the kind and the capacity with which it was added.** A deployment is empty at first, no inbox
is taken, and all tables are sound and can be applied. After them, the destinations are those that the last table
names, and each has the outlet of the settings with which it was added: the first ones, of the last tables that name
it without a break. An inbox can be taken exactly for the destinations that were added as inboxes. So the kinds, the
capacities and the inboxes are those of the last table exactly if the settings with which its destinations were
added have the same kinds and capacities. -/
theorem outlets_after (hd : d.Empty)
    (hsound : ∀ t ∈ tables ++ [last], DestinationSettings.checkAll [] t = .ok ())
    (hok : ∀ r ∈ Run.answers apply d (tables ++ [last]), r = .ok ()) :
    let after := Run.after apply d (tables ++ [last])
    let added := addedWith (tables ++ [last])
    (∀ name, (added name).isSome ↔ name ∈ DestinationSettings.names last) ∧
    (∀ name, name ∈ after.names ↔ name ∈ DestinationSettings.names last) ∧
    (∀ x ∈ after.destinations, ∃ s, added x.name = some s ∧ after.outlets.table.get? x.serial = some (outlet s)) ∧
    (∀ name serial, after.inboxes.get? name = some serial ↔
      ⟨serial, name⟩ ∈ after.destinations ∧ ∃ s, added name = some s ∧ s.kind = .inbox) ∧
    (after.Follows last ↔ ∀ s ∈ last, ∀ first, added s.name = some first →
      first.kind = s.kind ∧ (first.kind = .inbox → first.inboxCapacity = s.inboxCapacity)) := by
  intro after added
  have hfurnished : after.Furnished added := furnished_after hd hok
  have hadded : ∀ name, (added name).isSome ↔ name ∈ DestinationSettings.names last := fun name => by
    rw [show added name = _ from DestinationSettings.addedWith_concat tables last name, Option.isSome_map,
      DestinationSettings.isSome_named?_iff]
  have hnodup : (DestinationSettings.names last).Nodup :=
    (DestinationSettings.nodup_of_checkAll (hsound last (List.mem_append_right _ (List.mem_singleton_self last)))).1
  refine ⟨hadded, fun name => ?_, fun x hx => ?_, fun _ _ => hfurnished.inbox_iff,
    hfurnished.follows_iff hnodup hadded⟩
  · rw [← hadded, hfurnished.isSome_iff]
  · obtain ⟨s, hs, houtlet, -⟩ := hfurnished.outlets x hx
    exact ⟨s, hs, houtlet⟩

/-- Three tables: `feed` has another kind in the last one, `wide` has room for more, and `back` goes, and comes back as
an inbox. Only `back` is as the last table says. -/
theorem outlets_after_of_three_tables :
    let d : Deployment := ⟨.create (Router.create .empty) 1 1, .empty⟩
    let feed (kind : DestinationKind) : DestinationSettings := { name := "feed", kind := kind, patterns := ["h1/.*"] }
    let wide (room : Nat) : DestinationSettings :=
      { name := "wide", kind := .inbox, patterns := ["h2/.*"], inboxCapacity := room }
    let back (kind : DestinationKind) : DestinationSettings := { name := "back", kind := kind, patterns := ["h3/.*"] }
    let tables := [[feed .inbox, back .log, wide 4], [wide 4, feed .inbox]]
    let last := [feed .log, back .inbox, wide 8]
    let after := Run.after apply d (tables ++ [last])
    (∀ t ∈ tables ++ [last], DestinationSettings.checkAll [] t = .ok ()) ∧
      (∀ r ∈ Run.answers apply d (tables ++ [last]), r = .ok ()) ∧
      after.destinations = [⟨0, "feed"⟩, ⟨2, "wide"⟩, ⟨3, "back"⟩] ∧
      after.outlets.table.get? 0 = some (outlet (feed .inbox)) ∧
      after.outlets.table.get? 2 = some (outlet (wide 4)) ∧
      after.outlets.table.get? 3 = some (outlet (back .inbox)) ∧
      after.inboxes.get? "feed" = some 0 ∧ after.inboxes.get? "wide" = some 2 ∧ after.inboxes.get? "back" = some 3 ∧
      ¬ after.Follows last := by
  intro d feed wide back tables last after
  have hd : d.Empty := ⟨rfl, rfl, Pattern.Matchers.compiled_empty⟩
  have hsound : ∀ t ∈ tables ++ [last], DestinationSettings.checkAll [] t = .ok () := by decide +kernel
  have hok : ∀ r ∈ Run.answers apply d (tables ++ [last]), r = .ok () := by decide +kernel
  have hdestinations : after.destinations = [⟨0, "feed"⟩, ⟨2, "wide"⟩, ⟨3, "back"⟩] := by decide +kernel
  have hadded : ∀ s ∈ [feed .inbox, wide 4, back .inbox], addedWith (tables ++ [last]) s.name = some s := by
    decide +kernel
  obtain ⟨-, -, houtlets, hinboxes, hfollows⟩ := outlets_after hd hsound hok
  have houtlet : ∀ s ∈ [feed .inbox, wide 4, back .inbox], ∀ serial, ⟨serial, s.name⟩ ∈ after.destinations →
      after.outlets.table.get? serial = some (outlet s) := fun s hs serial hx => by
    obtain ⟨t, ht, houtlet⟩ := houtlets _ hx
    rw [houtlet, ← Option.some.inj ((hadded s hs).symm.trans ht)]
  have hinbox : ∀ s ∈ [feed .inbox, wide 4, back .inbox], ∀ serial, ⟨serial, s.name⟩ ∈ after.destinations →
      s.kind = .inbox → after.inboxes.get? s.name = some serial := fun s hs serial hx hkind =>
    (hinboxes _ _).mpr ⟨hx, s, hadded s hs, hkind⟩
  refine ⟨hsound, hok, hdestinations, houtlet (feed .inbox) (by decide) 0 (by decide +kernel),
    houtlet (wide 4) (by decide) 2 (by decide +kernel), houtlet (back .inbox) (by decide) 3 (by decide +kernel),
    hinbox (feed .inbox) (by decide) 0 (by decide +kernel) rfl, hinbox (wide 4) (by decide) 2 (by decide +kernel) rfl,
    hinbox (back .inbox) (by decide) 3 (by decide +kernel) rfl, fun hall => ?_⟩
  have hkind := (hfollows.mp hall (feed .log) (by decide) (feed .inbox) (hadded (feed .inbox) (by decide))).1
  exact absurd hkind (by decide)

/-- The last table wants `feed` to write to the log, `web` to have an inbox, and `wide` to have room for 8 samples. The
inbox of `feed` can be taken still, `web` has none, and `wide` has room for 4. -/
theorem not_follows_of_changed_settings :
    let d : Deployment := ⟨.create (Router.create .empty) 1 1, .empty⟩
    let table (feed web : DestinationKind) (room : Nat) : List DestinationSettings :=
      [{ name := "feed", kind := feed, patterns := [".*"] }, { name := "web", kind := web, patterns := [".*"] },
        { name := "wide", kind := .inbox, patterns := [".*"], inboxCapacity := room }]
    let tables := [table .inbox .log 4, table .log .inbox 8]
    let after := Run.after apply d tables
    (∀ t ∈ tables, DestinationSettings.checkAll [] t = .ok ()) ∧ (∀ r ∈ Run.answers apply d tables, r = .ok ()) ∧
      after.destinations = [⟨0, "feed"⟩, ⟨1, "web"⟩, ⟨2, "wide"⟩] ∧
      [0, 1, 2].map (fun serial => (after.outlets.inbox? serial).map Inbox.capacity) = [some 1024, none, some 4] ∧
      ["feed", "web", "wide"].map after.inboxes.get? = [some 0, none, some 2] ∧
      ¬ after.Follows (table .log .inbox 8) := by
  intro d table tables after
  have hinboxes : ["feed", "web", "wide"].map after.inboxes.get? = [some 0, none, some 2] := by decide +kernel
  refine ⟨by decide +kernel, by decide +kernel, by decide +kernel, by decide +kernel, hinboxes, fun h => ?_⟩
  have hasked : ∃ s ∈ table .log .inbox 8, s.name = "web" ∧ s.kind = .inbox := by decide
  have hweb := (h.inboxes "web").mpr hasked
  have hnone : after.inboxes.get? "web" = none := by decide +kernel
  rw [hnone] at hweb
  exact absurd hweb (by simp)

end Follows

end Deployment

end MetricRouter
