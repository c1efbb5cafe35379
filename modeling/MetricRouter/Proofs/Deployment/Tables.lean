import MetricRouter.Proofs.Deployment.Placing
import MetricRouter.Proofs.Run
import MetricRouter.Settings.Validation

/-!
# Tables of destinations

A table is a list of destinations that settings want. Whatever tables a deployment followed before, after a sound one
it has the destinations that a fresh deployment would have.

* `Entry.refreshAll`, `entries_placeAll` — what becomes of the entries when a table is placed;
* `apply_fst` — a table can be applied if all of its patterns compile;
* `perm_listed_apply`, `destinations_apply` — what one table makes of a deployment;
* `kept_after`, `mem_destinations_after` — the invariant, and destinations that all tables name, after many tables;
* `listed_after` — the main statement.
-/

namespace MetricRouter

namespace DestinationSettings

/-- What is listed of a destination that settings want: its name and its patterns, each of them once. -/
def listing (s : DestinationSettings) : String × List String := (s.name, s.patterns.eraseDups)

/-- The names in a table. -/
def names (table : List DestinationSettings) : List String := table.map name

theorem nodup_of_checkAll {taken : List String} {table : List DestinationSettings}
    (h : checkAll taken table = .ok ()) : (names table).Nodup ∧ ∀ n ∈ names table, n ∉ taken := by
  induction table generalizing taken with
  | nil => exact ⟨List.nodup_nil, fun _ hn => absurd hn List.not_mem_nil⟩
  | cons s rest ih =>
    unfold checkAll at h
    split at h
    · exact absurd h (by simp)
    · rename_i hcheck
      obtain ⟨hnodup, hfree⟩ := ih h
      have hs : s.name ∉ taken := by
        intro hmem
        unfold check at hcheck
        split at hcheck
        · exact absurd hcheck (by simp)
        · simp [hmem] at hcheck
      refine ⟨List.nodup_cons.mpr ⟨fun hmem => hfree s.name hmem List.mem_cons_self, hnodup⟩, fun n hn => ?_⟩
      rcases List.mem_cons.mp hn with rfl | hn
      · exact hs
      · exact fun hmem => hfree n hn (List.mem_cons_of_mem _ hmem)

end DestinationSettings

namespace Deployment

open DestinationSettings (listing)

/-! ## Placing a table -/

namespace Entry

/-- What is listed of a destination: its name and its patterns. -/
def listing (e : Entry) : String × List String := (e.name, e.patterns)

/-- The entry with the patterns that a table has for its name. -/
def refreshAll (table : List DestinationSettings) (e : Entry) : Entry := table.foldl (fun e s => e.refresh s) e

variable {table : List DestinationSettings} {s : DestinationSettings} {e : Entry}

@[simp] theorem destination_refreshAll (table : List DestinationSettings) (e : Entry) :
    (e.refreshAll table).destination = e.destination := by
  induction table generalizing e with
  | nil => rfl
  | cons s rest ih => exact (ih (e.refresh s)).trans (destination_refresh s e)

theorem refreshAll_of_not_mem (h : e.name ∉ DestinationSettings.names table) : e.refreshAll table = e := by
  induction table with
  | nil => rfl
  | cons s rest ih =>
    have hsame : e.refresh s = e := if_neg fun hname => h (List.mem_cons.mpr (Or.inl hname))
    show refreshAll rest (e.refresh s) = e
    rw [hsame]
    exact ih fun hrest => h (List.mem_cons_of_mem _ hrest)

theorem listing_refreshAll (hnodup : (DestinationSettings.names table).Nodup) (hs : s ∈ table)
    (hname : e.name = s.name) : (e.refreshAll table).listing = s.listing := by
  induction table generalizing e with
  | nil => exact absurd hs List.not_mem_nil
  | cons first rest ih =>
    obtain ⟨hfirst, hrest⟩ := List.nodup_cons.mp hnodup
    show (refreshAll rest (e.refresh first)).listing = s.listing
    rcases List.mem_cons.mp hs with rfl | hs
    · -- the rest of the table does not have the name again
      rw [refreshAll_of_not_mem (by rw [name_refresh, hname]; exact hfirst), refresh, if_pos hname]
      exact congrArg (·, s.patterns.eraseDups) hname
    · exact ih hrest hs ((name_refresh first e).trans hname)

end Entry

/-- What a deployment lists: the names of its destinations and their patterns. -/
def listed (d : Deployment) : List (String × List String) := d.entries.map Entry.listing

section Table

variable {d : Deployment} {table : List DestinationSettings} {s : DestinationSettings}

theorem placeAll_of_ok (hok : (d.place s).1 = .ok ()) (rest : List DestinationSettings) :
    d.placeAll (s :: rest) = (d.place s).2.placeAll rest := by
  rw [placeAll]
  generalize d.place s = r at hok
  obtain ⟨result, d'⟩ := r
  rw [show result = .ok () from hok]

theorem placeAll_of_error {e : Failure} (herror : (d.place s).1 = .error e) (rest : List DestinationSettings) :
    d.placeAll (s :: rest) = (.error e, (d.place s).2) := by
  rw [placeAll]
  generalize d.place s = r at herror
  obtain ⟨result, d'⟩ := r
  rw [show result = .error e from herror]

/-- **A table can be placed if all of its patterns compile.** -/
theorem placeAll_fst (h : d.Kept) (table : List DestinationSettings) :
    (d.placeAll table).2.Kept ∧ (d.placeAll table).1 =
      if table.all DestinationSettings.compiles then .ok () else .error .invalidPattern := by
  induction table generalizing d with
  | nil => exact ⟨h, rfl⟩
  | cons s rest ih =>
    have hkept := kept_place h s
    rcases place_cases h s with ⟨hall, hok, -⟩ | ⟨hall, herror, -⟩
    · rw [placeAll_of_ok hok, List.all_cons, hall, Bool.true_and]
      exact ih hkept
    · rw [placeAll_of_error herror, List.all_cons, hall, Bool.false_and]
      exact ⟨hkept, rfl⟩

theorem placed_of_place (h : d.Kept) (hs : s.compiles = true) : Placed d s (d.place s).2 ∧ (d.place s).1 = .ok () := by
  rcases place_cases h s with ⟨-, hok, hplaced⟩ | ⟨hno, -, -⟩
  · exact ⟨hplaced, hok⟩
  · rw [hs] at hno
    exact absurd hno (by simp)

/-- **What becomes of the entries when a table is placed**: they get the patterns of their names, and the names that
are missing follow in the order of the table. -/
theorem entries_placeAll (h : d.Kept) (hnodup : (DestinationSettings.names table).Nodup)
    (hall : table.all DestinationSettings.compiles = true) : ∃ added : List Entry,
      (d.placeAll table).2.entries = d.entries.map (Entry.refreshAll table) ++ added ∧
      added.map Entry.listing = (table.filter (fun s => !d.names.contains s.name)).map listing ∧
      ∀ e ∈ added, d.outlets.created ≤ e.destination.serial := by
  induction table generalizing d with
  | nil =>
    refine ⟨[], ?_, rfl, fun e he => absurd he List.not_mem_nil⟩
    rw [List.append_nil]
    exact (List.map_id _).symm
  | cons s rest ih =>
    rw [List.all_cons, Bool.and_eq_true] at hall
    obtain ⟨hs, hrest⟩ := List.nodup_cons.mp hnodup
    obtain ⟨hplaced, hok⟩ := placed_of_place h hall.1
    obtain ⟨added, hentries, hlisted, hserials⟩ := ih (kept_place h s) hrest hall.2
    have hnames := hplaced.names
    have hcreated := hplaced.created_le
    rw [hplaced.entries, placed, ← names] at hentries
    rw [placeAll_of_ok hok]
    by_cases hknown : s.name ∈ d.names
    · refine ⟨added, ?_, ?_, fun e he => hcreated.trans (hserials e he)⟩
      · rw [hentries, if_pos hknown, List.map_map]
        rfl
      · rw [hlisted, hnames, if_pos hknown, List.filter_cons_of_neg (by simpa using hknown)]
    · refine ⟨⟨⟨d.outlets.created, s.name⟩, s.patterns.eraseDups⟩ :: added, ?_, ?_, fun e he => ?_⟩
      · -- neither the old entries nor the new one come again in the rest
        have hold : d.entries.map (Entry.refreshAll (s :: rest)) = d.entries.map (Entry.refreshAll rest) :=
          List.map_congr_left fun e he => by
            have hne : e.name ≠ s.name := fun hname => hknown (hname ▸ List.mem_map_of_mem he)
            show Entry.refreshAll rest (e.refresh s) = _
            rw [Entry.refresh, if_neg hne]
        have hnew : Entry.refreshAll rest ⟨⟨d.outlets.created, s.name⟩, s.patterns.eraseDups⟩ =
            ⟨⟨d.outlets.created, s.name⟩, s.patterns.eraseDups⟩ := Entry.refreshAll_of_not_mem hs
        rw [hentries, if_neg hknown, List.map_append, List.append_assoc, hold, List.map_singleton, hnew]
        rfl
      · have hfilter : rest.filter (fun x => !(d.place s).2.names.contains x.name) =
            rest.filter (fun x => !d.names.contains x.name) := List.filter_congr fun x hx => by
          have hne : x.name ≠ s.name := fun hname => hs (hname ▸ List.mem_map_of_mem hx)
          rw [hnames, if_neg hknown, Bool.eq_iff_iff]
          simp [hne]
        rw [List.map_cons, hlisted, hfilter, List.filter_cons_of_pos (by simpa using hknown)]
        rfl
      · rcases List.mem_cons.mp he with rfl | he
        · exact Nat.le_refl _
        · exact hcreated.trans (hserials e he)

theorem map_name_of_map_listing {added : List Entry} {ns : List String}
    (h : added.map Entry.listing = (table.filter (fun s => !ns.contains s.name)).map listing) :
    added.map Entry.name = (DestinationSettings.names table).filter (fun n => !ns.contains n) := by
  have hnames := congrArg (List.map Prod.fst) h
  rw [List.map_map, List.map_map] at hnames
  rw [DestinationSettings.names, List.filter_map]
  exact hnames

/-! ## One table -/

theorem kept_apply (h : d.Kept) (table : List DestinationSettings) : (d.apply table).2.Kept :=
  (placeAll_fst (kept_removeOthers h _) table).1

/-- **A table can be applied if all of its patterns compile.** -/
theorem apply_fst (h : d.Kept) (table : List DestinationSettings) : (d.apply table).1 =
    if table.all DestinationSettings.compiles then .ok () else .error .invalidPattern :=
  (placeAll_fst (kept_removeOthers h _) table).2

/-- **What becomes of the entries when a table is applied.** -/
theorem entries_apply (h : d.Kept) (hnodup : (DestinationSettings.names table).Nodup)
    (hall : table.all DestinationSettings.compiles = true) : ∃ added : List Entry,
      (d.apply table).2.entries =
        (d.entries.filter fun e => (DestinationSettings.names table).contains e.name).map (Entry.refreshAll table) ++
          added ∧
      added.map Entry.listing = (table.filter (fun s => !d.names.contains s.name)).map listing ∧
      ∀ e ∈ added, d.outlets.created ≤ e.destination.serial := by
  obtain ⟨added, hentries, hlisted, hserials⟩ :=
    entries_placeAll (kept_removeOthers h (DestinationSettings.names table)) hnodup hall
  rw [entries_removeOthers] at hentries
  rw [created_removeOthers] at hserials
  refine ⟨added, hentries, hlisted.trans (congrArg _ (List.filter_congr fun s hs => ?_)), hserials⟩
  -- a name of the table is not removed
  have hs : s.name ∈ DestinationSettings.names table := List.mem_map_of_mem hs
  have hstays : s.name ∈ (d.removeOthers (DestinationSettings.names table)).names ↔ s.name ∈ d.names := by
    rw [names, entries_removeOthers, names, List.mem_map, List.mem_map]
    constructor
    · rintro ⟨e, he, hname⟩
      exact ⟨e, (List.mem_filter.mp he).1, hname⟩
    · rintro ⟨e, he, hname⟩
      exact ⟨e, List.mem_filter.mpr ⟨he, by simpa [hname] using hs⟩, hname⟩
  rw [List.contains_eq_mem, List.contains_eq_mem, Bool.eq_iff_iff]
  simp [hstays]

/-- **A deployment lists what the table says**, in whatever order. -/
theorem perm_listed_apply (h : d.Kept) (hnodup : (DestinationSettings.names table).Nodup)
    (hall : table.all DestinationSettings.compiles = true) : (d.apply table).2.listed.Perm (table.map listing) := by
  obtain ⟨added, hentries, hlisted, -⟩ := entries_apply h hnodup hall
  have hnames : (d.apply table).2.listed.Nodup := by
    refine List.Nodup.of_map Prod.fst ?_
    rw [listed, List.map_map]
    exact (kept_apply h table).names
  have htable : (table.map listing).Nodup := by
    refine List.Nodup.of_map Prod.fst ?_
    rw [List.map_map]
    exact hnodup
  -- names tell the entries on both sides apart, so it is enough that each is among the others
  refine (List.perm_ext_iff_of_nodup hnames htable).mpr fun a => ?_
  rw [listed, hentries, List.map_append, hlisted, List.map_map, List.mem_append]
  constructor
  · rintro (ha | ha)
    · obtain ⟨e, he, rfl⟩ := List.mem_map.mp ha
      have hname : e.name ∈ DestinationSettings.names table := by simpa using (List.mem_filter.mp he).2
      obtain ⟨s, hs, hsame⟩ := List.mem_map.mp hname
      exact List.mem_map.mpr ⟨s, hs, (Entry.listing_refreshAll hnodup hs hsame.symm).symm⟩
    · exact (List.filter_sublist.map listing).subset ha
  · intro ha
    obtain ⟨s, hs, rfl⟩ := List.mem_map.mp ha
    by_cases hknown : s.name ∈ d.names
    · obtain ⟨e, he, hname⟩ := List.mem_map.mp hknown
      have hstays : e.name ∈ DestinationSettings.names table := hname ▸ List.mem_map_of_mem hs
      exact Or.inl (List.mem_map.mpr ⟨e, List.mem_filter.mpr ⟨he, by simpa using hstays⟩,
        Entry.listing_refreshAll hnodup hs hname⟩)
    · exact Or.inr (List.mem_map_of_mem (List.mem_filter.mpr ⟨hs, by simpa using hknown⟩))

/-- **Destinations that the table names stay**, in their order, and new ones follow in the order of the table. -/
theorem destinations_apply (h : d.Kept) (hnodup : (DestinationSettings.names table).Nodup)
    (hall : table.all DestinationSettings.compiles = true) : ∃ added, (d.apply table).2.destinations =
        d.destinations.filter (fun x => (DestinationSettings.names table).contains x.name) ++ added ∧
      added.map Destination.name = (DestinationSettings.names table).filter (fun n => !d.names.contains n) ∧
      ∀ x ∈ added, d.outlets.created ≤ x.serial := by
  obtain ⟨added, hentries, hlisted, hserials⟩ := entries_apply h hnodup hall
  have hrefreshed : Entry.destination ∘ Entry.refreshAll table = Entry.destination :=
    funext (Entry.destination_refreshAll table)
  refine ⟨added.map Entry.destination, ?_, ?_, fun x hx => ?_⟩
  · rw [destinations, hentries, List.map_append, List.map_map, hrefreshed, destinations, List.filter_map]
    rfl
  · rw [List.map_map]
    exact map_name_of_map_listing hlisted
  · obtain ⟨e, he, rfl⟩ := List.mem_map.mp hx
    exact hserials e he

end Table

/-! ## Many tables -/

/-- No destination, no inbox, and matchers only of patterns that compile. -/
structure Empty (d : Deployment) : Prop where
  bindings : d.pool.router.bindings = []
  inboxes : d.inboxes = .empty
  compiled : d.matchers.Compiled

section Tables

variable {d e : Deployment} {tables : List (List DestinationSettings)} {table : List DestinationSettings}

theorem Empty.entries (h : d.Empty) : d.entries = [] := by
  rw [Deployment.entries, h.bindings]
  rfl

theorem Empty.kept (h : d.Empty) : d.Kept where
  names := by simp [names, h.entries]
  serials := by simp [destinations, h.entries]
  created := by simp [destinations, h.entries]
  inboxes := fun name hname => by simp [h.inboxes] at hname
  bound := ⟨h.compiled, Router.numbered_of_empty h.bindings⟩

theorem Empty.listed_apply (h : d.Empty) (hnodup : (DestinationSettings.names table).Nodup)
    (hall : table.all DestinationSettings.compiles = true) : (d.apply table).2.listed = table.map listing := by
  obtain ⟨added, hentries, hlisted, -⟩ := entries_apply h.kept hnodup hall
  have hnames : d.names = [] := congrArg (List.map Entry.name) h.entries
  have hall : table.filter (fun s => !d.names.contains s.name) = table :=
    List.filter_eq_self.mpr fun s _ => by simp [hnames]
  rw [listed, hentries, h.entries, List.filter_nil, List.map_nil, List.nil_append, hlisted, hall]

/-- **All tables keep the invariant**, whether they can be applied or not. -/
theorem kept_after (h : d.Kept) (tables : List (List DestinationSettings)) : (Run.after apply d tables).Kept :=
  Run.after_of_step (P := Kept) (fun table _ _ h => kept_apply h table) h

/-- **A destination that all tables name stays.** -/
theorem mem_destinations_after (h : d.Kept)
    (hsound : ∀ t ∈ tables, (DestinationSettings.names t).Nodup ∧ t.all DestinationSettings.compiles = true)
    {x : Destination} (hx : x ∈ d.destinations) (hnamed : ∀ t ∈ tables, x.name ∈ DestinationSettings.names t) :
    x ∈ (Run.after apply d tables).destinations := by
  induction tables generalizing d with
  | nil => exact hx
  | cons t rest ih =>
    obtain ⟨⟨hnodup, hall⟩, hrest⟩ := List.forall_mem_cons.mp hsound
    obtain ⟨hname, hnames⟩ := List.forall_mem_cons.mp hnamed
    obtain ⟨added, hdestinations, -, -⟩ := destinations_apply h hnodup hall
    refine ih (kept_apply h t) hrest ?_ hnames
    rw [hdestinations]
    exact List.mem_append_left _ (List.mem_filter.mpr ⟨hx, by simpa using hname⟩)

theorem compiles_of_answers (h : d.Kept) (hok : ∀ r ∈ Run.answers apply d tables, r = .ok ()) :
    ∀ t ∈ tables, t.all DestinationSettings.compiles = true := by
  induction tables generalizing d with
  | nil => exact fun t ht => absurd ht List.not_mem_nil
  | cons t rest ih =>
    obtain ⟨hfirst, hrest⟩ := List.forall_mem_cons.mp hok
    rw [apply_fst h t] at hfirst
    refine List.forall_mem_cons.mpr ⟨?_, ih (kept_apply h t) hrest⟩
    split at hfirst
    · assumption
    · exact absurd hfirst (by simp)

/-- **After any tables, a deployment has the destinations of the last one.** Deployments are empty at first, and all
tables are sound and can be applied. Then the last table can be applied to any other empty deployment, too, which
lists the table as it is, with each pattern once. After all tables the same names are listed with the same patterns.
The destinations before the last table that it names stay, in their order, and new ones follow in the order of the
table. A destination that is there after some of the tables, and that all later ones name, is the same one in the end.
Every inbox is of a destination. -/
theorem listed_after (hd : d.Empty) (he : e.Empty) {last : List DestinationSettings}
    (hsound : ∀ t ∈ tables ++ [last], DestinationSettings.checkAll [] t = .ok ())
    (hok : ∀ r ∈ Run.answers apply d (tables ++ [last]), r = .ok ()) :
    let before := Run.after apply d tables
    let after := Run.after apply d (tables ++ [last])
    let names := DestinationSettings.names last
    ((e.apply last).1 = .ok () ∧ (e.apply last).2.listed = last.map listing) ∧
    after.listed.Perm (e.apply last).2.listed ∧
    (∃ added, after.destinations = before.destinations.filter (fun x => names.contains x.name) ++ added ∧
      added.map Destination.name = names.filter (fun n => !before.names.contains n) ∧
      (∀ x ∈ before.destinations, x.serial < before.outlets.created) ∧
      ∀ x ∈ added, before.outlets.created ≤ x.serial) ∧
    (∀ earlier later, tables ++ [last] = earlier ++ later → ∀ x ∈ (Run.after apply d earlier).destinations,
      (∀ t ∈ later, x.name ∈ DestinationSettings.names t) → x ∈ after.destinations) ∧
    ∀ name, (after.inboxes.get? name).isSome → name ∈ after.names := by
  intro before after names
  have hcompiles := compiles_of_answers hd.kept hok
  have hsound' : ∀ t ∈ tables ++ [last],
      (DestinationSettings.names t).Nodup ∧ t.all DestinationSettings.compiles = true :=
    fun t ht => ⟨(DestinationSettings.nodup_of_checkAll (hsound t ht)).1, hcompiles t ht⟩
  obtain ⟨hnodup, hall⟩ := hsound' last (List.mem_append_right _ (List.mem_singleton_self last))
  have hbefore : before.Kept := kept_after hd.kept tables
  have hafter : after = (before.apply last).2 := Run.after_concat d tables last
  have hfresh : (e.apply last).2.listed = last.map listing := he.listed_apply hnodup hall
  refine ⟨⟨?_, hfresh⟩, ?_, ?_, ?_, (kept_after hd.kept _).inboxes⟩
  · rw [apply_fst he.kept, if_pos hall]
  · rw [hfresh, hafter]
    exact perm_listed_apply hbefore hnodup hall
  · obtain ⟨added, hdestinations, hnames, hserials⟩ := destinations_apply hbefore hnodup hall
    exact ⟨added, hafter ▸ hdestinations, hnames, hbefore.created, hserials⟩
  · intro earlier later hsplit x hx hnamed
    have hrun : after = Run.after apply (Run.after apply d earlier) later := by
      rw [← Run.after_append, ← hsplit]
    rw [hrun]
    refine mem_destinations_after (kept_after hd.kept earlier) (fun t ht => hsound' t ?_) hx hnamed
    rw [hsplit]
    exact List.mem_append_right _ ht

/-- Three tables: one destination stays and gets other patterns, one is removed, one is removed and comes back, and
one is new. -/
theorem listed_after_of_three_tables :
    let d : Deployment := ⟨.create (Router.create .empty) 1 1, .empty⟩
    let feed (patterns : List String) : DestinationSettings := { name := "feed", kind := .inbox, patterns := patterns }
    let web : DestinationSettings := { name := "web", patterns := ["h3/.*"] }
    let late : DestinationSettings := { name := "late", kind := .inbox, patterns := ["h4/.*"] }
    let new : DestinationSettings := { name := "new", patterns := ["h3/.*"] }
    let tables := [[feed ["h1/.*"], web, late], [web, feed ["h2/.*"]]]
    let last := [late, new, feed ["h2/.*", "h1/.*", "h2/.*"]]
    let after := Run.after apply d (tables ++ [last])
    (∀ t ∈ tables ++ [last], DestinationSettings.checkAll [] t = .ok ()) ∧
      (∀ r ∈ Run.answers apply d (tables ++ [last]), r = .ok ()) ∧
      after.listed.Perm [("late", ["h4/.*"]), ("new", ["h3/.*"]), ("feed", ["h2/.*", "h1/.*"])] ∧
      after.destinations = [⟨0, "feed"⟩, ⟨3, "late"⟩, ⟨4, "new"⟩] ∧ ⟨0, "feed"⟩ ∈ after.destinations ∧
      ∀ name, (after.inboxes.get? name).isSome → name ∈ after.names := by
  intro d feed web late new tables last after
  have hd : d.Empty := ⟨rfl, rfl, Pattern.Matchers.compiled_empty⟩
  have hsound : ∀ t ∈ tables ++ [last], DestinationSettings.checkAll [] t = .ok () := by decide +kernel
  have hok : ∀ r ∈ Run.answers apply d (tables ++ [last]), r = .ok () := by decide +kernel
  obtain ⟨⟨-, hfresh⟩, hlisted, -, hstays, hinboxes⟩ := listed_after hd hd hsound hok
  rw [hfresh] at hlisted
  have hfeed : (⟨0, "feed"⟩ : Destination) ∈ after.destinations :=
    hstays (tables.take 1) (tables.drop 1 ++ [last]) rfl _ (by decide +kernel) (by decide +kernel)
  exact ⟨hsound, hok, hlisted, by decide +kernel, hfeed, hinboxes⟩

end Tables

end Deployment

end MetricRouter
