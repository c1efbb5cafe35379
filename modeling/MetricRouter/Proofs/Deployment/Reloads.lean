import MetricRouter.Proofs.Deployment.Tables
import MetricRouter.Session

/-!
# Reloads of a session

A session follows a table if all of its patterns compile with their anchors. The check of settings compiles them
without, and the two do not agree: a comment in a pattern hides the anchors that follow it, and a pattern that closes
the group around it compiles only inside of it.

* `empty_parts`, `kept_reloads` — a session starts with an empty deployment, and reloads keep its invariant;
* `entries_placeAll_of_refused` — a table that cannot be placed is placed up to the first fault;
* `reload_eq_ok_iff` — the main statement: when a reload succeeds, where it stops, and when a session is made at all;
* `reload_stops_at_checked_table` — a table that passes the check, and stops half-way.
-/

namespace MetricRouter

open Pattern (Compiles Regex)

namespace DestinationSettings

theorem all_compiles_iff {table : List DestinationSettings} :
    table.all compiles = true ↔ ∀ x ∈ table, ∀ p ∈ x.patterns, Compiles p = true := by
  simp only [List.all_eq_true, compiles]

end DestinationSettings

namespace Deployment

variable {d : Deployment} {before rest : List DestinationSettings} {bad : DestinationSettings}

/-- **A table that cannot be placed is placed up to the first destination that is at fault.** -/
theorem entries_placeAll_of_refused (h : d.Kept) (hbefore : before.all DestinationSettings.compiles = true)
    (hbad : bad.compiles = false) : (d.placeAll (before ++ bad :: rest)).2.entries = (d.placeAll before).2.entries := by
  induction before generalizing d with
  | nil =>
    rcases place_cases h bad with ⟨hgood, -, -⟩ | ⟨-, herror, hrefused⟩
    · rw [hbad] at hgood
      exact absurd hgood (by simp)
    · rw [List.nil_append, placeAll_of_error herror]
      exact hrefused.entries
  | cons s before ih =>
    rw [List.all_cons, Bool.and_eq_true] at hbefore
    obtain ⟨-, hok⟩ := placed_of_place h hbefore.1
    rw [List.cons_append, placeAll_of_ok hok, placeAll_of_ok hok]
    exact ih (kept_place h s) hbefore.2

theorem names_placeAll (h : d.Kept) (hnodup : (DestinationSettings.names before).Nodup)
    (hbefore : before.all DestinationSettings.compiles = true) :
    (d.placeAll before).2.names =
      d.names ++ (DestinationSettings.names before).filter (fun n => !d.names.contains n) := by
  obtain ⟨added, hentries, hlisted, -⟩ := entries_placeAll h hnodup hbefore
  have hold : d.entries.map (Entry.name ∘ Entry.refreshAll before) = d.names :=
    List.map_congr_left fun e _ => congrArg Destination.name (Entry.destination_refreshAll before e)
  rw [names, hentries, List.map_append, List.map_map, hold,
    map_name_of_map_listing hlisted]

end Deployment

namespace Session

open DestinationSettings (names)

variable {τ : Type}

theorem deployment_reload (s : Session τ) (wanted : List DestinationSettings) :
    (s.reload wanted).1 = (s.deployment.apply wanted).1 ∧
      (s.reload wanted).2.deployment = (s.deployment.apply wanted).2 :=
  ⟨rfl, rfl⟩

theorem empty_parts (settings : Settings) (network : τ) : (parts settings network).deployment.Empty :=
  ⟨rfl, rfl, Pattern.Matchers.compiled_empty⟩

/-- **Reloads keep the invariant of the deployment**, whether they succeed or not. -/
theorem kept_reloads (settings : Settings) (network : τ) (tables : List (List DestinationSettings)) :
    (Run.after reload (parts settings network) tables).deployment.Kept := by
  refine Run.after_of_step (P := fun s : Session τ => s.deployment.Kept) (fun table _ s h => ?_)
    (empty_parts settings network).kept
  exact Deployment.kept_apply h table

/-- **A session follows a table if all of its patterns compile with their anchors.** Whatever tables were loaded
before, with or without success, a reload succeeds in this case only, and else it reports an invalid pattern. It has
removed the destinations that the table does not name by then, and has added those that are missing as far as the
first one with a pattern that does not compile. A session is made from settings that have no fault, and again only if
their patterns compile with the anchors. -/
theorem reload_eq_ok_iff (settings : Settings) (network : τ) (tables : List (List DestinationSettings))
    (wanted : List DestinationSettings) :
    let s := Run.after reload (parts settings network) tables
    ((s.reload wanted).1 = .ok () ↔ ∀ x ∈ wanted, ∀ p ∈ x.patterns, Compiles p = true) ∧
    ((s.reload wanted).1 ≠ .ok () → (s.reload wanted).1 = .error .invalidPattern) ∧
    (∀ before bad rest, wanted = before ++ bad :: rest → (names before).Nodup →
      (∀ x ∈ before, ∀ p ∈ x.patterns, Compiles p = true) → (¬ ∀ p ∈ bad.patterns, Compiles p = true) →
      let kept := s.deployment.names.filter (names wanted).contains
      (s.reload wanted).2.deployment.names = kept ++ (names before).filter (fun n => !kept.contains n)) ∧
    ((create settings network).isOk = true ↔
      settings.check = .ok () ∧ ∀ x ∈ settings.destinations, ∀ p ∈ x.patterns, Compiles p = true) := by
  intro s
  have hkept : s.deployment.Kept := kept_reloads settings network tables
  have hreload : (s.reload wanted).1 = (s.deployment.apply wanted).1 := (deployment_reload s wanted).1
  have happly := Deployment.apply_fst hkept wanted
  rw [hreload, happly, ← DestinationSettings.all_compiles_iff]
  refine ⟨?_, ?_, fun before bad rest hsplit hnodup hbefore hbad => ?_, ?_⟩
  · split <;> simp_all
  · split <;> simp
  · intro kept
    have hremoved := Deployment.kept_removeOthers hkept (names wanted)
    have hnames : (s.deployment.removeOthers (names wanted)).names = kept := by
      rw [Deployment.names, Deployment.entries_removeOthers]
      exact (List.filter_map (p := (names wanted).contains)).symm
    have hgood := DestinationSettings.all_compiles_iff.mpr hbefore
    have hfault : bad.compiles = false := by
      rw [← Bool.not_eq_true, DestinationSettings.compiles, List.all_eq_true]
      exact hbad
    show ((s.deployment.removeOthers (names wanted)).placeAll wanted).2.names = _
    rw [← hnames, ← Deployment.names_placeAll hremoved hnodup hgood]
    refine congrArg (List.map Deployment.Entry.name) ?_
    nth_rewrite 2 [hsplit]
    exact Deployment.entries_placeAll_of_refused hremoved hgood hfault
  · have hfirst := Deployment.apply_fst (empty_parts settings network).kept settings.destinations
    rw [← (deployment_reload _ _).1] at hfirst
    rw [← DestinationSettings.all_compiles_iff, create]
    cases settings.check with
    | error e => simp [Except.isOk, Except.toBool]
    | ok u =>
      simp only
      generalize (parts settings network).reload settings.destinations = r at hfirst
      obtain ⟨result, s'⟩ := r
      rw [show result = _ from hfirst]
      cases settings.destinations.all DestinationSettings.compiles <;> simp [Except.isOk, Except.toBool]

/-- A table that passes the check of settings, and stops half-way: what was there is gone, and only the first
destination of the table was added. No session is made from settings with this table. The comment at the end of a
pattern swallows the anchors. The other way round, a pattern that closes the group around it fails the check, and
compiles with the anchors. -/
theorem reload_stops_at_checked_table :
    let text := "(?x) h2/.*  # the web hosts"
    let s : Session Unit := Run.after reload (parts {} ()) [[{ name := "old", patterns := ["h0/.*"] }]]
    let wanted : List DestinationSettings :=
      [{ name := "feed", kind := .inbox, patterns := ["h1/.*"] }, { name := "web", patterns := [text] },
        { name := "late", patterns := ["h3/.*"] }]
    let settings : Settings := { destinations := wanted }
    (Regex.compile text).isOk = true ∧ Compiles text = false ∧
      (Regex.compile "a)(?:b").isOk = false ∧ Compiles "a)(?:b" = true ∧
      settings.check = .ok () ∧ s.deployment.names = ["old"] ∧
      (s.reload wanted).1 = .error .invalidPattern ∧ (s.reload wanted).2.deployment.names = ["feed"] ∧
      (create settings ()).isOk = false := by
  decide +kernel

end Session

end MetricRouter
