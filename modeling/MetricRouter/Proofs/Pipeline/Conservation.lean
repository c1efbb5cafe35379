import MetricRouter.Proofs.Conflation.Totals
import MetricRouter.Proofs.Pipeline.Calls
import MetricRouter.Text.Code

/-!
# From agents to a destination

What a destination gets of a name is what the conflation lets go of it, and the conflation keeps totals and the
latest readings.

* `log_call`, `log_after` — a destination that is served gets what the conflation lets go;
* `find?_of_mem_passedOn`, `carries_of_mem_passedOn` — the samples that are passed on are of the one identity of their
  name, so those of a name are of one type;
* `delivered_of_passedOn` — the main statement;
* `undelivered_of_same_hash` — a destination that gets nothing, because another name has the same hash.
-/

namespace MetricRouter.Pipeline

open MetricRouter.Metric (Carries Fits ofName total)

variable {σ τ : Type} {receive : Receive σ} {transmit : Transmit τ} {d : Destination} {f : String}
  {asked : Set String} {log : σ → List Metric} {p : Pipeline σ τ} {c : Conflation}

/-! ## What a destination gets -/

/-- **A call hands a destination what the conflation lets go.** -/
theorem log_call (hkeeps : Keeps receive d log) (hdecides : Decides receive) (hc : p.conflation = some c)
    (hready : p.router.Ready asked d f) (k : Call) (hnames : ∀ m ∈ c.given (k.conflates p), m.fqn ∈ asked)
    (hok : (p.call receive transmit k).1.isOk = true) :
    (p.call receive transmit k).2.router.Ready asked d f ∧
      ofName f (log (p.call receive transmit k).2.router.router.world) =
        ofName f (log p.router.router.world) ++ ofName f (c.given (k.conflates p)) := by
  have hone {q : Conflation.Call} (hq : k.conflates p = [q]) :
      (p.call receive transmit k).2.router.Ready asked d f ∧
        ofName f (log (p.call receive transmit k).2.router.router.world) =
          ofName f (log p.router.router.world) ++ ofName f (c.given [q]) := by
    have hpassed := passed_call receive transmit p hc hq
    have hgiven : c.given [q] = (c.call q).1 := List.append_nil _
    rw [hq, hgiven] at hnames
    rw [hpassed.router, hgiven]
    exact Pool.queue_log hready hkeeps hdecides hnames (hpassed.isOk ▸ hok)
  cases k with
  | handle arrival b => exact hone rfl
  | drain now => exact hone rfl
  | flush => exact hone rfl
  | catalog k => exact ⟨hready, (List.append_nil _).symm⟩

/-- **A run hands a destination what the conflation lets go**, if no call breaks down. -/
theorem log_after (hkeeps : Keeps receive d log) (hdecides : Decides receive) (hc : p.conflation = some c)
    (hready : p.router.Ready asked d f) (calls : List Call)
    (hnames : ∀ m ∈ c.given (p.conflationCalls receive transmit calls), m.fqn ∈ asked)
    (hok : ∀ r ∈ p.answers receive transmit calls, r.isOk = true) :
    ofName f (log (p.after receive transmit calls).router.router.world) =
      ofName f (log p.router.router.world) ++ ofName f (c.given (p.conflationCalls receive transmit calls)) := by
  induction calls generalizing p c with
  | nil => exact (List.append_nil _).symm
  | cons k rest ih =>
    obtain ⟨hfirst, hlater⟩ := List.forall_mem_cons.mp hok
    rw [conflationCalls, along, Conflation.given_append] at hnames ⊢
    obtain ⟨hnow, hthen⟩ := List.forall_mem_append.mp hnames
    obtain ⟨hready', hlog⟩ := log_call hkeeps hdecides hc hready k hnow hfirst
    have hlog' := ih (conflation_call receive transmit p hc k) hready' hthen hlater
    rw [Metric.ofName_append, ← List.append_assoc, ← hlog, ← hlog']
    rfl

/-! ## The samples that are passed on -/

/-- **The samples that are passed on are of the one identity of their name**, and fit its type. -/
theorem find?_of_mem_passedOn (h : p.ingest.catalog.Rooted) {calls : List Call}
    (hr : .reset ∉ calls.flatMap Call.asks) {m : Metric} (hm : m ∈ p.passedOn receive transmit calls) :
    (p.after receive transmit calls).ingest.catalog.find? m.fqn = some m.identity ∧
      m.type.accepts m.value = true := by
  induction calls generalizing p with
  | nil => exact absurd hm List.not_mem_nil
  | cons k rest ih =>
    rw [List.flatMap_cons, List.mem_append, not_or] at hr
    have hcatalog := catalog_call receive transmit p k
    have hrooted : (p.call receive transmit k).2.ingest.catalog.Rooted := by
      rw [hcatalog]
      exact Catalog.rooted_after h _
    rcases List.mem_append.mp hm with hm | hm
    · cases k with
      | handle arrival b =>
        obtain ⟨hfound, haccepts⟩ :=
          Ingest.find?_of_mem_samples (k := .handle arrival.ingest b) h hr.1 hm
        refine ⟨?_, haccepts⟩
        have hrest := catalog_after receive transmit (p.call receive transmit (.handle arrival b)).2 rest
        rw [Ingest.catalog_call] at hfound
        show ((p.call receive transmit (.handle arrival b)).2.after receive transmit rest).ingest.catalog.find? _ = _
        rw [hrest]
        exact Catalog.find?_after_of_find? hrooted.filed hr.2 (hcatalog ▸ hfound)
      | drain now | flush | catalog k => exact absurd hm List.not_mem_nil
    · exact ih hrooted hr.2 hm

theorem carries_of_mem_passedOn (h : p.ingest.catalog.Rooted) {calls : List Call} (hr : .catalog .reset ∉ calls)
    {t : MetricType} (ht : ((p.after receive transmit calls).ingest.catalog.find? f).map Identity.type = some t) :
    ∀ m ∈ ofName f (p.passedOn receive transmit calls), m.Carries t := by
  intro m hm
  obtain ⟨hmem, hname⟩ := List.mem_filter.mp hm
  obtain ⟨hfound, haccepts⟩ := find?_of_mem_passedOn h (reset_not_mem_asks hr) hmem
  rw [of_decide_eq_true hname] at hfound
  rw [hfound] at ht
  have htype : m.type = t := Option.some.inj ht
  exact ⟨htype, htype ▸ haccepts⟩

/-! ## Conservation -/

/-- **From agents to a destination.** A pipeline over a fresh catalog and a fresh conflation delivers through a
router that is not running, to whose destinations anything may have been done before. One of them accepts
everything, and its patterns match a name. After a run that ends in a flush, in which no call broke down, the
catalog forgot nothing and the conflation lost nothing:

* of a counter, the destination has got the total of what was passed on, provided no total of some of the samples
  leaves the range of 64 bits;
* of a gauge, it has last got the value that was passed on last, if the samples came in the order of their instants;
* it has got no more samples than were passed on, and no more were passed on than metrics came for the name.

The hash by which patterns remember names may be any that tells the names of the run apart. -/
theorem delivered_of_passedOn (receive : Receive σ) (transmit : Transmit τ) (s : KeyStrategy)
    (resetTimeout period : UInt64) (capacity : Nat) (channels : ChannelPool) (network : τ) (replies : Bool)
    (hash : String → Nat) (world : σ) (edits : List Router.Edit) (workers queueSize : Nat) (f : String) (b : Binding)
    (log : σ → List Metric) (calls : List Call) (hb : b ∈ ((Router.keyed hash world).edited edits).bindings)
    (hf : b.patterns.accepts ((Router.keyed hash world).edited edits).matchers f = true)
    (hkeeps : Keeps receive b.destination log) (hdecides : Decides receive) (hlog : log world = [])
    (hreset : .catalog .reset ∉ calls) :
    let p : Pipeline σ τ :=
      ⟨.create (.fresh s) resetTimeout, channels, network, replies, some (.create period capacity),
        .create ((Router.keyed hash world).edited edits) workers queueSize⟩
    let run := calls ++ [.flush]
    let p' := p.after receive transmit run
    let came := ofName f (p.passedOn receive transmit run)
    let went := ofName f (log p'.router.router.world)
    Set.InjOn hash (Metric.names (p.passedOn receive transmit run)) →
      (∀ r ∈ p.answers receive transmit run, r.isOk = true) → (∀ c ∈ p'.conflation, c.dropped = 0) →
      ((p'.ingest.catalog.find? f).map Identity.type = some .delta → Fits came → total went = total came) ∧
      ((p'.ingest.catalog.find? f).map Identity.type = some .gauge →
        (calls.filterMap Call.filed).Pairwise (· ≤ ·) →
        went.getLast?.map Metric.value = came.getLast?.map Metric.value) ∧
      went.length ≤ came.length ∧
      came.length ≤ (p.turnsOf receive transmit run).countP (Ingest.Turn.isOf f) := by
  intro p run p' came went hhash hok hdropped
  let filed := p.conflationCalls receive transmit calls
  have hfiled : p.conflationCalls receive transmit run = filed ++ [.flush] := along_append receive transmit p _ calls _
  have hbrought : Conflation.brought (filed ++ [.flush]) = p.passedOn receive transmit run := by
    rw [← hfiled, brought_conflationCalls]
  have hdropped' : ((Conflation.create period capacity).after (filed ++ [.flush])).dropped = 0 :=
    hfiled ▸ hdropped _ (conflation_after receive transmit p rfl run)
  have hwent : went = ofName f ((Conflation.create period capacity).given (filed ++ [.flush])) := by
    have hkept := Router.kept_edited (Router.kept_keyed hhash world) edits
    have hready : p.router.Ready _ b.destination f := ⟨rfl, hkept, Router.serves_of_mem hkept hb hf⟩
    have hnames : ∀ m ∈ (Conflation.create period capacity).given (p.conflationCalls receive transmit run),
        m.fqn ∈ Metric.names (p.passedOn receive transmit run) := by
      rw [hfiled, ← hbrought]
      exact fun m => Conflation.fqn_mem_names_of_mem_given hdropped'
    have hdelivered := log_after hkeeps hdecides rfl hready run hnames hok
    have hempty : log p.router.router.world = [] :=
      (congrArg log (Router.world_edited (Router.keyed hash world) edits)).trans hlog
    rwa [hempty, hfiled] at hdelivered
  have hcame : came = ofName f (Conflation.brought (filed ++ [.flush])) := by rw [hbrought]
  have hcarries {t : MetricType} (ht : (p'.ingest.catalog.find? f).map Identity.type = some t) :
      ∀ m ∈ came, m.Carries t :=
    carries_of_mem_passedOn (Catalog.rooted_fresh s .empty) (by simp [run, hreset]) ht
  refine ⟨fun htype hfits => ?_, fun htype hordered => ?_, ?_, ?_⟩
  · have hdelta := hcarries htype
    rw [hcame] at hdelta hfits
    rw [hwent, hcame]
    exact Conflation.total_given f hdropped' hdelta hfits
  · have hgauge := hcarries htype
    rw [hcame] at hgauge
    rw [hwent, hcame]
    refine Conflation.latest_given f hdropped' hgauge ?_
    rwa [filterMap_instant_conflationCalls]
  · rw [hwent, hcame]
    exact Conflation.length_given_le f hdropped'
  · have hpassed := passedOn_eq receive transmit p run
    show (ofName f (p.passedOn receive transmit run)).length ≤ _
    rw [hpassed]
    exact Ingest.length_samples_le f _

theorem keeps_collecting (store : Destination) :
    Keeps (fun d m w => if d = store then (.accepted, w ++ [m]) else (.refused, w)) store (id : List Metric → _) := by
  refine ⟨fun _ _ => by simp, fun d m w => ?_⟩
  by_cases hd : d = store <;> simp [hd]

theorem decides_collecting (store : Destination) :
    Decides fun d m (w : List Metric) => if d = store then (.accepted, w ++ [m]) else (.refused, w) := fun d m w => by
  by_cases hd : d = store <;> simp [hd]

/-- Samples that share a window, that wait in two windows at once, and that wait when the run ends: as those of a
counter and as those of a gauge, and a text of another name that waits in no window. -/
theorem delivered_of_passedOn_of_two_types :
    let store : Destination := ⟨0, "store"⟩
    let receive : Receive (List Metric) := fun d m w => if d = store then (.accepted, w ++ [m]) else (.refused, w)
    let log : List Metric → List Metric := id
    let transmit : Transmit Unit := fun _ _ t => (⟨none, false⟩, t)
    let hash : String → Nat := fun s => Text.code s % 2 ^ 64
    let router := (Router.keyed hash []).edited [.register store ["h/.*"]]
    let m (t : MetricType) (v : Int64) : Wire.Incoming := ⟨.named ⟨"h", "a", [], "x"⟩, t, 0, .long v⟩
    let y : Wire.Incoming := ⟨.named ⟨"h", "a", [], "y"⟩, .text, 0, .text "up"⟩
    let calls (t : MetricType) : List Call :=
      [.handle (.now 0) (.ofLocal [m t 5, y, m t 1]), .handle (.now 3) (.ofLocal [m t 7]), .drain 30,
        .handle (.now 31) (.ofLocal [m t (-4)])]
    let p : Pipeline (List Metric) Unit :=
      ⟨.create (.fresh .byName) 100, .create true 1000, (), true, some (.create 10 64), .create router 1 1⟩
    let p' t := p.after receive transmit (calls t ++ [.flush])
    let passedOn t := p.passedOn receive transmit (calls t ++ [.flush])
    let came t := ofName "h/a:x" (passedOn t)
    let went t := ofName "h/a:x" (log (p' t).router.router.world)
    (∀ t, .catalog .reset ∉ calls t) ∧ (∀ t, ((calls t).filterMap Call.filed).Pairwise (· ≤ ·)) ∧
      ((p' .delta).ingest.catalog.find? "h/a:x").map Identity.type = some .delta ∧
      ((p' .gauge).ingest.catalog.find? "h/a:x").map Identity.type = some .gauge ∧ Fits (came .delta) ∧
      (passedOn .delta).length = 5 ∧ (went .delta).length = 2 ∧ total (came .delta) = 9 ∧
      total (went .delta) = total (came .delta) ∧
      (went .gauge).getLast?.map Metric.value = (came .gauge).getLast?.map Metric.value := by
  intro store receive log transmit hash router m y calls p p' passedOn came went
  have hb : ∃ b ∈ router.bindings, b.destination = store ∧ b.patterns.accepts router.matchers "h/a:x" = true := by
    decide +kernel
  obtain ⟨b, hb, hstore, hf⟩ := hb
  have hkeeps : Keeps receive b.destination log := hstore ▸ keeps_collecting store
  have hdecides : Decides receive := decides_collecting store
  have hreset : ∀ t, .catalog .reset ∉ calls t := by simp [calls]
  have hhash {ms : List Metric} (h : ∀ m ∈ ms, ∀ m' ∈ ms, hash m.fqn = hash m'.fqn → m.fqn = m'.fqn) :
      Set.InjOn hash (Metric.names ms) := by
    rintro _ ⟨m, hm, rfl⟩ _ ⟨m', hm', rfl⟩
    exact h m hm m' hm'
  have hordered : ∀ t, ((calls t).filterMap Call.filed).Pairwise (· ≤ ·) := fun t => by
    show List.Pairwise (· ≤ ·) [(0 : UInt64), 3, 31]
    decide
  have hfits : Fits (came .delta) := by
    have hall : ∀ part ∈ (came .delta).sublists',
        Int64.minValue.toInt ≤ total part ∧ total part ≤ Int64.maxValue.toInt := by decide +kernel
    exact fun part hpart => hall part (List.mem_sublists'.mpr hpart)
  have hdelta : ((p' .delta).ingest.catalog.find? "h/a:x").map Identity.type = some .delta := by decide +kernel
  have hgauge : ((p' .gauge).ingest.catalog.find? "h/a:x").map Identity.type = some .gauge := by decide +kernel
  obtain ⟨htotal, -, -, -⟩ := delivered_of_passedOn receive transmit .byName 100 10 64 (.create true 1000) () true
    hash [] [.register store ["h/.*"]] 1 1 "h/a:x" b log (calls .delta) hb hf hkeeps hdecides rfl (hreset _)
    (hhash (by decide +kernel)) (by decide +kernel) (by decide +kernel)
  obtain ⟨-, hlatest, -, -⟩ := delivered_of_passedOn receive transmit .byName 100 10 64 (.create true 1000) () true
    hash [] [.register store ["h/.*"]] 1 1 "h/a:x" b log (calls .gauge) hb hf hkeeps hdecides rfl (hreset _)
    (hhash (by decide +kernel)) (by decide +kernel) (by decide +kernel)
  have hsum : total (went .delta) = total (came .delta) := by with_reducible exact htotal hdelta hfits
  have hlast : (went .gauge).getLast?.map Metric.value = (came .gauge).getLast?.map Metric.value := by
    with_reducible exact hlatest hgauge (hordered _)
  exact ⟨hreset, hordered, hdelta, hgauge, hfits, by decide +kernel, by decide +kernel, by decide +kernel, hsum, hlast⟩

/-- Two names with one hash. The destination's pattern matches the second one only, and it gets nothing of it: when it
was offered a sample of the first one, the hash of both was remembered as that of a name that does not match. -/
theorem undelivered_of_same_hash :
    let store : Destination := ⟨0, "store"⟩
    let receive : Receive (List Metric) := fun d m w => if d = store then (.accepted, w ++ [m]) else (.refused, w)
    let transmit : Transmit Unit := fun _ _ t => (⟨none, false⟩, t)
    let f := "c7c8820ea7ccaa50/billing:cpu.load"
    let router := (Router.keyed Text.hash []).edited [.register store [f]]
    let m (host : String) (v : Int64) : Wire.Incoming := ⟨.named ⟨host, "billing", [], "cpu.load"⟩, .delta, 0, .long v⟩
    let calls : List Call := [.handle (.now 1000) (.ofLocal [m "4b14a2dfaaf2ebc1" 5]), .drain 2000,
      .handle (.now 2000) (.ofLocal [m "c7c8820ea7ccaa50" 7])]
    let p : Pipeline (List Metric) Unit :=
      ⟨.create (.fresh .coded) 100, .create true 1000, (), true, some (.create 10 64), .create router 1 1⟩
    let p' := p.after receive transmit (calls ++ [.flush])
    let came := ofName f (p.passedOn receive transmit (calls ++ [.flush]))
    let went := ofName f p'.router.router.world
    (∃ b ∈ router.bindings, b.destination = store ∧ b.patterns.accepts router.matchers f = true) ∧
      Keeps receive store id ∧ Decides receive ∧ .catalog .reset ∉ calls ∧
      (∀ r ∈ p.answers receive transmit (calls ++ [.flush]), r.isOk = true) ∧
      (∀ c ∈ p'.conflation, c.dropped = 0) ∧
      (p'.ingest.catalog.find? f).map Identity.type = some .delta ∧ Fits came ∧ total came = 7 ∧ total went = 0 := by
  intro store receive transmit f router m calls p p' came went
  have hregistered : ∃ b ∈ router.bindings, b.destination = store ∧ b.patterns.accepts router.matchers f = true := by
    decide +kernel
  obtain ⟨hok, hdropped, htype, hall, hcame, hwent⟩ :
      (∀ r ∈ p.answers receive transmit (calls ++ [.flush]), r.isOk = true) ∧ (∀ c ∈ p'.conflation, c.dropped = 0) ∧
        (p'.ingest.catalog.find? f).map Identity.type = some .delta ∧
        (∀ part ∈ came.sublists', Int64.minValue.toInt ≤ total part ∧ total part ≤ Int64.maxValue.toInt) ∧
        total came = 7 ∧ total went = 0 := by
    decide +kernel
  have hfits : Fits came := fun part hpart => hall part (List.mem_sublists'.mpr hpart)
  exact ⟨hregistered, keeps_collecting store, decides_collecting store, by simp [calls], hok, hdropped, htype, hfits,
    hcame, hwent⟩

end MetricRouter.Pipeline
